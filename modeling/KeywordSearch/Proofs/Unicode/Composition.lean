import KeywordSearch.Proofs.Unicode.Joining

/-!
# Composing a text

A composed text holds nothing but settled characters, those that their own
decompositions compose to (`isSettled_of_mem_nfkc`).

Composing loses nothing either.  Each mark that joins with a starter is in the
decomposition of what they make, and the marks that it is moved across are of other
classes, so they take their places again when the text is decomposed
(`canonicalOrder_composeFrom`).  So what a decomposed text composes to decomposes to
that text (`decompose_compose`), and normalizing a text a second time changes nothing
(`nfkc_nfkc`).
-/

set_option autoImplicit false

namespace KeywordSearch.Unicode

/-! ## The characters of a composed text -/

theorem isSettled_of_mem_composeFrom {starter c : Char} {held : List Char} {lastClass : Nat}
    {marks : List Mark} (settledStarter : isSettled starter = true)
    (settledHeld : ∀ d ∈ held, isSettled d = true)
    (settledMarks : ∀ mark ∈ marks, isSettled mark.char = true)
    (member : c ∈ composeFrom starter held lastClass marks) : isSettled c = true := by
  induction marks generalizing starter held lastClass with
  | nil =>
    rcases List.mem_cons.1 member with rfl | inHeld
    · exact settledStarter
    · exact settledHeld c (List.mem_reverse.1 inHeld)
  | cons mark rest ih =>
    obtain ⟨settledMark, settledRest⟩ := List.forall_mem_cons.1 settledMarks
    rw [composeFrom] at member
    split at member
    next composite joined =>
      have joins : join? starter mark.char = some composite := by
        split at joined
        next => cases joined
        next => exact joined
      exact ih (isSettled_of_join? settledStarter joins) settledHeld settledRest member
    next =>
      split at member
      next =>
        rcases List.mem_cons.1 member with rfl | member
        · exact settledStarter
        · rcases List.mem_append.1 member with inHeld | later
          · exact settledHeld c (List.mem_reverse.1 inHeld)
          · exact ih settledMark (by simp) settledRest later
      next =>
        refine ih settledStarter ?_ settledRest member
        intro d inHeld
        rcases List.mem_cons.1 inHeld with rfl | inHeld
        · exact settledMark
        · exact settledHeld d inHeld

theorem isSettled_of_mem_compose {c : Char} {marks : List Mark}
    (settledMarks : ∀ mark ∈ marks, isSettled mark.char = true) (member : c ∈ compose marks) :
    isSettled c = true := by
  induction marks with
  | nil => cases member
  | cons mark rest ih =>
    obtain ⟨settledMark, settledRest⟩ := List.forall_mem_cons.1 settledMarks
    rw [compose] at member
    split at member
    next => exact isSettled_of_mem_composeFrom settledMark (by simp) settledRest member
    next =>
      rcases List.mem_cons.1 member with rfl | later
      · exact settledMark
      · exact ih settledRest later

theorem isSettled_of_mem_nfkc {c : Char} {text : List Char} (member : c ∈ nfkc text) :
    isSettled c = true := by
  refine isSettled_of_mem_compose ?_ member
  intro mark decomposed
  exact isSettled_of_decomposeChar_eq (isPlain_of_mem_decompose decomposed).plain

/-! ## Decomposing what was composed -/

/-- A mark that stays behind a starter, and its class, which `lastClass` bounds. -/
structure IsHeld (lastClass : Nat) (c : Char) : Prop where
  plain : decomposeChar c = [c]
  isMark : combiningClass c ≠ 0
  bounded : combiningClass c ≤ lastClass

/-- What may stand behind a mark may stand behind one of a lower class. -/
theorem isChain_cons_of_le {mark other : Mark} {marks : List Mark} (lower : other.cls ≤ mark.cls)
    (ordered : (mark :: marks).IsChain MayFollow) : (other :: marks).IsChain MayFollow := by
  refine List.isChain_cons.2 ⟨?_, ordered.tail⟩
  intro next begins
  have follows : next.cls = 0 ∨ mark.cls ≤ next.cls := (List.isChain_cons.1 ordered).1 next begins
  exact follows.imp_right lower.trans

theorem spread_held {starter : Char} {held : List Char} {lastClass : Nat}
    (behind : ∀ c ∈ held, IsHeld lastClass c) :
    spread (starter :: held.reverse) =
      (decomposeChar starter).map Mark.of ++ held.reverse.map Mark.of := by
  rw [spread_cons, spread_of_plain fun c member => (behind c (List.mem_reverse.1 member)).plain]

/-- A mark that joins across those that are held has a higher class than they, so it takes its
place among them again. -/
theorem canonicalOrder_spread_of_join? {starter composite : Char} {held : List Char}
    {lastClass : Nat} {mark : Mark} (settled : isSettled starter = true)
    (behind : ∀ c ∈ held, IsHeld lastClass c) (class_eq : Mark.of mark.char = mark)
    (crosses : ¬(lastClass ≠ 0 ∧ mark.cls ≤ lastClass))
    (joined : join? starter mark.char = some composite) (rest : List Mark) :
    canonicalOrder (spread (composite :: held.reverse) ++ rest) =
      canonicalOrder (spread (starter :: held.reverse) ++ mark :: rest) := by
  have different : ∀ other ∈ held.reverse.map Mark.of, other.cls ≠ 0 ∧ other.cls ≠ mark.cls := by
    intro other member
    obtain ⟨c, inHeld, rfl⟩ := List.mem_map.1 member
    obtain ⟨-, isMark, bounded⟩ := behind c (List.mem_reverse.1 inHeld)
    refine ⟨isMark, ?_⟩
    rw [show (Mark.of c).cls = combiningClass c from rfl]
    omega
  rw [spread_held behind, spread_held behind, decomposeChar_of_join? settled joined,
    List.map_append, List.map_singleton, class_eq, List.append_assoc, List.append_assoc,
    List.append_assoc, List.singleton_append]
  refine canonicalOrder_append_congr _ ?_
  cases held with
  | nil => rfl
  | cons c held =>
    obtain ⟨-, isMark, bounded⟩ := behind c List.mem_cons_self
    exact canonicalOrder_append_comm (by omega) different rest

/-- A mark that does not join is held behind those of no higher class. -/
theorem IsHeld.cons {held : List Char} {lastClass : Nat} {mark : Mark}
    (behind : ∀ c ∈ held, IsHeld lastClass c) (plain : IsPlain mark) (isMark : mark.cls ≠ 0)
    (higher : lastClass ≤ mark.cls) : ∀ c ∈ mark.char :: held, IsHeld mark.cls c := by
  have own : combiningClass mark.char = mark.cls := congrArg Mark.cls plain.class_eq
  refine List.forall_mem_cons.2 ⟨⟨plain.plain, own ▸ isMark, own.le⟩, ?_⟩
  intro c inHeld
  obtain ⟨plainHeld, heldMark, bounded⟩ := behind c inHeld
  exact ⟨plainHeld, heldMark, bounded.trans higher⟩

/-- **Decomposing undoes composing.**  What the marks behind a starter are composed to has the
decomposition of the starter and of the marks, once it is sorted. -/
theorem canonicalOrder_composeFrom {starter : Char} {held : List Char} {lastClass : Nat}
    {marks : List Mark} (settled : isSettled starter = true)
    (behind : ∀ c ∈ held, IsHeld lastClass c) (plain : ∀ mark ∈ marks, IsPlain mark)
    (ordered : (Mark.mk lastClass starter :: marks).IsChain MayFollow) :
    canonicalOrder (spread (composeFrom starter held lastClass marks)) =
      canonicalOrder (spread (starter :: held.reverse) ++ marks) := by
  induction marks generalizing starter held lastClass with
  | nil => rw [composeFrom, List.append_nil]
  | cons mark rest ih =>
    obtain ⟨plainHere, plainRest⟩ := List.forall_mem_cons.1 plain
    have class_eq := plainHere.class_eq
    have plainMark := plainHere.plain
    obtain ⟨follows, orderedRest⟩ := List.isChain_cons_cons.1 ordered
    rw [composeFrom]
    split
    next composite joined =>
      split at joined
      next => cases joined
      next crosses =>
        have lower : lastClass ≤ mark.cls := by omega
        rw [ih (isSettled_of_join? settled joined) behind plainRest
          (isChain_cons_of_le lower orderedRest)]
        exact canonicalOrder_spread_of_join? settled behind class_eq crosses joined rest
    next =>
      split
      next starts =>
        have first : spread [mark.char] = [mark] := by
          rw [spread_of_plain (by simpa using plainMark), List.map_singleton, class_eq]
        have later := @ih mark.char [] 0 (isSettled_of_decomposeChar_eq plainMark) (by simp)
          plainRest (isChain_cons_of_le (Nat.zero_le _) orderedRest)
        rw [List.reverse_nil, first] at later
        rw [← List.cons_append, spread_append]
        exact canonicalOrder_append_congr _ later
      next isMark =>
        have stays := IsHeld.cons behind plainHere isMark (follows.resolve_left isMark)
        rw [ih settled stays plainRest (isChain_cons_of_le (Nat.le_refl mark.cls) orderedRest),
          spread_held behind, spread_held stays, List.reverse_cons, List.map_append,
          List.map_singleton, class_eq]
        simp only [List.append_assoc, List.singleton_append]

theorem canonicalOrder_compose {marks : List Mark} (plain : ∀ mark ∈ marks, IsPlain mark)
    (ordered : marks.IsChain MayFollow) :
    canonicalOrder (spread (compose marks)) = canonicalOrder marks := by
  induction marks with
  | nil => rfl
  | cons mark rest ih =>
    obtain ⟨⟨class_eq, plainMark⟩, plainRest⟩ := List.forall_mem_cons.1 plain
    have first : (decomposeChar mark.char).map Mark.of = [mark] := by
      rw [plainMark, List.map_singleton, class_eq]
    rw [compose]
    split
    next =>
      have composed := @canonicalOrder_composeFrom mark.char [] 0 rest
        (isSettled_of_decomposeChar_eq plainMark) (by simp) plainRest
        (isChain_cons_of_le (Nat.zero_le _) ordered)
      rwa [List.reverse_nil, spread_cons, first] at composed
    next =>
      rw [spread_cons, first]
      exact canonicalOrder_append_congr [mark] (ih plainRest ordered.tail)

/-- What a decomposed text is composed to decomposes to that text. -/
theorem decompose_compose {marks : List Mark} (plain : ∀ mark ∈ marks, IsPlain mark)
    (ordered : marks.IsChain MayFollow) : decompose (compose marks) = marks := by
  rw [decompose_eq_canonicalOrder, canonicalOrder_compose plain ordered,
    canonicalOrder_of_isChain ordered]

/-- Normalizing a text leaves its decomposition as it is. -/
theorem decompose_nfkc (text : List Char) : decompose (nfkc text) = decompose text :=
  decompose_compose (fun _ => isPlain_of_mem_decompose) (isChain_canonicalOrder _)

/-- **Normalizing a text a second time changes nothing.** -/
theorem nfkc_nfkc (text : List Char) : nfkc (nfkc text) = nfkc text := by
  rw [nfkc, decompose_nfkc, nfkc]

/-! ## What a composed text begins with -/

/-- A starter that marks are composed onto keeps its decomposition at the head of the text. -/
theorem exists_head_composeFrom {starter : Char} (settled : isSettled starter = true)
    (held : List Char) (lastClass : Nat) (marks : List Mark) :
    ∃ head rest, composeFrom starter held lastClass marks = head :: rest ∧
      decomposeChar starter <+: decomposeChar head := by
  induction marks generalizing starter held lastClass with
  | nil => exact ⟨starter, held.reverse, rfl, List.prefix_rfl⟩
  | cons mark rest ih =>
    rw [composeFrom]
    split
    next composite joined =>
      split at joined
      next => cases joined
      next =>
        obtain ⟨head, later, begins, initial⟩ :=
          ih (isSettled_of_join? settled joined) held lastClass
        rw [decomposeChar_of_join? settled joined] at initial
        exact ⟨head, later, begins, (List.prefix_append _ _).trans initial⟩
    next =>
      split
      next => exact ⟨starter, _, rfl, List.prefix_rfl⟩
      next => exact ih settled _ _

/-! ## A last character that stands by itself -/

theorem place_concat (mark : Mark) {last : Mark} (starts : last.cls = 0) (marks : List Mark) :
    place mark (marks ++ [last]) = place mark marks ++ [last] := by
  induction marks with
  | nil =>
    have stays : ¬(0 < last.cls ∧ last.cls < mark.cls) := by omega
    simp only [List.nil_append, place, if_neg stays, List.singleton_append]
  | cons head rest ih =>
    rw [List.cons_append, place, place, ih]
    split <;> rfl

theorem canonicalOrder_concat {last : Mark} (starts : last.cls = 0) (marks : List Mark) :
    canonicalOrder (marks ++ [last]) = canonicalOrder marks ++ [last] := by
  induction marks with
  | nil => rfl
  | cons mark rest ih =>
    rw [List.cons_append, canonicalOrder, canonicalOrder, ih, place_concat _ starts]

theorem composeFrom_concat {last : Mark} (starts : last.cls = 0)
    (free : isJoiner last.char.toNat = false) (starter : Char) (held : List Char) (lastClass : Nat)
    (marks : List Mark) :
    composeFrom starter held lastClass (marks ++ [last]) =
      composeFrom starter held lastClass marks ++ [last.char] := by
  induction marks generalizing starter held lastClass with
  | nil => simp [composeFrom, starts, join?_of_not_isJoiner free]
  | cons mark rest ih =>
    rw [List.cons_append, composeFrom, composeFrom]
    split
    next => exact ih _ _ _
    next =>
      split
      next => rw [ih, List.cons_append, List.append_assoc]
      next => exact ih _ _ _

theorem compose_concat {last : Mark} (starts : last.cls = 0)
    (free : isJoiner last.char.toNat = false) (marks : List Mark) :
    compose (marks ++ [last]) = compose marks ++ [last.char] := by
  induction marks with
  | nil => simp [compose, composeFrom, starts]
  | cons mark rest ih =>
    rw [List.cons_append, compose, compose]
    split
    next => exact composeFrom_concat starts free _ _ _ rest
    next => rw [ih, List.cons_append]

/-- A starter at the end of a text that decomposes no further and joins with nothing stays
there. -/
theorem nfkc_concat {c : Char} (plain : decomposeChar c = [c]) (starts : combiningClass c = 0)
    (free : isJoiner c.toNat = false) (text : List Char) :
    nfkc (text ++ [c]) = nfkc text ++ [c] := by
  have last : spread [c] = [Mark.of c] := by
    rw [spread_of_plain (by simpa using plain), List.map_singleton]
  rw [nfkc, decompose_eq_canonicalOrder, spread_append, last, canonicalOrder_concat starts,
    compose_concat starts free, nfkc, decompose_eq_canonicalOrder]
  rfl

end KeywordSearch.Unicode
