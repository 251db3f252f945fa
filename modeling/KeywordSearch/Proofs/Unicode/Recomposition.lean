import KeywordSearch.Proofs.Unicode.Composition
import KeywordSearch.Proofs.Unicode.Lowercase

/-!
# Normalizing a text of restored characters

A settled letter is restored by normalizing it: it decomposes into a starter and marks
that stand in order and join with it one after another (`restored_of_isLetter`).  Where
every character of a text is restored, nothing is sorted across the characters, and
composing goes through them one by one.  A character is made again from its marks
unless its head joins with what the characters before it have made.  So the text is
normalized just if no character joins with the head of the next (`nfkc_eq_self_iff`).

A letter whose head can join with what is before it decomposes into plain letters.
With these in its place, only whole characters ever join, and what they join to is of
the same kind as they are (`of_mem_nfkc_of_firm`).
-/

set_option autoImplicit false

namespace KeywordSearch.Unicode

/-! ## Restored characters -/

/-- A character decomposes into a starter and marks that are in order and join with it one
after another, which makes the character again. -/
structure Restored (c head : Char) (marks : List Char) : Prop where
  decomposed : decomposeChar c = head :: marks
  starter : combiningClass head = 0
  ordered : (marks.map Mark.of).IsChain MayFollow
  joined : marks.foldlM join? head = some c

/-- Whether normalizing a character by itself gives it back. -/
def IsRestored (c : Char) : Prop := ∃ head marks, Restored c head marks

theorem IsRestored.isSettled {c : Char} (restored : IsRestored c) : isSettled c = true := by
  obtain ⟨head, marks, piece⟩ := restored
  exact isSettled_iff.2 ⟨head, marks, piece.decomposed, piece.joined⟩

/-- A starter that decomposes no further is restored. -/
theorem restored_of_plain {c : Char} (plain : decomposeChar c = [c])
    (starts : combiningClass c = 0) : Restored c c [] :=
  ⟨plain, starts, List.isChain_nil, rfl⟩

theorem isChain_of_starters {marks : List Char} (starters : ∀ c ∈ marks, combiningClass c = 0) :
    (marks.map Mark.of).IsChain MayFollow := by
  refine List.isChain_map_of_isChain Mark.of (fun _ _ starts => .inl starts) ?_
  refine List.Pairwise.isChain (R := fun _ next => combiningClass next = 0) ?_
  exact List.pairwise_of_forall_mem_list fun _ _ next member => starters next member

/-- What marks join to is a Hangul syllable or one of the listed composites. -/
theorem composite_of_foldlM {head c : Char} {marks : List Char} (some_marks : marks ≠ [])
    (joined : marks.foldlM join? head = some c) :
    IsSyllable c.toNat ∨ decomposeChar c = [c] ∨ compositeCodes.testBit c.toNat = true := by
  induction marks generalizing head with
  | nil => exact absurd rfl some_marks
  | cons mark rest ih =>
    rw [List.foldlM_cons] at joined
    obtain ⟨made, joins, later⟩ := Option.bind_eq_some_iff.1 joined
    cases rest with
    | cons next more => exact ih (List.cons_ne_nil _ _) later
    | nil =>
      cases later
      rcases join?_eq_some joins with ⟨n, hangul, rfl⟩ | ⟨row, inTable, n, -, inRow, rfl⟩
      · have syllable := (joinHangul_eq_some hangul).2
        exact .inl (syllable.toNat_ofNat.symm ▸ syllable)
      · rcases toNat_ofNat_cases n with same | zero
        · rw [same]
          exact .inr (.inr (testBit_codesOf
            (List.mem_flatMap.2 ⟨row, inTable, List.mem_map.2 ⟨_, inRow, rfl⟩⟩)))
        · exact .inr (.inl (decomposeChar_of_not_decomposable (not_decomposable_of_lt (by omega))))

/-! ## Letters are restored -/

theorem isPlainLetter_iff {c : Char} :
    isPlainLetter c = true ↔ isLetter c = true ∧ lowercaseChar c = [c] := by
  rw [isPlainLetter, Bool.and_eq_true, beq_iff_eq]

/-- A syllable decomposes into plain letters. -/
theorem isPlainLetter_of_mem_syllable {c d : Char} (syllable : IsSyllable c.toNat)
    (member : d ∈ (hangulLetters c.toNat).map Char.ofNat) : isPlainLetter d = true := by
  obtain ⟨n, inLetters, rfl⟩ := List.mem_map.1 member
  obtain ⟨from_lead, to_tail⟩ := mem_hangulLetters syllable inLetters
  have same := toNat_ofNat_of_mem_hangulLetters syllable inLetters
  exact isPlainLetter_iff.2 ⟨isLetter_of_mem_hangulLetters syllable inLetters,
    lowercaseChar_of_hangulLetter (same.symm ▸ from_lead) (same.symm ▸ to_tail)⟩

/-- What a letter joins with something before it to is a plain letter. -/
theorem isPlainLetter_of_join? {first second c : Char} (letter : isLetter second = true)
    (joined : join? first second = some c) : isPlainLetter c = true := by
  rcases join?_eq_some joined with ⟨n, hangul, rfl⟩ | ⟨row, inTable, n, -, inRow, rfl⟩
  · have syllable := (joinHangul_eq_some hangul).2
    rw [← syllable.toNat_ofNat] at syllable
    exact isPlainLetter_iff.2
      ⟨isLetter_of_isSyllable syllable, lowercaseChar_of_isSyllable syllable⟩
  · have listed := List.all_eq_true.1 (List.all_eq_true.1 tables_agree.letterPairs row inTable) _
      inRow
    simpa [Spans.testBit_codes letter] using listed

/-- **A settled letter is restored.**  If it has marks, its head cannot join with what is before
it, or else it decomposes into plain letters. -/
theorem restored_of_isLetter {c : Char} (settled : isSettled c = true)
    (letter : isLetter c = true) :
    ∃ head marks, Restored c head marks ∧
      (marks = [] ∨ isJoiner head.toNat = false ∨ ∀ d ∈ head :: marks, isPlainLetter d = true) := by
  obtain ⟨head, marks, decomposed, joined⟩ := isSettled_iff.1 settled
  refine ⟨head, marks, ?_⟩
  by_cases alone : marks = []
  · subst alone
    cases joined
    exact ⟨restored_of_plain decomposed (combiningClass_of_isLetter letter), .inl rfl⟩
  have composed : decomposeChar c ≠ [c] := by
    rw [decomposed]
    exact fun plain => alone (List.cons.inj plain).2
  rcases decomposeChar_cases c with plain | ⟨syllable, means⟩ |
    ⟨not_syllable, part, inTables, sequence, listed, means⟩
  · exact absurd plain composed
  · have letters : ∀ d ∈ head :: marks, isPlainLetter d = true := by
      rw [← decomposed, means]
      exact fun d => isPlainLetter_of_mem_syllable syllable
    have starters : ∀ d ∈ head :: marks, combiningClass d = 0 := by
      intro d member
      exact combiningClass_of_isLetter (isPlainLetter_iff.1 (letters d member)).1
    obtain ⟨starter, startersMarks⟩ := List.forall_mem_cons.1 starters
    exact ⟨⟨decomposed, starter, isChain_of_starters startersMarks, joined⟩, .inr (.inr letters)⟩
  · have composite : compositeCodes.testBit c.toNat = true :=
      ((composite_of_foldlM alone joined).resolve_left not_syllable).resolve_left composed
    have grounded := (entryAgrees_of_listed inTables listed).2 composite
      (Spans.testBit_codes letter)
    rw [← means, decomposed] at grounded
    simp only [isGrounded, Bool.and_eq_true, decide_eq_true_eq, Bool.or_eq_true,
      Bool.not_eq_true', List.all_eq_true] at grounded
    obtain ⟨⟨begins, ordered⟩, free⟩ := grounded
    exact ⟨⟨decomposed, combiningClass_of_testBit_letters begins, ordered, joined⟩, .inr free⟩

/-! ## Composing restored characters -/

variable {text : List Char}

/-- What a text of restored characters decomposes into begins with a starter. -/
theorem cls_eq_zero_of_begins (restored : ∀ c ∈ text, IsRestored c) {mark : Mark}
    (begins : (spread text).head? = some mark) : mark.cls = 0 := by
  cases text with
  | nil => cases begins
  | cons c rest =>
    obtain ⟨head, marks, piece⟩ := restored c List.mem_cons_self
    rw [spread_cons, piece.decomposed] at begins
    cases begins
    exact piece.starter

theorem isChain_spread (restored : ∀ c ∈ text, IsRestored c) :
    (spread text).IsChain MayFollow := by
  induction text with
  | nil => exact List.isChain_nil
  | cons c rest ih =>
    obtain ⟨⟨head, marks, piece⟩, restoredRest⟩ := List.forall_mem_cons.1 restored
    have ordered : ((head :: marks).map Mark.of).IsChain MayFollow := by
      refine List.isChain_cons.2 ⟨?_, piece.ordered⟩
      intro next _
      exact .inr (piece.starter.le.trans (Nat.zero_le _))
    rw [spread_cons, piece.decomposed]
    refine List.isChain_append.2 ⟨ordered, ih restoredRest, ?_⟩
    intro last _ next begins
    exact .inl (cls_eq_zero_of_begins restoredRest begins)

/-- A mark right behind a starter joins with it if it can, whatever its class is. -/
theorem composeFrom_of_join? {starter composite : Char} {mark : Mark}
    (joined : join? starter mark.char = some composite) (rest : List Mark) :
    composeFrom starter [] 0 (mark :: rest) = composeFrom composite [] 0 rest := by
  rw [composeFrom]
  simp only [ne_eq, not_true_eq_false, false_and, if_false, joined]

/-- Marks that join one after another leave nothing but what they make. -/
theorem composeFrom_of_foldlM {starter c : Char} {marks : List Char} (rest : List Mark)
    (joined : marks.foldlM join? starter = some c) :
    composeFrom starter [] 0 (marks.map Mark.of ++ rest) = composeFrom c [] 0 rest := by
  induction marks generalizing starter with
  | nil =>
    cases joined
    rfl
  | cons mark marks ih =>
    rw [List.foldlM_cons] at joined
    obtain ⟨made, joins, later⟩ := Option.bind_eq_some_iff.1 joined
    have onto : join? starter (Mark.of mark).char = some made := joins
    rw [List.map_cons, List.cons_append, composeFrom_of_join? onto]
    exact ih later

theorem Restored.composeFrom_of_joined {c head starter composite : Char} {marks : List Char}
    (restored : Restored c head marks) (joined : join? starter head = some composite)
    (text : List Char) :
    composeFrom starter [] 0 (spread (c :: text)) =
      composeFrom composite [] 0 (marks.map Mark.of ++ spread text) := by
  have onto : join? starter (Mark.of head).char = some composite := joined
  rw [spread_cons, restored.decomposed, List.map_cons, List.cons_append, composeFrom_of_join? onto]

/-- A restored character whose head does not join is made again. -/
theorem Restored.composeFrom_of_apart {c head starter : Char} {marks : List Char}
    (restored : Restored c head marks) (apart : join? starter head = none) (text : List Char) :
    composeFrom starter [] 0 (spread (c :: text)) =
      starter :: composeFrom c [] 0 (spread text) := by
  have joins : join? starter (Mark.of head).char = none := apart
  have starts : (Mark.of head).cls = 0 := restored.starter
  rw [spread_cons, restored.decomposed, List.map_cons, List.cons_append, composeFrom]
  simp only [ne_eq, not_true_eq_false, false_and, if_false, joins, if_pos starts,
    List.reverse_nil, List.nil_append]
  rw [show (Mark.of head).char = head from rfl, composeFrom_of_foldlM _ restored.joined]

theorem nfkc_cons_of_restored {c : Char} (restored : ∀ d ∈ c :: text, IsRestored d) :
    nfkc (c :: text) = composeFrom c [] 0 (spread text) := by
  obtain ⟨head, marks, piece⟩ := restored c List.mem_cons_self
  have starts : (Mark.of head).cls = 0 := piece.starter
  rw [nfkc, decompose_eq_canonicalOrder, canonicalOrder_of_isChain (isChain_spread restored),
    spread_cons, piece.decomposed, List.map_cons, List.cons_append, compose, if_pos starts,
    show (Mark.of head).char = head from rfl, composeFrom_of_foldlM _ piece.joined]

/-! ## When a text is normalized -/

/-- Two neighbours of which the first does not join with what the second begins with when it
is decomposed. -/
def Unjoined (first second : Char) : Prop :=
  (decomposeChar second).head?.bind (join? first) = none

instance : DecidableRel Unjoined := fun first second =>
  inferInstanceAs (Decidable ((decomposeChar second).head?.bind (join? first) = none))

theorem Restored.unjoined_iff {c head first : Char} {marks : List Char}
    (restored : Restored c head marks) : Unjoined first c ↔ join? first head = none := by
  rw [Unjoined, restored.decomposed]
  rfl

/-- Composing restored characters gives them back just if no two neighbours join. -/
theorem composeFrom_eq_self_iff {starter : Char} (settled : isSettled starter = true)
    (restored : ∀ c ∈ text, IsRestored c) :
    composeFrom starter [] 0 (spread text) = starter :: text ↔
      (starter :: text).IsChain Unjoined := by
  induction text generalizing starter with
  | nil => exact iff_of_true rfl (List.isChain_singleton _)
  | cons c rest ih =>
    obtain ⟨here, restoredRest⟩ := List.forall_mem_cons.1 restored
    have settledHere := here.isSettled
    obtain ⟨head, marks, piece⟩ := here
    rw [List.isChain_cons_cons, piece.unjoined_iff]
    cases joined : join? starter head with
    | none =>
      rw [piece.composeFrom_of_apart joined, List.cons_inj_right,
        ih settledHere restoredRest]
      exact (and_iff_right rfl).symm
    | some composite =>
      -- What it begins with then has a longer decomposition than the starter.
      obtain ⟨first, later, begins, initial⟩ := exists_head_composeFrom
        (isSettled_of_join? settled joined) [] 0 (marks.map Mark.of ++ spread rest)
      rw [decomposeChar_of_join? settled joined] at initial
      rw [piece.composeFrom_of_joined joined, begins]
      refine iff_of_false ?_ (by simp)
      intro same
      rw [(List.cons.inj same).1] at initial
      have longer := initial.length_le
      rw [List.length_append, List.length_singleton] at longer
      omega

/-- **A text of restored characters is normalized just if none of them joins with what the next
begins with.** -/
theorem nfkc_eq_self_iff (restored : ∀ c ∈ text, IsRestored c) :
    nfkc text = text ↔ text.IsChain Unjoined := by
  cases text with
  | nil => exact iff_of_true rfl List.isChain_nil
  | cons c rest =>
    obtain ⟨here, restoredRest⟩ := List.forall_mem_cons.1 restored
    rw [nfkc_cons_of_restored restored]
    exact composeFrom_eq_self_iff here.isSettled restoredRest

/-! ## What restored characters compose to -/

/-- A restored character with no marks, or with a head that cannot join with what is before
it. -/
def IsFirm (c : Char) : Prop :=
  ∃ head marks, Restored c head marks ∧ (marks = [] ∨ isJoiner head.toNat = false)

theorem IsFirm.isRestored {c : Char} (firm : IsFirm c) : IsRestored c := by
  obtain ⟨head, marks, restored, -⟩ := firm
  exact ⟨head, marks, restored⟩

theorem isFirm_of_plain {c : Char} (plain : decomposeChar c = [c])
    (starts : combiningClass c = 0) : IsFirm c :=
  ⟨c, [], restored_of_plain plain starts, .inl rfl⟩

/-- A settled letter decomposes as itself or as plain letters do, which are all firm. -/
theorem exists_firm_parts {c : Char} (settled : isSettled c = true) (letter : isLetter c = true) :
    ∃ parts, spread parts = spread [c] ∧
      ∀ part ∈ parts, IsFirm part ∧ (part = c ∨
        decomposeChar part = [part] ∧ isPlainLetter part = true) := by
  obtain ⟨head, marks, restored, alone | free | letters⟩ := restored_of_isLetter settled letter
  case inl | inr.inl =>
    refine ⟨[c], rfl, ?_⟩
    intro part member
    rw [List.mem_singleton.1 member]
    exact ⟨⟨head, marks, restored, by tauto⟩, .inl rfl⟩
  case inr.inr =>
    have plain : ∀ part ∈ head :: marks, decomposeChar part = [part] := by
      intro part member
      exact decomposeChar_of_mem (restored.decomposed ▸ member)
    refine ⟨head :: marks, ?_, ?_⟩
    · rw [spread_of_plain plain, spread_cons, restored.decomposed]
      exact (List.append_nil _).symm
    · intro part member
      have plainLetter := letters part member
      exact ⟨isFirm_of_plain (plain part member)
        (combiningClass_of_isLetter (isPlainLetter_iff.1 plainLetter).1),
        .inr ⟨plain part member, plainLetter⟩⟩

section Kinds

variable {holds : Char → Prop}
  (closed : ∀ first second c, holds first → holds second → join? first second = some c → holds c)

include closed

theorem of_mem_composeFrom_of_firm {starter d : Char} (holdsStarter : holds starter)
    (firm : ∀ c ∈ text, IsFirm c) (each : ∀ c ∈ text, holds c)
    (member : d ∈ composeFrom starter [] 0 (spread text)) : holds d := by
  induction text generalizing starter with
  | nil =>
    rw [List.mem_singleton.1 member]
    exact holdsStarter
  | cons c rest ih =>
    obtain ⟨⟨head, marks, restored, whole⟩, firmRest⟩ := List.forall_mem_cons.1 firm
    obtain ⟨here, eachRest⟩ := List.forall_mem_cons.1 each
    cases joined : join? starter head with
    | none =>
      rw [restored.composeFrom_of_apart joined] at member
      rcases List.mem_cons.1 member with rfl | later
      · exact holdsStarter
      · exact ih here firmRest eachRest later
    | some composite =>
      rcases whole with alone | free
      · subst alone
        cases restored.joined
        rw [restored.composeFrom_of_joined joined] at member
        exact ih (closed _ _ _ holdsStarter here joined) firmRest eachRest member
      · rw [join?_of_not_isJoiner free] at joined
        cases joined

/-- What holds of firm characters and of what two of them join to holds throughout the
normalized text. -/
theorem of_mem_nfkc_of_firm {d : Char} (firm : ∀ c ∈ text, IsFirm c)
    (each : ∀ c ∈ text, holds c) (member : d ∈ nfkc text) : holds d := by
  cases text with
  | nil => cases member
  | cons c rest =>
    rw [nfkc_cons_of_restored fun c inText => (firm c inText).isRestored] at member
    exact of_mem_composeFrom_of_firm closed (each c List.mem_cons_self)
      (List.forall_mem_cons.1 firm).2 (List.forall_mem_cons.1 each).2 member

end Kinds

end KeywordSearch.Unicode
