import KeywordSearch.Proofs.Unicode.Tables

/-!
# Decomposed texts

The characters of a decomposition decompose no further (`decomposeChar_of_mem`), since
no sequence that the tables list has a character in it that they list as well, or a
Hangul syllable.  Sorting the marks of a text changes the order of its characters
alone, and not even that when every mark already stands where its class allows
(`canonicalOrder_of_isChain`).  Marks of different classes may change places before
they are sorted (`canonicalOrder_append_comm`).
-/

set_option autoImplicit false

namespace KeywordSearch.Unicode

/-! ## Characters that decompose no further -/

theorem testBit_decomposable_of_isSyllable {n : Nat} (syllable : IsSyllable n) :
    decomposable.testBit n = true := by
  obtain ⟨from_first, to_last⟩ := syllable
  rw [decomposable, Nat.testBit_or, testBit_spanCodes from_first (by omega), Bool.true_or]

theorem testBit_decomposable_of_listed {part : Nat × Listing} {n : Nat} {sequence : List Nat}
    (member : part ∈ decompositionParts) (listed : part.2.find? n = some sequence) :
    decomposable.testBit n = true := by
  obtain ⟨span, spans, from_first, to_last⟩ := Listing.exists_span_of_find? listed
  have inTables : span ∈ decompositionParts.flatMap fun part => Listing.spans part.2 :=
    List.mem_flatMap.2 ⟨part, member, spans⟩
  rw [decomposable, Nat.testBit_or, Spans.testBit_codes_of_mem inTables from_first to_last,
    Bool.or_true]

theorem exists_part_of_listedDecomposition {parts : List (Nat × Listing)} {n : Nat}
    {sequence : List Nat} (listed : listedDecomposition parts n = some sequence) :
    ∃ part ∈ parts, part.2.find? n = some sequence := by
  induction parts with
  | nil => cases listed
  | cons part rest ih =>
    rw [listedDecomposition] at listed
    split at listed
    next => exact ⟨part, List.mem_cons_self, listed⟩
    next =>
      obtain ⟨other, member, found⟩ := ih listed
      exact ⟨other, List.mem_cons_of_mem _ member, found⟩

/-- A character is its own decomposition, or it is a Hangul syllable, or it is listed. -/
theorem decomposeChar_cases (c : Char) :
    decomposeChar c = [c] ∨
    (IsSyllable c.toNat ∧ decomposeChar c = (hangulLetters c.toNat).map Char.ofNat) ∨
    ¬IsSyllable c.toNat ∧ ∃ part ∈ decompositionParts, ∃ sequence,
      part.2.find? c.toNat = some sequence ∧ decomposeChar c = sequence.map Char.ofNat := by
  rw [decomposeChar]
  split
  next => exact .inl rfl
  next =>
    split
    next syllable => exact .inr (.inl ⟨syllable, rfl⟩)
    next not_syllable =>
      split
      next sequence listed =>
        obtain ⟨part, member, found⟩ := exists_part_of_listedDecomposition listed
        exact .inr (.inr ⟨not_syllable, part, member, sequence, found, rfl⟩)
      next => exact .inl rfl

theorem decomposeChar_of_not_decomposable {c : Char}
    (plain : decomposable.testBit c.toNat = false) : decomposeChar c = [c] := by
  rcases decomposeChar_cases c with same | ⟨syllable, -⟩ |
    ⟨-, part, member, sequence, listed, -⟩
  · exact same
  · rw [testBit_decomposable_of_isSyllable syllable] at plain
    cases plain
  · rw [testBit_decomposable_of_listed member listed] at plain
    cases plain

/-- What the tables agree on where a decomposition is listed. -/
theorem entryAgrees_of_listed {part : Nat × Listing} {n : Nat} {sequence : List Nat}
    (member : part ∈ decompositionParts) (listed : part.2.find? n = some sequence) :
    (sequence.all fun element => !decomposable.testBit element) = true ∧
      (compositeCodes.testBit n = true → letters.codes.testBit n = true →
        isGrounded (sequence.map Char.ofNat) = true) := by
  have agrees := Listing.of_all (List.all_eq_true.1 tables_agree.entries part member) listed
  rw [entryAgrees, Bool.and_eq_true] at agrees
  refine ⟨agrees.1, ?_⟩
  intro made letter
  simpa [made, letter] using agrees.2

theorem not_decomposable_of_lt {n : Nat} (low : n < 0xA0) : decomposable.testBit n = false := by
  refine testBit_of_apart tables_agree.plain ?_
  rw [Nat.testBit_or, testBit_spanCodes (Nat.zero_le n) (by omega), Bool.true_or]

theorem not_decomposable_of_hangulLetter {n : Nat} (from_lead : hangulLead ≤ n)
    (to_tail : n ≤ hangulTail + hangulTails) : decomposable.testBit n = false := by
  refine testBit_of_apart tables_agree.plain ?_
  rw [Nat.testBit_or, testBit_spanCodes from_lead to_tail, Bool.or_true]

theorem decomposeChar_ofNat_of_not_decomposable {n : Nat}
    (plain : decomposable.testBit n = false) : decomposeChar (Char.ofNat n) = [Char.ofNat n] := by
  refine decomposeChar_of_not_decomposable ?_
  rcases toNat_ofNat_cases n with same | zero
  · rw [same, plain]
  · rw [zero]
    exact not_decomposable_of_lt (by decide)

theorem decomposeChar_of_isSyllable {c : Char} (syllable : IsSyllable c.toNat) :
    decomposeChar c = (hangulLetters c.toNat).map Char.ofNat := by
  have high : ¬c.toNat < 0xA0 := by
    have from_first : hangulSyllable ≤ c.toNat := syllable.1
    rw [hangulSyllable] at from_first
    omega
  simp only [decomposeChar, if_neg high]
  exact if_pos syllable

/-- A character is decomposed as its code point is. -/
theorem decomposeChar_ofNat {n : Nat} (code : isCode n = true) :
    decomposeChar (Char.ofNat n) = (decomposedCodes n).map Char.ofNat := by
  have same : (Char.ofNat n).toNat = n := Nat.eq_of_beq_eq_true code
  rw [decomposedCodes]
  cases bit : decomposable.testBit n with
  | false => exact decomposeChar_ofNat_of_not_decomposable bit
  | true =>
    have high : ¬n < 0xA0 := by
      intro low
      rw [not_decomposable_of_lt low] at bit
      cases bit
    rw [cond_true]
    split
    next syllable =>
      rw [decomposeChar_of_isSyllable (same.symm ▸ syllable), same]
    next not_syllable =>
      rw [IsSyllable] at not_syllable
      simp only [decomposeChar, same, if_neg high, if_neg not_syllable,
        listedDecomposition_eq_scanParts]
      cases scanParts decompositionParts n <;> rfl

theorem decomposeChar_of_mem {c d : Char} (member : d ∈ decomposeChar c) :
    decomposeChar d = [d] := by
  rcases decomposeChar_cases c with same | ⟨syllable, letters⟩ |
    ⟨-, part, inTables, sequence, listed, means⟩
  · rw [same, List.mem_singleton] at member
    rw [member, same]
  · rw [letters] at member
    obtain ⟨n, letter, rfl⟩ := List.mem_map.1 member
    obtain ⟨from_lead, to_tail⟩ := mem_hangulLetters syllable letter
    exact decomposeChar_ofNat_of_not_decomposable
      (not_decomposable_of_hangulLetter from_lead to_tail)
  · rw [means] at member
    obtain ⟨n, element, rfl⟩ := List.mem_map.1 member
    have elements := (entryAgrees_of_listed inTables listed).1
    exact decomposeChar_ofNat_of_not_decomposable
      (Bool.not_eq_true _ ▸ by simpa using List.all_eq_true.1 elements n element)

theorem decomposeChar_of_mem_flatMap {text : List Char} {d : Char}
    (member : d ∈ text.flatMap decomposeChar) : decomposeChar d = [d] := by
  obtain ⟨c, -, inDecomposition⟩ := List.mem_flatMap.1 member
  exact decomposeChar_of_mem inDecomposition

/-! ## Canonical order -/

theorem place_perm (mark : Mark) (marks : List Mark) : (place mark marks).Perm (mark :: marks) := by
  induction marks with
  | nil => exact .refl _
  | cons head rest ih =>
    rw [place]
    split
    next => exact (ih.cons head).trans (.swap mark head rest)
    next => exact .refl _

theorem canonicalOrder_perm (marks : List Mark) : (canonicalOrder marks).Perm marks := by
  induction marks with
  | nil => exact .refl _
  | cons mark rest ih => exact (place_perm mark _).trans (ih.cons mark)

/-- Marks that stand in order stay where they are. -/
theorem canonicalOrder_of_isChain {marks : List Mark} (ordered : marks.IsChain MayFollow) :
    canonicalOrder marks = marks := by
  induction marks with
  | nil => rfl
  | cons mark rest ih =>
    rw [canonicalOrder, ih ordered.tail]
    cases rest with
    | nil => rfl
    | cons next later =>
      have follows : next.cls = 0 ∨ mark.cls ≤ next.cls := (List.isChain_cons_cons.1 ordered).1
      rw [place, if_neg (by omega)]

/-- A mark that is put in its place stands in order with the rest. -/
theorem isChain_place (mark : Mark) {marks : List Mark} (ordered : marks.IsChain MayFollow) :
    (place mark marks).IsChain MayFollow := by
  induction marks with
  | nil => exact List.isChain_singleton _
  | cons head rest ih =>
    rw [place]
    split
    next behind =>
      refine List.isChain_cons.2 ⟨?_, ih ordered.tail⟩
      intro next begins
      cases rest with
      | nil =>
        cases begins
        exact .inr (Nat.le_of_lt behind.2)
      | cons other later =>
        rw [place] at begins
        split at begins
        next =>
          cases begins
          exact (List.isChain_cons_cons.1 ordered).1
        next =>
          cases begins
          exact .inr (Nat.le_of_lt behind.2)
    next here =>
      refine List.isChain_cons_cons.2 ⟨?_, ordered⟩
      rw [MayFollow]
      omega

/-- Sorted marks stand in order. -/
theorem isChain_canonicalOrder (marks : List Mark) : (canonicalOrder marks).IsChain MayFollow := by
  induction marks with
  | nil => exact List.isChain_nil
  | cons mark rest ih => exact isChain_place mark ih

/-- Sorting sees no more of the end of a text than how that is sorted. -/
theorem canonicalOrder_append_congr (start : List Mark) {left right : List Mark}
    (same : canonicalOrder left = canonicalOrder right) :
    canonicalOrder (start ++ left) = canonicalOrder (start ++ right) := by
  induction start with
  | nil => exact same
  | cons mark rest ih => rw [List.cons_append, List.cons_append, canonicalOrder, canonicalOrder, ih]

/-- Marks of different classes may be put in their places in either order. -/
theorem place_comm {mark other : Mark} (marks : List Mark) (isMark : mark.cls ≠ 0)
    (otherMark : other.cls ≠ 0) (different : mark.cls ≠ other.cls) :
    place mark (place other marks) = place other (place mark marks) := by
  induction marks with
  | nil => grind [place]
  | cons head rest ih => grind [place]

/-- A mark may be moved across marks of other classes before they are sorted. -/
theorem canonicalOrder_append_comm {mark : Mark} {held : List Mark} (isMark : mark.cls ≠ 0)
    (different : ∀ other ∈ held, other.cls ≠ 0 ∧ other.cls ≠ mark.cls) (rest : List Mark) :
    canonicalOrder (mark :: (held ++ rest)) = canonicalOrder (held ++ mark :: rest) := by
  induction held with
  | nil => rfl
  | cons other held ih =>
    obtain ⟨⟨otherMark, apart⟩, later⟩ := List.forall_mem_cons.1 different
    calc canonicalOrder (mark :: (other :: held ++ rest))
        = place mark (place other (canonicalOrder (held ++ rest))) := rfl
      _ = place other (canonicalOrder (mark :: (held ++ rest))) :=
        place_comm _ isMark otherMark apart.symm
      _ = canonicalOrder (other :: held ++ mark :: rest) := by
        rw [ih later]
        rfl

/-! ## Decomposed texts -/

/-- The marks of a text, in the order in which its characters decompose. -/
def spread (text : List Char) : List Mark := (text.flatMap decomposeChar).map Mark.of

theorem decompose_eq_canonicalOrder (text : List Char) :
    decompose text = canonicalOrder (spread text) := rfl

theorem spread_cons (c : Char) (text : List Char) :
    spread (c :: text) = (decomposeChar c).map Mark.of ++ spread text := by
  rw [spread, List.flatMap_cons, List.map_append, spread]

theorem spread_append (text rest : List Char) :
    spread (text ++ rest) = spread text ++ spread rest := by
  rw [spread, List.flatMap_append, List.map_append, spread, spread]

/-- What decomposes no further is spread out as it is. -/
theorem spread_of_plain {text : List Char} (plain : ∀ c ∈ text, decomposeChar c = [c]) :
    spread text = text.map Mark.of := by
  rw [spread, List.flatMap_congr plain, List.flatMap_singleton']

/-- A mark as it stands in a decomposed text: a character that decomposes no further, with its
class. -/
structure IsPlain (mark : Mark) : Prop where
  class_eq : Mark.of mark.char = mark
  plain : decomposeChar mark.char = [mark.char]

theorem isPlain_of_mem_decompose {text : List Char} {mark : Mark}
    (member : mark ∈ decompose text) : IsPlain mark := by
  obtain ⟨d, decomposed, rfl⟩ := List.mem_map.1 ((canonicalOrder_perm _).mem_iff.1 member)
  exact ⟨rfl, decomposeChar_of_mem_flatMap decomposed⟩

end KeywordSearch.Unicode
