import KeywordSearch.Proofs.Unicode.Composition

/-!
# Lowering what was composed

A character that lowering gives has no other lower case, so lowering a text a second
time changes nothing (`lowercase_eq_self`).  Nor does lowering undo composition: the
lower case of a settled character is settled (`of_mem_lowercase`).  Both are facts
about the table of lower cases.  The two lower cases of the capital sigma and the
letter and the dot that stand for the dotted capital I are seen to one by one.
-/

set_option autoImplicit false

namespace KeywordSearch.Unicode

/-! ## The lower case of one character -/

theorem mem_lowerPairs {n offset : Nat} {run : LowerRun}
    (found : lowerRuns.find? n = some (offset, run)) (whole : offset % run.step = 0) :
    (n, run.lower + offset) ∈ lowerPairs := by
  obtain ⟨span, member, rfl, rfl, to_last⟩ := Chart.exists_of_find? found
  have inRange : offset ∈ List.range (span.last + 1 - span.first) :=
    List.mem_range.2 (by omega)
  have stepped : Nat.beq (offset % span.value.step) 0 = true := by rw [whole, Nat.beq_refl]
  exact List.mem_flatMap.2
    ⟨span, member, List.mem_map.2 ⟨offset, List.mem_filter.2 ⟨inRange, stepped⟩, rfl⟩⟩

/-- A character is its own lower case, or it is the dotted capital I, or it is listed. -/
theorem lowercaseChar_cases (c : Char) :
    lowercaseChar c = [c] ∨ c = '\u0130' ∨
      ∃ n, (c.toNat, n) ∈ lowerPairs ∧ lowercaseChar c = [Char.ofNat n] := by
  rw [lowercaseChar]
  split
  next dotted => exact .inr (.inl dotted)
  next =>
    split
    next offset run found =>
      split
      next whole => exact .inr (.inr ⟨_, mem_lowerPairs found whole, rfl⟩)
      next => exact .inl rfl
    next => exact .inl rfl

theorem lowercaseChar_of_not_lowered {c : Char} (plain : loweredCodes.testBit c.toNat = false) :
    lowercaseChar c = [c] := by
  rcases lowercaseChar_cases c with same | rfl | ⟨n, member, -⟩
  · exact same
  · rw [loweredCodes, testBit_codesOf List.mem_cons_self] at plain
    cases plain
  · have listed : c.toNat ∈ '\u0130'.toNat :: lowerPairs.map Prod.fst :=
      List.mem_cons_of_mem _ (List.mem_map.2 ⟨_, member, rfl⟩)
    rw [loweredCodes, testBit_codesOf listed] at plain
    cases plain

theorem lowercaseChar_of_mem_lowerPairs {pair : Nat × Nat} (member : pair ∈ lowerPairs) :
    lowercaseChar (Char.ofNat pair.2) = [Char.ofNat pair.2] := by
  refine lowercaseChar_of_not_lowered (testBit_of_apart tables_agree.lowered ?_)
  have listed : (Char.ofNat pair.2).toNat ∈ 0 :: lowerPairs.map Prod.snd := by
    rcases toNat_ofNat_cases pair.2 with same | zero
    · rw [same]
      exact List.mem_cons_of_mem _ (List.mem_map_of_mem member)
    · rw [zero]
      exact List.mem_cons_self
  rw [Nat.testBit_or, Nat.testBit_or, testBit_codesOf listed, Bool.true_or, Bool.true_or]

/-- No Hangul letter has a lower case of its own. -/
theorem lowercaseChar_of_hangulLetter {c : Char} (from_lead : hangulLead ≤ c.toNat)
    (to_tail : c.toNat ≤ hangulTail + hangulTails) : lowercaseChar c = [c] := by
  refine lowercaseChar_of_not_lowered (testBit_of_apart tables_agree.lowered ?_)
  rw [Nat.testBit_or, Nat.testBit_or, testBit_spanCodes from_lead to_tail, Bool.or_true,
    Bool.true_or]

/-- No Hangul syllable has a lower case of its own. -/
theorem lowercaseChar_of_isSyllable {c : Char} (syllable : IsSyllable c.toNat) :
    lowercaseChar c = [c] := by
  obtain ⟨from_first, to_last⟩ := syllable
  refine lowercaseChar_of_not_lowered (testBit_of_apart tables_agree.lowered ?_)
  rw [Nat.testBit_or, testBit_spanCodes from_first (by omega), Bool.or_true]

theorem isSettled_of_mem_lowerPairs {c : Char} {n : Nat} (member : (c.toNat, n) ∈ lowerPairs)
    (settled : isSettled c = true) : isSettled (Char.ofNat n) = true := by
  have checked := List.all_eq_true.1 tables_agree.lower _ member
  simp only [Char.ofNat_toNat, settled, Bool.not_true, Bool.or_false, Bool.or_eq_true,
    Bool.and_eq_true, Bool.not_eq_true'] at checked
  rcases checked with plain | ⟨code, recomposed⟩
  · exact isSettled_of_decomposeChar_eq (decomposeChar_ofNat_of_not_decomposable plain)
  · exact isSettled_of_recomposes code recomposed

theorem of_mem_irregular {d : Char} (member : d ∈ ['i', '\u0307', '\u03C2', '\u03C3']) :
    lowercaseChar d = [d] ∧ isSettled d = true := by
  have checked := List.all_eq_true.1 (Bool.and_eq_true_iff.1 tables_agree.irregular).2 d member
  rwa [Bool.and_eq_true, beq_iff_eq] at checked

/-! ## The lower case of a text -/

variable {text : List Char} {d : Char}

theorem mem_lowercaseFrom {before : List Char} (member : d ∈ lowercaseFrom before text) :
    ∃ c ∈ text, d ∈ lowercaseChar c ∨ d = '\u03C2' ∨ d = '\u03C3' := by
  induction text generalizing before with
  | nil => cases member
  | cons c rest ih =>
    rw [lowercaseFrom] at member
    rcases List.mem_append.1 member with lowered | later
    · refine ⟨c, List.mem_cons_self, ?_⟩
      split at lowered
      next =>
        split at lowered
        next => exact .inr (.inl (List.mem_singleton.1 lowered))
        next => exact .inr (.inr (List.mem_singleton.1 lowered))
      next => exact .inl lowered
    · obtain ⟨other, found, lowers⟩ := ih later
      exact ⟨other, List.mem_cons_of_mem _ found, lowers⟩

/-- What lowering gives is its own lower case, and it is settled when the text is. -/
theorem of_mem_lowercase (settled : ∀ c ∈ text, isSettled c = true)
    (member : d ∈ lowercase text) : lowercaseChar d = [d] ∧ isSettled d = true := by
  obtain ⟨c, found, lowered | rfl | rfl⟩ := mem_lowercaseFrom member
  · rcases lowercaseChar_cases c with same | rfl | ⟨n, listed, lower⟩
    · rw [same, List.mem_singleton] at lowered
      rw [lowered]
      exact ⟨same, settled c found⟩
    · have dotted : d ∈ ['i', '\u0307'] := lowered
      exact of_mem_irregular (List.mem_append_left ['\u03C2', '\u03C3'] dotted)
    · rw [lower, List.mem_singleton] at lowered
      rw [lowered]
      exact ⟨lowercaseChar_of_mem_lowerPairs listed,
        isSettled_of_mem_lowerPairs listed (settled c found)⟩
  · exact of_mem_irregular (by simp)
  · exact of_mem_irregular (by simp)

theorem lowercaseFrom_eq_self {before : List Char} (plain : ∀ c ∈ text, lowercaseChar c = [c]) :
    lowercaseFrom before text = text := by
  induction text generalizing before with
  | nil => rfl
  | cons c rest ih =>
    obtain ⟨same, plainRest⟩ := List.forall_mem_cons.1 plain
    have not_sigma : c ≠ '\u03A3' := by
      rintro rfl
      exact bne_iff_ne.1 (Bool.and_eq_true_iff.1 tables_agree.irregular).1 same
    rw [lowercaseFrom, ih plainRest, if_neg not_sigma, same]
    rfl

/-- A text of characters that are their own lower case is its own lower case. -/
theorem lowercase_eq_self (plain : ∀ c ∈ text, lowercaseChar c = [c]) : lowercase text = text :=
  lowercaseFrom_eq_self plain

end KeywordSearch.Unicode
