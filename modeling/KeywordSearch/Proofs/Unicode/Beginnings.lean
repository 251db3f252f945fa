import KeywordSearch.Proofs.Unicode.Lowercase
import Mathlib.Data.List.TakeWhile

/-!
# Lowering the beginning of a text

Lowering looks at one character at a time, except for the capital sigma, which looks at
what stands around it.  So a text that is cut short is lowered to the beginning of what
the whole text is lowered to, unless the cut brings a sigma to the end of a word that
stands inside one as long as nothing is cut (`CutsSigma`).

At such a cut the sigma becomes the other of its two lower cases, and nothing else
changes (`filter_lowercaseWithin_eq_iff`).  Both have the same length, so the lower case
of the beginning is no beginning of the lower case then, whatever else is dropped
afterwards (`filter_lowercase_prefix_iff`).

Letters are lowered to letters, and the dot that the dotted capital I leaves behind.
-/

set_option autoImplicit false

namespace KeywordSearch.Unicode

variable {before behind text start rest : List Char} {c d : Char}

/-! ## Parts of a text -/

/-- The lower case of a character between `before`, given in reverse, and `behind`. -/
def lowercaseAt (before : List Char) (c : Char) (behind : List Char) : List Char :=
  if c = '\u03A3' then (if isWordEnd before behind then ['\u03C2'] else ['\u03C3'])
  else lowercaseChar c

/-- The lower case of a part of a text that stands between `before`, given in reverse, and
`behind`. -/
def lowercaseWithin (before : List Char) : List Char → List Char → List Char
  | [], _ => []
  | c :: part, behind =>
    lowercaseAt before c (part ++ behind) ++ lowercaseWithin (c :: before) part behind

theorem lowercaseFrom_cons (before : List Char) (c : Char) (rest : List Char) :
    lowercaseFrom before (c :: rest) =
      lowercaseAt before c rest ++ lowercaseFrom (c :: before) rest :=
  rfl

/-- A text is lowered part by part. -/
theorem lowercaseFrom_append (before start rest : List Char) :
    lowercaseFrom before (start ++ rest) =
      lowercaseWithin before start rest ++ lowercaseFrom (start.reverse ++ before) rest := by
  induction start generalizing before with
  | nil => rfl
  | cons c start ih =>
    rw [List.cons_append, lowercaseFrom_cons, ih, lowercaseWithin, List.reverse_cons,
      List.append_assoc, List.append_assoc, List.singleton_append]

theorem lowercaseFrom_eq_lowercaseWithin (before start : List Char) :
    lowercaseFrom before start = lowercaseWithin before start [] := by
  have whole := lowercaseFrom_append before start []
  rwa [List.append_nil, lowercaseFrom, List.append_nil] at whole

/-! ## The end of a word -/

/-- Characters that are passed over make no difference to what follows. -/
theorem leadsWithCased_append_of_ignorable (ignorable : ∀ c ∈ start, isCaseIgnorable c = true)
    (rest : List Char) : leadsWithCased (start ++ rest) = leadsWithCased rest := by
  rw [leadsWithCased, leadsWithCased, List.dropWhile_append_of_pos ignorable]

/-- A text that is not passed over as a whole decides whether a cased character leads. -/
theorem leadsWithCased_append_of_not_ignorable
    (some_other : ¬∀ c ∈ start, isCaseIgnorable c = true) (rest : List Char) :
    leadsWithCased (start ++ rest) = leadsWithCased start := by
  have remains : start.dropWhile isCaseIgnorable ≠ [] := by
    rwa [ne_eq, List.dropWhile_eq_nil_iff]
  rw [leadsWithCased, leadsWithCased, List.dropWhile_append,
    if_neg (by rwa [List.isEmpty_iff])]
  cases remaining : start.dropWhile isCaseIgnorable with
  | nil => exact absurd remaining remains
  | cons c later => rfl

/-- What follows a part decides whether a word ends before the part just if all of the part is
passed over. -/
theorem isWordEnd_append_eq_iff (before start rest : List Char) :
    isWordEnd before (start ++ rest) = isWordEnd before start ↔
      ¬((∀ c ∈ start, isCaseIgnorable c = true) ∧ leadsWithCased before = true ∧
        leadsWithCased rest = true) := by
  by_cases ignorable : ∀ c ∈ start, isCaseIgnorable c = true
  · have alone := leadsWithCased_append_of_ignorable ignorable []
    rw [List.append_nil] at alone
    have nothing : leadsWithCased [] = false := rfl
    rw [and_iff_right ignorable, isWordEnd, isWordEnd,
      leadsWithCased_append_of_ignorable ignorable rest, alone, nothing]
    cases leadsWithCased before <;> cases leadsWithCased rest <;> decide
  · simp only [isWordEnd, leadsWithCased_append_of_not_ignorable ignorable rest, ignorable,
      false_and, not_false_eq_true]

/-! ## Cuts that end a word at a sigma -/

/-- In `start`, which follows the characters of `before`, given in reverse, the last character
that is not passed over is a capital sigma behind a cased character, and a cased
character leads `rest`. -/
def CutsSigmaFrom (before start rest : List Char) : Prop :=
  ∃ stem ignored, start = stem ++ '\u03A3' :: ignored ∧
    (∀ c ∈ ignored, isCaseIgnorable c = true) ∧
    leadsWithCased (stem.reverse ++ before) = true ∧ leadsWithCased rest = true

/-- A cut between `start` and `rest` brings a sigma to the end of a word that would stand inside
one. -/
def CutsSigma (start rest : List Char) : Prop := CutsSigmaFrom [] start rest

theorem not_cutsSigmaFrom_nil : ¬CutsSigmaFrom before [] rest := by
  rintro ⟨stem, ignored, nothing, -⟩
  exact List.append_ne_nil_of_right_ne_nil stem (List.cons_ne_nil _ _) nothing.symm

/-- The sigma that a cut changes is the first character, or it is one of the later ones. -/
theorem cutsSigmaFrom_cons :
    CutsSigmaFrom before (c :: start) rest ↔
      (c = '\u03A3' ∧ (∀ d ∈ start, isCaseIgnorable d = true) ∧ leadsWithCased before = true ∧
        leadsWithCased rest = true) ∨ CutsSigmaFrom (c :: before) start rest := by
  constructor
  · rintro ⟨stem, ignored, split, ignorable, cased, leads⟩
    cases stem with
    | nil =>
      obtain ⟨rfl, rfl⟩ := List.cons.inj split
      exact .inl ⟨rfl, ignorable, cased, leads⟩
    | cons d stem =>
      obtain ⟨rfl, rfl⟩ := List.cons.inj split
      rw [List.reverse_cons, List.append_assoc, List.singleton_append] at cased
      exact .inr ⟨stem, ignored, rfl, ignorable, cased, leads⟩
  · rintro (⟨rfl, ignorable, cased, leads⟩ | ⟨stem, ignored, rfl, ignorable, cased, leads⟩)
    · exact ⟨[], start, rfl, ignorable, cased, leads⟩
    · refine ⟨c :: stem, ignored, rfl, ignorable, ?_, leads⟩
      rwa [List.reverse_cons, List.append_assoc, List.singleton_append]

instance decidableCutsSigmaFrom : (before start rest : List Char) →
    Decidable (CutsSigmaFrom before start rest)
  | _, [], _ => .isFalse not_cutsSigmaFrom_nil
  | before, c :: start, rest =>
    have := decidableCutsSigmaFrom (c :: before) start rest
    decidable_of_iff ((c = '\u03A3' ∧ start.all isCaseIgnorable = true ∧
        leadsWithCased before = true ∧ leadsWithCased rest = true) ∨
      CutsSigmaFrom (c :: before) start rest) <| by
        rw [List.all_eq_true, cutsSigmaFrom_cons]

instance (start rest : List Char) : Decidable (CutsSigma start rest) :=
  inferInstanceAs (Decidable (CutsSigmaFrom [] start rest))

/-! ## What a cut changes -/

section Kept

-- Of what lowering gives some characters may be dropped, but no sigma.
variable {keep : Char → Bool}
  (keeps_final : keep '\u03C2' = true) (keeps_inner : keep '\u03C3' = true)

include keeps_final keeps_inner

/-- What stands behind a character does not matter for the length of its lower case. -/
theorem length_filter_lowercaseAt (before : List Char) (c : Char) (behind other : List Char) :
    ((lowercaseAt before c behind).filter keep).length =
      ((lowercaseAt before c other).filter keep).length := by
  rw [lowercaseAt, lowercaseAt]
  split
  · cases isWordEnd before behind <;> cases isWordEnd before other <;>
      simp [keeps_final, keeps_inner]
  · rfl

theorem length_filter_lowercaseWithin (before start behind other : List Char) :
    ((lowercaseWithin before start behind).filter keep).length =
      ((lowercaseWithin before start other).filter keep).length := by
  induction start generalizing before with
  | nil => rfl
  | cons c start ih =>
    rw [lowercaseWithin, lowercaseWithin, List.filter_append, List.filter_append,
      List.length_append, List.length_append, ih,
      length_filter_lowercaseAt keeps_final keeps_inner before c (start ++ behind) (start ++ other)]

/-- A character is lowered alike with and without what follows unless it is a sigma at whose word
the cut is made. -/
theorem filter_lowercaseAt_eq_iff (before : List Char) (c : Char) (start rest : List Char) :
    (lowercaseAt before c start).filter keep = (lowercaseAt before c (start ++ rest)).filter keep ↔
      ¬(c = '\u03A3' ∧ (∀ d ∈ start, isCaseIgnorable d = true) ∧ leadsWithCased before = true ∧
        leadsWithCased rest = true) := by
  by_cases sigma : c = '\u03A3'
  · rw [lowercaseAt, lowercaseAt, if_pos sigma, if_pos sigma, and_iff_right sigma,
      ← isWordEnd_append_eq_iff]
    cases isWordEnd before start <;> cases isWordEnd before (start ++ rest) <;>
      simp [keeps_final, keeps_inner]
  · rw [lowercaseAt, lowercaseAt, if_neg sigma, if_neg sigma]
    simp [sigma]

/-- **A part is lowered alike with and without what follows unless the cut ends a word at a
sigma.** -/
theorem filter_lowercaseWithin_eq_iff (before start rest : List Char) :
    (lowercaseWithin before start []).filter keep =
        (lowercaseWithin before start rest).filter keep ↔
      ¬CutsSigmaFrom before start rest := by
  induction start generalizing before with
  | nil => simp [lowercaseWithin, not_cutsSigmaFrom_nil]
  | cons c start ih =>
    have here := filter_lowercaseAt_eq_iff keeps_final keeps_inner before c start rest
    have length := length_filter_lowercaseAt keeps_final keeps_inner before c start (start ++ rest)
    rw [lowercaseWithin, lowercaseWithin, List.append_nil, List.filter_append, List.filter_append,
      cutsSigmaFrom_cons, not_or, ← ih, ← here]
    constructor
    · intro same
      exact List.append_inj same length
    · rintro ⟨first, others⟩
      rw [first, others]

/-- **When a text that is cut short is lowered to a beginning of what the whole is lowered to.** -/
theorem filter_lowercase_prefix_iff (start rest : List Char) :
    (lowercase start).filter keep <+: (lowercase (start ++ rest)).filter keep ↔
      ¬CutsSigma start rest := by
  have length := length_filter_lowercaseWithin keeps_final keeps_inner [] start [] rest
  rw [lowercase, lowercase, lowercaseFrom_eq_lowercaseWithin, lowercaseFrom_append,
    List.filter_append, CutsSigma, ← filter_lowercaseWithin_eq_iff keeps_final keeps_inner]
  constructor
  · intro initial
    have within := List.prefix_of_prefix_length_le initial (List.prefix_append _ _)
      (Nat.le_of_eq length)
    exact within.eq_of_length length
  · intro same
    rw [same]
    exact List.prefix_append _ _

end Kept

/-! ## Lowering letters -/

theorem isLetter_iff_testBit : isLetter c = true ↔ letters.codes.testBit c.toNat = true := by
  have ascending : letters.ascendFrom 0 = true := by decide +kernel
  constructor
  · exact Spans.testBit_codes
  · intro member
    exact (Spans.contains_of_testBit_codes ascending member).2

/-- The lower case that is listed for a letter is a letter. -/
theorem isLetter_of_mem_lowerPairs {n : Nat} (member : (c.toNat, n) ∈ lowerPairs)
    (letter : isLetter c = true) : isLetter (Char.ofNat n) = true := by
  have listed : (lowerPairs.all fun pair => !letters.codes.testBit pair.1
      || letters.codes.testBit (Char.ofNat pair.2).toNat) = true := by decide +kernel
  have checked := List.all_eq_true.1 listed _ member
  rw [isLetter_iff_testBit] at letter ⊢
  simpa [letter] using checked

/-- A letter is lowered to a letter, with a dot behind it if it is the dotted capital I. -/
theorem lowercaseChar_of_isLetter (letter : isLetter c = true) :
    ∃ lower dots, lowercaseChar c = lower :: dots ∧ isLetter lower = true ∧
      ∀ dot ∈ dots, dot = '\u0307' := by
  rcases lowercaseChar_cases c with same | rfl | ⟨n, listed, lower⟩
  · exact ⟨c, [], same, letter, by simp⟩
  · exact ⟨'i', ['\u0307'], rfl, by decide, by simp⟩
  · exact ⟨_, [], lower, isLetter_of_mem_lowerPairs listed letter, by simp⟩

theorem isLetter_sigma : isLetter '\u03C2' = true ∧ isLetter '\u03C3' = true := by
  constructor <;> decide

theorem isLetter_of_mem_lowercase (letters : ∀ c ∈ text, isLetter c = true)
    (member : d ∈ lowercase text) : isLetter d = true ∨ d = '\u0307' := by
  obtain ⟨c, found, lowered | rfl | rfl⟩ := mem_lowercaseFrom member
  · obtain ⟨lower, dots, lowers, letter, dotted⟩ := lowercaseChar_of_isLetter (letters c found)
    rw [lowers] at lowered
    rcases List.mem_cons.1 lowered with rfl | inDots
    · exact .inl letter
    · exact .inr (dotted d inDots)
  · exact .inl isLetter_sigma.1
  · exact .inl isLetter_sigma.2

/-- What a text of letters is lowered to begins with a letter. -/
theorem exists_letter_mem_lowercase (letters : ∀ c ∈ text, isLetter c = true)
    (nonempty : text ≠ []) : ∃ d ∈ lowercase text, isLetter d = true := by
  cases text with
  | nil => exact absurd rfl nonempty
  | cons c text =>
    suffices found : ∃ d ∈ lowercaseAt [] c text, isLetter d = true by
      obtain ⟨d, member, letter⟩ := found
      exact ⟨d, List.mem_append_left _ member, letter⟩
    rw [lowercaseAt]
    split
    · split
      · exact ⟨_, List.mem_cons_self, isLetter_sigma.1⟩
      · exact ⟨_, List.mem_cons_self, isLetter_sigma.2⟩
    · obtain ⟨lower, dots, lowers, letter, -⟩ :=
        lowercaseChar_of_isLetter (letters c List.mem_cons_self)
      rw [lowers]
      exact ⟨lower, List.mem_cons_self, letter⟩

end KeywordSearch.Unicode
