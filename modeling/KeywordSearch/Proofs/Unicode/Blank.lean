import KeywordSearch.Proofs.Unicode.Lowercase
import KeywordSearch.Proofs.Unicode.Recomposition
import KeywordSearch.Unicode.WhiteSpace

/-!
# Blank texts

A blank text stays blank when it is normalized and lowered.  White space decomposes to
white space: the spaces of other widths and the no-break ones to the plain space, all
the rest to itself.  None of it is a mark, joins with what is before it or has a lower
case of its own, so composing and lowering leave what decomposing gives
(`isBlank_nfkc`, `lowercase_of_isBlank`).
-/

set_option autoImplicit false

namespace KeywordSearch.Unicode

variable {text : List Char} {c d : Char}

/-! ## White-space characters -/

/-- What holds of the listed characters holds of all white space. -/
theorem of_isWhiteSpace {holds : Char → Bool} (listed : whiteSpaces.all holds = true)
    (white : isWhiteSpace c = true) : holds c = true := by
  rw [isWhiteSpace, List.contains_iff_mem] at white
  exact List.all_eq_true.1 listed c white

theorem isWhiteSpace_of_mem_decomposeChar (white : isWhiteSpace c = true)
    (member : d ∈ decomposeChar c) : isWhiteSpace d = true := by
  have listed : (whiteSpaces.all fun c => (decomposeChar c).all isWhiteSpace) = true := by
    decide +kernel
  exact List.all_eq_true.1 (of_isWhiteSpace listed white) d member

theorem combiningClass_of_isWhiteSpace (white : isWhiteSpace c = true) : combiningClass c = 0 := by
  have listed : (whiteSpaces.all fun c => combiningClass c == 0) = true := by decide +kernel
  exact beq_iff_eq.1 (of_isWhiteSpace listed white)

theorem isJoiner_of_isWhiteSpace (white : isWhiteSpace c = true) :
    isJoiner c.toNat = false := by
  have listed : (whiteSpaces.all fun c => !isJoiner c.toNat) = true := by decide +kernel
  simpa using of_isWhiteSpace listed white

theorem lowercaseChar_of_isWhiteSpace (white : isWhiteSpace c = true) :
    lowercaseChar c = [c] := by
  have listed : (whiteSpaces.all fun c => lowercaseChar c == [c]) = true := by decide +kernel
  exact beq_iff_eq.1 (of_isWhiteSpace listed white)

/-! ## Normalizing and lowering -/

/-- Normalizing a text sees no more of it than what it decomposes to. -/
theorem nfkc_flatMap_decomposeChar (text : List Char) :
    nfkc (text.flatMap decomposeChar) = nfkc text := by
  have same : spread (text.flatMap decomposeChar) = spread text :=
    spread_of_plain fun _ => decomposeChar_of_mem_flatMap
  rw [nfkc, nfkc, decompose_eq_canonicalOrder, decompose_eq_canonicalOrder, same]

/-- A blank text that decomposes no further is normalized. -/
theorem nfkc_of_isBlank (blank : isBlank text = true)
    (plain : ∀ c ∈ text, decomposeChar c = [c]) : nfkc text = text := by
  have white : ∀ c ∈ text, isWhiteSpace c = true := List.all_eq_true.1 blank
  have restored : ∀ c ∈ text, Restored c c [] := by
    intro c member
    exact restored_of_plain (plain c member) (combiningClass_of_isWhiteSpace (white c member))
  refine (nfkc_eq_self_iff fun c member => ⟨c, [], restored c member⟩).2 ?_
  refine (List.pairwise_of_forall_mem_list ?_).isChain
  intro first _ second member
  exact (restored second member).unjoined_iff.2
    (join?_of_not_isJoiner (isJoiner_of_isWhiteSpace (white second member)))

/-- **What a blank text is normalized to is blank.** -/
theorem isBlank_nfkc (blank : isBlank text = true) : isBlank (nfkc text) = true := by
  have white : ∀ c ∈ text, isWhiteSpace c = true := List.all_eq_true.1 blank
  have decomposed : isBlank (text.flatMap decomposeChar) = true := by
    refine List.all_eq_true.2 ?_
    intro d member
    obtain ⟨c, inText, inDecomposition⟩ := List.mem_flatMap.1 member
    exact isWhiteSpace_of_mem_decomposeChar (white c inText) inDecomposition
  have normalized : nfkc (text.flatMap decomposeChar) = text.flatMap decomposeChar :=
    nfkc_of_isBlank decomposed fun _ => decomposeChar_of_mem_flatMap
  rw [← nfkc_flatMap_decomposeChar, normalized]
  exact decomposed

/-- A blank text is its own lower case. -/
theorem lowercase_of_isBlank (blank : isBlank text = true) : lowercase text = text := by
  refine lowercase_eq_self ?_
  intro c member
  exact lowercaseChar_of_isWhiteSpace (List.all_eq_true.1 blank c member)

end KeywordSearch.Unicode
