import KeywordSearch.Proofs.Renormalizing
import KeywordSearch.Proofs.Token
import KeywordSearch.Proofs.Unicode.Blank

/-!
# What the token of a text looks like

Whatever a text is, its token is the letters of its compatibility-composed lower case in
their order, and behind them one wildcard if the last of the characters there that count
towards a token is a wildcard (`EndsOpen`).  That a blank text is given the empty token
without being looked at makes no difference: it is normalized to a blank text, and white
space counts as nothing (`ofText_eq_gatherWildcard`).  So texts that are normalized to
the same text have the same token.

It follows that a token is letters with at most one wildcard, at its end, and that it is
blank only if it is empty (`WellFormed`).  The tokens of a query and of keywords are
never empty and look like this as well (`shape_of_ofText`).
-/

set_option autoImplicit false

namespace KeywordSearch.Token

open Unicode

variable {text token letters before behind : List Char}

/-! ## How a text ends -/

/-- A wildcard stands in a text, and neither a letter nor a wildcard behind it. -/
def EndsOpen (text : List Char) : Prop :=
  ∃ before behind, text = before ++ wildcard :: behind ∧
    ∀ c ∈ behind, isLetter c = false ∧ c ≠ wildcard

theorem not_isLetter_wildcard : isLetter wildcard = false := by decide

theorem isKept_eq_false_iff {c : Char} :
    isKept c = false ↔ isLetter c = false ∧ c ≠ wildcard := by
  rw [isKept, Bool.or_eq_false_iff, beq_eq_false_iff_ne]

/-- A text ends open if the last character of it that counts is a wildcard. -/
theorem getLast?_filter_isKept_iff :
    (text.filter isKept).getLast? = some wildcard ↔ EndsOpen text := by
  have kept : isKept wildcard = true := by decide
  rw [List.getLast?_filter, List.find?_eq_some_iff_append]
  constructor
  · rintro ⟨-, behind, before, reversed, dropped⟩
    refine ⟨before.reverse, behind.reverse, ?_, ?_⟩
    · rw [← List.reverse_reverse text, reversed]
      simp
    · intro c member
      have notKept := dropped c (List.mem_reverse.1 member)
      rw [Bool.not_eq_true'] at notKept
      exact isKept_eq_false_iff.1 notKept
  · rintro ⟨before, behind, rfl, dropped⟩
    refine ⟨kept, behind.reverse, before.reverse, by simp, ?_⟩
    intro c member
    rw [Bool.not_eq_true']
    exact isKept_eq_false_iff.2 (dropped c (List.mem_reverse.1 member))

instance : DecidablePred EndsOpen := fun _ => decidable_of_iff _ getLast?_filter_isKept_iff

/-! ## Letters and the wildcard behind them -/

/-- The kept characters that are no wildcards are the letters. -/
theorem filter_ne_wildcard_filter_isKept (text : List Char) :
    (text.filter isKept).filter (· != wildcard) = text.filter isLetter := by
  rw [List.filter_filter]
  refine List.filter_congr ?_
  intro c _
  by_cases marker : c = wildcard
  · rw [marker, not_isLetter_wildcard, bne_self_eq_false, Bool.false_and]
  · rw [isKept, beq_eq_false_iff_ne.2 marker, Bool.or_false, bne_iff_ne.2 marker, Bool.true_and]

theorem gatherWildcard_filter_isKept (text : List Char) :
    gatherWildcard (text.filter isKept) =
      text.filter isLetter ++ if EndsOpen text then [wildcard] else [] := by
  rw [gatherWildcard, filter_ne_wildcard_filter_isKept]
  by_cases ends : EndsOpen text
  · rw [if_pos (getLast?_filter_isKept_iff.2 ends), if_pos ends]
  · have closed : (text.filter isKept).getLast? ≠ some wildcard := by
      intro last
      exact ends (getLast?_filter_isKept_iff.1 last)
    rw [if_neg closed, if_neg ends, List.append_nil]

/-- **A blank text needs no case of its own.** -/
theorem ofText_eq_gatherWildcard (text : List Char) :
    ofText text = gatherWildcard ((lowercase (nfkc text)).filter isKept) := by
  rw [ofText]
  split
  next blank =>
    have normalized : isBlank (nfkc text) = true := isBlank_nfkc blank
    have nothing : (nfkc text).filter isKept = [] := by
      refine List.filter_eq_nil_iff.2 ?_
      intro c member kept
      have white : isWhiteSpace c = true := List.all_eq_true.1 normalized c member
      rw [isWhiteSpace_of_isKept kept] at white
      cases white
    rw [lowercase_of_isBlank normalized, nothing]
    rfl
  next => rfl

/-! ## Well-formed tokens -/

/-- What can be relied on of a token. -/
structure WellFormed (token : Token) : Prop where
  /-- All its characters, perhaps but for the last, are letters. -/
  letters : ∀ c ∈ token.dropLast, isLetter c = true
  /-- The last one is a letter or a wildcard. -/
  last : ∀ c, token.getLast? = some c → isLetter c = true ∨ c = wildcard
  /-- There are not two wildcards in it. -/
  once : token.count wildcard ≤ 1
  /-- Nothing stands behind a wildcard. -/
  at_end : ∀ before behind, token = before ++ wildcard :: behind → behind = []
  /-- There is no white space in it. -/
  solid : ∀ c ∈ token, isWhiteSpace c = false
  /-- It can be indexed and looked up unless it is empty. -/
  isValid_iff : isValid token = true ↔ token ≠ []

theorem isValid_iff_of_isKept (kept : ∀ c ∈ token, isKept c = true) :
    isValid token = true ↔ token ≠ [] := by
  refine ⟨ne_nil_of_isValid, ?_⟩
  intro nonempty
  obtain ⟨c, member⟩ := List.exists_mem_of_ne_nil token nonempty
  exact isValid_of_isKept (kept c member) member

/-- Letters with one more character behind them that is kept are well-formed. -/
theorem wellFormed_concat {c : Char} (allLetters : ∀ d ∈ letters, isLetter d = true)
    (keptLast : isKept c = true) : WellFormed (letters ++ [c]) := by
  have kept : ∀ d ∈ letters ++ [c], isKept d = true := by
    intro d member
    rcases List.mem_append.1 member with inLetters | inLast
    · exact isKept_of_isLetter (allLetters d inLetters)
    · rwa [List.mem_singleton.1 inLast]
  have unmarked : wildcard ∉ letters := by
    intro member
    have letter := allLetters wildcard member
    rw [not_isLetter_wildcard] at letter
    cases letter
  refine ⟨?_, ?_, ?_, ?_, ?_, isValid_iff_of_isKept kept⟩
  · rw [List.dropLast_concat]
    exact allLetters
  · intro d ends
    rw [List.getLast?_concat] at ends
    cases ends
    rwa [isKept, Bool.or_eq_true, beq_iff_eq] at keptLast
  · rw [List.count_append, List.count_eq_zero.2 unmarked, Nat.zero_add]
    exact List.count_le_length
  · intro before behind divided
    rcases List.eq_nil_or_concat' behind with none | ⟨rest, d, rfl⟩
    · exact none
    · -- With something behind it the wildcard would stand among the letters.
      rw [← List.cons_append, ← List.append_assoc] at divided
      obtain ⟨inside, -⟩ := List.append_inj' divided rfl
      exact absurd (inside ▸ by simp) unmarked
  · intro d member
    exact isWhiteSpace_of_isKept (kept d member)

theorem wellFormed_of_letters (allLetters : ∀ c ∈ letters, isLetter c = true) :
    WellFormed letters := by
  rcases List.eq_nil_or_concat' letters with rfl | ⟨front, c, rfl⟩
  · exact ⟨by simp, by simp, by simp, by simp, by simp, by decide⟩
  · have letter : isLetter c = true := allLetters c (by simp)
    refine wellFormed_concat ?_ (isKept_of_isLetter letter)
    intro d member
    exact allLetters d (List.mem_append_left _ member)

theorem wellFormed_ofText (text : List Char) : WellFormed (ofText text) := by
  have allLetters : ∀ c ∈ (lowercase (nfkc text)).filter isLetter, isLetter c = true := by
    intro c member
    exact (List.mem_filter.1 member).2
  rw [ofText_eq_gatherWildcard, gatherWildcard_filter_isKept]
  split
  next => exact wellFormed_concat allLetters (by decide)
  next =>
    rw [List.append_nil]
    exact wellFormed_of_letters allLetters

theorem wellFormed_of_mem_ofQuery {query : List Char} (member : token ∈ ofQuery query) :
    WellFormed token := by
  obtain ⟨word, -, rfl⟩ := List.mem_map.1 (List.mem_filter.1 member).1
  exact wellFormed_ofText word

theorem wellFormed_of_mem_ofKeywords {keywords : List String}
    (member : token ∈ ofKeywords keywords) : WellFormed token := by
  obtain ⟨keyword, -, rfl⟩ := List.mem_map.1 (List.mem_filter.1 member).1
  exact wellFormed_ofText keyword.toList

/-- **What the token of a text is, and what it looks like.**  It is the letters of the lowered
normal form of the text, and a wildcard behind them just if that form ends open.  It depends
on the normal form alone, blank texts not excepted, and it is well-formed, as are the tokens
of a query and of keywords, none of which is empty. -/
theorem shape_of_ofText (text : List Char) :
    ofText text = (lowercase (nfkc text)).filter isLetter ++
      (if EndsOpen (lowercase (nfkc text)) then [wildcard] else []) ∧
    ofText text = gatherWildcard ((lowercase (nfkc text)).filter isKept) ∧
    (∀ other, nfkc other = nfkc text → ofText other = ofText text) ∧
    WellFormed (ofText text) ∧
    (∀ token ∈ ofQuery text, token ≠ [] ∧ WellFormed token) ∧
    ∀ keywords, ∀ token ∈ ofKeywords keywords, token ≠ [] ∧ WellFormed token := by
  refine ⟨?_, ofText_eq_gatherWildcard text, ?_, wellFormed_ofText text, ?_, ?_⟩
  · rw [ofText_eq_gatherWildcard, gatherWildcard_filter_isKept]
  · intro other same
    rw [ofText_eq_gatherWildcard, ofText_eq_gatherWildcard, same]
  · intro token member
    exact ⟨ne_nil_of_mem_ofQuery member, wellFormed_of_mem_ofQuery member⟩
  · intro keywords token member
    exact ⟨ne_nil_of_mem_ofKeywords member, wellFormed_of_mem_ofKeywords member⟩

/-- A wide asterisk ends a token, whatever is dropped behind it, and a blank text has none. -/
example : ofText "\u212A*9\uFF0A 5!".toList = "k*".toList ∧
    ofText "\u3000\u00A0".toList = [] := by
  decide +kernel

end KeywordSearch.Token
