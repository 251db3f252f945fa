import KeywordSearch.Token

/-!
# The shape of tokens

Tokens that are indexed or looked up are not empty, and a token has no character
after a wildcard (`eq_of_wildcard_prefix`).
-/

set_option autoImplicit false

namespace KeywordSearch.Token

open Unicode

theorem ne_nil_of_isValid {token : Token} (valid : isValid token = true) : token ≠ [] := by
  rintro rfl
  cases valid

/-- A keyword gives a list of keywords its token, if that is valid. -/
theorem ofText_mem_ofKeywords {keywords : List String} {keyword : String}
    (member : keyword ∈ keywords) (valid : isValid (ofText keyword.toList) = true) :
    ofText keyword.toList ∈ ofKeywords keywords :=
  List.mem_filter.2 ⟨List.mem_map.2 ⟨keyword, member, rfl⟩, valid⟩

/-- A word gives a query its token, if that is valid. -/
theorem ofText_mem_ofQuery {query word : List Char} (member : word ∈ words query)
    (valid : isValid (ofText word) = true) : ofText word ∈ ofQuery query :=
  List.mem_filter.2 ⟨List.mem_map_of_mem member, valid⟩

theorem ne_nil_of_mem_ofKeywords {keywords : List String} {token : Token}
    (member : token ∈ ofKeywords keywords) : token ≠ [] :=
  ne_nil_of_isValid (List.mem_filter.1 member).2

theorem ne_nil_of_mem_ofQuery {query : List Char} {token : Token}
    (member : token ∈ ofQuery query) : token ≠ [] :=
  ne_nil_of_isValid (List.mem_filter.1 member).2

/-- A token that leads through a wildcard ends there. -/
theorem eq_of_wildcard_prefix_gatherWildcard {kept stem : List Char}
    (initial : stem ++ [wildcard] <+: gatherWildcard kept) :
    gatherWildcard kept = stem ++ [wildcard] := by
  have bare : ¬stem ++ [wildcard] <+: kept.filter (· != wildcard) := by
    intro inBare
    have member : wildcard ∈ kept.filter (· != wildcard) := inBare.subset (by simp)
    simp at member
  rw [gatherWildcard] at initial ⊢
  split at initial
  next ends =>
    rw [if_pos ends]
    rcases List.prefix_concat_iff.1 initial with same | inBare
    · exact same.symm
    · exact absurd inBare bare
  next => exact absurd initial bare

theorem eq_of_wildcard_prefix {keywords : List String} {token : Token} {stem : List Char}
    (member : token ∈ ofKeywords keywords) (initial : stem ++ [wildcard] <+: token) :
    token = stem ++ [wildcard] := by
  obtain ⟨keyword, _, rfl⟩ := List.mem_map.1 (List.mem_filter.1 member).1
  rw [ofText] at initial ⊢
  split at initial
  next => simp at initial
  next notBlank =>
    rw [if_neg notBlank]
    exact eq_of_wildcard_prefix_gatherWildcard initial

end KeywordSearch.Token
