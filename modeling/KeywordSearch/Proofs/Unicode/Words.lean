import KeywordSearch.Token

/-!
# The words of a text

White space divides a text, however much of it there is: the words of two texts with
nothing but white space between them are the words of the first and then those of the
second (`words_append_gap`).  A text without white space is one word
(`words_of_solid`).  So the terms of a query are those of its parts
(`Token.ofQuery_append_gap`).
-/

set_option autoImplicit false

namespace KeywordSearch

namespace Unicode

variable {word text gap : List Char} {c : Char}

/-- White space ends the word before it, and the text behind it begins anew. -/
theorem wordsFrom_append_cons (white : isWhiteSpace c = true) (word left right : List Char) :
    wordsFrom word (left ++ c :: right) = wordsFrom word left ++ words right := by
  induction left generalizing word with
  | nil =>
    rw [List.nil_append, wordsFrom, wordsFrom, if_pos white, words]
    split <;> rfl
  | cons d left ih =>
    rw [List.cons_append, wordsFrom, wordsFrom]
    split
    · split
      · exact ih []
      · rw [ih [], List.cons_append]
    · exact ih (d :: word)

/-- White space before a text adds no word to it. -/
theorem words_append_of_white (white : ∀ c ∈ gap, isWhiteSpace c = true) (text : List Char) :
    words (gap ++ text) = words text := by
  induction gap with
  | nil => rfl
  | cons c gap ih =>
    obtain ⟨here, later⟩ := List.forall_mem_cons.1 white
    have divided : words ([] ++ c :: (gap ++ text)) = words [] ++ words (gap ++ text) :=
      wordsFrom_append_cons here [] [] (gap ++ text)
    rw [List.cons_append, ← ih later]
    exact divided

/-- **White space divides a text.**  The words of two texts with white space between them are
those of the first and then those of the second. -/
theorem words_append_gap (nonempty : gap ≠ []) (white : ∀ c ∈ gap, isWhiteSpace c = true)
    (left right : List Char) : words (left ++ gap ++ right) = words left ++ words right := by
  cases gap with
  | nil => exact absurd rfl nonempty
  | cons c gap =>
    obtain ⟨here, later⟩ := List.forall_mem_cons.1 white
    rw [List.append_assoc, List.cons_append]
    calc words (left ++ c :: (gap ++ right))
        = words left ++ words (gap ++ right) := wordsFrom_append_cons here [] left _
      _ = words left ++ words right := by rw [words_append_of_white later]

/-- A text without white space belongs to the word that it goes on with. -/
theorem wordsFrom_of_solid (solid : ∀ c ∈ text, isWhiteSpace c = false)
    (nonempty : word ≠ [] ∨ text ≠ []) : wordsFrom word text = [word.reverse ++ text] := by
  induction text generalizing word with
  | nil =>
    have begun : word.isEmpty = false := by
      rw [List.isEmpty_eq_false_iff]
      exact nonempty.resolve_right fun none => none rfl
    rw [wordsFrom, begun, List.append_nil]
    rfl
  | cons c text ih =>
    obtain ⟨here, later⟩ := List.forall_mem_cons.1 solid
    rw [wordsFrom, here, ih later (.inl (List.cons_ne_nil c word)), List.reverse_cons,
      List.append_assoc, List.singleton_append]
    rfl

theorem words_of_solid (solid : ∀ c ∈ text, isWhiteSpace c = false) (nonempty : text ≠ []) :
    words text = [text] :=
  wordsFrom_of_solid solid (.inr nonempty)

end Unicode

namespace Token

open Unicode

/-- The terms of two queries with white space between them are those of the first and then
those of the second. -/
theorem ofQuery_append_gap {gap : List Char} (nonempty : gap ≠ [])
    (white : ∀ c ∈ gap, isWhiteSpace c = true) (left right : List Char) :
    ofQuery (left ++ gap ++ right) = ofQuery left ++ ofQuery right := by
  rw [ofQuery, words_append_gap nonempty white, List.map_append, List.filter_append]
  rfl

end Token

end KeywordSearch
