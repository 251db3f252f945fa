import KeywordSearch.Proofs.Toml.Lines
import KeywordSearch.Proofs.Toml.Numerals

/-!
# Documents of plain lines

A plain line gives a bare key the value of one word, with a blank on either side
of the equals sign.  A document of such lines with different keys is read as the
table of those keys and values, in the order of the lines.
-/

set_option autoImplicit false

namespace KeywordSearch.Toml

/-- Digits denote their number, if it is not too great. -/
theorem wordValue_toDigits {n : Nat} (fits : n ≤ greatestInteger) :
    wordValue (Nat.toDigits 10 n) = some (.integer n) := by
  have least : leastInteger ≤ n := Int.le_trans (by decide) (Int.natCast_nonneg n)
  have read := wordValue_of_spells (.decimal (.ofNat n))
  rw [Numeral.text_ofNat, Numeral.value_ofNat, fitting, if_pos ⟨least, fits⟩] at read
  exact read

theorem wordValue_nil : wordValue [] = none := by decide

/-! ## Lines -/

/-- A line that gives a bare key the value that a word denotes. -/
structure PlainLine where
  key : Key
  word : List Char
  node : Node
  key_ne_nil : key ≠ []
  bare : ∀ c ∈ key, isBareKeyChar c = true
  solid : ∀ c ∈ word, isWordChar c = true
  denotes : wordValue word = some node

namespace PlainLine

/-- A line as it is written. -/
def text (line : PlainLine) : List Char :=
  line.key ++ ' ' :: '=' :: ' ' :: (line.word ++ ['\n'])

/-- The member that a line adds to a table. -/
def member (line : PlainLine) : Key × Node := (line.key, line.node)

/-- The key of a line and its word, with their blanks. -/
def pair (line : PlainLine) : Assignment where
  key := line.key
  before := .one
  behind := .one
  word := line.word
  key_ne_nil := line.key_ne_nil
  bare := line.bare
  word_ne_nil := by
    intro none
    have denotes := line.denotes
    rw [none, wordValue_nil] at denotes
    cases denotes
  solid := line.solid

theorem member?_pair (line : PlainLine) : line.pair.member? = some line.member :=
  congrArg (Option.map fun node => (line.key, node)) line.denotes

end PlainLine

/-- Lines one below the other. -/
def document (lines : List PlainLine) : List Char := lines.flatMap PlainLine.text

/-- Plain lines one below the other, and nothing behind the last of them. -/
def plainSheet : List PlainLine → Sheet
  | [] => .last ⟨.none, none, .none, none⟩
  | line :: lines => .ended ⟨.none, some line.pair, .none, none⟩ .feed (plainSheet lines)

theorem text_plainSheet (lines : List PlainLine) : (plainSheet lines).text = document lines := by
  induction lines with
  | nil => rfl
  | cons line lines ih =>
    simp [plainSheet, Sheet.text, ih, document, Line.text, Line.remark, Assignment.text,
      PlainLine.pair, PlainLine.text, Blanks.none, Blanks.one, Ending.text]

theorem pairs_plainSheet (lines : List PlainLine) :
    (plainSheet lines).pairs = lines.map PlainLine.pair := by
  induction lines with
  | nil => rfl
  | cons line lines ih => exact congrArg (line.pair :: ·) ih

/-- **A document of plain lines with different keys is read as the table of its
keys and values**, in the order of the lines. -/
theorem parse_document {lines : List PlainLine} (distinct : (lines.map PlainLine.key).Nodup) :
    parse (document lines) = some (lines.map PlainLine.member) := by
  have keys : (plainSheet lines).keys = lines.map PlainLine.key := by
    rw [Sheet.keys, pairs_plainSheet, List.map_map]
    rfl
  have denotes : (lines.map PlainLine.pair).mapM Assignment.member? =
      some (lines.map PlainLine.member) := by
    rw [List.mapM_map, funext (f := Assignment.member? ∘ PlainLine.pair) PlainLine.member?_pair]
    exact List.mapM_pure
  rw [← text_plainSheet, Sheet.parse_text, keys, if_pos distinct, pairs_plainSheet, denotes]

end KeywordSearch.Toml
