/-!
# JSON values

A JSON value as it stands in a text.  Members of an object keep their order and
may repeat a name.  A number that is written as digits alone is known by its
value; any other number is kept as it is written.  A text may hold halves of
surrogate pairs that lack their other half; such a text is no string.
-/

set_option autoImplicit false

namespace KeywordSearch.Json

/-- A character of a text, or half of a surrogate pair that stands alone. -/
inductive Piece where
  | char (c : Char)
  | half (unit : Nat)
  deriving DecidableEq, Repr

/-- A JSON value. -/
inductive Value where
  | null
  | boolean (value : Bool)
  | natural (value : Nat)
  | numeral (written : List Char)
  | text (pieces : List Piece)
  | array (items : List Value)
  | object (members : List (List Piece × Value))

namespace Piece

/-- The characters of a text that holds no lone half. -/
def chars? : List Piece → Option (List Char)
  | [] => some []
  | char c :: rest => (chars? rest).map (c :: ·)
  | half _ :: _ => none

/-- The string that a text is, if it holds no lone half. -/
def string? (pieces : List Piece) : Option String := (chars? pieces).map String.ofList

/-- The pieces of a string. -/
def ofString (string : String) : List Piece := string.toList.map char

theorem chars?_map_char (chars : List Char) : chars? (chars.map char) = some chars := by
  induction chars with
  | nil => rfl
  | cons c rest ih => simp [chars?, ih]

/-- A string is read back from its pieces. -/
@[simp] theorem string?_ofString (string : String) : string? (ofString string) = some string := by
  simp [string?, ofString, chars?_map_char]

end Piece

end KeywordSearch.Json
