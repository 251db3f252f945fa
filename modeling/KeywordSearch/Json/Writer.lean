import KeywordSearch.Json.Value

/-!
# Writing JSON

Values are written without white space.  In texts the quote, the backslash and
the control characters are escaped, with a letter where there is one, and so
are halves of surrogate pairs; everything else stands for itself.
-/

set_option autoImplicit false

namespace KeywordSearch.Json

/-- The lower-case hexadecimal digit of a value below 16. -/
def hexDigit (value : Nat) : Char :=
  if value < 10 then Char.ofNat (48 + value) else Char.ofNat (87 + value)

/-- A number of 16 bits as an escape. -/
def unitEscape (unit : Nat) : List Char :=
  ['\\', 'u', hexDigit (unit / 0x1000 % 16), hexDigit (unit / 0x100 % 16),
    hexDigit (unit / 0x10 % 16), hexDigit (unit % 16)]

/-- A character as it is written in a text. -/
def writeChar (c : Char) : List Char :=
  if c = '"' then ['\\', '"']
  else if c = '\\' then ['\\', '\\']
  else if c = '\u0008' then ['\\', 'b']
  else if c = '\t' then ['\\', 't']
  else if c = '\n' then ['\\', 'n']
  else if c = '\u000C' then ['\\', 'f']
  else if c = '\r' then ['\\', 'r']
  else if c < ' ' then unitEscape c.toNat
  else [c]

/-- A piece as it is written in a text. -/
def writePiece : Piece → List Char
  | .char c => writeChar c
  | .half unit => unitEscape unit

/-- A text between its quotes. -/
def writeText (pieces : List Piece) : List Char := '"' :: (pieces.flatMap writePiece ++ ['"'])

mutual

/-- A value as it is written. -/
def write : Value → List Char
  | .null => ['n', 'u', 'l', 'l']
  | .boolean true => ['t', 'r', 'u', 'e']
  | .boolean false => ['f', 'a', 'l', 's', 'e']
  | .natural value => Nat.toDigits 10 value
  | .numeral written => written
  | .text pieces => writeText pieces
  | .array [] => ['[', ']']
  | .array (item :: items) => '[' :: (write item ++ writeItems items)
  | .object [] => ['\x7b', '\x7d']
  | .object ((name, item) :: members) =>
    '\x7b' :: (writeText name ++ ':' :: (write item ++ writeMembers members))

/-- The items of an array behind the first, with the closing bracket. -/
def writeItems : List Value → List Char
  | [] => [']']
  | item :: items => ',' :: (write item ++ writeItems items)

/-- The members of an object behind the first, with the closing brace. -/
def writeMembers : List (List Piece × Value) → List Char
  | [] => ['\x7d']
  | (name, item) :: members =>
    ',' :: (writeText name ++ ':' :: (write item ++ writeMembers members))

end

end KeywordSearch.Json
