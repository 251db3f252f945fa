import KeywordSearch.Json.Value

/-!
# Reading JSON

A reader for strict JSON: one value with nothing but white space around it.
Control characters do not stand in texts, numbers have no leading zeros, and no
comma follows the last item.
-/

set_option autoImplicit false

namespace KeywordSearch.Json

/-- A reader takes something off the front of a text, or finds it malformed. -/
abbrev Reader (α : Type) := List Char → Option (α × List Char)

/-- The white space of JSON. -/
def isSpace (c : Char) : Bool := c == ' ' || c == '\n' || c == '\r' || c == '\t'

/-- The text behind any white space. -/
def skipSpace (text : List Char) : List Char := text.dropWhile isSpace

/-! ## Texts -/

/-- The value of a hexadecimal digit. -/
def hexDigit? (c : Char) : Option Nat :=
  if '0' ≤ c ∧ c ≤ '9' then some (c.toNat - 48)
  else if 'a' ≤ c ∧ c ≤ 'f' then some (c.toNat - 87)
  else if 'A' ≤ c ∧ c ≤ 'F' then some (c.toNat - 55)
  else none

/-- The character that a letter behind a backslash stands for. -/
def escaped? : Char → Option Char
  | '"' => some '"'
  | '\\' => some '\\'
  | '/' => some '/'
  | 'b' => some '\u0008'
  | 'f' => some '\u000C'
  | 'n' => some '\n'
  | 'r' => some '\r'
  | 't' => some '\t'
  | _ => none

/-- What a number of 16 bits stands for. -/
def Piece.ofUnit (unit : Nat) : Piece :=
  if 0xD800 ≤ unit ∧ unit < 0xE000 then .half unit else .char (Char.ofNat unit)

/-- Where a reader stands within a text: between characters, behind a backslash,
or among the digits of a character's number. -/
inductive Within where
  | plain
  | escape
  | code (missing value : Nat)

/-- Puts a piece in front of what a reader takes. -/
def prepend (piece : Piece) (taken : Option (List Piece × List Char)) :
    Option (List Piece × List Char) :=
  taken.map fun (pieces, rest) => (piece :: pieces, rest)

/-- The pieces of a text up to its closing quote, halves not yet paired. -/
def textPieces : Within → Reader (List Piece)
  | _, [] => none
  | .plain, c :: rest =>
    if c = '"' then some ([], rest)
    else if c = '\\' then textPieces .escape rest
    else if c < ' ' then none
    else prepend (.char c) (textPieces .plain rest)
  | .escape, c :: rest =>
    if c = 'u' then textPieces (.code 4 0) rest
    else match escaped? c with
      | some meant => prepend (.char meant) (textPieces .plain rest)
      | none => none
  | .code missing value, c :: rest =>
    match hexDigit? c with
    | none => none
    | some digit =>
      let value := 16 * value + digit
      if missing ≤ 1 then prepend (.ofUnit value) (textPieces .plain rest)
      else textPieces (.code (missing - 1) value) rest

/-- Joins each leading half with the trailing half right behind it. -/
def pairHalves : List Piece → List Piece
  | [] => []
  | .char c :: rest => .char c :: pairHalves rest
  | .half lead :: rest =>
    match pairHalves rest with
    | .half trail :: others =>
      if lead < 0xDC00 ∧ 0xDC00 ≤ trail then
        .char (Char.ofNat (0x10000 + (lead - 0xD800) * 0x400 + (trail - 0xDC00))) :: others
      else .half lead :: .half trail :: others
    | others => .half lead :: others

/-- A text behind its opening quote. -/
def textContent : Reader (List Piece) := fun text =>
  (textPieces .plain text).map fun (pieces, rest) => (pairHalves pieces, rest)

/-! ## Numbers -/

/-- The characters that numbers are made of. -/
def isNumberChar (c : Char) : Bool :=
  c.isDigit || c == '-' || c == '+' || c == '.' || c == 'e' || c == 'E'

/-- Digits without a leading zero. -/
def isWhole (digits : List Char) : Bool :=
  match digits with
  | ['0'] => true
  | '0' :: _ => false
  | _ => !digits.isEmpty && digits.all Char.isDigit

/-- Digits, at least one. -/
def isDigits (digits : List Char) : Bool := !digits.isEmpty && digits.all Char.isDigit

/-- An exponent behind its letter. -/
def isExponent : List Char → Bool
  | '+' :: digits => isDigits digits
  | '-' :: digits => isDigits digits
  | digits => isDigits digits

/-- What may follow the whole part of a number. -/
def isFractional : List Char → Bool
  | '.' :: rest =>
    !(rest.takeWhile Char.isDigit).isEmpty &&
      match rest.dropWhile Char.isDigit with
      | [] => true
      | e :: power => (e == 'e' || e == 'E') && isExponent power
  | e :: power => (e == 'e' || e == 'E') && isExponent power
  | [] => true

/-- Whether a text is a number without a sign. -/
def isUnsigned (written : List Char) : Bool :=
  isWhole (written.takeWhile Char.isDigit) && isFractional (written.dropWhile Char.isDigit)

/-- The number that a text denotes. -/
def number? (written : List Char) : Option Value :=
  if isWhole written then some (.natural (Nat.ofDigitChars 10 written 0))
  else
    match written with
    | '-' :: rest => if isUnsigned rest then some (.numeral written) else none
    | _ => if isUnsigned written then some (.numeral written) else none

/-! ## Values -/

/-- The text behind a given word. -/
def exactly : List Char → List Char → Option (List Char)
  | [], text => some text
  | _ :: _, [] => none
  | w :: word, c :: text => if w = c then exactly word text else none

/-- The items of an array, behind its bracket or behind a comma. -/
def arrayItems (value : Reader Value) : Nat → Reader (List Value)
  | 0, _ => none
  | fuel + 1, text =>
    match value text with
    | none => none
    | some (item, rest) =>
      match skipSpace rest with
      | ']' :: rest => some ([item], rest)
      | ',' :: rest => (arrayItems value fuel rest).map fun (items, rest) => (item :: items, rest)
      | _ => none

/-- The members of an object, behind its brace or behind a comma. -/
def objectMembers (value : Reader Value) : Nat → Reader (List (List Piece × Value))
  | 0, _ => none
  | fuel + 1, text =>
    match skipSpace text with
    | '"' :: rest =>
      match textContent rest with
      | none => none
      | some (name, rest) =>
        match skipSpace rest with
        | ':' :: rest =>
          match value rest with
          | none => none
          | some (item, rest) =>
            match skipSpace rest with
            | '\x7d' :: rest => some ([(name, item)], rest)
            | ',' :: rest =>
              (objectMembers value fuel rest).map fun (members, rest) =>
                ((name, item) :: members, rest)
            | _ => none
        | _ => none
    | _ => none

/-- A value, perhaps behind white space, with arrays and objects nested up to a
depth. -/
def value (depth : Nat) : Reader Value := fun text =>
  match skipSpace text with
  | [] => none
  | '"' :: rest => (textContent rest).map fun (pieces, rest) => (.text pieces, rest)
  | 'n' :: rest => (exactly ['u', 'l', 'l'] rest).map fun rest => (.null, rest)
  | 't' :: rest => (exactly ['r', 'u', 'e'] rest).map fun rest => (.boolean true, rest)
  | 'f' :: rest => (exactly ['a', 'l', 's', 'e'] rest).map fun rest => (.boolean false, rest)
  | '[' :: rest =>
    match depth with
    | 0 => none
    | depth + 1 =>
      match skipSpace rest with
      | ']' :: rest => some (.array [], rest)
      | _ =>
        (arrayItems (value depth) (rest.length + 1) rest).map fun (items, rest) =>
          (.array items, rest)
  | '\x7b' :: rest =>
    match depth with
    | 0 => none
    | depth + 1 =>
      match skipSpace rest with
      | '\x7d' :: rest => some (.object [], rest)
      | _ =>
        (objectMembers (value depth) (rest.length + 1) rest).map fun (members, rest) =>
          (.object members, rest)
  | c :: rest =>
    let text := c :: rest
    (number? (text.takeWhile isNumberChar)).map fun number =>
      (number, text.dropWhile isNumberChar)

/-- The value that a whole text denotes. -/
def read (text : List Char) : Option Value :=
  match value text.length text with
  | some (value, rest) => if (skipSpace rest).isEmpty then some value else none
  | none => none

end KeywordSearch.Json
