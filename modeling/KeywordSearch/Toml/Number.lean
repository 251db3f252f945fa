/-!
# Numbers

Integers are written in decimal with an optional sign and no leading zeros, or
without a sign in base 16, 8 or 2 behind `0x`, `0o` or `0b`; single underscores
may stand between digits.  They have to fit 64 bits with a sign.  Floating-point
numbers have a fraction, an exponent or both, or are `inf` or `nan`; their value
is not needed here, but one that is too large for 64 bits is refused.
-/

set_option autoImplicit false

namespace KeywordSearch.Toml

/-! ## Digits -/

/-- The digits of a text of digits with single underscores between them. -/
def ungroup (isDigit : Char → Bool) : List Char → Option (List Char)
  | [] => none
  | [c] => if isDigit c then some [c] else none
  | c :: d :: rest =>
    if isDigit c then
      match (if d = '_' then ungroup isDigit rest else ungroup isDigit (d :: rest)) with
      | some digits => some (c :: digits)
      | none => none
    else none

/-- The value of a digit in any base up to 16. -/
def digitValue (c : Char) : Nat :=
  if c.isDigit then c.toNat - 48
  else if 'a' ≤ c ∧ c ≤ 'f' then c.toNat - 87
  else c.toNat - 55

/-- The value of digits in a base. -/
def valueOf (base : Nat) (digits : List Char) : Nat :=
  digits.foldl (fun value c => value * base + digitValue c) 0

/-- The digits of a decimal whole number, which has no leading zero. -/
def wholeDigits (text : List Char) : Option (List Char) :=
  match ungroup Char.isDigit text with
  | some ['0'] => some ['0']
  | some ('0' :: _) => none
  | digits => digits

/-- The text without a leading sign, and whether that sign was a minus. -/
def splitSign : List Char → Bool × List Char
  | '-' :: rest => (true, rest)
  | '+' :: rest => (false, rest)
  | text => (false, text)

/-! ## Integers -/

/-- The least integer of a document, -2⁶³. -/
def leastInteger : Int := -9223372036854775808

/-- The greatest integer of a document, 2⁶³ - 1. -/
def greatestInteger : Int := 9223372036854775807

/-- The number itself if it fits 64 bits with a sign. -/
def fitting (n : Int) : Option Int :=
  if leastInteger ≤ n ∧ n ≤ greatestInteger then some n else none

/-- A whole number with an optional sign. -/
def decimal? (text : List Char) : Option Int :=
  let (negative, whole) := splitSign text
  match wholeDigits whole with
  | some digits =>
    let n : Int := valueOf 10 digits
    fitting (if negative then -n else n)
  | none => none

/-- Digits of another base. -/
def based? (isDigit : Char → Bool) (base : Nat) (text : List Char) : Option Int :=
  match ungroup isDigit text with
  | some digits => fitting (valueOf base digits)
  | none => none

/-- A hexadecimal digit. -/
def isHexDigit (c : Char) : Bool :=
  c.isDigit || ('a' ≤ c && c ≤ 'f') || ('A' ≤ c && c ≤ 'F')

/-- An octal digit. -/
def isOctalDigit (c : Char) : Bool := '0' ≤ c && c ≤ '7'

/-- A binary digit. -/
def isBinaryDigit (c : Char) : Bool := c == '0' || c == '1'

/-- An integer in any of its forms. -/
def integer? : List Char → Option Int
  | '0' :: 'x' :: rest => based? isHexDigit 16 rest
  | '0' :: 'o' :: rest => based? isOctalDigit 8 rest
  | '0' :: 'b' :: rest => based? isBinaryDigit 2 rest
  | text => decimal? text

/-! ## Floating-point numbers -/

/-- Whether `digits · 10 ^ exponent` is nearer to the first power of two beyond
the range of 64-bit floating-point numbers than to the largest of them, or
half-way between. -/
def overflows (digits : List Char) (exponent : Int) : Bool :=
  let significant := digits.dropWhile (· == '0')
  let magnitude := exponent + significant.length
  if significant.isEmpty ∨ magnitude ≤ 300 then false
  else if 400 ≤ magnitude then true
  else
    let limit := Nat.pow 2 1024 - Nat.pow 2 970
    if 0 ≤ exponent then limit ≤ valueOf 10 significant * Nat.pow 10 exponent.toNat
    else limit * Nat.pow 10 (-exponent).toNat ≤ valueOf 10 significant

/-- The exponent behind its letter. -/
def exponent? (text : List Char) : Option Int :=
  let (negative, power) := splitSign text
  match ungroup Char.isDigit power with
  | some digits =>
    let n : Int := valueOf 10 digits
    some (if negative then -n else n)
  | none => none

/-- A digit, or an underscore between digits. -/
def isDigitOrGroup (c : Char) : Bool := c.isDigit || c == '_'

/-- The digits of a floating-point number without its sign and the power of ten
that they are multiplied with. -/
def scientific? (text : List Char) : Option (List Char × Int) := do
  let whole ← wholeDigits (text.takeWhile isDigitOrGroup)
  match text.dropWhile isDigitOrGroup with
  | '.' :: rest =>
    let fraction ← ungroup Char.isDigit (rest.takeWhile isDigitOrGroup)
    let shift : Int := fraction.length
    match rest.dropWhile isDigitOrGroup with
    | [] => some (whole ++ fraction, -shift)
    | e :: power =>
      if e = 'e' ∨ e = 'E' then some (whole ++ fraction, (← exponent? power) - shift) else none
  | e :: power => if e = 'e' ∨ e = 'E' then some (whole, ← exponent? power) else none
  | [] => none

/-- Whether a text is a floating-point number. -/
def isFloat (text : List Char) : Bool :=
  let (negative, size) := splitSign text
  if size = ['i', 'n', 'f'] ∨ size = ['n', 'a', 'n'] then true
  else match scientific? size with
    | some (digits, exponent) => negative || !overflows digits exponent
    | none => false

end KeywordSearch.Toml
