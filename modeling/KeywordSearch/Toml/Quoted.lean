import KeywordSearch.Toml.Line

/-!
# Quoted text

Text between double quotes knows escapes, text between single quotes does not.
Three quotes open text that may run over several lines; up to two quotes may
stand in it, also right before the three that close it.
-/

set_option autoImplicit false

namespace KeywordSearch.Toml

/-! ## Escapes -/

/-- The character that a letter behind a backslash stands for. -/
def escaped? : Char → Option Char
  | 'b' => some '\u0008'
  | 't' => some '\t'
  | 'n' => some '\n'
  | 'f' => some '\u000C'
  | 'r' => some '\r'
  | '"' => some '"'
  | '\\' => some '\\'
  | _ => none

/-- The value of a hexadecimal digit. -/
def hexDigit? (c : Char) : Option Nat :=
  if '0' ≤ c ∧ c ≤ '9' then some (c.toNat - 48)
  else if 'a' ≤ c ∧ c ≤ 'f' then some (c.toNat - 87)
  else if 'A' ≤ c ∧ c ≤ 'F' then some (c.toNat - 55)
  else none

/-- The character with a given number, unless it is no scalar value. -/
def scalar? (n : Nat) : Option Char := if n.isValidChar then some (Char.ofNat n) else none

/-- Puts characters in front of what a reader takes. -/
def prepend (front : List Char) (taken : Option (List Char × List Char)) :
    Option (List Char × List Char) :=
  taken.map fun (content, rest) => (front ++ content, rest)

/-! ## Text on one line -/

/-- Text up to a single quote, taken as it stands. -/
def literalText : Reader (List Char)
  | [] => none
  | c :: rest =>
    if c = '\'' then some ([], rest)
    else if isPrintable c then prepend [c] (literalText rest)
    else none

/-- Where a reader stands within text that knows escapes: between characters,
behind a backslash, or among the digits of a character's number. -/
inductive Within where
  | plain
  | escape
  | code (missing value : Nat)

/-- Text up to a double quote, with its escapes resolved. -/
def basicText : Within → Reader (List Char)
  | _, [] => none
  | .plain, c :: rest =>
    if c = '"' then some ([], rest)
    else if c = '\\' then basicText .escape rest
    else if isPrintable c then prepend [c] (basicText .plain rest)
    else none
  | .escape, c :: rest =>
    if c = 'u' then basicText (.code 4 0) rest
    else if c = 'U' then basicText (.code 8 0) rest
    else match escaped? c with
      | some meant => prepend [meant] (basicText .plain rest)
      | none => none
  | .code missing value, c :: rest =>
    match hexDigit? c with
    | none => none
    | some digit =>
      let value := 16 * value + digit
      if missing ≤ 1 then
        match scalar? value with
        | some meant => prepend [meant] (basicText .plain rest)
        | none => none
      else basicText (.code (missing - 1) value) rest

/-! ## Text over several lines -/

/-- Where a reader stands within text over several lines: behind a number of
quotes that may turn out to close it, behind a line end that a backslash has
joined with what follows, behind a backslash, behind a backslash and blanks, or
among the digits of a character's number. -/
inductive Spot where
  | plain (quotes : Nat)
  | joined
  | escape
  | beforeLineEnd
  | code (missing value : Nat)

/-- Text up to three quotes, with line ends written as line feeds.  Escapes are
resolved where they are known. -/
def longText (quote : Char) (escapes : Bool) : Spot → Reader (List Char)
  | .plain quotes, [] =>
    if 3 ≤ quotes then some (List.replicate (quotes - 3) quote, []) else none
  | _, [] => none
  | .escape, c :: rest =>
    if isGap c then longText quote escapes .beforeLineEnd rest
    else if c = '\n' then longText quote escapes .joined rest
    else if c = '\r' ∧ rest.head? = some '\n' then longText quote escapes .joined rest
    else if c = 'u' then longText quote escapes (.code 4 0) rest
    else if c = 'U' then longText quote escapes (.code 8 0) rest
    else match escaped? c with
      | some meant => prepend [meant] (longText quote escapes (.plain 0) rest)
      | none => none
  | .beforeLineEnd, c :: rest =>
    if isGap c then longText quote escapes .beforeLineEnd rest
    else if c = '\n' then longText quote escapes .joined rest
    else if c = '\r' ∧ rest.head? = some '\n' then longText quote escapes .joined rest
    else none
  | .code missing value, c :: rest =>
    match hexDigit? c with
    | none => none
    | some digit =>
      let value := 16 * value + digit
      if missing ≤ 1 then
        match scalar? value with
        | some meant => prepend [meant] (longText quote escapes (.plain 0) rest)
        | none => none
      else longText quote escapes (.code (missing - 1) value) rest
  | .joined, c :: rest =>
    if isGap c || c == '\n' then longText quote escapes .joined rest
    else if c = '\r' then
      if rest.head? = some '\n' then longText quote escapes .joined rest else none
    else if c = quote then longText quote escapes (.plain 1) rest
    else if escapes ∧ c = '\\' then longText quote escapes .escape rest
    else if isPrintable c then prepend [c] (longText quote escapes (.plain 0) rest)
    else none
  | .plain quotes, c :: rest =>
    if c = quote then
      if quotes = 4 then some ([quote, quote], rest)
      else longText quote escapes (.plain (quotes + 1)) rest
    else if 3 ≤ quotes then some (List.replicate (quotes - 3) quote, c :: rest)
    else
      prepend (List.replicate quotes quote)
        (if c = '\n' then prepend [c] (longText quote escapes (.plain 0) rest)
        else if c = '\r' then
          if rest.head? = some '\n' then longText quote escapes (.plain 0) rest else none
        else if escapes ∧ c = '\\' then longText quote escapes .escape rest
        else if isPrintable c then prepend [c] (longText quote escapes (.plain 0) rest)
        else none)

/-- The text behind a line end that directly follows the opening quotes. -/
def trimFirstLine (text : List Char) : List Char := (newline? text).getD text

/-- A quoted text of any of the four kinds; nothing where no quote stands. -/
def quotedText : Reader (List Char)
  | '"' :: '"' :: '"' :: rest => longText '"' true (.plain 0) (trimFirstLine rest)
  | '\'' :: '\'' :: '\'' :: rest => longText '\'' false (.plain 0) (trimFirstLine rest)
  | '"' :: rest => basicText .plain rest
  | '\'' :: rest => literalText rest
  | _ => none

end KeywordSearch.Toml
