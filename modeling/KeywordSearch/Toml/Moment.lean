import KeywordSearch.Toml.Line

/-!
# Dates and times

A moment is a date, a time of day, or a date and a time joined by a `T` or one
space, in which case it may end with its distance from universal time.  Dates
follow the calendar; a minute may have a leap second.
-/

set_option autoImplicit false

namespace KeywordSearch.Toml

/-- The text behind two digits whose number lies within bounds. -/
def pair? (least most : Nat) : Reader Nat
  | c :: d :: rest =>
    if c.isDigit ∧ d.isDigit then
      let n := 10 * (c.toNat - 48) + (d.toNat - 48)
      if least ≤ n ∧ n ≤ most then some (n, rest) else none
    else none
  | _ => none

/-- The text behind one given character. -/
def exactly (wanted : Char) : List Char → Option (List Char)
  | c :: rest => if c = wanted then some rest else none
  | [] => none

/-- How many days a month has. -/
def daysIn (year month : Nat) : Nat :=
  if month = 2 then
    if year % 4 = 0 ∧ (year % 100 ≠ 0 ∨ year % 400 = 0) then 29 else 28
  else if month = 4 ∨ month = 6 ∨ month = 9 ∨ month = 11 then 30
  else 31

/-- The text behind a date. -/
def date? (text : List Char) : Option (List Char) := do
  let (century, rest) ← pair? 0 99 text
  let (years, rest) ← pair? 0 99 rest
  let (month, rest) ← pair? 1 12 (← exactly '-' rest)
  let (_, rest) ← pair? 1 (daysIn (100 * century + years) month) (← exactly '-' rest)
  some rest

/-- The text behind a time of day. -/
def time? (text : List Char) : Option (List Char) := do
  let (_, rest) ← pair? 0 23 text
  let (_, rest) ← pair? 0 59 (← exactly ':' rest)
  let (_, rest) ← pair? 0 60 (← exactly ':' rest)
  match rest with
  | '.' :: d :: fraction => if d.isDigit then some (fraction.dropWhile Char.isDigit) else none
  | '.' :: [] => none
  | _ => some rest

/-- Whether a text is the distance of a time from universal time. -/
def isOffset (text : List Char) : Bool :=
  match text with
  | ['Z'] | ['z'] => true
  | sign :: rest =>
    (sign == '+' || sign == '-') &&
      match (do
        let (_, rest) ← pair? 0 23 rest
        pair? 0 59 (← exactly ':' rest) : Option (Nat × List Char)) with
      | some (_, []) => true
      | _ => false
  | [] => false

/-- Whether a text is a moment. -/
def isMoment (text : List Char) : Bool :=
  match date? text with
  | some [] => true
  | some (c :: rest) =>
    (c == 'T' || c == 't' || c == ' ') &&
      match time? rest with
      | some [] => true
      | some offset => isOffset offset
      | none => false
  | none => time? text == some []

end KeywordSearch.Toml
