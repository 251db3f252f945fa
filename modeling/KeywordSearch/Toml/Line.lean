/-!
# Blanks, comments and line ends

What may stand between the parts of a document.  Blanks are spaces and tabs.  A
comment runs from a number sign to the end of its line and holds no control
character but the tab.  A line ends with a line feed, perhaps behind a carriage
return, or with the document.
-/

set_option autoImplicit false

namespace KeywordSearch.Toml

/-- A reader takes something off the front of a text, or finds it malformed. -/
abbrev Reader (α : Type) := List Char → Option (α × List Char)

/-- A space or a tab. -/
def isGap (c : Char) : Bool := c == ' ' || c == '\t'

/-- A character that is neither a control character nor a line end, or a tab. -/
def isPrintable (c : Char) : Bool := c == '\t' || (' ' ≤ c && c != '\u007F')

/-- The text behind any blanks. -/
def skipGaps (text : List Char) : List Char := text.dropWhile isGap

/-- The text behind a line feed, with or without a carriage return before it. -/
def newline? : List Char → Option (List Char)
  | '\n' :: rest => some rest
  | '\r' :: '\n' :: rest => some rest
  | _ => none

/-- The text behind a comment, which stops before the end of the line. -/
def skipComment : List Char → List Char
  | '#' :: rest => rest.dropWhile isPrintable
  | text => text

/-- The text behind the end of a line, which may hold blanks and a comment. -/
def endLine (text : List Char) : Option (List Char) :=
  match skipComment (skipGaps text) with
  | [] => some []
  | rest => newline? rest

/-- The text behind any blanks, comments and line ends. -/
def skipLines : Nat → List Char → List Char
  | 0, text => text
  | fuel + 1, text =>
    let rest := skipComment (skipGaps text)
    match newline? rest with
    | some next => skipLines fuel next
    | none => rest

end KeywordSearch.Toml
