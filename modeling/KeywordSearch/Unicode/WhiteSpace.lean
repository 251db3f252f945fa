/-!
# White space

The twenty-five characters with the property `White_Space` in Unicode 17.0, and
what text processing makes of them: a text is blank when it holds nothing else,
and a text is divided into words at every white-space character.
-/

set_option autoImplicit false

namespace KeywordSearch.Unicode

/-- Every character with the property `White_Space`. -/
def whiteSpaces : List Char := [
  '\t', '\n', '\u000B', '\u000C', '\r', ' ', '\u0085', '\u00A0', '\u1680',
  '\u2000', '\u2001', '\u2002', '\u2003', '\u2004', '\u2005', '\u2006', '\u2007', '\u2008',
  '\u2009', '\u200A', '\u2028', '\u2029', '\u202F', '\u205F', '\u3000']

/-- Whether a character is white space. -/
def isWhiteSpace (c : Char) : Bool := whiteSpaces.contains c

/-- A text is blank when all of it is white space. -/
def isBlank (text : List Char) : Bool := text.all isWhiteSpace

/-- The words of a text whose first word continues `word`, which is held in
reverse. -/
def wordsFrom (word : List Char) : List Char → List (List Char)
  | [] => if word.isEmpty then [] else [word.reverse]
  | c :: rest =>
    if isWhiteSpace c then
      if word.isEmpty then wordsFrom [] rest else word.reverse :: wordsFrom [] rest
    else wordsFrom (c :: word) rest

/-- The maximal stretches of a text that hold no white space, in order. -/
def words (text : List Char) : List (List Char) := wordsFrom [] text

end KeywordSearch.Unicode
