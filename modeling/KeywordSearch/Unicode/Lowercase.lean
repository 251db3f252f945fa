import KeywordSearch.Unicode.Case

/-!
# The lower case of a text

A text is lowered character by character, with one character that looks at its
surroundings: the capital sigma becomes the final sigma at the end of a word,
which is where a cased character stands before it and none behind it once the
case-ignorable characters on both sides are passed over.  This is the lower case
that Unicode 17.0 gives a text in no particular language.
-/

set_option autoImplicit false

namespace KeywordSearch.Unicode

/-- Whether the first character that is not case-ignorable is cased. -/
def leadsWithCased (text : List Char) : Bool :=
  match text.dropWhile isCaseIgnorable with
  | c :: _ => isCased c
  | [] => false

/-- Whether a sigma between `before`, given in reverse, and `behind` ends a word. -/
def isWordEnd (before behind : List Char) : Bool :=
  leadsWithCased before && !leadsWithCased behind

/-- Lowers a text that follows the characters of `before`, given in reverse. -/
def lowercaseFrom (before : List Char) : List Char → List Char
  | [] => []
  | c :: rest =>
    let lowered :=
      if c = '\u03A3' then (if isWordEnd before rest then ['\u03C2'] else ['\u03C3'])
      else lowercaseChar c
    lowered ++ lowercaseFrom (c :: before) rest

/-- The lower case of a text. -/
def lowercase (text : List Char) : List Char := lowercaseFrom [] text

end KeywordSearch.Unicode
