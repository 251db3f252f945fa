import KeywordSearch.Unicode.Composition
import KeywordSearch.Unicode.Letter
import KeywordSearch.Unicode.Lowercase
import KeywordSearch.Unicode.WhiteSpace

/-!
# Tokens

A token is the canonical form of a keyword or of a term of a query: the
letters of its compatibility-composed lower case, followed by one wildcard
marker if a marker is what the text ends with.  Keywords are indexed under
their tokens and queries are looked up by theirs, so two texts with one token
are the same keyword.
-/

set_option autoImplicit false

namespace KeywordSearch

open Unicode

/-- A token is the path of characters that it names in the index. -/
abbrev Token := List Char

/-- The marker that a token may end with. -/
def wildcard : Char := '*'

namespace Token

/-- The characters that count towards a token. -/
def isKept (c : Char) : Bool := isLetter c || c == wildcard

/-- Drops all wildcard markers and puts one back at the end if there was one. -/
def gatherWildcard (kept : List Char) : Token :=
  let bare := kept.filter (· != wildcard)
  if kept.getLast? = some wildcard then bare ++ [wildcard] else bare

/-- The token of a text; a blank text has the empty token. -/
def ofText (text : List Char) : Token :=
  if isBlank text then [] else gatherWildcard ((lowercase (nfkc text)).filter isKept)

/-- A token can be indexed and looked up unless it is blank. -/
def isValid (token : Token) : Bool := !isBlank token

/-- The valid tokens of the words of a query, in order. -/
def ofQuery (query : List Char) : List Token :=
  ((words query).map ofText).filter isValid

/-- The valid tokens of a list of keywords, in order. -/
def ofKeywords (keywords : List String) : List Token :=
  (keywords.map fun keyword => ofText keyword.toList).filter isValid

end Token

end KeywordSearch
