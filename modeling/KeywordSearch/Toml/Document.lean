import KeywordSearch.Toml.Moment
import KeywordSearch.Toml.Node
import KeywordSearch.Toml.Number
import KeywordSearch.Toml.Quoted

/-!
# Reading a document

A document is a list of lines, each blank, a comment, a header or an assignment
of a value to a key; arrays and long texts spread a line over several.  Reading
takes two steps: the text is taken apart into statements (`statements`), and the
statements, one after another, make the tree (`build`).  A text that is no
document, because of its form or because a key is defined twice, has no tree.
-/

set_option autoImplicit false

namespace KeywordSearch.Toml

/-! ## Keys -/

/-- A character of a key that stands without quotes. -/
def isBareKeyChar (c : Char) : Bool := c.isAlphanum || c == '_' || c == '-'

/-- One key, bare or quoted. -/
def simpleKey : Reader Key
  | '"' :: rest => basicText .plain rest
  | '\'' :: rest => literalText rest
  | text =>
    match text.takeWhile isBareKeyChar with
    | [] => none
    | key => some (key, text.dropWhile isBareKeyChar)

/-- How deep values may be nested, and how many keys a path may have. -/
def deepest : Nat := 79

/-- Up to a number of keys with dots between them and blanks around them. -/
def dottedKeys : Nat → Reader Path
  | 0, _ => none
  | most + 1, text =>
    match simpleKey (skipGaps text) with
    | none => none
    | some (key, rest) =>
      match skipGaps rest with
      | '.' :: rest =>
        (dottedKeys most rest).map fun (path, rest) => (⟨key :: path.parents, path.key⟩, rest)
      | rest => some (⟨[], key⟩, rest)

/-- A path of keys, with the blanks around it. -/
def path : Reader Path := dottedKeys deepest

/-! ## Values -/

/-- A character of a value that stands without quotes or brackets. -/
def isWordChar (c : Char) : Bool :=
  c.isAlphanum || c == '_' || c == '-' || c == '+' || c == '.' || c == ':'

/-- The value that a word denotes. -/
def wordValue (word : List Char) : Option Node :=
  if word = ['t', 'r', 'u', 'e'] then some (.boolean true)
  else if word = ['f', 'a', 'l', 's', 'e'] then some (.boolean false)
  else match integer? word with
    | some n => some (.integer n)
    | none =>
      if isFloat word then some (.float word)
      else if isMoment word then some (.moment word)
      else none

/-- A value without quotes or brackets: one word, or a date with a time behind
one space. -/
def bareValue (text : List Char) : Option (Node × List Char) :=
  let word := text.takeWhile isWordChar
  let rest := text.dropWhile isWordChar
  match rest with
  | ' ' :: c :: more =>
    if c.isDigit ∧ date? word = some [] then
      let time := (c :: more).takeWhile isWordChar
      (wordValue (word ++ ' ' :: time)).map fun node => (node, (c :: more).dropWhile isWordChar)
    else (wordValue word).map fun node => (node, rest)
  | _ => (wordValue word).map fun node => (node, rest)

/-- The items of an array, behind its bracket or behind a comma. -/
def arrayItems (value : Reader Node) : Nat → Reader (List Node)
  | 0, _ => none
  | fuel + 1, text =>
    match skipLines text.length text with
    | ']' :: rest => some ([], rest)
    | text =>
      match value text with
      | none => none
      | some (item, rest) =>
        match skipLines rest.length rest with
        | ']' :: rest => some ([item], rest)
        | ',' :: rest => (arrayItems value fuel rest).map fun (items, rest) => (item :: items, rest)
        | _ => none

/-- The members of a table in braces, behind the brace or behind a comma. -/
def braceMembers (value : Reader Node) : Nat → Members → Reader Members
  | 0, _, _ => none
  | fuel + 1, members, text =>
    match path text with
    | none => none
    | some (path, rest) =>
      match rest with
      | '=' :: rest =>
        match value (skipGaps rest) with
        | none => none
        | some (node, rest) =>
          match assign path.parents path.key node members with
          | none => none
          | some members =>
            match skipGaps rest with
            | '\x7d' :: rest => some (members, rest)
            | ',' :: rest => braceMembers value fuel members rest
            | _ => none
      | _ => none

/-- A value in which arrays and tables in braces are nested up to a depth. -/
def value : Nat → Reader Node
  | _, [] => none
  | depth, c :: rest =>
    if c = '"' ∨ c = '\'' then
      (quotedText (c :: rest)).map fun (content, rest) => (.text content, rest)
    else if c = '[' then
      match depth with
      | 0 => none
      | depth + 1 =>
        (arrayItems (value depth) (rest.length + 1) rest).map fun (items, rest) =>
          (.array items, rest)
    else if c = '\x7b' then
      match depth with
      | 0 => none
      | depth + 1 =>
        match skipGaps rest with
        | '\x7d' :: rest => some (.table .braces [], rest)
        | _ =>
          (braceMembers (value depth) (rest.length + 1) [] rest).map fun (members, rest) =>
            (.table .braces members, rest)
    else bareValue (c :: rest)

/-! ## Statements -/

/-- What a line of a document says. -/
inductive Statement where
  | blank
  | assign (path : Path) (node : Node)
  | header (path : Path)
  | element (path : Path)

/-- The statement of a line that does not begin with a blank. -/
def statement : Reader Statement
  | [] => some (.blank, [])
  | '#' :: rest => some (.blank, '#' :: rest)
  | '\n' :: rest => some (.blank, '\n' :: rest)
  | '\r' :: rest => some (.blank, '\r' :: rest)
  | '[' :: '[' :: rest =>
    match path rest with
    | some (path, ']' :: ']' :: rest) => some (.element path, rest)
    | _ => none
  | '[' :: rest =>
    match path rest with
    | some (path, ']' :: rest) => some (.header path, rest)
    | _ => none
  | text =>
    match path text with
    | some (path, '=' :: rest) =>
      (value deepest (skipGaps rest)).map fun (node, rest) => (.assign path node, rest)
    | _ => none

/-- The statements of a document. -/
def statements : Nat → List Char → Option (List Statement)
  | 0, _ => none
  | fuel + 1, text =>
    match skipGaps text with
    | [] => some []
    | text =>
      match statement text with
      | none => none
      | some (said, rest) =>
        match endLine rest with
        | none => none
        | some rest => (statements fuel rest).map (said :: ·)

/-! ## The tree -/

/-- Adds what statements say to a document, below the header that stands last. -/
def build (here : List Key) (members : Members) : List Statement → Option Members
  | [] => some members
  | .blank :: rest => build here members rest
  | .assign path node :: rest =>
    match within here (assign path.parents path.key node) members with
    | some members => build here members rest
    | none => none
  | .header path :: rest =>
    match within path.parents (openTable path.key) members with
    | some members => build (path.parents ++ [path.key]) members rest
    | none => none
  | .element path :: rest =>
    match within path.parents (openElement path.key) members with
    | some members => build (path.parents ++ [path.key]) members rest
    | none => none

/-- The text without the mark that may tell its byte order. -/
def skipByteOrderMark : List Char → List Char
  | '\uFEFF' :: rest => rest
  | text => text

/-- The tree of a document. -/
def parse (text : List Char) : Option Members :=
  match statements (text.length + 1) (skipByteOrderMark text) with
  | some said => build [] [] said
  | none => none

end KeywordSearch.Toml
