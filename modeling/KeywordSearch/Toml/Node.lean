/-!
# The tree of a document

A document is a table, whose members are values, tables and arrays of tables.
A table remembers what brought it about, because that decides who may still add
to it:

* a header of its own, which may appear once;
* the header of a table below it, which leaves room for its own;
* a dotted key, after which only further dotted keys add to it directly;
* braces, which nothing adds to.

A key is defined at most once.  A header leads through tables that were not
written in braces and, in an array of tables, through the newest one.
-/

set_option autoImplicit false

namespace KeywordSearch.Toml

/-- A name within a table. -/
abbrev Key := List Char

/-- What brought a table about. -/
inductive Origin where
  | header
  | subheader
  | dottedKey
  | braces
  deriving DecidableEq, Repr

/-- A value, a table or an array of tables.  Floating-point numbers and moments
are kept as they are written; of an array of tables the newest comes first. -/
inductive Node where
  | text (content : List Char)
  | boolean (value : Bool)
  | integer (value : Int)
  | float (written : List Char)
  | moment (written : List Char)
  | array (items : List Node)
  | table (origin : Origin) (members : List (Key × Node))
  | tables (newest : List (Key × Node)) (older : List (List (Key × Node)))

/-- The members of a table. -/
abbrev Members := List (Key × Node)

namespace Members

/-- The member of a given name. -/
def find? (members : Members) (key : Key) : Option Node :=
  match members with
  | [] => none
  | (name, node) :: rest => if name = key then some node else find? rest key

/-- Gives a name its member, in the stead of the one it had. -/
def set (members : Members) (key : Key) (node : Node) : Members :=
  match members with
  | [] => [(key, node)]
  | (name, old) :: rest =>
    if name = key then (key, node) :: rest else (name, old) :: set rest key node

/-- Adds a member whose name is free. -/
def define (members : Members) (key : Key) (node : Node) : Option Members :=
  match members.find? key with
  | some _ => none
  | none => some (members.set key node)

end Members

/-- A key with the tables that lead to it. -/
structure Path where
  parents : List Key
  key : Key
  deriving DecidableEq, Repr

/-- A dotted key reaches a table through dotted keys: a table that it adds to
directly has to be a dotted one, and one that it passes must not have a header
of its own.  It passes the newest table of an array. -/
def assign (path : List Key) (key : Key) (node : Node) (members : Members) : Option Members :=
  match path with
  | [] => members.define key node
  | first :: rest =>
    match members.find? first with
    | none => (assign rest key node []).map fun below => members.set first (.table .dottedKey below)
    | some (.table .dottedKey below) =>
      (assign rest key node below).map fun below => members.set first (.table .dottedKey below)
    | some (.table .subheader below) =>
      if rest.isEmpty then none
      else (assign rest key node below).map fun below => members.set first (.table .subheader below)
    | some (.tables newest older) =>
      if rest.isEmpty then none
      else (assign rest key node newest).map fun newest => members.set first (.tables newest older)
    | some _ => none

/-- Changes the table that a header leads to, making the tables on the way that
are missing. -/
def within (path : List Key) (change : Members → Option Members) (members : Members) :
    Option Members :=
  match path with
  | [] => change members
  | first :: rest =>
    match members.find? first with
    | none => (within rest change []).map fun below => members.set first (.table .subheader below)
    | some (.table .braces _) => none
    | some (.table origin below) =>
      (within rest change below).map fun below => members.set first (.table origin below)
    | some (.tables newest older) =>
      (within rest change newest).map fun newest => members.set first (.tables newest older)
    | some _ => none

/-- Opens a table under its own header. -/
def openTable (key : Key) (members : Members) : Option Members :=
  match members.find? key with
  | none => some (members.set key (.table .header []))
  | some (.table .subheader below) => some (members.set key (.table .header below))
  | some _ => none

/-- Opens a new table of an array of tables. -/
def openElement (key : Key) (members : Members) : Option Members :=
  match members.find? key with
  | none => some (members.set key (.tables [] []))
  | some (.tables newest older) => some (members.set key (.tables [] (newest :: older)))
  | some _ => none

end KeywordSearch.Toml
