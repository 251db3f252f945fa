import KeywordSearch.Failure

/-!
# File trees

A tree of directories and files with the operations that configuration files
need.  A *place* in a tree is the list of names that lead to it from the root,
and every place lies in the tree at most once.  A *path* is how a place is
written: its parts are names, but also parts that stay where they are and parts
that go up, so that many paths lead to one place.

A path is followed part by part, and each part is taken from a directory.  This
decides how an operation fails on the way: beyond a place where nothing lies it is
not found, and beyond a file it is no directory.  No place at all has an empty path
or one with a NUL in it.

An operation that may change a tree answers with the tree that it leaves, whether it
fails or not.  A file is written in two steps: opening it makes it, or empties the one
that is there, and only then are the bytes put into it.
-/

set_option autoImplicit false

namespace KeywordSearch

/-- A file with its bytes, or a directory with its named members. -/
inductive FileTree where
  | file (bytes : ByteArray)
  | directory (members : List (String × FileTree))

/-- The names that lead from the root of a tree to a place in it. -/
abbrev FilePlace := List String

/-- The parts of a path, as slashes divide it.  A part may be empty. -/
abbrev FilePath := List String

namespace FilePath

/-- The parts of a written path. -/
def ofText (text : String) : FilePath := text.splitOn "/"

/-- A path as it is written. -/
def text (path : FilePath) : String := "/".intercalate path

/-- Whether a path ends in a slash, which asks for a directory. -/
def endsInSlash (path : FilePath) : Bool :=
  match path.getLast? with
  | some last => last.isEmpty
  | none => false

/-- What is wrong with a path before it is followed. -/
def fault? (path : FilePath) : Option FileFault :=
  if path.any fun part => part.toList.contains '\x00' then some .invalidName
  else if path = [] ∨ path = [""] then some .notFound
  else none

/-- A path without the slashes at its end. -/
def withoutEndSlashes (path : FilePath) : FilePath :=
  (path.reverse.dropWhile String.isEmpty).reverse

end FilePath

namespace FileTree

/-! ## Places -/

/-- The member of a directory with a given name. -/
def member? (members : List (String × FileTree)) (name : String) : Option FileTree :=
  match members with
  | [] => none
  | (other, tree) :: rest => if other = name then some tree else member? rest name

/-- Gives a name its member, in the stead of the one it had. -/
def setMember (members : List (String × FileTree)) (name : String) (tree : FileTree) :
    List (String × FileTree) :=
  match members with
  | [] => [(name, tree)]
  | (other, old) :: rest =>
    if other = name then (name, tree) :: rest else (other, old) :: setMember rest name tree

/-- What lies at a place. -/
def at? (place : FilePlace) (tree : FileTree) : Option FileTree :=
  match place, tree with
  | [], tree => some tree
  | _ :: _, file _ => none
  | name :: rest, directory members =>
    match member? members name with
    | none => none
    | some below => at? rest below

/-- Lays a tree at a place.  Directories that are missing on the way are made,
and nothing is laid beyond a file. -/
def lay (place : FilePlace) (tree new : FileTree) : FileTree :=
  match place, tree with
  | [], _ => new
  | _ :: _, file bytes => file bytes
  | name :: rest, directory members =>
    directory (setMember members name (lay rest ((member? members name).getD (directory [])) new))

/-! ## Paths -/

/-- Where a part of a path leads from a place: nowhere else when it is empty or
a dot, to the place above when it is two dots, and to the member of that name,
there or not, otherwise.  The root is above itself. -/
def follow (part : String) (place : FilePlace) (tree : FileTree) : Except FileFault FilePlace :=
  match tree.at? place with
  | none => .error .notFound
  | some (file _) => .error .notDirectory
  | some (directory _) =>
    if part = "" ∨ part = "." then .ok place
    else if part = ".." then .ok place.dropLast
    else .ok (place ++ [part])

/-- The place that a path leads to from another place, whether anything lies
there or not. -/
def resolveFrom (place : FilePlace) (path : FilePath) (tree : FileTree) :
    Except FileFault FilePlace :=
  match path with
  | [] => .ok place
  | part :: rest =>
    match tree.follow part place with
    | .ok next => resolveFrom next rest tree
    | .error fault => .error fault

/-- The place that a path leads to from the root. -/
def resolve (path : FilePath) (tree : FileTree) : Except FileFault FilePlace :=
  match path.fault? with
  | some fault => .error fault
  | none => tree.resolveFrom [] path

/-- The place that a path leads to from the root when the slashes at its end are
passed over. -/
def resolveTarget (path : FilePath) (tree : FileTree) : Except FileFault FilePlace :=
  match path.fault? with
  | some fault => .error fault
  | none => tree.resolveFrom [] path.withoutEndSlashes

/-- What lies where a path leads. -/
def find (path : FilePath) (tree : FileTree) : Except FileFault FileTree :=
  match tree.resolve path with
  | .error fault => .error fault
  | .ok place =>
    match tree.at? place with
    | none => .error .notFound
    | some found => .ok found

/-- Whether anything lies where a path leads. -/
def hasPath (path : FilePath) (tree : FileTree) : Bool :=
  match tree.find path with
  | .ok _ => true
  | .error _ => false

/-- Opens a file to be written, which is made if it is missing and emptied if it is
there.  A path that ends in a slash can only be the path of a directory. -/
def openEmpty (path : FilePath) (tree : FileTree) : Except FileFault FilePlace × FileTree :=
  match tree.resolveTarget path with
  | .error fault => (.error fault, tree)
  | .ok place =>
    match path.endsInSlash, tree.at? place with
    | true, _ => (.error .isDirectory, tree)
    | false, some (directory _) => (.error .isDirectory, tree)
    | false, _ => (.ok place, tree.lay place (file ByteArray.empty))

/-- Writes a file: opens it and puts the bytes into it. -/
def write (path : FilePath) (bytes : ByteArray) (tree : FileTree) :
    Except FileFault Unit × FileTree :=
  match tree.openEmpty path with
  | (.error fault, after) => (.error fault, after)
  | (.ok place, opened) => (.ok (), opened.lay place (file bytes))

/-- Makes an empty directory where nothing lies yet. -/
def makeDirectory (path : FilePath) (tree : FileTree) : Except FileFault Unit × FileTree :=
  match tree.resolveTarget path with
  | .error fault => (.error fault, tree)
  | .ok place =>
    match tree.at? place with
    | some _ => (.error (.other "File exists (os error 17)"), tree)
    | none => (.ok (), tree.lay place (directory []))

/-- The text of a file. -/
def readText (path : FilePath) (tree : FileTree) : Except FileFault String :=
  match tree.find path with
  | .error fault => .error fault
  | .ok (directory _) => .error .isDirectory
  | .ok (file bytes) =>
    match String.fromUTF8? bytes with
    | some text => .ok text
    | none => .error .invalidText

end FileTree

end KeywordSearch
