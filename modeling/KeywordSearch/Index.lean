import KeywordSearch.Trie.View

/-!
# The keyword index

The index says which entries are found under which tokens: it is the point at
which all tokens start, its root, with the trie below it.  The branches of the
trie are always in order, so an index is determined by what it holds at each path
and at its root, and does not remember in which order it was built.  The root is
no path, and no operation gives it an id or takes one away.
-/

set_option autoImplicit false

namespace KeywordSearch

/-- The root of a trie of tokens whose branches are in order. -/
structure Index where
  root : Trie.Node
  ordered : root.below.Ordered

namespace Index

instance : DecidableEq Index
  | ⟨left, _⟩, ⟨right, _⟩ =>
    if same : left = right then .isTrue (by subst same; rfl)
    else .isFalse fun equal => same (congrArg root equal)

/-- The index that holds nothing. -/
def empty : Index := ⟨⟨Roster.empty, .empty⟩, trivial⟩

/-- What the index holds at a path, if it has that path. -/
def at? (index : Index) (path : List Char) : Option IdSet := index.root.below.at? path

/-- Indexes that hold the same at the root and at every path are the same index. -/
theorem ext {left right : Index} (roots : left.root.ids = right.root.ids)
    (same : ∀ path, left.at? path = right.at? path) : left = right := by
  obtain ⟨⟨leftIds, left⟩, leftOrdered⟩ := left
  obtain ⟨⟨rightIds, right⟩, rightOrdered⟩ := right
  have ids : leftIds = rightIds := roots
  have tries : left = right := leftOrdered.ext rightOrdered same
  subst ids tries
  rfl

/-- Holds an id at every nonempty initial part of a token. -/
def insert (index : Index) (token : Token) (id : EntryId) : Index :=
  ⟨{ index.root with below := index.root.below.insert id token },
    index.ordered.insert id token⟩

/-- Holds an id no longer at the initial parts of a token, as far as the index
has them.  The paths stay. -/
def remove (index : Index) (token : Token) (id : EntryId) : Index :=
  ⟨{ index.root with below := index.root.below.remove id token },
    index.ordered.remove id token⟩

/-- Forgets the paths on which no id is held any more.  The root stays, orphan
or not. -/
def prune (index : Index) : Index :=
  ⟨{ index.root with below := index.root.below.prune }, index.ordered.prune⟩

/-- The ids found under a token. -/
def search (index : Index) (token : Token) : IdSet := index.root.below.search token

/-- Whether the index holds nothing at all. -/
def isEmpty (index : Index) : Bool := index.root.isOrphaned

/-- The number of points in the index, the root among them. -/
def nodeCount (index : Index) : Nat := index.root.below.size + 1

/-- Inserts one id under several tokens. -/
def insertAll (index : Index) (tokens : List Token) (id : EntryId) : Index :=
  tokens.foldl (fun grown token => grown.insert token id) index

/-- Removes one id under several tokens. -/
def removeAll (index : Index) (tokens : List Token) (id : EntryId) : Index :=
  tokens.foldl (fun shrunk token => shrunk.remove token id) index

/-! ## The ids of the root -/

section Root

variable (index : Index) (tokens : List Token) (id : EntryId)

@[simp] theorem root_ids_prune : index.prune.root.ids = index.root.ids := rfl

@[simp] theorem root_ids_insertAll :
    (index.insertAll tokens id).root.ids = index.root.ids := by
  induction tokens generalizing index with
  | nil => rfl
  | cons token tokens ih => exact ih (index.insert token id)

@[simp] theorem root_ids_removeAll :
    (index.removeAll tokens id).root.ids = index.root.ids := by
  induction tokens generalizing index with
  | nil => rfl
  | cons token tokens ih => exact ih (index.remove token id)

end Root

end Index

end KeywordSearch
