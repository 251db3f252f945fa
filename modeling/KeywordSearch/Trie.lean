import KeywordSearch.Roster
import KeywordSearch.Token

/-!
# Tries of keyword tokens

A trie spells tokens along its branches and holds, at every branch, the ids of
the entries that have a token leading through it.  It is written as the list of
branches that leave one point, each with the trie below it; the branches beside
each other ascend by their characters (`Ordered`).  The point at which a trie
begins, be it the root or the end of a branch, is a `Node` of its own: the ids
it holds, and the trie below it.

The view of a trie is what stands at each path (`at?`): nothing where there is
no branch, and the ids held there otherwise.
-/

set_option autoImplicit false

namespace KeywordSearch

/-- The branches that leave a point: none, or one with the ids it holds, the
trie below it, and the branches beside it. -/
inductive Trie where
  | empty
  | branch (char : Char) (ids : IdSet) (below beside : Trie)
  deriving DecidableEq

namespace Trie

/-! ## Operations -/

/-- A point: the ids it holds, and the branches that leave it. -/
structure Node where
  ids : IdSet
  below : Trie
  deriving DecidableEq

/-- The point to which the branch for a character leads. -/
def child? : Trie → Char → Option Node
  | empty, _ => none
  | branch char ids below beside, c => if c = char then some ⟨ids, below⟩ else child? beside c

/-- The ids held at the end of a path, if the trie has that path. -/
def at? : Trie → List Char → Option IdSet
  | _, [] => none
  | trie, c :: rest =>
    match trie.child? c with
    | none => none
    | some node => if rest.isEmpty then some node.ids else at? node.below rest

/-- A trie with one path, each branch of which holds one id. -/
def path (id : EntryId) : Token → Trie
  | [] => empty
  | c :: rest => branch c (Roster.empty.insert id) (path id rest) empty

/-- Adds an id at every branch along a token, growing the branches that are
missing. -/
def insert (id : EntryId) : Trie → Token → Trie
  | trie, [] => trie
  | empty, token => path id token
  | branch char ids below beside, c :: rest =>
    if c = char then branch char (ids.insert id) (insert id below rest) beside
    else if c < char then
      branch c (Roster.empty.insert id) (path id rest) (branch char ids below beside)
    else branch char ids below (insert id beside (c :: rest))

/-- Takes an id away from every branch along a token, as far as there are
branches.  No branch is taken away. -/
def remove (id : EntryId) : Trie → Token → Trie
  | trie, [] => trie
  | empty, _ => empty
  | branch char ids below beside, c :: rest =>
    if c = char then branch char (ids.erase id) (remove id below rest) beside
    else branch char ids below (remove id beside (c :: rest))

/-- Whether no branch leaves this point. -/
def isEmpty : Trie → Bool
  | empty => true
  | branch .. => false

/-- A point that holds no id and that no branch leaves. -/
def Node.isOrphaned (node : Node) : Bool := node.ids.isEmpty && node.below.isEmpty

/-- Puts a branch beside others, unless it leads to an orphan. -/
def regrow (char : Char) (ids : IdSet) (below beside : Trie) : Trie :=
  if (Node.mk ids below).isOrphaned then beside else branch char ids below beside

/-- Takes away every branch that leads to an orphan, the deepest first. -/
def prune : Trie → Trie
  | empty => empty
  | branch char ids below beside => regrow char ids (prune below) (prune beside)

/-- How many branches a trie has. -/
def size : Trie → Nat
  | empty => 0
  | branch _ _ below beside => 1 + below.size + beside.size

/-- The ids under the wildcard that leaves this point. -/
def wildcardIds (trie : Trie) : IdSet :=
  match trie.child? wildcard with
  | some node => node.ids
  | none => Roster.empty

/-- The ids at a token.  Where the token leads off the trie, the ids under the
wildcard of the last point that it reaches. -/
def search : Trie → Token → IdSet
  | _, [] => Roster.empty
  | trie, c :: rest =>
    match trie.child? c with
    | none => trie.wildcardIds
    | some node => if rest.isEmpty then node.ids else search node.below rest

/-! ## Branches in order -/

/-- Every branch that leaves this point has a later character. -/
def After (c : Char) : Trie → Prop
  | empty => True
  | branch char _ _ beside => c < char ∧ After c beside

/-- Branches beside each other ascend by character, here and everywhere below. -/
def Ordered : Trie → Prop
  | empty => True
  | branch char _ below beside => Ordered below ∧ Ordered beside ∧ After char beside

/-- What is below a branch of an ordered trie is ordered. -/
theorem Ordered.of_child? {trie : Trie} (ordered : trie.Ordered) {c : Char} {node : Node}
    (child : trie.child? c = some node) : node.below.Ordered := by
  induction trie with
  | empty => cases child
  | branch char ids below beside _ ih =>
    rw [child?] at child
    split at child
    · cases child
      exact ordered.1
    · exact ih ordered.2.1 child

theorem ordered_path (id : EntryId) (token : Token) : (path id token).Ordered := by
  induction token with
  | nil => trivial
  | cons c rest ih => exact ⟨ih, trivial, trivial⟩

theorem After.of_lt {c d : Char} (less : c < d) {trie : Trie} (after : After d trie) :
    After c trie := by
  induction trie with
  | empty => trivial
  | branch char ids below beside _ ih => exact ⟨Char.lt_trans less after.1, ih after.2⟩

theorem After.insert {c d : Char} (less : c < d) (id : EntryId) (rest : Token) {trie : Trie}
    (after : After c trie) : After c (trie.insert id (d :: rest)) := by
  induction trie with
  | empty => exact ⟨less, trivial⟩
  | branch char ids below beside _ ih =>
    rw [Trie.insert]
    split
    · exact after
    · split
      · exact ⟨less, after⟩
      · exact ⟨after.1, ih after.2⟩

theorem After.remove {c : Char} (id : EntryId) (token : Token) {trie : Trie}
    (after : After c trie) : After c (trie.remove id token) := by
  induction trie generalizing token with
  | empty => cases token <;> exact after
  | branch char ids below beside _ ih =>
    cases token with
    | nil => exact after
    | cons d rest =>
      rw [Trie.remove]
      split
      · exact after
      · exact ⟨after.1, ih _ after.2⟩

theorem After.prune {c : Char} {trie : Trie} (after : After c trie) : After c trie.prune := by
  induction trie with
  | empty => trivial
  | branch char ids below beside _ ih =>
    rw [Trie.prune, regrow]
    split
    · exact ih after.2
    · exact ⟨after.1, ih after.2⟩

theorem Ordered.insert (id : EntryId) (token : Token) {trie : Trie} (ordered : trie.Ordered) :
    (trie.insert id token).Ordered := by
  induction trie generalizing token with
  | empty =>
    cases token with
    | nil => trivial
    | cons c rest => exact ordered_path id (c :: rest)
  | branch char ids below beside ihBelow ihBeside =>
    cases token with
    | nil => exact ordered
    | cons c rest =>
      rw [Trie.insert]
      split
      · exact ⟨ihBelow rest ordered.1, ordered.2⟩
      next different =>
        split
        next less => exact ⟨ordered_path id rest, ordered, less, ordered.2.2.of_lt less⟩
        next notLess =>
          have more : char < c :=
            Char.not_le.1 fun le => different (Char.le_antisymm le (Char.not_lt.1 notLess))
          exact ⟨ordered.1, ihBeside _ ordered.2.1, ordered.2.2.insert more id rest⟩

theorem Ordered.remove (id : EntryId) (token : Token) {trie : Trie} (ordered : trie.Ordered) :
    (trie.remove id token).Ordered := by
  induction trie generalizing token with
  | empty => cases token <;> exact ordered
  | branch char ids below beside ihBelow ihBeside =>
    cases token with
    | nil => exact ordered
    | cons c rest =>
      rw [Trie.remove]
      split
      · exact ⟨ihBelow rest ordered.1, ordered.2⟩
      · exact ⟨ordered.1, ihBeside _ ordered.2.1, ordered.2.2.remove id _⟩

theorem Ordered.prune {trie : Trie} (ordered : trie.Ordered) : trie.prune.Ordered := by
  induction trie with
  | empty => trivial
  | branch char ids below beside ihBelow ihBeside =>
    rw [Trie.prune, regrow]
    split
    · exact ihBeside ordered.2.1
    · exact ⟨ihBelow ordered.1, ihBeside ordered.2.1, ordered.2.2.prune⟩

end Trie

end KeywordSearch
