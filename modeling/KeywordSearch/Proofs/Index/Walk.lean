import KeywordSearch.Proofs.Index.Holding
import Mathlib.Data.List.Induction

/-!
# Searching an index as a walk

A search follows its token from the root as far as the index has paths.  Where
the whole token is a path, the ids held there are the answer; otherwise the walk
ends at the longest initial part of the token that is a path or empty, and the
ids held under the wildcard from there are the answer
(`Index.contains_search_of_not_hasPath`).

The longest initial part is said without the walk (`Farthest`), of any
collection of paths, so the same notion serves for paths that are known in some
other way.  What a token finds is said in the same manner (`Found`), of any
paths and any ids held at them, and `Index.contains_search` says that a search
answers just that.
-/

set_option autoImplicit false

namespace KeywordSearch

/-- The longest initial part of a path that is known or empty. -/
structure Farthest (Known : List Char → Prop) (path reached : List Char) : Prop where
  initial : reached <+: path
  known : reached = [] ∨ Known reached
  longest : ∀ other, other <+: path → Known other → other.length ≤ reached.length

/-- There is at most one longest initial part. -/
theorem Farthest.unique {Known : List Char → Prop} {path left right : List Char}
    (toLeft : Farthest Known path left) (toRight : Farthest Known path right) : left = right := by
  have le : ∀ {a b : List Char}, Farthest Known path a → Farthest Known path b →
      a.length ≤ b.length := by
    intro a b toA toB
    rcases toA.known with rfl | known
    · exact Nat.zero_le _
    · exact toB.longest a toA.initial known
  have length : left.length = right.length :=
    Nat.le_antisymm (le toLeft toRight) (le toRight toLeft)
  have shorter : left <+: right :=
    List.prefix_of_prefix_length_le toLeft.initial toRight.initial (Nat.le_of_eq length)
  exact shorter.eq_of_length length

/-- Every path has a longest initial part. -/
theorem Farthest.exists (Known : List Char → Prop) (path : List Char) :
    ∃ reached, Farthest Known path reached := by
  induction path using List.reverseRec with
  | nil => exact ⟨[], List.prefix_rfl, .inl rfl, fun other initial _ => initial.length_le⟩
  | append_singleton path c ih =>
    by_cases known : Known (path ++ [c])
    · exact ⟨path ++ [c], List.prefix_rfl, .inr known, fun other initial _ => initial.length_le⟩
    · obtain ⟨reached, farthest⟩ := ih
      refine ⟨reached, farthest.initial.trans (List.prefix_append path [c]), farthest.known, ?_⟩
      intro other initial knownOther
      rcases List.prefix_concat_iff.1 initial with rfl | shorter
      · exact absurd knownOther known
      · exact farthest.longest other shorter knownOther

/-- What a token finds where some paths are known and ids are held at paths: at a known
path the ids held there, and elsewhere those held under the wildcard from its longest
initial part that is known or empty.  The empty token finds nothing. -/
def Found (Known : List Char → Prop) (Held : List Char → EntryId → Prop) (token : Token)
    (id : EntryId) : Prop :=
  token ≠ [] ∧
    (Known token ∧ Held token id ∨
      ¬Known token ∧ ∃ reached, Farthest Known token reached ∧ Held (reached ++ [wildcard]) id)

/-- A path is known when its longest known initial part is the whole of it. -/
theorem Farthest.known_iff {Known : List Char → Prop} {path reached : List Char}
    (farthest : Farthest Known path reached) (nonempty : path ≠ []) :
    Known path ↔ reached = path := by
  constructor
  · intro known
    exact farthest.initial.eq_of_length_le (farthest.longest path List.prefix_rfl known)
  · rintro rfl
    exact farthest.known.resolve_left nonempty

/-- What a token finds is told by the end of its walk. -/
theorem Farthest.found_iff {Known : List Char → Prop} {Held : List Char → EntryId → Prop}
    {token reached : List Char} {id : EntryId} (farthest : Farthest Known token reached) :
    Found Known Held token id ↔ token ≠ [] ∧
      (reached = token ∧ Held token id ∨ reached ≠ token ∧ Held (reached ++ [wildcard]) id) := by
  refine and_congr_right fun nonempty => ?_
  have same : (∃ other, Farthest Known token other ∧ Held (other ++ [wildcard]) id) ↔
      Held (reached ++ [wildcard]) id := by
    constructor
    · rintro ⟨other, toOther, held⟩
      rwa [farthest.unique toOther]
    · intro held
      exact ⟨reached, farthest, held⟩
  rw [farthest.known_iff nonempty, same]

namespace Trie

/-- What stands at each path of the trie below a branch. -/
theorem at?_cons_of_child? {trie : Trie} {c : Char} {node : Node}
    (child : trie.child? c = some node) {rest : List Char} (notNil : rest ≠ []) :
    trie.at? (c :: rest) = node.below.at? rest := by
  rw [at?_cons, child, Option.bind_some, if_neg notNil]

theorem search_cons_of_child? {trie : Trie} {c : Char} {node : Node}
    (child : trie.child? c = some node) {rest : List Char} (notNil : rest ≠ []) :
    trie.search (c :: rest) = node.below.search rest := by
  rw [search, child]
  cases rest with
  | nil => exact absurd rfl notNil
  | cons d rest => rfl

theorem wildcardIds_eq (trie : Trie) :
    trie.wildcardIds = (trie.at? [wildcard]).getD Roster.empty := by
  rw [wildcardIds, at?_cons]
  cases trie.child? wildcard <;> rfl

/-- A token that is a path is answered by what is held there. -/
theorem search_of_at? {trie : Trie} {token : Token} {ids : IdSet}
    (found : trie.at? token = some ids) : trie.search token = ids := by
  induction token generalizing trie with
  | nil => cases found
  | cons c rest ih =>
    cases child : trie.child? c with
    | none =>
      rw [at?_cons, child] at found
      cases found
    | some node =>
      by_cases nothing : rest = []
      · subst nothing
        rw [at?_cons, child] at found
        rw [search, child]
        exact Option.some.inj found
      · rw [at?_cons_of_child? child nothing] at found
        rw [search_cons_of_child? child nothing]
        exact ih found

/-- A token that leads off the trie is answered by the wildcard from the last point
on its way. -/
theorem search_of_at?_eq_none {trie : Trie} {token : Token} (nonempty : token ≠ [])
    (missing : trie.at? token = none) :
    ∃ reached, Farthest (fun path => (trie.at? path).isSome = true) token reached ∧
      trie.search token = (trie.at? (reached ++ [wildcard])).getD Roster.empty := by
  induction token generalizing trie with
  | nil => exact absurd rfl nonempty
  | cons c rest ih =>
    cases child : trie.child? c with
    | none =>
      refine ⟨[], ⟨List.nil_prefix, .inl rfl, fun other initial known => ?_⟩, ?_⟩
      · cases other with
        | nil => exact Nat.le_refl _
        | cons d other =>
          obtain ⟨rfl, -⟩ := List.cons_prefix_cons.1 initial
          rw [at?_cons, child] at known
          exact absurd known Bool.false_ne_true
      · rw [search, child]
        exact trie.wildcardIds_eq
    | some node =>
      have notNil : rest ≠ [] := by
        rintro rfl
        rw [at?_cons, child] at missing
        cases missing
      rw [at?_cons_of_child? child notNil] at missing
      obtain ⟨reached, farthest, answer⟩ := ih notNil missing
      refine ⟨c :: reached, ⟨List.cons_prefix_cons.2 ⟨rfl, farthest.initial⟩, .inr ?_, ?_⟩, ?_⟩
      · rcases farthest.known with rfl | known
        · rw [at?_cons, child]
          rfl
        · by_cases nothing : reached = []
          · subst nothing
            exact absurd known Bool.false_ne_true
          · rwa [at?_cons_of_child? child nothing]
      · intro other initial known
        cases other with
        | nil => exact Nat.zero_le _
        | cons d other =>
          obtain ⟨rfl, initialBelow⟩ := List.cons_prefix_cons.1 initial
          refine Nat.succ_le_succ ?_
          by_cases nothing : other = []
          · subst nothing
            exact Nat.zero_le _
          · rw [at?_cons_of_child? child nothing] at known
            exact farthest.longest other initialBelow known
      · rw [search_cons_of_child? child notNil, answer, List.cons_append,
          at?_cons_of_child? child (by simp)]

end Trie

namespace Index

variable {index : Index} {token : Token} {id : EntryId}

/-- A token that the index has as a path finds the ids held there. -/
theorem contains_search_of_hasPath (has : index.HasPath token) :
    (index.search token).contains id = true ↔ index.Holds token id := by
  obtain ⟨ids, found⟩ := Option.isSome_iff_exists.1 has
  have answer : index.search token = ids := Trie.search_of_at? found
  rw [answer, Holds, found]
  simp

/-- A token that leads off the index finds the ids held under the wildcard from the
last point on its way. -/
theorem contains_search_of_not_hasPath (nonempty : token ≠ []) (missing : ¬index.HasPath token) :
    (index.search token).contains id = true ↔
      ∃ reached, Farthest index.HasPath token reached ∧ index.Holds (reached ++ [wildcard]) id := by
  obtain ⟨reached, farthest, answer⟩ :=
    Trie.search_of_at?_eq_none nonempty (Option.not_isSome_iff_eq_none.1 missing)
  have farthest : Farthest index.HasPath token reached := farthest
  have answer : index.search token = (index.at? (reached ++ [wildcard])).getD Roster.empty := answer
  have held : (index.search token).contains id = true ↔
      index.Holds (reached ++ [wildcard]) id := by
    rw [answer, Holds]
    cases index.at? (reached ++ [wildcard]) with
    | none => simp [Roster.contains]
    | some ids => simp
  rw [held]
  constructor
  · exact fun holds => ⟨reached, farthest, holds⟩
  · rintro ⟨other, otherFarthest, holds⟩
    rwa [farthest.unique otherFarthest]

/-- **A search answers with what its token finds among the paths of the index.** -/
theorem contains_search :
    (index.search token).contains id = true ↔ Found index.HasPath index.Holds token id := by
  by_cases nonempty : token = []
  · subst nonempty
    have nothing : (index.search []).contains id = false := by
      rw [search, Trie.search]
      rfl
    simp [Found, nothing]
  · by_cases has : index.HasPath token
    · simp [Found, nonempty, has, contains_search_of_hasPath has]
    · simp [Found, nonempty, has, contains_search_of_not_hasPath nonempty has]

end Index

end KeywordSearch
