import KeywordSearch.Proofs.Index.Points
import KeywordSearch.Proofs.Index.Walk

/-!
# What pruning takes away

Pruning an index takes away the dead paths and nothing else: a path stays just if
some id is held at it or beyond it, and what is held at a path that stays is what
was held there before.  A chain of points that hold nothing goes as a whole, since
the deepest of them goes first, and a point that holds nothing stays where there is
an id beyond it.

What follows of the index as a whole is gathered in `Index.Pruned`.  No orphan is
left, the number of points falls by the number of paths that were taken away, the
index is empty just if no id was held anywhere, and pruning it once more changes
nothing.  A search that found an id still finds it: an id that is held at the end of
a walk, or under the wildcard from there, keeps all that the walk went along.
-/

set_option autoImplicit false

namespace KeywordSearch.Index

variable {index : Index} {path : List Char} {token reached : Token} {id : EntryId}

/-- An id is held at a path or beyond it. -/
def HeldBeyond (index : Index) (path : List Char) : Prop := ∃ more id, index.Holds (path ++ more) id

/-- An orphan is a path at which no id is held and from which no branch leads on. -/
def Orphan (index : Index) (path : List Char) : Prop :=
  index.HasPath path ∧ (∀ id, ¬index.Holds path id) ∧ ∀ c, ¬index.HasPath (path ++ [c])

/-- What an index comes to by pruning. -/
structure Pruned (before after : Index) : Prop where
  /-- A path stays if an id is held at it or beyond it, and none is new. -/
  hasPath_iff : ∀ path, after.HasPath path ↔ before.HasPath path ∧ before.HeldBeyond path
  /-- At a path that stays the same ids are held. -/
  at?_eq : ∀ path, after.HasPath path → after.at? path = before.at? path
  /-- What a token found it still finds. -/
  finds : ∀ token id, (before.search token).contains id = true →
    (after.search token).contains id = true
  /-- No orphan is left. -/
  not_orphan : ∀ path, ¬after.Orphan path
  /-- There are fewer points by as many as paths were taken away. -/
  nodeCount_eq : ∃ gone : Finset (List Char),
    (∀ path, path ∈ gone ↔ before.HasPath path ∧ ¬after.HasPath path) ∧
      before.nodeCount = after.nodeCount + gone.card
  /-- The root stays as it is. -/
  root_eq : after.root.ids = before.root.ids
  /-- Only the root is left if no id was held anywhere. -/
  isEmpty_iff : after.isEmpty = true ↔
    before.root.ids = Roster.empty ∧ ∀ path id, ¬before.Holds path id
  /-- Pruning once more changes nothing. -/
  prune_eq : after.prune = after

/-! ## Which paths stay -/

/-- Whatever is held beyond a nonempty path, the path is there. -/
theorem HeldBeyond.hasPath (held : index.HeldBeyond path) (nonempty : path ≠ []) :
    index.HasPath path := by
  obtain ⟨more, id, holds⟩ := held
  exact holds.hasPath.of_append nonempty

theorem hasPath_prune_iff :
    index.prune.HasPath path ↔ index.HasPath path ∧ index.HeldBeyond path := by
  rw [hasPath_prune]
  constructor
  · rintro ⟨nonempty, held⟩
    exact ⟨HeldBeyond.hasPath held nonempty, held⟩
  · rintro ⟨has, held⟩
    exact ⟨has.ne_nil, held⟩

/-- Pruning leaves what is held at the paths that stay. -/
theorem at?_prune_of_hasPath (stays : index.prune.HasPath path) :
    index.prune.at? path = index.at? path := by
  have alive : index.root.below.Alive path := alive_iff.2 (hasPath_prune_iff.1 stays).2
  rw [at?, prune, Trie.at?_prune_of_alive index.ordered alive, at?]

/-- A path that stays holds an id, or the next point on the way to one stays too. -/
theorem not_orphan_prune (index : Index) (path : List Char) : ¬index.prune.Orphan path := by
  rintro ⟨has, nothing, ends⟩
  obtain ⟨-, more, id, holds⟩ := hasPath_prune_iff.1 has
  cases more with
  | nil =>
    rw [List.append_nil] at holds
    exact nothing id (holds_prune.2 holds)
  | cons c more =>
    rw [← List.singleton_append, ← List.append_assoc] at holds
    have onward : path ++ [c] ≠ [] :=
      List.append_ne_nil_of_right_ne_nil path (List.cons_ne_nil c [])
    exact ends c (hasPath_prune.2 ⟨onward, more, id, holds⟩)

/-! ## Searching afterwards -/

/-- A walk to a point at or beyond which an id is held ends there after pruning, too. -/
theorem farthest_prune (farthest : Farthest index.HasPath token reached)
    (held : index.HeldBeyond reached) : Farthest index.prune.HasPath token reached where
  initial := farthest.initial
  known := by
    refine farthest.known.imp_right ?_
    intro has
    exact hasPath_prune_iff.2 ⟨has, held⟩
  longest := by
    intro other initial has
    exact farthest.longest other initial (hasPath_prune_iff.1 has).1

/-- **Pruning loses nothing that a search found.** -/
theorem contains_search_prune (found : (index.search token).contains id = true) :
    (index.prune.search token).contains id = true := by
  obtain ⟨reached, farthest⟩ := Farthest.exists index.HasPath token
  rw [contains_search, farthest.found_iff] at found
  -- The id is held at the end of the walk or one step further, so the walk ends there still.
  have held : index.HeldBeyond reached := by
    rcases found.2 with ⟨rfl, holds⟩ | ⟨-, holds⟩
    · exact ⟨[], id, by rwa [List.append_nil]⟩
    · exact ⟨[wildcard], id, holds⟩
  rw [contains_search, (farthest_prune farthest held).found_iff]
  simpa only [holds_prune] using found

/-! ## Points -/

/-- Pruning takes away one point for each path that does not stay. -/
theorem nodeCount_prune (index : Index) : ∃ gone : Finset (List Char),
    (∀ path, path ∈ gone ↔ index.HasPath path ∧ ¬index.prune.HasPath path) ∧
      index.nodeCount = index.prune.nodeCount + gone.card := by
  obtain ⟨paths, member⟩ := exists_paths index
  obtain ⟨kept, stays⟩ := exists_paths index.prune
  have within : kept ⊆ paths := by
    intro path inKept
    exact (member path).2 (hasPath_prune_iff.1 ((stays path).1 inKept)).1
  refine ⟨paths \ kept, ?_, ?_⟩
  · intro path
    rw [Finset.mem_sdiff, member, stays]
  · have counted : (paths \ kept).card + kept.card = paths.card :=
      Finset.card_sdiff_add_card_eq_card within
    rw [nodeCount_eq member, nodeCount_eq stays]
    omega

theorem isEmpty_prune_iff : index.prune.isEmpty = true ↔
    index.root.ids = Roster.empty ∧ ∀ path id, ¬index.Holds path id := by
  rw [isEmpty_iff, root_ids_prune]
  refine and_congr_right fun _ => ?_
  constructor
  · intro none path id holds
    exact none path (holds_prune.2 holds).hasPath
  · intro nothing path has
    obtain ⟨-, more, id, holds⟩ := hasPath_prune_iff.1 has
    exact nothing _ id holds

theorem prune_prune (index : Index) : index.prune.prune = index.prune := by
  refine (prune_eq_prune_iff (root_ids_prune index)).2 ?_
  intro path id
  exact holds_prune

/-- **Pruning takes away the dead paths of an index and nothing else.** -/
theorem pruned_prune (index : Index) : Pruned index index.prune where
  hasPath_iff := fun _ => hasPath_prune_iff
  at?_eq := fun _ => at?_prune_of_hasPath
  finds := fun _ _ => contains_search_prune
  not_orphan := not_orphan_prune index
  nodeCount_eq := nodeCount_prune index
  root_eq := rfl
  isEmpty_iff := isEmpty_prune_iff
  prune_eq := prune_prune index

/-- A chain of five dead points goes at once; the points on the way to an id stay, though
the first of them holds nothing. -/
example :
    let index := (((empty.insert "neon".toList ⟨1⟩).insert "network".toList ⟨2⟩).remove
      "network".toList ⟨2⟩).remove "n".toList ⟨1⟩
    index.nodeCount = 10 ∧ index.prune.nodeCount = 5 ∧
      ¬index.Holds "n".toList ⟨1⟩ ∧ index.prune.Holds "neon".toList ⟨1⟩ := by
  decide

end KeywordSearch.Index
