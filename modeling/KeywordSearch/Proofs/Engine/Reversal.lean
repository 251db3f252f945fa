import KeywordSearch.Engine
import KeywordSearch.Proofs.Cache.Coherence
import KeywordSearch.Proofs.Catalogue

/-!
# Unindexing undoes indexing

An entry is indexed and then taken out again, in an engine about which nothing is
assumed: its index may hold the entry's id already, at some of the entry's paths or
at others, and may have paths at which nothing is held.

Taking the entry out takes its id away from every path that it spells, whoever put
it there, and touches no other id and no other path (`holds_unindexEntry_indexEntry`).
What stays of indexing is paths, namely those that the entry spells and the index did
not have.  Pruning forgets them, as it forgets the paths at which nothing was held
before, and cannot tell the ones from the others.  So what pruning comes to
afterwards is what it would have come to at once, just if the id was held at none of
the entry's paths (`sanitize_index_eq_iff`).

The cache has lost the slot of the id and is otherwise as it was.
-/

set_option autoImplicit false

namespace KeywordSearch.Engine

variable (engine : Engine) (entry : Entry)

/-- What an engine comes to when an entry is indexed and taken out of it again. -/
structure Reversed (entry : Entry) (before after : Engine) : Prop where
  /-- The entry's id is held at no initial part of its tokens. -/
  released : ∀ token ∈ entry.tokens, ∀ path, path <+: token → ¬after.index.Holds path entry.id
  /-- Elsewhere it is held where it was. -/
  elsewhere : ∀ path, (∀ token ∈ entry.tokens, ¬path <+: token) →
    (after.index.Holds path entry.id ↔ before.index.Holds path entry.id)
  /-- Every other id is held where it was. -/
  others : ∀ id, id ≠ entry.id → ∀ path, after.index.Holds path id ↔ before.index.Holds path id
  /-- The root holds what it held. -/
  root_eq : after.index.root.ids = before.index.root.ids
  /-- No path is lost, and those that the entry spells are there. -/
  hasPath_iff : ∀ path, after.index.HasPath path ↔ before.index.HasPath path ∨ entry.Spells path
  /-- Pruning comes to the same index as before, if the id was held at none of the entry's
  paths, and only then. -/
  sanitize_iff : after.sanitize.index = before.sanitize.index ↔
    ∀ path, entry.Spells path → ¬before.index.Holds path entry.id
  /-- Nothing is cached for the id. -/
  dropped : after.cache.slots.find? entry.id = none
  /-- Nothing else of the cache has changed. -/
  cache : Cache.DiffersAt entry.id before.cache after.cache

/-! ## The index -/

/-- An id is held after an entry was indexed and taken out if it was held before and is
not the entry's own at a path that the entry spells. -/
theorem holds_unindexEntry_indexEntry {path : List Char} {id : EntryId} :
    ((engine.indexEntry entry).unindexEntry entry).index.Holds path id ↔
      engine.index.Holds path id ∧ ¬(id = entry.id ∧ entry.Spells path) := by
  rw [unindexEntry, indexEntry, Index.holds_removeAll, Index.holds_insertAll]
  constructor
  · rintro ⟨before | own, notOwn⟩
    · exact ⟨before, notOwn⟩
    · exact absurd own notOwn
  · rintro ⟨before, notOwn⟩
    exact ⟨.inl before, notOwn⟩

theorem root_ids_unindexEntry_indexEntry :
    ((engine.indexEntry entry).unindexEntry entry).index.root.ids = engine.index.root.ids := by
  rw [unindexEntry, indexEntry, Index.root_ids_removeAll, Index.root_ids_insertAll]

theorem hasPath_unindexEntry_indexEntry {path : List Char} :
    ((engine.indexEntry entry).unindexEntry entry).index.HasPath path ↔
      engine.index.HasPath path ∨ entry.Spells path := by
  rw [unindexEntry, indexEntry, Index.hasPath_removeAll, Index.hasPath_insertAll]

/-- **Pruning does not tell that an entry was indexed and taken out, just if its id was
held nowhere that the entry spells.** -/
theorem sanitize_index_eq_iff :
    ((engine.indexEntry entry).unindexEntry entry).sanitize.index = engine.sanitize.index ↔
      ∀ path, entry.Spells path → ¬engine.index.Holds path entry.id := by
  rw [sanitize, sanitize, Index.prune_eq_prune_iff (root_ids_unindexEntry_indexEntry engine entry)]
  simp only [holds_unindexEntry_indexEntry]
  constructor
  · intro same path spells holds
    exact ((same path entry.id).2 holds).2 ⟨rfl, spells⟩
  · intro unheld path id
    refine and_iff_left_of_imp ?_
    rintro holds ⟨rfl, spells⟩
    exact unheld path spells holds

/-! ## The cache -/

theorem find?_unindexEntry (engine : Engine) (entry : Entry) :
    (engine.unindexEntry entry).cache.slots.find? entry.id = none :=
  Roster.find?_erase_self engine.cache.slots entry.id

theorem differsAt_unindexEntry_indexEntry :
    Cache.DiffersAt entry.id engine.cache
      ((engine.indexEntry entry).unindexEntry entry).cache :=
  (Cache.differsAt_put engine.cache entry).trans (Cache.differsAt_evict _ entry.id)

/-! ## The engine -/

/-- **Unindexing undoes indexing.**  Whatever an engine has in its index and its cache, when
an entry is indexed and taken out again the entry's id is held at none of the paths that
the entry spells, and all else is held where it was.  No path is lost, and pruning comes
to the index that it would have come to before, if the id was then held at none of these
paths, and only then.  The cache has nothing for the id, and all else is in it as it was. -/
theorem unindexEntry_indexEntry (engine : Engine) (entry : Entry) :
    Reversed entry engine ((engine.indexEntry entry).unindexEntry entry) where
  released := by
    intro token member path initial holds
    have nonempty : path ≠ [] := holds.hasPath.ne_nil
    rw [holds_unindexEntry_indexEntry] at holds
    exact holds.2 ⟨rfl, nonempty, token, member, initial⟩
  elsewhere := by
    intro path apart
    rw [holds_unindexEntry_indexEntry]
    refine and_iff_left ?_
    rintro ⟨_, _, token, member, initial⟩
    exact apart token member initial
  others := by
    intro id different path
    rw [holds_unindexEntry_indexEntry]
    refine and_iff_left ?_
    rintro ⟨same, _⟩
    exact different same
  root_eq := root_ids_unindexEntry_indexEntry engine entry
  hasPath_iff := fun _ => hasPath_unindexEntry_indexEntry engine entry
  sanitize_iff := sanitize_index_eq_iff engine entry
  dropped := find?_unindexEntry _ entry
  cache := differsAt_unindexEntry_indexEntry engine entry

/-- Where the id was held on a path of the entry before, indexing and unindexing take it
away; the path that held nothing is pruned with those that indexing has added. -/
example :
    let index := ((Index.empty.insert "net".toList ⟨2⟩).insert "ne".toList ⟨1⟩).insert
      "old".toList ⟨1⟩
    let engine := { Engine.ofConfig {} with index := index.remove "old".toList ⟨1⟩ }
    let entry : Entry := { id := ⟨1⟩, question := "Network", keywords := ["nets", "net", "net"] }
    let after := (engine.indexEntry entry).unindexEntry entry
    engine.index.Holds "ne".toList ⟨1⟩ ∧ ¬after.index.Holds "ne".toList ⟨1⟩ ∧
      after.index.nodeCount = 8 ∧ after.sanitize.index.nodeCount = 4 ∧
      after.sanitize.index ≠ engine.sanitize.index := by
  decide +kernel

end KeywordSearch.Engine
