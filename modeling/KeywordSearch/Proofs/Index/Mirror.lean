import KeywordSearch.Engine
import KeywordSearch.Proofs.Catalogue
import KeywordSearch.Proofs.Index.Points

/-!
# Indexes that mirror the stored entries

An index agrees with a store when it holds the id of each stored entry at the
paths that the entry spells, and holds nothing else (`Agrees`).  It mirrors the
store when it also has no path without an id, and no id at its root (`Mirrors`).
There is one index that mirrors a store (`Mirrors.unique`), and it is the one that
comes of indexing the stored entries from nothing (`mirrors_indexAll`).

Taking an entry out of the index keeps it in agreement with the store from which
that entry is erased, and putting one in keeps it in agreement with the store
into which it is inserted.  Whether a sequence of such steps leaves the index in
agreement with the store that there is can so be read off the store alone.
-/

set_option autoImplicit false

namespace KeywordSearch

namespace Index

/-- The index holds each stored entry where the entry spells, and nothing else. -/
def Agrees (index : Index) (store : Store) : Prop :=
  ∀ path id, index.Holds path id ↔ ∃ entry, store.find? id = some entry ∧ entry.Spells path

/-- The index holds an id just where the entry stored under it spells. -/
def AgreesAt (index : Index) (store : Store) (id : EntryId) : Prop :=
  ∀ path, index.Holds path id ↔ ∃ entry, store.find? id = some entry ∧ entry.Spells path

/-- Some id is held at every path. -/
def Tidy (index : Index) : Prop := ∀ path, index.HasPath path → ∃ id, index.Holds path id

/-- The index agrees with the store, has no path at which nothing is held, and holds nothing at
its root. -/
structure Mirrors (index : Index) (store : Store) : Prop where
  agrees : index.Agrees store
  tidy : index.Tidy
  bare : index.root.ids = Roster.empty

variable {index left right : Index} {store : Store} {entry : Entry} {id : EntryId}

theorem agrees_iff : index.Agrees store ↔ ∀ id, index.AgreesAt store id := forall_comm

/-- An index that agrees with a store holds an entry's id wherever the entry spells. -/
theorem Agrees.holds (agrees : index.Agrees store) (found : store.find? id = some entry)
    {path : List Char} (spells : entry.Spells path) : index.Holds path id :=
  (agrees path id).2 ⟨entry, found, spells⟩

theorem Agrees.holds_iff_mem (agrees : index.Agrees store) {path : List Char} :
    index.Holds path id ↔ ∃ entry ∈ store.items, entry.id = id ∧ entry.Spells path :=
  (agrees path id).trans Store.exists_find?_iff

/-! ## Mirroring determines the index -/

theorem Mirrors.hasPath_iff_exists_holds (mirrors : index.Mirrors store) {path : List Char} :
    index.HasPath path ↔ ∃ id, index.Holds path id :=
  ⟨mirrors.tidy path, fun ⟨_, holds⟩ => holds.hasPath⟩

/-- The paths of an index that mirrors a store are what the stored entries spell. -/
theorem Mirrors.hasPath_iff (mirrors : index.Mirrors store) {path : List Char} :
    index.HasPath path ↔ store.Spells path := by
  rw [mirrors.hasPath_iff_exists_holds]
  constructor
  · rintro ⟨id, holds⟩
    obtain ⟨entry, stored, _, spells⟩ := mirrors.agrees.holds_iff_mem.1 holds
    exact ⟨entry, stored, spells⟩
  · rintro ⟨entry, stored, spells⟩
    exact ⟨entry.id, mirrors.agrees.holds (Roster.find?_of_mem stored) spells⟩

/-- **One index mirrors a store.** -/
theorem Mirrors.unique (mirrorsLeft : left.Mirrors store) (mirrorsRight : right.Mirrors store) :
    left = right :=
  ext_holds (mirrorsLeft.bare.trans mirrorsRight.bare.symm)
    (fun _ => mirrorsLeft.hasPath_iff.trans mirrorsRight.hasPath_iff.symm)
    fun path id => (mirrorsLeft.agrees path id).trans (mirrorsRight.agrees path id).symm

/-- An index that mirrors a store has a point for each path that is spelled, and its root. -/
theorem Mirrors.nodeCount_eq (mirrors : index.Mirrors store) :
    index.nodeCount = 1 + store.paths.card :=
  Index.nodeCount_eq fun _ => Store.mem_paths.trans mirrors.hasPath_iff.symm

/-! ## Entries in and out of the index -/

/-- An index from which an entry is taken out agrees with the store without it. -/
theorem Agrees.removeAll (agrees : index.Agrees store) (found : store.find? id = some entry) :
    (index.removeAll entry.tokens id).Agrees (store.erase id) := by
  intro path held
  rw [holds_removeAll, agrees, Roster.find?_erase]
  by_cases same : held = id
  · subst same
    simp [found]
  · simp [same]

/-- An index into which an entry is put agrees with the store with it exactly when it did
so at all other ids and held the entry's id only where the entry spells. -/
theorem agrees_insertAll_iff :
    (index.insertAll entry.tokens entry.id).Agrees (store.insert entry) ↔
      (∀ id, id ≠ entry.id → index.AgreesAt store id) ∧
        ∀ path, index.Holds path entry.id → entry.Spells path := by
  have carried : entryId entry = entry.id := rfl
  simp only [agrees_iff, AgreesAt, holds_insertAll, Roster.find?_insert, carried]
  constructor
  · intro agrees
    refine ⟨fun id different path => ?_, fun path holds => ?_⟩
    · simpa [different, Ne.symm different] using agrees id path
    · simpa using (agrees entry.id path).1 (.inl holds)
  · rintro ⟨others, covered⟩ id path
    by_cases same : id = entry.id
    · subst same
      simpa using covered path
    · simpa [same, Ne.symm same] using others id same path

/-- An index into which an entry with a new id is put agrees with the store with it. -/
theorem Agrees.insertAll (agrees : index.Agrees store) (absent : store.find? entry.id = none) :
    (index.insertAll entry.tokens entry.id).Agrees (store.insert entry) := by
  refine agrees_insertAll_iff.2 ⟨fun id _ => agrees_iff.1 agrees id, fun path holds => ?_⟩
  obtain ⟨other, found, _⟩ := (agrees path entry.id).1 holds
  rw [absent] at found
  cases found

theorem Tidy.insertAll (tidy : index.Tidy) (tokens : List Token) :
    (index.insertAll tokens id).Tidy := by
  intro path has
  rcases hasPath_insertAll.1 has with before | spelled
  · obtain ⟨held, holds⟩ := tidy path before
    exact ⟨held, holds_insertAll.2 (.inl holds)⟩
  · exact ⟨id, holds_insertAll.2 (.inr ⟨rfl, spelled⟩)⟩

theorem Mirrors.insertAll (mirrors : index.Mirrors store) (absent : store.find? entry.id = none) :
    (index.insertAll entry.tokens entry.id).Mirrors (store.insert entry) where
  agrees := mirrors.agrees.insertAll absent
  tidy := mirrors.tidy.insertAll entry.tokens
  bare := by rw [root_ids_insertAll, mirrors.bare]

theorem agrees_prune_iff : index.prune.Agrees store ↔ index.Agrees store :=
  forall₂_congr fun _ _ => by rw [holds_prune]

theorem Agrees.tidy_prune (agrees : index.Agrees store) : index.prune.Tidy := by
  intro path has
  obtain ⟨nonempty, more, id, holds⟩ := hasPath_prune.1 has
  obtain ⟨entry, found, spells⟩ := (agrees _ id).1 holds
  exact ⟨id, holds_prune.2 (agrees.holds found (spells.of_append nonempty))⟩

/-- Pruning an index that agrees with a store makes it mirror the store, if its root is bare. -/
theorem Agrees.prune (agrees : index.Agrees store) (bare : index.root.ids = Roster.empty) :
    index.prune.Mirrors store :=
  ⟨agrees_prune_iff.2 agrees, agrees.tidy_prune, bare⟩

theorem mirrors_empty : empty.Mirrors Roster.empty where
  agrees := fun path _ =>
    ⟨fun holds => absurd holds.hasPath (not_hasPath_empty path), fun ⟨_, found, _⟩ => nomatch found⟩
  tidy := fun path has => absurd has (not_hasPath_empty path)
  bare := rfl

end Index

/-! ## Indexing many entries -/

namespace Engine

variable {engine : Engine} {entries : List Entry} {path : List Char} {id : EntryId}

@[simp] theorem root_ids_indexAll (engine : Engine) (entries : List Entry) :
    (engine.indexAll entries).index.root.ids = engine.index.root.ids := by
  induction entries generalizing engine with
  | nil => rfl
  | cons entry entries ih =>
    exact (ih (engine.indexEntry entry)).trans (Index.root_ids_insertAll _ entry.tokens entry.id)

theorem hasPath_indexAll :
    (engine.indexAll entries).index.HasPath path ↔
      engine.index.HasPath path ∨ ∃ entry ∈ entries, entry.Spells path := by
  induction entries generalizing engine with
  | nil => simp [indexAll]
  | cons entry entries ih =>
    rw [indexAll, List.foldl_cons, ← indexAll, ih, indexEntry, Index.hasPath_insertAll, or_assoc]
    simp only [List.mem_cons, exists_eq_or_imp]

theorem holds_indexAll :
    (engine.indexAll entries).index.Holds path id ↔
      engine.index.Holds path id ∨ ∃ entry ∈ entries, entry.id = id ∧ entry.Spells path := by
  induction entries generalizing engine with
  | nil => simp [indexAll]
  | cons entry entries ih =>
    rw [indexAll, List.foldl_cons, ← indexAll, ih, indexEntry, Index.holds_insertAll, or_assoc]
    simp only [List.mem_cons, exists_eq_or_imp, @eq_comm _ entry.id]

/-- Indexing the stored entries once more keeps an index in agreement with them. -/
theorem agrees_indexAll {store : Store} (agrees : engine.index.Agrees store) :
    (engine.indexAll store.items).index.Agrees store := by
  intro path id
  rw [holds_indexAll, ← agrees.holds_iff_mem, or_self]
  exact agrees path id

/-- Indexing the stored entries once more changes nothing of an index that mirrors them. -/
theorem index_indexAll_of_mirrors {store : Store} (mirrors : engine.index.Mirrors store) :
    (engine.indexAll store.items).index = engine.index := by
  refine Index.ext_holds (by simp) (fun path => ?_) fun path id => ?_
  · rw [hasPath_indexAll, mirrors.hasPath_iff]
    exact or_iff_left_of_imp fun spelled => spelled
  · rw [holds_indexAll, mirrors.agrees.holds_iff_mem]
    exact or_self_iff

/-- **Indexing the stored entries from nothing gives the index that mirrors them.** -/
theorem mirrors_indexAll (nothing : engine.index = Index.empty) (store : Store) :
    (engine.indexAll store.items).index.Mirrors store where
  agrees := by
    intro path id
    rw [holds_indexAll, nothing, Store.exists_find?_iff]
    refine or_iff_right ?_
    intro holds
    exact Index.not_hasPath_empty path holds.hasPath
  tidy := by
    intro path has
    rw [hasPath_indexAll, nothing] at has
    obtain ⟨entry, stored, spells⟩ := has.resolve_left (Index.not_hasPath_empty path)
    exact ⟨entry.id, holds_indexAll.2 (.inr ⟨entry, stored, rfl, spells⟩)⟩
  bare := by
    rw [root_ids_indexAll, nothing]
    rfl

end Engine

end KeywordSearch
