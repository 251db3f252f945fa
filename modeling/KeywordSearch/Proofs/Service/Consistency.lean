import KeywordSearch.Proofs.Cache.Coherence
import KeywordSearch.Proofs.Index.Mirror
import KeywordSearch.Proofs.Service.History

/-!
# Reached services are consistent

A service is consistent when its index mirrors the stored entries, its cache is
coherent with them, and no preview is on its way into the cache.  A started
service is consistent, and every event keeps it so as long as the store keeps
the ids of what it saves (`consistent_react`); hence so is every service that is
reached (`Reached.consistent`).

The calls that change entries are followed through the store: unindexing an
entry leaves index and cache in step with the store without it, and indexing one
leaves them in step with the store into which it is inserted.  A call that fails
after unindexing puts the same entry back, and inserting an entry that was just
erased gives the store as it was.
-/

set_option autoImplicit false

namespace KeywordSearch

namespace Service

/-- Index and cache are in step with the store, and no preview is on its way. -/
structure Consistent (service : Service) : Prop where
  mirrors : service.engine.index.Mirrors service.backend.store
  coherent : service.engine.cache.Coherent service.backend.store
  quiet : service.Quiet

variable {service after : Service} {id requested : EntryId}

/-! ## Putting an entry back -/

/-- The store without an entry into which the entry is inserted is the store as it was. -/
theorem insert_erase_of_find? {store : Store} {entry : Entry}
    (found : store.find? id = some entry) : (store.erase id).insert entry = store := by
  have same : entryId entry = id := Roster.entryId_of_find? found
  rw [Roster.insert_erase same, Roster.insert_of_find? (by rw [same, found])]

/-- Unindexing a stored entry and indexing it again gives the same index. -/
theorem index_restored (agrees : service.engine.index.Agrees service.backend.store)
    {previous : Entry} (found : service.backend.store.find? id = some previous) :
    ((service.unindex previous).index previous).engine.index = service.engine.index := by
  have same : previous.id = id := Roster.entryId_of_find? found
  subst same
  exact Index.insertAll_removeAll fun path spells => agrees.holds found spells

/-- With pruning in between, the index holds again what it held. -/
theorem agrees_regrown (agrees : service.engine.index.Agrees service.backend.store)
    {current : Entry} (found : service.backend.store.find? id = some current) :
    ((service.unindex current).sanitize.index current).engine.index.Agrees
      service.backend.store := by
  have same : current.id = id := Roster.entryId_of_find? found
  subst same
  have without : (service.unindex current).sanitize.engine.index.Agrees
      (service.backend.store.erase current.id) :=
    Index.agrees_prune_iff.2 (agrees.removeAll found)
  have regrown := without.insertAll (Roster.find?_erase_self _ current.id)
  rwa [insert_erase_of_find? found] at regrown

/-- With pruning in between, an index that mirrors the store comes to mirror it again. -/
theorem mirrors_regrown (mirrors : service.engine.index.Mirrors service.backend.store)
    {current : Entry} (found : service.backend.store.find? id = some current) :
    ((service.unindex current).sanitize.index current).engine.index.Mirrors
      service.backend.store where
  agrees := agrees_regrown mirrors.agrees found
  tidy := by
    have same : current.id = id := Roster.entryId_of_find? found
    subst same
    exact (mirrors.agrees.removeAll found).tidy_prune.insertAll current.tokens
  bare := by rw [index_root, sanitize_root, unindex_root, mirrors.bare]

/-- Evicting a stored entry and putting it in again keeps the cache coherent. -/
theorem Consistent.cache_restored (consistent : service.Consistent) {previous : Entry}
    (found : service.backend.store.find? id = some previous) :
    ((service.engine.cache.evict previous.id).put previous).Coherent service.backend.store := by
  have same : previous.id = id := Roster.entryId_of_find? found
  subst same
  have restored := (consistent.coherent.evict previous.id).put
    (Roster.find?_erase_self _ previous.id)
  rwa [insert_erase_of_find? found] at restored

/-! ## What each call keeps -/

theorem consistent_saving {answer : Except Failure Entry} (consistent : service.Consistent)
    (keeps : service.backend.conduct.KeepsIds) (saving : Saving service requested answer after) :
    after.Consistent := by
  cases saving with
  | refused => exact consistent
  | @added saved absent stores =>
    have same : saved.id = requested := keeps.id_eq stores
    subst same
    exact ⟨consistent.mirrors.insertAll absent, consistent.coherent.put absent, consistent.quiet⟩
  | restored failure found =>
    refine ⟨?_, consistent.cache_restored found, consistent.quiet⟩
    rw [index_restored consistent.mirrors.agrees found]
    exact consistent.mirrors
  | @replaced previous saved found stores =>
    have previousId : previous.id = requested := Roster.entryId_of_find? found
    subst previousId
    have same : saved.id = previous.id := keeps.id_eq stores
    have absent : (service.backend.store.erase previous.id).find? saved.id = none := by
      rw [Roster.find?_erase, if_pos same]
    have agrees := (consistent.mirrors.agrees.removeAll found).insertAll absent
    have coherent := (consistent.coherent.evict previous.id).put absent
    rw [Roster.insert_erase same] at agrees coherent
    have bare : ((service.unindex previous).index saved).engine.index.root.ids = Roster.empty := by
      rw [index_root, unindex_root, consistent.mirrors.bare]
    exact ⟨agrees.prune bare, coherent, consistent.quiet⟩

theorem consistent_deleting {answer : Except Failure Unit} (consistent : service.Consistent)
    (deleting : Deleting service id answer after) : after.Consistent := by
  cases deleting with
  | refused => exact consistent
  | restored failure found =>
    exact ⟨mirrors_regrown consistent.mirrors found, consistent.cache_restored found,
      consistent.quiet⟩
  | @deleted current found =>
    have same : current.id = id := Roster.entryId_of_find? found
    subst same
    have bare : (service.unindex current).engine.index.root.ids = Roster.empty := by
      rw [unindex_root, consistent.mirrors.bare]
    exact ⟨(consistent.mirrors.agrees.removeAll found).prune bare,
      consistent.coherent.evict current.id, consistent.quiet⟩

theorem consistent_reading {answer : Except Failure Preview} (consistent : service.Consistent)
    (reading : Reading service id answer after) : after.Consistent := by
  have counted : service.engine.cache.countMiss.Coherent service.backend.store :=
    consistent.coherent
  cases reading with
  | hit | failed => exact ⟨consistent.mirrors, consistent.coherent, consistent.quiet⟩
  | missing => exact ⟨consistent.mirrors, counted.evictExpired id, consistent.quiet⟩
  | @loaded entry stale finds found =>
    have same : entry.id = id := Roster.entryId_of_find? found
    subst same
    exact ⟨consistent.mirrors, counted.put_stored found, consistent.quiet⟩

theorem consistent_previews (consistent : service.Consistent) (ids : List EntryId) :
    (service.previews ids).2.Consistent := by
  induction ids generalizing service with
  | nil => exact consistent
  | cons id rest ih =>
    exact ih (consistent_reading consistent (preview_reading consistent.quiet id))

/-- Indexing stored entries keeps the cache coherent. -/
theorem coherent_indexAll {engine : Engine} {store : Store}
    (coherent : engine.cache.Coherent store) {entries : List Entry}
    (stored : ∀ entry ∈ entries, store.find? entry.id = some entry) :
    (engine.indexAll entries).cache.Coherent store := by
  induction entries generalizing engine with
  | nil => exact coherent
  | cons entry entries ih =>
    exact ih (coherent.put_stored (stored entry List.mem_cons_self)) fun other member =>
      stored other (List.mem_cons_of_mem _ member)

theorem coherent_flushed {store : Store} (coherent : service.engine.cache.Coherent store) :
    service.flushed.engine.cache.Coherent store := by
  rw [flushed]
  split
  · exact Cache.coherent_of_slots_empty rfl store
  · exact coherent

theorem consistent_rebuilding {answer : Except Failure Nat} (consistent : service.Consistent)
    (rebuilding : Rebuilding service answer after) : after.Consistent := by
  have flushed : service.flushed.Consistent := by
    refine ⟨?_, ?_, ?_⟩
    · rw [flushed_index, flushed_backend]
      exact consistent.mirrors
    · rw [flushed_backend]
      exact coherent_flushed consistent.coherent
    · rw [Quiet, flushed_backend]
      exact consistent.quiet
  cases rebuilding with
  | failed => exact flushed
  | rebuilt =>
    refine ⟨?_, ?_, flushed.quiet⟩
    · have mirrors := flushed.mirrors
      rw [flushed_backend] at mirrors
      simp only [mapEngine, flushed_backend, Engine.index_indexAll_of_mirrors mirrors]
      exact mirrors
    · have coherent := flushed.coherent
      rw [flushed_backend] at coherent
      simp only [mapEngine, flushed_backend]
      exact coherent_indexAll coherent fun _ member => Roster.find?_of_mem member

/-! ## Every history -/

theorem consistent_perform (consistent : service.Consistent)
    (keeps : service.backend.conduct.KeepsIds) (call : Call) :
    (service.perform call).2.Consistent := by
  have quiet := consistent.quiet
  cases call with
  | create entry =>
    rw [perform, reply_snd]
    exact consistent_saving consistent keeps (create_saving quiet entry)
  | update id change =>
    rw [perform, reply_snd]
    exact consistent_saving consistent keeps (update_saving quiet id change)
  | delete id =>
    rw [perform, reply_snd]
    exact consistent_deleting consistent (delete_deleting quiet id)
  | get id =>
    rw [perform, reply_snd, get_of_quiet quiet]
    exact consistent
  | preview id =>
    rw [perform, reply_snd]
    exact consistent_reading consistent (preview_reading quiet id)
  | search query =>
    rw [perform, reply_snd]
    exact consistent_previews consistent _
  | sanitize =>
    exact ⟨consistent.mirrors.agrees.prune consistent.mirrors.bare, consistent.coherent, quiet⟩
  | rebuild =>
    rw [perform, reply_snd]
    exact consistent_rebuilding consistent (rebuild_rebuilding service)

/-- **Every event that lets the store keep ids keeps a service consistent.** -/
theorem consistent_react (consistent : service.Consistent)
    (keeps : service.backend.conduct.KeepsIds) (event : Event) :
    (service.react event).Consistent := by
  cases event with
  | call call => exact consistent_perform consistent keeps call
  | conduct | elapse => exact ⟨consistent.mirrors, consistent.coherent, consistent.quiet⟩

theorem consistent_start {config : Config} {store : Store} {conduct : Conduct} {started : Service}
    (ok : start config { store, conduct } = .ok started) : started.Consistent := by
  rw [eq_of_start ok]
  let opening : Service := (ofBackend config { store, conduct }).flushed
  have nothing : opening.engine.index = Index.empty := flushed_index _
  have backend : opening.backend = { store, conduct } := flushed_backend _
  have coherent : opening.engine.cache.Coherent store :=
    coherent_flushed (Cache.coherent_of_slots_empty rfl store)
  refine ⟨?_, ?_, ?_⟩
  · show (opening.engine.indexAll store.items).index.Mirrors opening.backend.store
    rw [backend]
    exact Engine.mirrors_indexAll nothing store
  · show (opening.engine.indexAll store.items).cache.Coherent opening.backend.store
    rw [backend]
    exact coherent_indexAll coherent fun _ member => Roster.find?_of_mem member
  · show opening.backend.races = Roster.empty
    rw [backend]

end Service

/-- **A service that is reached with stores that keep ids is consistent.** -/
theorem Reached.consistent {service : Service} (reached : Reached Conduct.KeepsIds service) :
    service.Consistent := by
  induction reached with
  | start _ started => exact Service.consistent_start started
  | react before _ ih => exact Service.consistent_react ih before.quiet_and_admitted.2 _

/-! ## The index of a reached service -/

/-- **The index of a reached service is the one that a rebuild makes from nothing.**  It
holds at each path the ids of the stored entries that spell the path, it has a path
only where an id is held, and its points are the root and the paths that stored
entries spell. -/
theorem index_eq_rebuilt {service : Service} (reached : Reached Conduct.KeepsIds service)
    (config : Config) :
    (∃ rebuilt, (Service.ofBackend config { store := service.backend.store }).rebuild =
        (.ok service.backend.store.size, rebuilt) ∧
      service.engine.index = rebuilt.engine.index) ∧
    (∀ path id, service.engine.index.Holds path id ↔
      ∃ entry ∈ service.backend.store.items, entry.id = id ∧ entry.Spells path) ∧
    (∀ path, service.engine.index.HasPath path ↔ ∃ id, service.engine.index.Holds path id) ∧
    service.engine.index.nodeCount = 1 + service.backend.store.paths.card := by
  have mirrors := reached.consistent.mirrors
  refine ⟨?_, fun _ _ => mirrors.agrees.holds_iff_mem, fun _ => mirrors.hasPath_iff_exists_holds,
    mirrors.nodeCount_eq⟩
  let opening : Service := Service.ofBackend config { store := service.backend.store }
  have nothing : opening.flushed.engine.index = Index.empty := Service.flushed_index opening
  exact ⟨_, Service.rebuild_of_lists rfl,
    mirrors.unique (Engine.mirrors_indexAll nothing service.backend.store)⟩

theorem index_eq_rebuilt_sample :
    Reached Conduct.KeepsIds sampleService ∧
    (∃ rebuilt, (Service.ofBackend {} { store := sampleService.backend.store }).rebuild =
        (.ok sampleService.backend.store.size, rebuilt) ∧
      sampleService.engine.index = rebuilt.engine.index) ∧
    (∀ path id, sampleService.engine.index.Holds path id ↔
      ∃ entry ∈ sampleService.backend.store.items, entry.id = id ∧ entry.Spells path) ∧
    (∀ path, sampleService.engine.index.HasPath path ↔
      ∃ id, sampleService.engine.index.Holds path id) ∧
    sampleService.engine.index.nodeCount = 1 + sampleService.backend.store.paths.card ∧
    sampleService.backend.store.paths.card = 14 := by
  obtain ⟨rebuilt, held, paths, points⟩ := index_eq_rebuilt reached_sample {}
  exact ⟨reached_sample, rebuilt, held, paths, points, by decide +kernel⟩

end KeywordSearch
