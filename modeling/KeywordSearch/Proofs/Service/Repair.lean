import KeywordSearch.Proofs.Engine.Replay
import KeywordSearch.Proofs.Service.Races

/-!
# Rebuilding repairs what is missing

An index and a cache may have drifted from the store in any way: the store was
changed behind the service, or the index is empty, stale or wrong, and so are the
previews in the cache.  Rebuilding indexes every stored entry over what is there.

It takes nothing away.  So each stored entry is found under all the initial parts of
its tokens afterwards, what was held before is still held, right or wrong, and
nothing else is held than what the stored entries spell.  In the cache the preview of
each stored entry takes the place of whatever was there for its id, which is why
reading it answers with what is stored, from the cache or from the store, as long as
nothing is put into the cache while it is looked up.

Nothing of this depends on the order in which the entries are indexed, nor on when
the steps are taken, so it holds of a rebuild by several threads as well.

Where the store does not list its entries, rebuilding comes no further than to empty
the cache.
-/

set_option autoImplicit false

namespace KeywordSearch

/-! ## What is fresh after indexing -/

/-- What is fresh is cached, in a cache that is switched on. -/
theorem Cache.kept?_of_fresh? {cache : Cache} {id : EntryId} {preview : Preview}
    (fresh : cache.fresh? id = some preview) :
    cache.enabled = true ∧ cache.kept? id = some preview := by
  rw [fresh?] at fresh
  split at fresh
  next enabled =>
    split at fresh
    next slot held =>
      split at fresh
      next => cases fresh
      next =>
        refine ⟨enabled, ?_⟩
        rw [kept?, held]
        exact fresh
    next => cases fresh
  next => cases fresh

namespace Engine

variable {entries : List Entry} {entry : Entry}

/-- Whichever of several entries may be taken for the last one that was indexed. -/
theorem exists_eq_indexEntry (engine : Engine) (distinct : (entries.map Entry.id).Nodup)
    (member : entry ∈ entries) : ∃ before, engine.indexAll entries = indexEntry before entry := by
  obtain ⟨front, rest, rfl⟩ := List.append_of_mem member
  have order : (front ++ rest ++ [entry]).Perm (front ++ entry :: rest) :=
    (List.perm_append_singleton entry (front ++ rest)).trans List.perm_middle.symm
  refine ⟨engine.indexAll (front ++ rest), ?_⟩
  rw [← indexAll_perm distinct order, indexAll, List.foldl_append]
  rfl

/-- The preview of an entry that was just indexed is fresh, unless the cache is switched off
or previews expire at once. -/
theorem fresh?_indexAll (engine : Engine) (distinct : (entries.map Entry.id).Nodup)
    (member : entry ∈ entries) :
    (engine.indexAll entries).cache.fresh? entry.id = some entry.preview ∨
      (engine.indexAll entries).cache.enabled = false ∨
      (engine.indexAll entries).cache.ttlSecs = 0 := by
  obtain ⟨before, last⟩ := exists_eq_indexEntry engine distinct member
  have settings : (before.cache.put entry).ttlSecs = before.cache.ttlSecs := by
    rw [Cache.put_settings]
  rw [last, indexEntry, Cache.fresh?_put, Cache.put_enabled, settings]
  by_cases enabled : before.cache.enabled = true
  · by_cases expiring : before.cache.ttlSecs = 0
    · exact .inr (.inr expiring)
    · left
      rw [if_pos ⟨enabled, rfl⟩, if_neg expiring]
  · exact .inr (.inl (Bool.not_eq_true _ ▸ enabled))

end Engine

namespace Service

variable {service after : Service} {entry : Entry}

/-! ## Reading a preview that may be looked up -/

/-- A miss answers with the preview of the stored entry, unless what is put into the cache
meanwhile is there to stay. -/
theorem preview_of_missed (stale : service.engine.cache.fresh? entry.id = none)
    (found : service.backend.store.find? entry.id = some entry)
    (finds : service.backend.conduct.findFaultOf entry.id = none)
    (alone : service.backend.races.find? entry.id = none ∨
      service.engine.cache.enabled = false ∨ service.engine.cache.ttlSecs = 0) :
    (service.preview entry.id).1 = .ok entry.preview := by
  cases raced? : service.backend.raced? entry.id with
  | none =>
    have unraced : (service.mapCache Cache.countMiss).backend.raced? entry.id = none := raced?
    have missed : (service.engine.cache.countMiss).fresh? entry.id = none := stale
    rw [preview, stale]
    simp only [lookup_of_unraced unraced, mapCache_backend, peek_of_finds finds, found,
      mapCache_cache, Cache.fill, missed]
  | some raced =>
    have outdated : ¬(service.engine.cache.enabled = true ∧ raced.id = entry.id ∧
        service.engine.cache.ttlSecs ≠ 0) := by
      rintro ⟨enabled, _, lasting⟩
      rcases alone with none | disabled | expiring
      · rw [Backend.raced?, none] at raced?
        cases raced?
      · exact Bool.false_ne_true (disabled.symm.trans enabled)
      · exact lasting expiring
    rw [preview_of_raced raced? stale finds, completed_of_found stale found]
    exact if_neg outdated

/-- Where what is cached for the id of a stored entry is its preview, reading answers with it. -/
theorem preview_of_kept
    (kept : ∀ preview, service.engine.cache.fresh? entry.id = some preview →
      preview = entry.preview)
    (found : service.backend.store.find? entry.id = some entry)
    (finds : service.backend.conduct.findFaultOf entry.id = none)
    (alone : service.engine.cache.fresh? entry.id = some entry.preview ∨
      service.backend.races.find? entry.id = none ∨
      service.engine.cache.enabled = false ∨ service.engine.cache.ttlSecs = 0) :
    (service.preview entry.id).1 = .ok entry.preview := by
  cases fresh : service.engine.cache.fresh? entry.id with
  | some preview =>
    rw [preview_of_fresh fresh, kept preview fresh]
  | none =>
    refine preview_of_missed fresh found finds (alone.resolve_left ?_)
    rw [fresh]
    exact (Option.some_ne_none _).symm

/-! ## What rebuilding comes to -/

/-- A service with the same store whose index and cache have been repaired. -/
structure Repaired (before after : Service) : Prop where
  backend : after.backend = before.backend
  /-- What was held is held, and besides it what the stored entries spell. -/
  holds_iff : ∀ path id, after.engine.index.Holds path id ↔
    before.engine.index.Holds path id ∨
      ∃ entry, before.backend.store.find? id = some entry ∧ entry.Spells path
  /-- Each stored entry is found under the nonempty initial parts of its tokens. -/
  finds : ∀ entry ∈ before.backend.store.items, ∀ token ∈ entry.tokens, ∀ path, path ≠ [] →
    path <+: token → (after.engine.index.search path).contains entry.id = true
  /-- The preview of a stored entry is read at any later time, if its look-up does not fail
  and nothing is put into the cache during it. -/
  previews : ∀ entry ∈ before.backend.store.items,
    before.backend.conduct.findFaultOf entry.id = none →
    before.backend.races.find? entry.id = none →
    ∀ ticks, ((after.mapCache (·.elapse ticks)).preview entry.id).1 = .ok entry.preview

/-- What is held in the rebuilt index. -/
theorem holds_rebuild (lists : service.backend.conduct.listFault = none) {path : List Char}
    {id : EntryId} :
    service.rebuild.2.engine.index.Holds path id ↔ service.engine.index.Holds path id ∨
      ∃ entry, service.backend.store.find? id = some entry ∧ entry.Spells path := by
  rw [rebuild_of_lists lists, mapEngine, Engine.holds_indexAll, flushed_index,
    Store.exists_find?_iff]

/-- A preview of a stored entry that is fresh in the rebuilt cache, at whatever time, is that
of the stored entry. -/
theorem eq_preview_of_kept?_rebuild (lists : service.backend.conduct.listFault = none)
    (found : service.backend.store.find? entry.id = some entry)
    (enabled : service.engine.cache.enabled = true) {preview : Preview}
    (kept : service.rebuild.2.engine.cache.kept? entry.id = some preview) :
    preview = entry.preview := by
  rw [kept?_rebuild lists, if_pos enabled, found, Option.map_some, Option.some_or] at kept
  exact (Option.some.inj kept).symm

/-- **With the contents of a rebuilt engine a service is repaired.** -/
theorem repaired_of_sameContents (lists : service.backend.conduct.listFault = none)
    (backend : after.backend = service.backend)
    (same : after.engine.SameContents service.rebuild.2.engine) : Repaired service after where
  backend := backend
  holds_iff := by
    intro path id
    rw [same.index]
    exact holds_rebuild lists
  finds := by
    intro entry stored token member path nonempty initial
    have spells : entry.Spells path := ⟨nonempty, token, member, initial⟩
    have holds : after.engine.index.Holds path entry.id := by
      rw [same.index]
      exact (holds_rebuild lists).2 (.inr ⟨entry, Roster.find?_of_mem stored, spells⟩)
    exact (Index.contains_search_of_hasPath holds.hasPath).2 holds
  previews := by
    intro entry stored finds unraced ticks
    have found : service.backend.store.find? entry.id = some entry := Roster.find?_of_mem stored
    refine preview_of_kept ?_ ?_ ?_ (.inr (.inl ?_))
    · intro preview fresh
      obtain ⟨enabled, kept⟩ := Cache.kept?_of_fresh? fresh
      have on : service.engine.cache.enabled = true :=
        (rebuild_settings service).2.2.symm.trans (same.enabled.symm.trans enabled)
      exact eq_preview_of_kept?_rebuild lists found on ((same.kept entry.id).symm.trans kept)
    · rw [mapCache_backend, backend, found]
    · rw [mapCache_backend, backend, finds]
    · rw [mapCache_backend, backend, unraced]

/-- As soon as the index has been rebuilt, the preview of a stored entry is read, whatever is
put into the cache meanwhile. -/
theorem preview_rebuild (lists : service.backend.conduct.listFault = none)
    (stored : entry ∈ service.backend.store.items)
    (finds : service.backend.conduct.findFaultOf entry.id = none) :
    (service.rebuild.2.preview entry.id).1 = .ok entry.preview := by
  have found : service.backend.store.find? entry.id = some entry := Roster.find?_of_mem stored
  have backend : service.rebuild.2.backend = service.backend := (rebuild_settings service).1
  refine preview_of_kept ?_ ?_ ?_ ?_
  · intro preview fresh
    obtain ⟨enabled, kept⟩ := Cache.kept?_of_fresh? fresh
    have on : service.engine.cache.enabled = true :=
      (rebuild_settings service).2.2.symm.trans enabled
    exact eq_preview_of_kept?_rebuild lists found on kept
  · rw [backend, found]
  · rw [backend, finds]
  · have fresh := Engine.fresh?_indexAll service.flushed.engine
      service.backend.store.nodup_ids stored
    rw [rebuild_of_lists lists]
    exact fresh.imp_right .inr

end Service

/-- **Rebuilding repairs a service in whatever state it is.**  If the store lists its entries,
the answer is their number and the service is repaired, however the steps of indexing them
follow upon each other; right after rebuilding the preview of a stored entry is read even if
another one is put into the cache meanwhile.  If the store does not list its entries, its
error is the answer, and nothing changes but that the cache is emptied if the configuration
says so. -/
theorem rebuild_repairs (service : Service) :
    (service.backend.conduct.listFault = none →
      service.rebuild.1 = .ok service.backend.store.size ∧
      service.Repaired service.rebuild.2 ∧
      (∀ entry ∈ service.backend.store.items,
        service.backend.conduct.findFaultOf entry.id = none →
        (service.rebuild.2.preview entry.id).1 = .ok entry.preview) ∧
      ∀ schedule : List (Nat × Step),
        (schedule.map Prod.snd).Perm (service.backend.store.items.flatMap Entry.steps) →
        service.Repaired (service.flushed.mapEngine (·.follow schedule))) ∧
    ∀ text, service.backend.conduct.listFault = some text →
      service.rebuild.1 = .error (.store text) ∧
      service.rebuild.2 = service.mapCache fun cache =>
        if service.engine.config.flushCacheOnStartup then cache.clear else cache := by
  constructor
  · intro lists
    have rebuilds := Service.rebuild_of_lists lists
    refine ⟨by rw [rebuilds], ?_, ?_, ?_⟩
    · exact Service.repaired_of_sameContents lists (Service.rebuild_settings service).1 (.refl _)
    · intro entry stored finds
      exact Service.preview_rebuild lists stored finds
    · intro schedule order
      have followed : (service.flushed.engine.follow schedule).SameContents
          ((schedule.map Prod.snd).foldl Engine.take service.flushed.engine) :=
        Engine.sameContents_follow schedule
      rw [Engine.foldl_take_perm service.backend.store.nodup_ids order] at followed
      refine Service.repaired_of_sameContents lists (Service.flushed_backend service) ?_
      rw [rebuilds]
      exact followed
  · intro text refuses
    rw [Service.rebuild_of_refuses refuses, Service.flushed]
    refine ⟨rfl, ?_⟩
    split <;> rfl

/-- A service whose store was changed behind it: it finds an entry under a token that the
entry no longer has, and another one that is not stored; it has a stale preview, and one that
is not stored. -/
def outdatedService : Service where
  engine :=
    { config := {}
      index := (Index.empty.insert "fax".toList ⟨1⟩).insert "toner*".toList ⟨9⟩
      cache := ((Cache.ofConfig {}).put { id := ⟨1⟩, question := "Fax" }).put
        { id := ⟨9⟩, question := "Gone" } }
  backend := { store := sampleStore, conduct := { findFaults := .ofList [(⟨2⟩, "busy")] } }

/-- A service like the outdated one, whose store does not list its entries and whose cache is
to be emptied. -/
def unlistedService : Service :=
  ⟨{ outdatedService.engine with config := { flushCacheOnStartup := true } },
    { store := sampleStore, conduct := { listFault := some "offline" } }⟩

theorem rebuild_repairs_sample :
    outdatedService.backend.conduct.listFault = none ∧
    outdatedService.rebuild.1 = .ok 2 ∧
    outdatedService.Repaired outdatedService.rebuild.2 ∧
    (outdatedService.engine.index.search "toner".toList).contains ⟨2⟩ = false ∧
    (outdatedService.rebuild.2.engine.index.search "toner".toList).contains ⟨2⟩ = true ∧
    (outdatedService.preview ⟨1⟩).1 = .ok ⟨⟨1⟩, "Fax", true⟩ ∧
    (outdatedService.rebuild.2.preview ⟨1⟩).1 = .ok ⟨⟨1⟩, "Printer offline", true⟩ ∧
    unlistedService.rebuild.1 = .error (.store "offline") ∧
    unlistedService.rebuild.2 = unlistedService.mapCache Cache.clear := by
  obtain ⟨number, repaired, previews, _⟩ := (rebuild_repairs outdatedService).1 rfl
  obtain ⟨failed, cleared⟩ := (rebuild_repairs unlistedService).2 "offline" rfl
  let offline : Entry :=
    { id := ⟨1⟩, question := "Printer offline", keywords := ["print", "printer"] }
  let toner : Entry := { id := ⟨2⟩, question := "Printer toner", keywords := ["Printer", "toner*"] }
  have storedOffline : offline ∈ outdatedService.backend.store.items := by decide +kernel
  have storedToner : toner ∈ outdatedService.backend.store.items := by decide +kernel
  have found := repaired.finds toner storedToner "toner*".toList (by decide +kernel) "toner".toList
    (by decide) (by decide)
  exact ⟨rfl, number, repaired, by decide +kernel, found, by decide +kernel,
    previews offline storedOffline rfl, failed, cleared⟩

end KeywordSearch
