import KeywordSearch.Service

/-!
# What can come of a call

While no preview is on its way into the cache a service is quiet, and looking up
an entry leaves it as it is.  Of a quiet service this module says, once for each
kind of call, everything that the call can come to: the answer, the service
afterwards, and what was the case when it was called.

* `Saving`: what creating and updating come to.  Either nothing was touched, or
  an entry was added, or the entry stored under the requested id was replaced,
  or the store refused and that entry was put back.
* `Deleting`: what deleting comes to.
* `Reading`: what reading a preview comes to.
* `Rebuilding`: what rebuilding the index comes to, of any service.
-/

set_option autoImplicit false

namespace KeywordSearch

/-- What a look-up answers, if it does not fail, is what is stored. -/
theorem Backend.find?_of_peek {backend : Backend} {id : EntryId} {found : Option Entry}
    (answer : backend.peek id = .ok found) : backend.store.find? id = found := by
  rw [peek] at answer
  split at answer
  · cases answer
  · exact Except.ok.inj answer

/-- An entry that may be stored when one with the requested id is to be saved. -/
def Conduct.Stores (conduct : Conduct) (requested : EntryId) (saved : Entry) : Prop :=
  ∃ offered : Entry, offered.id = requested ∧ conduct.amend offered = saved

namespace Service

variable {service : Service}

/-- No preview is on its way into the cache. -/
def Quiet (service : Service) : Prop := service.backend.races = Roster.empty

/-- The service with other entries stored. -/
def withStore (service : Service) (store : Store) : Service :=
  { service with backend := { service.backend with store } }

/-- The service with a saved entry in the store. -/
def keep (service : Service) (saved : Entry) : Service :=
  service.withStore (service.backend.store.insert saved)

/-! ## Operations that leave the backend alone -/

section Backend

variable (service : Service) (entry : Entry) (change : Cache → Cache)

@[simp] theorem index_backend : (service.index entry).backend = service.backend := rfl

@[simp] theorem unindex_backend : (service.unindex entry).backend = service.backend := rfl

@[simp] theorem sanitize_backend : service.sanitize.backend = service.backend := rfl

@[simp] theorem index_root :
    (service.index entry).engine.index.root.ids = service.engine.index.root.ids :=
  Index.root_ids_insertAll service.engine.index entry.tokens entry.id

@[simp] theorem unindex_root :
    (service.unindex entry).engine.index.root.ids = service.engine.index.root.ids :=
  Index.root_ids_removeAll service.engine.index entry.tokens entry.id

@[simp] theorem sanitize_root :
    service.sanitize.engine.index.root.ids = service.engine.index.root.ids := rfl

@[simp] theorem mapCache_backend : (service.mapCache change).backend = service.backend := rfl

@[simp] theorem mapCache_config :
    (service.mapCache change).engine.config = service.engine.config := rfl

@[simp] theorem mapCache_index :
    (service.mapCache change).engine.index = service.engine.index := rfl

@[simp] theorem mapCache_cache :
    (service.mapCache change).engine.cache = change service.engine.cache := rfl

end Backend

/-! ## Looking up -/

/-- A look-up leaves a quiet service as it is. -/
theorem lookup_of_quiet (quiet : service.Quiet) (id : EntryId) :
    service.lookup id = (service.backend.peek id, service) := by
  obtain ⟨engine, store, conduct, races⟩ := service
  cases quiet
  rfl

/-- What is stored under an id; it is a failure if nothing is. -/
def stored (service : Service) (id : EntryId) : Except Failure Entry :=
  match service.backend.peek id with
  | .error failure => .error failure
  | .ok none => .error (.entryNotFound id)
  | .ok (some entry) => .ok entry

theorem find?_of_stored {id : EntryId} {entry : Entry} (answer : service.stored id = .ok entry) :
    service.backend.store.find? id = some entry := by
  rw [stored] at answer
  split at answer
  next => cases answer
  next => cases answer
  next found =>
    cases answer
    exact Backend.find?_of_peek found

theorem get_of_quiet (quiet : service.Quiet) (id : EntryId) :
    service.get id = (service.stored id, service) := by
  rw [get, lookup_of_quiet quiet, stored]
  rcases service.backend.peek id with failure | _ | entry <;> rfl

/-! ## Saving -/

/-- What comes of a call that saves an entry under a requested id. -/
inductive Saving (service : Service) (requested : EntryId) : Except Failure Entry → Service → Prop
  | refused (failure : Failure) : Saving service requested (.error failure) service
  | added {saved : Entry} (absent : service.backend.store.find? requested = none)
      (stores : service.backend.conduct.Stores requested saved) :
      Saving service requested (.ok saved) ((service.keep saved).index saved)
  | restored {previous : Entry} (failure : Failure)
      (found : service.backend.store.find? requested = some previous) :
      Saving service requested (.error failure) ((service.unindex previous).index previous)
  | replaced {previous saved : Entry}
      (found : service.backend.store.find? requested = some previous)
      (stores : service.backend.conduct.Stores requested saved) :
      Saving service requested (.ok saved)
        (((service.unindex previous).keep saved).index saved).sanitize

/-- A store either refuses to save an entry or stores what it makes of it. -/
theorem save_cases (backend : Backend) (entry : Entry) :
    (∃ text, backend.save entry = (.error (.store text), backend)) ∨
      backend.save entry = (.ok (backend.conduct.amend entry),
        { backend with store := backend.store.insert (backend.conduct.amend entry) }) := by
  rw [Backend.save]
  cases backend.conduct.saveFault with
  | none => exact .inr rfl
  | some text => exact .inl ⟨text, rfl⟩

theorem create_saving (quiet : service.Quiet) (entry : Entry) :
    Saving service entry.id (service.create entry).1 (service.create entry).2 := by
  rw [create, lookup_of_quiet quiet]
  rcases found : service.backend.peek entry.id with failure | _ | previous
  · exact .refused failure
  · rcases save_cases service.backend entry with ⟨text, refuses⟩ | saves
    · simp only [refuses]
      exact .refused _
    · simp only [saves]
      exact .added (Backend.find?_of_peek found) ⟨entry, rfl, rfl⟩
  · rcases save_cases service.backend entry with ⟨text, refuses⟩ | saves
    · simp only [unindex_backend, refuses]
      exact .restored _ (Backend.find?_of_peek found)
    · simp only [unindex_backend, saves]
      exact .replaced (Backend.find?_of_peek found) ⟨entry, rfl, rfl⟩

theorem update_saving (quiet : service.Quiet) (id : EntryId) (change : Update) :
    Saving service id (service.update id change).1 (service.update id change).2 := by
  rw [update, get_of_quiet quiet]
  rcases answer : service.stored id with failure | current
  · exact .refused failure
  · have found : service.backend.store.find? id = some current := find?_of_stored answer
    have requested : (current.apply change).id = id := Roster.entryId_of_find? found
    rcases save_cases service.backend (current.apply change) with ⟨text, refuses⟩ | saves
    · simp only [unindex_backend, refuses]
      exact .restored _ found
    · simp only [unindex_backend, saves]
      exact .replaced found ⟨current.apply change, requested, rfl⟩

theorem Saving.backend_eq {after : Service} {requested : EntryId} {answer : Except Failure Entry}
    (saving : Saving service requested answer after) :
    ∃ store, after.backend = { service.backend with store } := by
  cases saving <;> exact ⟨_, rfl⟩

/-! ## Deleting -/

/-- What comes of deleting an entry. -/
inductive Deleting (service : Service) (id : EntryId) : Except Failure Unit → Service → Prop
  | refused (failure : Failure) : Deleting service id (.error failure) service
  | restored {current : Entry} (failure : Failure)
      (found : service.backend.store.find? id = some current) :
      Deleting service id (.error failure) ((service.unindex current).sanitize.index current)
  | deleted {current : Entry} (found : service.backend.store.find? id = some current) :
      Deleting service id (.ok ())
        ((service.unindex current).sanitize.withStore (service.backend.store.erase id))

theorem delete_deleting (quiet : service.Quiet) (id : EntryId) :
    Deleting service id (service.delete id).1 (service.delete id).2 := by
  rw [delete, get_of_quiet quiet]
  rcases answer : service.stored id with failure | current
  · exact .refused failure
  · have found : service.backend.store.find? id = some current := find?_of_stored answer
    simp only [sanitize_backend, unindex_backend, Backend.delete]
    cases service.backend.conduct.deleteFault with
    | none => exact .deleted found
    | some text => exact .restored _ found

theorem Deleting.backend_eq {after : Service} {id : EntryId} {answer : Except Failure Unit}
    (deleting : Deleting service id answer after) :
    ∃ store, after.backend = { service.backend with store } := by
  cases deleting <;> exact ⟨_, rfl⟩

/-! ## Reading a preview -/

/-- What comes of reading a preview. -/
inductive Reading (service : Service) (id : EntryId) : Except Failure Preview → Service → Prop
  | hit {preview : Preview} (fresh : service.engine.cache.fresh? id = some preview) :
      Reading service id (.ok preview) (service.mapCache Cache.countHit)
  | failed {text : String} (stale : service.engine.cache.fresh? id = none)
      (fault : service.backend.conduct.findFaultOf id = some text) :
      Reading service id (.error (.store text)) (service.mapCache Cache.countMiss)
  | missing (stale : service.engine.cache.fresh? id = none)
      (finds : service.backend.conduct.findFaultOf id = none)
      (absent : service.backend.store.find? id = none) :
      Reading service id (.error (.entryNotFound id))
        (service.mapCache fun cache => cache.countMiss.evictExpired id)
  | loaded {entry : Entry} (stale : service.engine.cache.fresh? id = none)
      (finds : service.backend.conduct.findFaultOf id = none)
      (found : service.backend.store.find? id = some entry) :
      Reading service id (.ok entry.preview)
        (service.mapCache fun cache => cache.countMiss.put entry)

theorem preview_reading (quiet : service.Quiet) (id : EntryId) :
    Reading service id (service.preview id).1 (service.preview id).2 := by
  have stays : (service.mapCache Cache.countMiss).Quiet := quiet
  rw [preview, lookup_of_quiet stays]
  cases fresh : service.engine.cache.fresh? id with
  | some preview => exact .hit fresh
  | none =>
    rw [mapCache_backend, Backend.peek]
    cases fault : service.backend.conduct.findFaultOf id with
    | some text => exact .failed fresh fault
    | none =>
      cases found : service.backend.store.find? id with
      | none => exact .missing fresh fault found
      | some entry =>
        have same : entry.id = id := Roster.entryId_of_find? found
        have stale : (service.mapCache Cache.countMiss).engine.cache.fresh? entry.id = none :=
          same ▸ fresh
        simp only [Cache.fill, stale]
        exact .loaded fresh fault found

/-- Reading a preview changes the cache and nothing else. -/
theorem Reading.eq_mapCache {after : Service} {id : EntryId} {answer : Except Failure Preview}
    (reading : Reading service id answer after) :
    after = service.mapCache fun _ => after.engine.cache := by
  cases reading <;> rfl

/-- Reading previews changes the cache and nothing else. -/
theorem previews_eq_mapCache (quiet : service.Quiet) (ids : List EntryId) :
    (service.previews ids).2 =
      service.mapCache fun _ => (service.previews ids).2.engine.cache := by
  induction ids generalizing service with
  | nil => rfl
  | cons id rest ih =>
    have first := (preview_reading quiet id).eq_mapCache
    have stays : (service.preview id).2.Quiet := by
      rw [first]
      exact quiet
    rw [previews, ih stays]
    generalize ((service.preview id).2.previews rest).2.engine.cache = last
    rw [first]
    rfl

theorem Reading.backend_eq {after : Service} {id : EntryId} {answer : Except Failure Preview}
    (reading : Reading service id answer after) : after.backend = service.backend := by
  rw [reading.eq_mapCache, mapCache_backend]

/-- Searching changes the cache and nothing else. -/
theorem search_eq_mapCache (quiet : service.Quiet) (query : String) :
    (service.search query).2 =
      service.mapCache fun _ => (service.search query).2.engine.cache := by
  have reading := previews_eq_mapCache quiet ((service.engine.candidates query).map Candidate.id)
  rw [search]
  generalize service.previews ((service.engine.candidates query).map Candidate.id) = came
    at reading ⊢
  exact reading

theorem search_backend (quiet : service.Quiet) (query : String) :
    (service.search query).2.backend = service.backend := by
  rw [search_eq_mapCache quiet, mapCache_backend]

/-! ## Rebuilding -/

/-- The service with an empty cache, if its configuration says that the cache is to be
emptied before rebuilding. -/
def flushed (service : Service) : Service :=
  if service.engine.config.flushCacheOnStartup then service.mapCache Cache.clear else service

@[simp] theorem flushed_backend (service : Service) :
    service.flushed.backend = service.backend := by
  rw [flushed]
  split <;> rfl

@[simp] theorem flushed_index (service : Service) :
    service.flushed.engine.index = service.engine.index := by
  rw [flushed]
  split <;> rfl

@[simp] theorem flushed_config (service : Service) :
    service.flushed.engine.config = service.engine.config := by
  rw [flushed]
  split <;> rfl

@[simp] theorem flushed_enabled (service : Service) :
    service.flushed.engine.cache.enabled = service.engine.cache.enabled := by
  rw [flushed]
  split <;> rfl

/-- What comes of rebuilding the index. -/
inductive Rebuilding (service : Service) : Except Failure Nat → Service → Prop
  | failed (failure : Failure) : Rebuilding service (.error failure) service.flushed
  | rebuilt : Rebuilding service (.ok service.backend.store.size)
      (service.flushed.mapEngine (·.indexAll service.backend.store.items))

theorem Rebuilding.backend_eq {after : Service} {answer : Except Failure Nat}
    (rebuilding : Rebuilding service answer after) : after.backend = service.backend := by
  cases rebuilding <;> exact flushed_backend service

/-- Rebuilding succeeds where the store lists its entries. -/
theorem rebuild_of_lists (lists : service.backend.conduct.listFault = none) :
    service.rebuild = (.ok service.backend.store.size,
      service.flushed.mapEngine (·.indexAll service.backend.store.items)) := by
  rw [rebuild, ← flushed]
  simp only [flushed_backend, Backend.list, lists]
  rfl

/-- Where the store refuses to list its entries, rebuilding comes no further than emptying
the cache. -/
theorem rebuild_of_refuses {text : String}
    (refuses : service.backend.conduct.listFault = some text) :
    service.rebuild = (.error (.store text), service.flushed) := by
  rw [rebuild, ← flushed]
  simp only [flushed_backend, Backend.list, refuses]

theorem rebuild_rebuilding (service : Service) :
    Rebuilding service service.rebuild.1 service.rebuild.2 := by
  cases lists : service.backend.conduct.listFault with
  | none =>
    rw [rebuild_of_lists lists]
    exact .rebuilt
  | some text =>
    rw [rebuild_of_refuses lists]
    exact .failed _

/-- A service that has been started has indexed what is stored. -/
theorem eq_of_start {config : Config} {backend : Backend} {started : Service}
    (ok : start config backend = .ok started) :
    started = (ofBackend config backend).flushed.mapEngine (·.indexAll backend.store.items) := by
  have valid : config.isValid = true := by
    refine Classical.byContradiction fun notValid => ?_
    rw [start, Config.validate, if_neg notValid] at ok
    cases ok
  rw [start, Config.validate, if_pos valid] at ok
  have came := rebuild_rebuilding (ofBackend config backend)
  rcases rebuilding : (ofBackend config backend).rebuild with ⟨answer, after⟩
  simp only [rebuilding] at ok came
  cases came with
  | failed => cases ok
  | rebuilt => exact (Except.ok.inj ok).symm

end Service

end KeywordSearch
