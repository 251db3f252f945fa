import KeywordSearch.Proofs.Service.Atomicity
import KeywordSearch.Proofs.Service.Races
import KeywordSearch.Proofs.Service.Resolution
import KeywordSearch.Proofs.Service.Updates

/-!
# Puts that race with a call

A call that changes an entry begins by looking it up, and while it waits for the
store a stale or fictitious state of that entry may be put into the cache.  Once
the entry is unindexed the put leaves no trace, since its slot is emptied; and a
call that only adds an entry puts what was saved over it.  So the call comes to
exactly what it would have come to without the put, unless it fails where nothing
is stored under its id (`perform_mapCache_put`).

What a reached service answers after the call is therefore what it answers without
races: previews of the entries that are stored, and nothing of an entry that was
deleted (`stale_put_leaves_no_trace`).
-/

set_option autoImplicit false

namespace KeywordSearch

/-! ## Slots that are emptied or overwritten -/

namespace Cache

theorem evict_put (cache : Cache) (raced : Entry) :
    (cache.put raced).evict raced.id = cache.evict raced.id :=
  (differsAt_put cache raced).evict_eq

theorem put_put (cache : Cache) {raced entry : Entry} (same : raced.id = entry.id) :
    (cache.put raced).put entry = cache.put entry := by
  have slots : entryId (⟨raced.preview, cache.now⟩ : Slot) =
      entryId (⟨entry.preview, cache.now⟩ : Slot) := same
  rw [put, put, put]
  cases enabled : cache.enabled with
  | false => simp [enabled]
  | true => simp [keep, enabled, Roster.insert_insert slots]

end Cache

namespace Service

variable {service after : Service} {id : EntryId} {raced previous saved : Entry}

/-- The service with a put that is to race with the next look-up of an id. -/
def withRace (service : Service) (id : EntryId) (raced : Entry) : Service :=
  { service with
    backend := { service.backend with races := service.backend.races.insert ⟨id, raced, false⟩ } }

/-! ## The look-up of a call -/

theorem races_withRace (service : Service) (id : EntryId) (raced : Entry) :
    (service.withRace id raced).Races id raced false := by
  have carried : entryId (⟨id, raced, false⟩ : Race) = id := rfl
  rw [Races, withRace, Roster.find?_insert, if_pos carried]

/-- When its race is over a quiet service is as it was. -/
theorem settle_withRace (quiet : service.Quiet) (id : EntryId) (raced : Entry) :
    (service.withRace id raced).settle id = service := by
  have settled : (service.backend.races.insert ⟨id, raced, false⟩).erase id =
      service.backend.races := by
    rw [quiet]
    refine Roster.ext fun other => ?_
    have carried : entryId (⟨id, raced, false⟩ : Race) = id := rfl
    rw [Roster.find?_erase, Roster.find?_insert, carried]
    split
    · rfl
    next different => rw [if_neg (Ne.symm different)]
  rw [settle, withRace, settled]

/-- The look-up of an id answers as ever, and what raced with it is in the cache. -/
theorem lookup_withRace (quiet : service.Quiet) (raced : Entry)
    (finds : service.backend.conduct.findFaultOf id = none) :
    (service.withRace id raced).lookup id = (service.mapCache (·.put raced)).lookup id := by
  have stays : (service.mapCache (·.put raced)).Quiet := quiet
  have findsStill : (service.withRace id raced).backend.conduct.findFaultOf id = none := finds
  have raced? := (service.races_withRace id raced).raced?_eq
  rw [findsStill] at raced?
  rw [lookup_of_raced raced?, settle_withRace quiet, lookup_of_quiet stays]
  rfl

/-- A call whose look-up a put races with is a call to the service into whose cache that
entry was put before. -/
theorem perform_withRace (quiet : service.Quiet) (raced : Entry)
    (finds : service.backend.conduct.findFaultOf id = none) {call : Call}
    (targets : call.target = some id) :
    (service.withRace id raced).perform call =
      (service.mapCache (·.put raced)).perform call := by
  have looks := lookup_withRace quiet raced finds
  cases call with
  | create entry =>
    obtain rfl : entry.id = id := Option.some.inj targets
    rw [perform, perform, create, create, looks]
  | update other change =>
    obtain rfl : other = id := Option.some.inj targets
    rw [perform, perform, update, update, get, get, looks]
  | delete other =>
    obtain rfl : other = id := Option.some.inj targets
    rw [perform, perform, delete, delete, get, get, looks]
  | get | preview | search | sanitize | rebuild => cases targets

/-! ## Calls after a put -/

/-- Unindexing an entry takes what was put of it before out of the cache. -/
theorem unindex_mapCache_put (service : Service) (same : raced.id = previous.id) :
    (service.mapCache (·.put raced)).unindex previous = service.unindex previous := by
  have emptied := Cache.evict_put service.engine.cache raced
  rw [same] at emptied
  simp only [unindex, mapCache, mapEngine, Engine.unindexEntry, emptied]

/-- Indexing an entry overwrites what was put of it before. -/
theorem index_mapCache_put (service : Service) (same : raced.id = saved.id) :
    (service.mapCache (·.put raced)).index saved = service.index saved := by
  simp only [index, mapCache, mapEngine, Engine.indexEntry, Cache.put_put _ same]

/-- **A put before a call that changes the same entry leaves no trace.**  The call comes to the
same as without it, unless the call fails and nothing is stored under the id. -/
theorem perform_mapCache_put (quiet : service.Quiet) (keeps : service.backend.conduct.KeepsIds)
    (same : raced.id = id) (finds : service.backend.conduct.findFaultOf id = none) {call : Call}
    (targets : call.target = some id) :
    (service.mapCache (·.put raced)).perform call = service.perform call ∨
      service.backend.store.find? id = none ∧ ∃ failure,
        (service.mapCache (·.put raced)).perform call =
          (.failed failure, service.mapCache (·.put raced)) := by
  have stays : (service.mapCache (·.put raced)).Quiet := quiet
  have peek := peek_of_finds finds
  have stored := stored_of_finds finds
  have storedStill : (service.mapCache (·.put raced)).stored id = service.stored id := rfl
  cases call with
  | create entry =>
    obtain rfl : entry.id = id := Option.some.inj targets
    rw [perform, perform, create, create, lookup_of_quiet stays, lookup_of_quiet quiet,
      mapCache_backend, peek]
    cases found : service.backend.store.find? entry.id with
    | none =>
      rcases save_cases service.backend entry with ⟨text, refuses⟩ | saves
      · simp only [mapCache_backend, refuses]
        exact .inr ⟨trivial, _, rfl⟩
      · have savedId : raced.id = (service.backend.conduct.amend entry).id :=
          same.trans (keeps entry).symm
        simp only [mapCache_backend, saves]
        left
        exact congrArg (fun after : Service => Answered.reply Reply.entry (.ok _, after))
          (index_mapCache_put (service.keep (service.backend.conduct.amend entry)) savedId)
    | some previous =>
      left
      have previousId : previous.id = entry.id := Roster.entryId_of_find? found
      simp only [unindex_mapCache_put service (same.trans previousId.symm)]
  | update other change =>
    obtain rfl : other = id := Option.some.inj targets
    rw [perform, perform, update, update, get_of_quiet stays, get_of_quiet quiet, storedStill,
      stored]
    cases found : service.backend.store.find? other with
    | none => exact .inr ⟨rfl, _, rfl⟩
    | some current =>
      left
      have currentId : current.id = other := Roster.entryId_of_find? found
      simp only [unindex_mapCache_put service (same.trans currentId.symm)]
  | delete other =>
    obtain rfl : other = id := Option.some.inj targets
    rw [perform, perform, delete, delete, get_of_quiet stays, get_of_quiet quiet, storedStill,
      stored]
    cases found : service.backend.store.find? other with
    | none => exact .inr ⟨rfl, _, rfl⟩
    | some current =>
      left
      have currentId : current.id = other := Roster.entryId_of_find? found
      simp only [unindex_mapCache_put service (same.trans currentId.symm)]
  | get | preview | search | sanitize | rebuild => cases targets

/-! ## What a call leaves -/

/-- Saving changes no slot but that of the id under which it was to save. -/
theorem Saving.differsAt {answer : Except Failure Entry}
    (keeps : service.backend.conduct.KeepsIds) (saving : Saving service id answer after) :
    Cache.DiffersAt id service.engine.cache after.engine.cache := by
  cases saving with
  | refused => exact .refl id _
  | @added saved _ stores =>
    obtain rfl : saved.id = id := keeps.id_eq stores
    exact Cache.differsAt_put _ saved
  | restored _ found => exact differsAt_restored _ found
  | @replaced previous saved found stores =>
    have savedId : saved.id = id := keeps.id_eq stores
    obtain rfl : previous.id = id := Roster.entryId_of_find? found
    have put := Cache.differsAt_put (service.engine.cache.evict previous.id) saved
    rw [savedId] at put
    exact (Cache.differsAt_evict _ _).trans put

theorem Deleting.differsAt {answer : Except Failure Unit}
    (deleting : Deleting service id answer after) :
    Cache.DiffersAt id service.engine.cache after.engine.cache := by
  cases deleting with
  | refused => exact .refl id _
  | restored _ found => exact differsAt_restored _ found
  | @deleted current found =>
    obtain rfl : current.id = id := Roster.entryId_of_find? found
    exact Cache.differsAt_evict _ _

/-- A call that changes an entry changes no slot but that of its id. -/
theorem perform_differsAt (quiet : service.Quiet) (keeps : service.backend.conduct.KeepsIds)
    {call : Call} (targets : call.target = some id) :
    Cache.DiffersAt id service.engine.cache (service.perform call).2.engine.cache := by
  rcases Call.saves_or_eq_delete targets with saves | rfl
  · obtain ⟨answered, performs, saving⟩ := perform_saving quiet saves
    rw [performs, reply_snd]
    exact saving.differsAt keeps
  · rw [perform, reply_snd]
    exact (delete_deleting quiet id).differsAt

/-- An entry that a call answers with is stored under its id. -/
theorem find?_of_reply_entry (quiet : service.Quiet) (keeps : service.backend.conduct.KeepsIds)
    {call : Call} (targets : call.target = some id) {entry : Entry}
    (replied : (service.perform call).1 = .entry entry) :
    (service.perform call).2.backend.store.find? id = some entry := by
  rcases Call.saves_or_eq_delete targets with saves | rfl
  · obtain ⟨⟨answer, after⟩, performs, saving⟩ := perform_saving quiet saves
    rw [performs] at replied ⊢
    cases answer with
    | error => cases replied
    | ok saved =>
      obtain rfl : saved = entry := by cases replied; rfl
      have carried : entryId saved = saved.id := rfl
      cases saving with
      | added _ stores | replaced _ stores =>
        exact (Roster.find?_insert _ _ _).trans (if_pos (carried.trans (keeps.id_eq stores)))
  · have deleting := delete_deleting quiet id
    rw [perform] at replied
    generalize service.delete id = answered at replied
    obtain ⟨answer | value, after⟩ := answered <;> cases replied

/-- Where a call that changes an entry has nothing to answer with, the entry was deleted. -/
theorem find?_of_reply_done (quiet : service.Quiet) {call : Call}
    (targets : call.target = some id) (replied : (service.perform call).1 = .done) :
    (service.perform call).2.backend.store.find? id = none := by
  rcases Call.saves_or_eq_delete targets with saves | rfl
  · obtain ⟨⟨answer, after⟩, performs, -⟩ := perform_saving quiet saves
    rw [performs] at replied
    cases answer <;> cases replied
  · have deleting := delete_deleting quiet id
    rw [perform] at replied ⊢
    generalize service.delete id = answered at replied deleting ⊢
    obtain ⟨answer | value, after⟩ := answered
    · cases replied
    · cases deleting with
      | deleted => exact Roster.find?_erase_self _ id

/-- A call that fails to change an entry leaves what is stored. -/
theorem store_of_reply_failed (consistent : service.Consistent) {call : Call}
    (targets : call.target = some id) {failure : Failure}
    (failed : (service.perform call).1 = .failed failure) :
    (service.perform call).2.backend.store = service.backend.store := by
  rw [(consistent.restored_of_failed targets failed).backend]

/-! ## Searching for what is not stored -/

theorem id_of_shown {preview : Preview} (shown : service.shown id = some preview) :
    preview.id = id := by
  rw [Service.shown, Option.or_eq_some_iff] at shown
  rcases shown with fresh | ⟨_, loaded⟩
  · rw [Cache.fresh?] at fresh
    split at fresh
    · split at fresh
      next slot held =>
        split at fresh
        · cases fresh
        · cases fresh
          exact Roster.entryId_of_find? held
      next => cases fresh
    · cases fresh
  · obtain ⟨entry, found, rfl⟩ := Option.map_eq_some_iff.1 loaded
    exact Roster.entryId_of_find? found

/-- A consistent service finds nothing that is not stored. -/
theorem Consistent.ne_of_mem_search (consistent : service.Consistent)
    (absent : service.backend.store.find? id = none) {query : String} {found : List Preview}
    (answer : (service.search query).1 = .ok found) {preview : Preview}
    (member : preview ∈ found) : preview.id ≠ id := by
  have distinct := service.engine.nodup_found query
  rw [Service.search_eq, previews_fst consistent.quiet distinct] at answer
  have finds : ∀ other ∈ service.engine.found query, service.Finds other := by
    by_contra faulty
    push Not at faulty
    obtain ⟨failure, first⟩ := exists_firstFault faulty
    rw [results_eq_error_iff.2 first] at answer
    cases answer
  rw [results_of_finds finds] at answer
  cases answer
  obtain ⟨other, listed, shown⟩ := List.mem_filterMap.1 (List.mem_filter.1 member).1
  rintro rfl
  obtain ⟨candidate, ranked, carried⟩ := List.mem_map.1 listed
  obtain ⟨entry, stored, _⟩ := (Engine.mem_candidates consistent.mirrors).1 ranked
  rw [carried, ← id_of_shown shown, absent] at stored
  cases stored

end Service

/-- **A put that races with the look-up of a call does not survive it.**  Whatever was put of
the entry that the call is to change, its preview is afterwards that of the entry that is
then stored, it is found neither by its id nor by searching once it was deleted, and no
other slot has changed. -/
theorem stale_put_leaves_no_trace {service : Service} (reached : Reached Conduct.KeepsIds service)
    {call : Call} {id : EntryId} (targets : call.target = some id) {raced : Entry}
    (same : raced.id = id) (finds : service.backend.conduct.findFaultOf id = none)
    {reply : Reply} {after : Service}
    (performs : (service.withRace id raced).perform call = (reply, after)) :
    Cache.DiffersAt id service.engine.cache after.engine.cache ∧
    (∀ entry, reply = .entry entry → after.backend.store.find? id = some entry ∧
      (after.preview id).1 = .ok entry.preview) ∧
    (reply = .done → after.backend.store.find? id = none ∧
      (after.preview id).1 = .error (.entryNotFound id) ∧
      ∀ query found, (after.search query).1 = .ok found → ∀ preview ∈ found, preview.id ≠ id) ∧
    ∀ failure previous, reply = .failed failure →
      service.backend.store.find? id = some previous →
      after.backend.store = service.backend.store ∧
      (after.preview id).1 = .ok previous.preview := by
  have consistent := reached.consistent
  have quiet := consistent.quiet
  have keeps := reached.quiet_and_admitted.2
  rw [Service.perform_withRace quiet raced finds targets] at performs
  rcases Service.perform_mapCache_put quiet keeps same finds targets with
    alike | ⟨absent, failure, fails⟩
  -- The call did what it does without a race.
  · rw [performs] at alike
    obtain rfl : reply = (service.perform call).1 := congrArg Prod.fst alike
    obtain rfl : after = (service.perform call).2 := congrArg Prod.snd alike
    have consistentStill := Service.consistent_perform consistent keeps call
    obtain ⟨store, backend⟩ := Service.perform_backend quiet call
    have findsStill : (service.perform call).2.Finds id := fun _ => by
      rw [backend]
      exact finds
    have answer := consistentStill.preview_eq findsStill
    rw [Store.preview] at answer
    refine ⟨Service.perform_differsAt quiet keeps targets, ?_, ?_, ?_⟩
    · intro entry replied
      have stored := Service.find?_of_reply_entry quiet keeps targets replied
      rw [stored] at answer
      exact ⟨stored, answer⟩
    · intro replied
      have gone := Service.find?_of_reply_done quiet targets replied
      rw [gone] at answer
      exact ⟨gone, answer, fun _ _ found _ member =>
        consistentStill.ne_of_mem_search gone found member⟩
    · intro failure previous failed found
      have kept := Service.store_of_reply_failed consistent targets failed
      rw [kept, found] at answer
      exact ⟨kept, answer⟩
  -- The call failed, and what was put is there, but nothing is stored under the id.
  · rw [performs] at fails
    cases fails
    refine ⟨same ▸ Cache.differsAt_put _ raced, by simp, by simp, ?_⟩
    intro _ previous _ found
    rw [absent] at found
    cases found

/-- The reached service with a store that does its duty again. -/
def recoveredService : Service := sampleService.withConduct {}

/-- A state of entry 2 that was never saved. -/
def fictitious : Entry := { id := ⟨2⟩, question := "Toner is free" }

theorem stale_put_leaves_no_trace_sample :
    Reached Conduct.KeepsIds recoveredService ∧ (Call.delete ⟨2⟩).target = some ⟨2⟩ ∧
    recoveredService.backend.conduct.findFaultOf ⟨2⟩ = none ∧
    ((recoveredService.withRace ⟨2⟩ fictitious).perform (.delete ⟨2⟩)).1 = .done ∧
    (((recoveredService.withRace ⟨2⟩ fictitious).perform (.delete ⟨2⟩)).2.preview ⟨2⟩).1 =
      .error (.entryNotFound ⟨2⟩) := by
  have dutiful : Event.Within Conduct.KeepsIds (.conduct {}) := fun _ => rfl
  have reached : Reached Conduct.KeepsIds recoveredService :=
    @Reached.react _ _ (.conduct {}) reached_sample dutiful
  have targets : (Call.delete ⟨2⟩).target = some ⟨2⟩ := rfl
  have same : fictitious.id = ⟨2⟩ := rfl
  have deleted : ((recoveredService.withRace ⟨2⟩ fictitious).perform (.delete ⟨2⟩)).1 = .done := by
    decide +kernel
  have left := stale_put_leaves_no_trace reached targets same rfl rfl
  exact ⟨reached, targets, rfl, deleted, (left.2.2.1 deleted).2.1⟩

end KeywordSearch
