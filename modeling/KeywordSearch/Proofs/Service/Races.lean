import KeywordSearch.Proofs.Cache.Slots
import KeywordSearch.Proofs.Service.Outcome

/-!
# Previews that race with a miss

While a miss waits for the store, the preview of an entry may be put into the
cache.  What was put is newer than what the look-up saw, so a miss must not undo
it: it completes with what is fresh in the cache by then, and keeps what it loaded
only where nothing is (`Cache.fill_put`).

Whether the preview that raced is fresh when the miss completes depends on its id
and on the settings of the cache.  With a time to live it is, and it wins if the
id is the one that was looked up; if previews expire at once, it has expired
already and the loaded entry takes its place; and a cache that is switched off
has not kept it (`Missed`).  A look-up that fails leaves what was put where it is
(`MissFailed`).
-/

set_option autoImplicit false

namespace KeywordSearch

namespace Service

variable {service : Service} {id : EntryId} {entry raced : Entry}

/-- The preview of an entry is put into the cache during the next look-up of an id that fails, or
during the next one that does not. -/
def Races (service : Service) (id : EntryId) (raced : Entry) (fails : Bool) : Prop :=
  service.backend.races.find? id = some ⟨id, raced, fails⟩

/-- The service once nothing races with a look-up of an id any more. -/
def settle (service : Service) (id : EntryId) : Service :=
  { service with backend := { service.backend with races := service.backend.races.erase id } }

/-- What races with a look-up is in the cache when the look-up answers. -/
theorem lookup_of_raced (raced? : service.backend.raced? id = some raced) :
    service.lookup id =
      (service.backend.peek id, (service.settle id).mapCache (·.put raced)) := by
  simp only [lookup, Backend.find, raced?]
  rfl

/-- A look-up that nothing races with leaves the service as it is. -/
theorem lookup_of_unraced (unraced : service.backend.raced? id = none) :
    service.lookup id = (service.backend.peek id, service) := by
  simp only [lookup, Backend.find, unraced]

theorem Races.raced?_eq {fails : Bool} (races : service.Races id raced fails) :
    service.backend.raced? id =
      if fails = (service.backend.conduct.findFaultOf id).isSome then some raced else none := by
  rw [Races] at races
  rw [Backend.raced?, races]

theorem peek_of_finds (finds : service.backend.conduct.findFaultOf id = none) :
    service.backend.peek id = .ok (service.backend.store.find? id) := by
  rw [Backend.peek, finds]

theorem peek_of_fault {text : String}
    (fault : service.backend.conduct.findFaultOf id = some text) :
    service.backend.peek id = .error (.store text) := by
  rw [Backend.peek, fault]

/-! ## Reading a preview during a race -/

theorem preview_of_fresh {preview : Preview}
    (fresh : service.engine.cache.fresh? id = some preview) :
    service.preview id = (.ok preview, service.mapCache Cache.countHit) := by
  rw [Service.preview, fresh]

/-- A look-up that fails while nothing races with it changes no slot. -/
theorem preview_of_fault {text : String} (stale : service.engine.cache.fresh? id = none)
    (fault : service.backend.conduct.findFaultOf id = some text)
    (unraced : service.backend.raced? id = none) :
    service.preview id = (.error (.store text), service.mapCache Cache.countMiss) := by
  have missed : (service.mapCache Cache.countMiss).backend.raced? id = none := unraced
  rw [Service.preview, stale]
  simp only [lookup_of_unraced missed, mapCache_backend, peek_of_fault fault]

theorem preview_of_raced_fault {text : String} (stale : service.engine.cache.fresh? id = none)
    (fault : service.backend.conduct.findFaultOf id = some text)
    (raced? : service.backend.raced? id = some raced) :
    service.preview id = (.error (.store text), (service.settle id).mapCache fun _ =>
      service.engine.cache.countMiss.put raced) := by
  have missed : (service.mapCache Cache.countMiss).backend.raced? id = some raced := raced?
  rw [Service.preview, stale]
  simp only [lookup_of_raced missed, mapCache_backend, peek_of_fault fault]
  rfl

/-- What a miss answers with, given what was loaded and what raced. -/
def completed (service : Service) (id : EntryId) (raced : Entry) : Except Failure Preview :=
  match service.backend.store.find? id with
  | none => .error (.entryNotFound id)
  | some entry => .ok ((service.engine.cache.countMiss.put raced).fill entry).1

theorem preview_of_raced (raced? : service.backend.raced? id = some raced)
    (stale : service.engine.cache.fresh? id = none)
    (finds : service.backend.conduct.findFaultOf id = none) :
    service.preview id = (service.completed id raced, (service.settle id).mapCache fun _ =>
      (service.engine.cache.countMiss.put raced).complete id (service.backend.store.find? id)) := by
  have missed : (service.mapCache Cache.countMiss).backend.raced? id = some raced := raced?
  rw [Service.preview, stale, completed]
  simp only [lookup_of_raced missed, mapCache_backend, peek_of_finds finds]
  cases service.backend.store.find? id <;> rfl

/-- A loaded preview is the answer unless what raced has its id and is there to stay. -/
theorem completed_of_found (stale : service.engine.cache.fresh? id = none)
    (found : service.backend.store.find? id = some entry) :
    service.completed id raced =
      if service.engine.cache.enabled = true ∧ raced.id = id ∧ service.engine.cache.ttlSecs ≠ 0 then
        .ok raced.preview
      else .ok entry.preview := by
  obtain rfl : entry.id = id := Roster.entryId_of_find? found
  have filled := @Cache.fill_put service.engine.cache.countMiss entry raced stale
  rw [completed, found]
  split at filled
  next wins => exact (congrArg (Except.ok ∘ Prod.fst) filled).trans (if_pos wins).symm
  next loses => exact (congrArg (Except.ok ∘ Prod.fst) filled).trans (if_neg loses).symm

/-! ## What comes of a race -/

/-- What a miss comes to during which the preview of an entry is put into the cache. -/
structure Missed (service : Service) (id : EntryId) (raced : Entry)
    (answer : Except Failure Preview) (after : Service) : Prop where
  /-- The race is over, and nothing else changes outside the cache. -/
  rest : after = (service.settle id).mapCache fun _ => after.engine.cache
  /-- A miss is counted, and nothing else changes in the cache but slots. -/
  counted : after.engine.cache = { service.engine.cache with
    slots := after.engine.cache.slots
    misses := service.engine.cache.misses + 1 }
  /-- No slot changes but those of the id that is read and of the entry that raced. -/
  others : ∀ other, other ≠ id → other ≠ raced.id →
    after.engine.cache.slots.find? other = service.engine.cache.slots.find? other
  /-- Where nothing is stored, nothing is found. -/
  absent : service.backend.store.find? id = none → answer = .error (.entryNotFound id)
  /-- If previews last, what raced is kept, and it is the answer if it has the id that was read.
  Otherwise what was loaded is kept as well and is the answer. -/
  lasting : service.engine.cache.enabled = true → service.engine.cache.ttlSecs ≠ 0 →
    after.engine.cache.slots.find? raced.id = some ⟨raced.preview, service.engine.cache.now⟩ ∧
    (∀ entry, service.backend.store.find? id = some entry →
      (raced.id = id → answer = .ok raced.preview) ∧
      (raced.id ≠ id → answer = .ok entry.preview ∧
        after.engine.cache.slots.find? id =
          some ⟨entry.preview, service.engine.cache.now⟩)) ∧
    (service.backend.store.find? id = none → raced.id ≠ id →
      after.engine.cache.slots.find? id = none)
  /-- If previews expire at once, what was loaded takes the slot and is the answer, and where
  nothing is stored the slot is emptied. -/
  expiring : service.engine.cache.enabled = true → service.engine.cache.ttlSecs = 0 →
    (raced.id ≠ id → after.engine.cache.slots.find? raced.id =
      some ⟨raced.preview, service.engine.cache.now⟩) ∧
    (∀ entry, service.backend.store.find? id = some entry → answer = .ok entry.preview ∧
      after.engine.cache.slots.find? id = some ⟨entry.preview, service.engine.cache.now⟩) ∧
    (service.backend.store.find? id = none → after.engine.cache.slots.find? id = none)
  /-- A cache that is switched off comes to hold nothing that it did not hold before. -/
  disabled : service.engine.cache.enabled = false →
    (∀ entry, service.backend.store.find? id = some entry → answer = .ok entry.preview) ∧
    ∀ other slot, after.engine.cache.slots.find? other = some slot →
      service.engine.cache.slots.find? other = some slot

/-- What a miss comes to whose look-up fails while the preview of an entry is put into the
cache. -/
structure MissFailed (service : Service) (id : EntryId) (raced : Entry) (after : Service) :
    Prop where
  /-- The race is over, and nothing else changes outside the cache. -/
  rest : after = (service.settle id).mapCache fun _ => after.engine.cache
  /-- A miss is counted, and nothing else changes in the cache but slots. -/
  counted : after.engine.cache = { service.engine.cache with
    slots := after.engine.cache.slots
    misses := service.engine.cache.misses + 1 }
  /-- What raced is kept if the cache is switched on, and no other slot changes. -/
  slots : ∀ other, after.engine.cache.slots.find? other =
    if service.engine.cache.enabled = true ∧ raced.id = other then
      some ⟨raced.preview, service.engine.cache.now⟩
    else service.engine.cache.slots.find? other

/-- A look-up that fails hands on what raced with it. -/
theorem missFailed {text : String} (raced? : service.backend.raced? id = some raced)
    (stale : service.engine.cache.fresh? id = none)
    (fault : service.backend.conduct.findFaultOf id = some text) :
    (service.preview id).1 = .error (.store text) ∧
      service.MissFailed id raced (service.preview id).2 := by
  rw [preview_of_raced_fault stale fault raced?]
  exact ⟨rfl, rfl, Cache.put_settings _ raced, Cache.find?_put service.engine.cache.countMiss raced⟩

/-- A look-up that does not fail completes the miss with what was loaded and what raced. -/
theorem missed (raced? : service.backend.raced? id = some raced)
    (stale : service.engine.cache.fresh? id = none)
    (finds : service.backend.conduct.findFaultOf id = none) :
    service.Missed id raced (service.preview id).1 (service.preview id).2 := by
  have stale' : service.engine.cache.countMiss.fresh? id = none := stale
  have carried : ∀ entry ∈ service.backend.store.find? id, entry.id = id :=
    fun entry found => Roster.entryId_of_find? found
  have differs := Cache.differsAt_complete (service.engine.cache.countMiss.put raced) carried
  rw [preview_of_raced raced? stale finds]
  refine ⟨rfl, ?counted, ?others, ?absent, ?lasting, ?expiring, ?disabled⟩
  case counted =>
    refine differs.settings.trans ?_
    rw [mapCache_cache]
    generalize (Cache.complete _ id _).slots = slots
    rw [Cache.put_settings _ raced]
    rfl
  case others =>
    intro other notRead notRaced
    have put := Cache.find?_put service.engine.cache.countMiss raced other
    rw [if_neg fun same => notRaced same.2.symm] at put
    exact (differs.others other notRead).trans put
  case absent =>
    intro absent
    rw [completed, absent]
  case lasting =>
    intro enabled lasting
    have switchedOn : service.engine.cache.countMiss.enabled = true := enabled
    have loaded (different : raced.id ≠ id) :=
      Cache.find?_complete_put_loaded switchedOn carried stale' raced (.inl different)
    refine ⟨Cache.find?_complete_put_raced switchedOn carried stale' raced (.inr lasting), ?_, ?_⟩
    · intro entry found
      rw [completed_of_found stale found]
      refine ⟨fun same => if_pos ⟨enabled, same, lasting⟩, fun different => ?_⟩
      exact ⟨if_neg fun wins => different wins.2.1, (loaded different).trans (by rw [found]; rfl)⟩
    · intro absent different
      exact (loaded different).trans (by rw [absent]; rfl)
  case expiring =>
    intro enabled expiring
    have switchedOn : service.engine.cache.countMiss.enabled = true := enabled
    have loaded := Cache.find?_complete_put_loaded switchedOn carried stale' raced (.inr expiring)
    refine ⟨fun different => ?_, fun entry found => ?_, fun absent => ?_⟩
    · exact Cache.find?_complete_put_raced switchedOn carried stale' raced (.inl different)
    · rw [completed_of_found stale found]
      exact ⟨if_neg fun wins => wins.2.2 expiring, loaded.trans (by rw [found]; rfl)⟩
    · exact loaded.trans (by rw [absent]; rfl)
  case disabled =>
    intro disabled
    refine ⟨fun entry found => ?_, fun other slot held => ?_⟩
    · rw [completed_of_found stale found]
      exact if_neg fun wins => Bool.false_ne_true (disabled.symm.trans wins.1)
    · have disabledStill : service.engine.cache.countMiss.enabled = false := disabled
      rw [mapCache_cache, Cache.put_of_disabled disabledStill] at held
      exact Cache.of_find?_complete_of_disabled disabledStill held

end Service

/-- **A miss never loses a preview that was put while it waited for the store.**  There is no
race where a fresh preview is the answer.  A look-up that fails is answered with its failure: what
races with it is kept and no other slot changes, while a put that waits for a look-up that does
not fail changes no slot yet.  A look-up that does not fail completes the miss with what was loaded
and what races with it. -/
theorem preview_during_race {service : Service} {id : EntryId} {raced : Entry} {fails : Bool}
    (races : service.Races id raced fails) :
    (∀ preview, service.engine.cache.fresh? id = some preview →
      service.preview id = (.ok preview, service.mapCache Cache.countHit)) ∧
    (∀ text, service.engine.cache.fresh? id = none →
      service.backend.conduct.findFaultOf id = some text →
      if fails then
        (service.preview id).1 = .error (.store text) ∧
          service.MissFailed id raced (service.preview id).2
      else service.preview id = (.error (.store text), service.mapCache Cache.countMiss)) ∧
    (fails = false →
      service.engine.cache.fresh? id = none → service.backend.conduct.findFaultOf id = none →
      service.Missed id raced (service.preview id).1 (service.preview id).2) := by
  have raced? := races.raced?_eq
  refine ⟨fun _ => Service.preview_of_fresh, fun text stale fault => ?_,
    fun answers stale finds => ?_⟩
  · rw [fault, Option.isSome_some] at raced?
    cases fails with
    | true => exact Service.missFailed raced? stale fault
    | false => exact Service.preview_of_fault stale fault raced?
  · rw [finds, answers] at raced?
    exact Service.missed raced? stale finds

/-- What is put into the cache while the entry is looked up as it was before. -/
def sampleRaced : Entry := { id := ⟨1⟩, question := "New", active := false }

def sampleRace : Service where
  engine := Engine.ofConfig {}
  backend := {
    store := Roster.ofList [{ id := ⟨1⟩, question := "Old" }]
    races := Roster.ofList [⟨⟨1⟩, sampleRaced, false⟩] }

/-- The same put while the look-up fails. -/
def sampleFailedRace : Service :=
  { sampleRace with
    backend := { sampleRace.backend with
      conduct := { findFault := some "lost" }
      races := Roster.ofList [⟨⟨1⟩, sampleRaced, true⟩] } }

theorem preview_during_race_sample :
    sampleRace.Races ⟨1⟩ sampleRaced false ∧ sampleRace.engine.cache.fresh? ⟨1⟩ = none ∧
    sampleRace.backend.conduct.findFaultOf ⟨1⟩ = none ∧
    sampleRace.Missed ⟨1⟩ sampleRaced (sampleRace.preview ⟨1⟩).1 (sampleRace.preview ⟨1⟩).2 ∧
    (sampleRace.preview ⟨1⟩).1 = .ok ⟨⟨1⟩, "New", false⟩ ∧
    sampleFailedRace.Races ⟨1⟩ sampleRaced true ∧
    (sampleFailedRace.preview ⟨1⟩).1 = .error (.store "lost") ∧
    sampleFailedRace.MissFailed ⟨1⟩ sampleRaced (sampleFailedRace.preview ⟨1⟩).2 := by
  have races : sampleRace.Races ⟨1⟩ sampleRaced false := rfl
  have racesFailing : sampleFailedRace.Races ⟨1⟩ sampleRaced true := rfl
  exact ⟨races, rfl, rfl, (preview_during_race races).2.2 rfl rfl rfl, rfl, racesFailing,
    (preview_during_race racesFailing).2.1 "lost" rfl rfl⟩

end KeywordSearch
