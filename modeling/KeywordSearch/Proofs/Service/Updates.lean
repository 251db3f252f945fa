import KeywordSearch.Proofs.Service.Previews

/-!
# Successive updates

Over a plain store, which refuses nothing and stores what it is given, an entry
that is updated twice is as good as updated once, with the later of the two
values for each field that both updates give (`Update.andThen`).

The entry of the first update is indexed only to be unindexed again by the
second.  That nothing of it stays in the index does not take following its
keywords through the index: both ways lead to consistent services with the same
store, and one index mirrors a store.  The caches differ at most in the slot of
the entry after the first update, and the second begins with emptying that slot
(`Cache.DiffersAt.evict_eq`).
-/

set_option autoImplicit false

namespace KeywordSearch

/-! ## Changes one after the other -/

/-- The change that gives what a later change gives, and otherwise what an earlier one
does. -/
def Update.andThen (first second : Update) : Update where
  question := second.question.or first.question
  answer := second.answer.or first.answer
  keywords := second.keywords.or first.keywords
  active := second.active.or first.active

theorem Entry.apply_apply (entry : Entry) (first second : Update) :
    (entry.apply first).apply second = entry.apply (first.andThen second) := by
  simp only [apply, Update.andThen, Option.getD_or]

/-- What is inserted makes no difference where something with the same id is inserted
next. -/
theorem Roster.insert_insert {α : Type} [Identified α] {roster : Roster α} {first second : α}
    (same : entryId first = entryId second) :
    (roster.insert first).insert second = roster.insert second := by
  refine ext fun id => ?_
  rw [find?_insert, find?_insert, find?_insert, same]
  split <;> rfl

/-! ## Emptying a slot -/

namespace Cache

variable {before after : Cache} {id : EntryId}

theorem DiffersAt.elapse (differs : DiffersAt id before after) (ticks : Nat) :
    DiffersAt id (before.elapse ticks) (after.elapse ticks) := by
  refine ⟨?_, differs.others⟩
  rw [differs.settings]
  rfl

/-- Caches that differ at most in one slot are the same once it is emptied. -/
theorem DiffersAt.evict_eq (differs : DiffersAt id before after) :
    after.evict id = before.evict id := by
  have slots : after.slots.erase id = before.slots.erase id := by
    refine Roster.ext fun other => ?_
    rw [Roster.find?_erase, Roster.find?_erase]
    split
    · rfl
    next different => exact differs.others other different
  rw [evict, evict, slots, differs.settings]

end Cache

/-! ## Plain stores -/

/-- A store that refuses nothing and stores what it is given. -/
def Conduct.Plain (conduct : Conduct) : Prop := conduct = {}

theorem Conduct.Plain.keepsIds {conduct : Conduct} (plain : conduct.Plain) : conduct.KeepsIds := by
  cases plain
  exact fun _ => rfl

theorem Conduct.Plain.findFaultOf {conduct : Conduct} (plain : conduct.Plain) (id : EntryId) :
    conduct.findFaultOf id = none := by
  cases plain
  rfl

theorem Backend.save_of_plain {backend : Backend} (plain : backend.conduct.Plain) (entry : Entry) :
    backend.save entry = (.ok entry, { backend with store := backend.store.insert entry }) := by
  obtain ⟨store, conduct, races⟩ := backend
  cases plain
  rfl

namespace Service

variable {service left right : Service} {id : EntryId} {current previous saved : Entry}

/-- The service in which an entry takes the place of the one stored under its id. -/
def replace (service : Service) (previous saved : Entry) : Service :=
  (((service.unindex previous).keep saved).index saved).sanitize

section Replace

variable (service : Service) (previous saved : Entry)

@[simp] theorem replace_backend : (service.replace previous saved).backend =
    { service.backend with store := service.backend.store.insert saved } := rfl

@[simp] theorem replace_config :
    (service.replace previous saved).engine.config = service.engine.config := rfl

@[simp] theorem replace_cache : (service.replace previous saved).engine.cache =
    (service.engine.cache.evict previous.id).put saved := rfl

end Replace

/-- Updating an entry of a plain store replaces it by the changed entry. -/
theorem update_of_plain (quiet : service.Quiet) (plain : service.backend.conduct.Plain)
    (found : service.backend.store.find? id = some current) (change : Update) :
    service.update id change =
      (.ok (current.apply change), service.replace current (current.apply change)) := by
  rw [update, get_of_quiet quiet, stored_of_finds (plain.findFaultOf id), found]
  simp only [unindex_backend, Backend.save_of_plain plain]
  rfl

/-- Updating what is not stored is refused. -/
theorem update_of_absent (quiet : service.Quiet) (plain : service.backend.conduct.Plain)
    (absent : service.backend.store.find? id = none) (change : Update) :
    service.update id change = (.error (.entryNotFound id), service) := by
  rw [update, get_of_quiet quiet, stored_of_finds (plain.findFaultOf id), absent]

/-! ## Replacing an entry twice -/

/-- Consistent services with the same entries stored have the same index. -/
theorem index_eq_of_consistent (consistentLeft : left.Consistent)
    (consistentRight : right.Consistent) (same : left.backend.store = right.backend.store) :
    left.engine.index = right.engine.index :=
  consistentLeft.mirrors.unique (same ▸ consistentRight.mirrors)

theorem Consistent.elapse (consistent : service.Consistent) (ticks : Nat) :
    (service.mapCache (·.elapse ticks)).Consistent :=
  ⟨consistent.mirrors, consistent.coherent, consistent.quiet⟩

theorem Consistent.replace (consistent : service.Consistent) (plain : service.backend.conduct.Plain)
    (found : service.backend.store.find? id = some previous) (same : saved.id = id) :
    (service.replace previous saved).Consistent := by
  have stores : service.backend.conduct.Stores id saved := by
    refine ⟨saved, same, ?_⟩
    rw [plain]
    rfl
  exact consistent_saving consistent plain.keepsIds (.replaced found stores)

/-- Replacing an entry by itself changes nothing but the age of its preview. -/
theorem Consistent.replace_self (consistent : service.Consistent)
    (plain : service.backend.conduct.Plain)
    (found : service.backend.store.find? id = some current) :
    (service.replace current current).backend = service.backend ∧
      (service.replace current current).engine.index = service.engine.index := by
  have same : current.id = id := Roster.entryId_of_find? found
  subst same
  have backend : (service.replace current current).backend = service.backend := by
    rw [replace_backend, Roster.insert_of_find? found]
  exact ⟨backend, index_eq_of_consistent (consistent.replace plain found rfl) consistent
    (congrArg Backend.store backend)⟩

theorem eq_of_parts (config : left.engine.config = right.engine.config)
    (index : left.engine.index = right.engine.index)
    (cache : left.engine.cache = right.engine.cache) (backend : left.backend = right.backend) :
    left = right := by
  obtain ⟨⟨_, _, _⟩, _⟩ := left
  obtain ⟨⟨_, _, _⟩, _⟩ := right
  cases config
  cases index
  cases cache
  cases backend
  rfl

/-- **Replacing an entry twice comes to replacing it once.**  Time may pass in between. -/
theorem Consistent.replace_replace (consistent : service.Consistent)
    (plain : service.backend.conduct.Plain)
    (found : service.backend.store.find? id = some previous) {middle : Entry}
    (sameMiddle : middle.id = id) (sameSaved : saved.id = id) (ticks : Nat) :
    ((service.replace previous middle).mapCache (·.elapse ticks)).replace middle saved =
      (service.mapCache (·.elapse ticks)).replace previous saved := by
  have samePrevious : previous.id = id := Roster.entryId_of_find? found
  have sameId : entryId middle = entryId saved := sameMiddle.trans sameSaved.symm
  have backend : (((service.replace previous middle).mapCache (·.elapse ticks)).replace middle
      saved).backend = ((service.mapCache (·.elapse ticks)).replace previous saved).backend := by
    simp only [replace_backend, mapCache_backend, Roster.insert_insert sameId]
  have foundMiddle :
      ((service.replace previous middle).mapCache (·.elapse ticks)).backend.store.find? id =
        some middle := by
    rw [mapCache_backend, replace_backend, Roster.find?_insert, if_pos]
    exact sameMiddle
  refine eq_of_parts ?_ ?_ ?_ backend
  · simp only [replace_config, mapCache_config]
  · have first := (consistent.replace plain found sameMiddle).elapse ticks
    have once := (consistent.elapse ticks).replace plain found sameSaved
    have twice := first.replace (by rw [mapCache_backend, replace_backend]; exact plain) foundMiddle
      sameSaved
    exact index_eq_of_consistent twice once (congrArg Backend.store backend)
  · have differs : Cache.DiffersAt id service.engine.cache
        ((service.engine.cache.evict id).put middle) :=
      (Cache.differsAt_evict _ id).trans (sameMiddle ▸ Cache.differsAt_put _ middle)
    simp only [replace_cache, mapCache_cache, samePrevious, sameMiddle,
      (differs.elapse ticks).evict_eq]

end Service

/-! ## Updating twice -/

/-- **Updating an entry twice comes to updating it once with what the later change gives,
and otherwise what the earlier one does.**  The answer of the second update and the
service that it leaves behind are those of the one update made in its place.  For an entry
that is stored all these updates succeed, and an update that gives nothing leaves entry,
store and index as they were. -/
theorem update_update {service : Service} (reached : Reached Conduct.Plain service) (id : EntryId)
    (first second : Update) (ticks : Nat) :
    ((service.update id first).2.mapCache (·.elapse ticks)).update id second =
      (service.mapCache (·.elapse ticks)).update id (first.andThen second) ∧
    ∀ entry, service.backend.store.find? id = some entry →
      (service.update id first).1 = .ok (entry.apply first) ∧
      (service.update id (first.andThen second)).1 = .ok ((entry.apply first).apply second) ∧
      (service.update id {}).1 = .ok entry ∧
      (service.update id {}).2.backend = service.backend ∧
      (service.update id {}).2.engine.index = service.engine.index := by
  obtain ⟨quiet, plain⟩ := reached.quiet_and_admitted
  have consistent := (reached.mono fun _ => Conduct.Plain.keepsIds).consistent
  have quietLater : (service.mapCache (·.elapse ticks)).Quiet := quiet
  constructor
  · cases found : service.backend.store.find? id with
    | none =>
      rw [Service.update_of_absent quiet plain found]
      exact (Service.update_of_absent quietLater plain found second).trans
        (Service.update_of_absent quietLater plain found _).symm
    | some entry =>
      have applied (change : Update) : (entry.apply change).id = id := Roster.entryId_of_find? found
      have replaced : ((service.replace entry (entry.apply first)).mapCache
          (·.elapse ticks)).backend.store.find? id = some (entry.apply first) := by
        rw [Service.mapCache_backend, Service.replace_backend, Roster.find?_insert, if_pos]
        exact applied first
      have once := consistent.replace_replace plain found (applied first)
        (applied (first.andThen second)) ticks
      rw [Service.update_of_plain quiet plain found,
        Service.update_of_plain (by exact quiet) (by exact plain) replaced, Entry.apply_apply, once]
      exact (Service.update_of_plain quietLater plain found _).symm
  · intro entry found
    simp only [Service.update_of_plain quiet plain found, Entry.apply_apply]
    exact ⟨trivial, trivial, rfl, consistent.replace_self plain found⟩

/-- An entry is searched for and deleted, and the other one is read when its preview has
expired. -/
def plainEvents : List Event := [
  .call (.search "printer"), .call (.delete ⟨1⟩), .elapse (1800 * Cache.ticksPerSecond),
  .call (.preview ⟨2⟩)]

def plainService : Service :=
  (Service.ofBackend {} { store := sampleStore }).rebuild.2.run plainEvents

/-- New keywords for an entry, which share their beginning with its old ones. -/
def firstUpdate : Update := { question := some "Ink", keywords := some ["ink", "tonic"] }

/-- Other keywords in their stead. -/
def secondUpdate : Update := { keywords := some ["tone"], active := some false }

theorem update_update_sample :
    Reached Conduct.Plain plainService ∧
    ((plainService.update ⟨2⟩ firstUpdate).2.mapCache (·.elapse 7)).update ⟨2⟩ secondUpdate =
      (plainService.mapCache (·.elapse 7)).update ⟨2⟩
        { question := some "Ink", keywords := some ["tone"], active := some false } ∧
    (plainService.update ⟨2⟩ {}).2.engine.index = plainService.engine.index ∧
    plainService.engine.index.nodeCount = 14 := by
  have reached : Reached Conduct.Plain plainService := by
    refine .run (@Reached.start Conduct.Plain {} sampleStore {} _ rfl rfl) ?_
    intro event member
    simp only [plainEvents, List.mem_cons, List.not_mem_nil, or_false] at member
    rcases member with rfl | rfl | rfl | rfl <;> trivial
  obtain ⟨twice, stored⟩ := update_update reached ⟨2⟩ firstUpdate secondUpdate 7
  have found : plainService.backend.store.find? ⟨2⟩ = some
      { id := ⟨2⟩, question := "Printer toner", keywords := ["Printer", "toner*"] } := by
    decide +kernel
  obtain ⟨_, _, _, _, index⟩ := stored _ found
  exact ⟨reached, twice, index, by decide +kernel⟩

end KeywordSearch
