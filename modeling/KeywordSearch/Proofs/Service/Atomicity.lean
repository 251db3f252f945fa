import KeywordSearch.Proofs.Service.Replies

/-!
# Calls that fail leave nothing behind

Creating, updating and deleting take an entry out of the index and the cache
before the store is asked.  Where the call then fails, the entry that is still
stored is put back, and the service is as it was before the call except for the
slot of that entry in the cache (`Service.Restored`), which holds the preview of
the stored entry or nothing.  Whatever happens afterwards, calls are answered as
if the call that failed had not been made.
-/

set_option autoImplicit false

namespace KeywordSearch

/-- The id under which a call is to change what is stored. -/
def Call.target : Call → Option EntryId
  | .create entry => some entry.id
  | .update id _ => some id
  | .delete id => some id
  | _ => none

theorem Call.saves_or_eq_delete {call : Call} {id : EntryId} (targets : call.target = some id) :
    call.saves = some id ∨ call = .delete id := by
  cases call with
  | create | update => exact .inl targets
  | delete other =>
    obtain rfl : other = id := Option.some.inj targets
    exact .inr rfl
  | get | preview | search | sanitize | rebuild => cases targets

namespace Service

variable {service after : Service} {id : EntryId}

/-- The service afterwards is the one before, except that the cache may hold another
preview of the entry stored under an id, or none. -/
structure Restored (service : Service) (id : EntryId) (after : Service) : Prop where
  backend : after.backend = service.backend
  config : after.engine.config = service.engine.config
  index : after.engine.index = service.engine.index
  cache : Cache.DiffersAt id service.engine.cache after.engine.cache
  slot : ∀ slot, after.engine.cache.slots.find? id = some slot →
    ∃ entry, service.backend.store.find? id = some entry ∧ slot.preview = entry.preview

theorem Consistent.restored_self (consistent : service.Consistent) (id : EntryId) :
    Restored service id service where
  backend := rfl
  config := rfl
  index := rfl
  cache := .refl id _
  slot := consistent.coherent id

/-- Evicting a stored entry and putting it in again changes no slot but its own. -/
theorem differsAt_restored {store : Store} {previous : Entry} (cache : Cache)
    (found : store.find? id = some previous) :
    Cache.DiffersAt id cache ((cache.evict previous.id).put previous) := by
  have same : previous.id = id := Roster.entryId_of_find? found
  subst same
  exact (Cache.differsAt_evict cache _).trans (Cache.differsAt_put _ previous)

/-- A call that saves and fails puts back what it took away. -/
theorem restored_of_saving {failure : Failure} (consistent : service.Consistent)
    (saving : Saving service id (.error failure) after) : Restored service id after := by
  cases saving with
  | refused => exact consistent.restored_self id
  | restored _ found =>
    exact ⟨rfl, rfl, index_restored consistent.mirrors.agrees found, differsAt_restored _ found,
      consistent.cache_restored found id⟩

/-- Deleting puts back what it took away, and what it pruned, if it fails. -/
theorem restored_of_deleting {failure : Failure} (consistent : service.Consistent)
    (deleting : Deleting service id (.error failure) after) : Restored service id after := by
  cases deleting with
  | refused => exact consistent.restored_self id
  | restored _ found =>
    have regrown := mirrors_regrown consistent.mirrors found
    exact ⟨rfl, rfl, regrown.unique consistent.mirrors, differsAt_restored _ found,
      consistent.cache_restored found id⟩

theorem eq_error_of_reply_failed {α : Type} {answered : Answered α} {succeed : α → Reply}
    {failure : Failure} (succeeds : ∀ value, succeed value ≠ .failed failure)
    (failed : (answered.reply succeed).1 = .failed failure) : answered.1 = .error failure := by
  obtain ⟨answer, service⟩ := answered
  cases answer with
  | error other =>
    cases failed
    rfl
  | ok value => exact absurd failed (succeeds value)

/-- **A call that fails to change what is stored restores a consistent service.** -/
theorem Consistent.restored_of_failed (consistent : service.Consistent) {call : Call}
    (targets : call.target = some id) {failure : Failure}
    (failed : (service.perform call).1 = .failed failure) :
    Restored service id (service.perform call).2 := by
  rcases Call.saves_or_eq_delete targets with saves | rfl
  · obtain ⟨answered, performs, saving⟩ := perform_saving consistent.quiet saves
    rw [performs] at failed ⊢
    rw [eq_error_of_reply_failed (fun _ => Reply.noConfusion) failed] at saving
    rw [reply_snd]
    exact restored_of_saving consistent saving
  · have deleting := delete_deleting consistent.quiet id
    rw [perform] at failed ⊢
    rw [eq_error_of_reply_failed (fun _ => Reply.noConfusion) failed] at deleting
    rw [reply_snd]
    exact restored_of_deleting consistent deleting

end Service

/-- **A call that fails to change what is stored is as good as not made.**  Store and
index are what they were, the cache differs at most in the slot of the entry, and
after any further events a call is answered as it would be without the one that
failed, where the look-ups for its previews do not fail. -/
theorem failed_call_restores {service : Service} (reached : Reached Conduct.KeepsIds service)
    {call : Call} {id : EntryId} (targets : call.target = some id) {failure : Failure}
    (failed : (service.perform call).1 = .failed failure) :
    service.Restored id (service.perform call).2 ∧
    ∀ events : List Event, (∀ event ∈ events, event.Within Conduct.KeepsIds) →
      ∀ next : Call, ((service.perform call).2.run events).FindsIn next →
        (service.run events).FindsIn next →
        (((service.perform call).2.run events).perform next).1 =
          ((service.run events).perform next).1 := by
  have restored := reached.consistent.restored_of_failed targets failed
  have reachedAfter : Reached Conduct.KeepsIds (service.react (.call call)) := reached.react trivial
  exact ⟨restored, fun events within next findsAfter finds =>
    Service.run_congr reachedAfter reached restored.backend within findsAfter finds⟩

/-- What happens after a deletion has failed. -/
def sampleSequel : List Event :=
  [.conduct {}, .call (.update ⟨1⟩ { keywords := some ["toners"] })]

theorem failed_call_restores_sample :
    Reached Conduct.KeepsIds sampleService ∧ (Call.delete ⟨2⟩).target = some ⟨2⟩ ∧
    (sampleService.perform (.delete ⟨2⟩)).1 = .failed (.store "busy") ∧
    sampleService.Restored ⟨2⟩ (sampleService.perform (.delete ⟨2⟩)).2 ∧
    (((sampleService.perform (.delete ⟨2⟩)).2.run sampleSequel).perform (.search "toner")).1 =
      ((sampleService.run sampleSequel).perform (.search "toner")).1 ∧
    ((sampleService.run sampleSequel).perform (.search "toner")).1 =
      .previews [⟨⟨1⟩, "Printing", true⟩, ⟨⟨2⟩, "Printer toner", true⟩] := by
  have failed : (sampleService.perform (.delete ⟨2⟩)).1 = .failed (.store "busy") := by
    decide +kernel
  obtain ⟨restored, alike⟩ := failed_call_restores reached_sample rfl failed
  refine ⟨reached_sample, rfl, failed, restored, alike _ ?_ _ ?_ ?_, by decide +kernel⟩
  · intro event member
    simp only [sampleSequel, List.mem_cons, List.not_mem_nil, or_false] at member
    rcases member with rfl | rfl
    · exact fun _ => rfl
    · trivial
  · decide +kernel
  · decide +kernel

end KeywordSearch
