import KeywordSearch.Proofs.Service.Outcome
import KeywordSearch.Service.Call

/-!
# Histories of a service

A history begins when a service is started over some stored entries and goes on
with calls to the service, with changes in how its store behaves, and with time
that passes.  The store may change its behaviour before every call, so any
request of a history may fail, and whatever is saved may be amended in any way
that the behaviours allow (`Conduct.exists_amend`).

A service is reached when it stands at the end of a history all of whose
behaviours are admitted.  No preview is ever on its way into the cache of a
reached service, so each of its calls comes to one of the outcomes of a quiet
service.
-/

set_option autoImplicit false

namespace KeywordSearch

/-- What is stored keeps the id of the entry that was to be saved. -/
def Conduct.KeepsIds (conduct : Conduct) : Prop :=
  ∀ entry : Entry, (conduct.amend entry).id = entry.id

theorem Conduct.KeepsIds.id_eq {conduct : Conduct} (keeps : conduct.KeepsIds)
    {requested : EntryId} {saved : Entry} (stores : conduct.Stores requested saved) :
    saved.id = requested := by
  obtain ⟨offered, sameId, rfl⟩ := stores
  exact (keeps offered).trans sameId

/-- An entry may be saved as any other entry with its id. -/
theorem Conduct.exists_amend (offered saved : Entry) (same : saved.id = offered.id) :
    ∃ conduct : Conduct, conduct.KeepsIds ∧ conduct.saveFault = none ∧
      conduct.amend offered = saved := by
  let rewriting : Update :=
    ⟨some saved.question, some saved.answer, some saved.keywords, some saved.active⟩
  refine ⟨{ amendment := some rewriting }, fun _ => rfl, rfl, ?_⟩
  cases saved
  simp_all [rewriting, amend, Entry.apply]

/-- The id under which a call is to save an entry. -/
def Call.saves : Call → Option EntryId
  | .create entry => some entry.id
  | .update id _ => some id
  | _ => none

/-- What can happen to a service: a call, a change in how its store behaves, or time
that passes. -/
inductive Event where
  | call (call : Call)
  | conduct (conduct : Conduct)
  | elapse (ticks : Nat)

/-- An event after which the store behaves in an admitted way, if it did before. -/
def Event.Within (Admitted : Conduct → Prop) : Event → Prop
  | .conduct behaviour => Admitted behaviour
  | _ => True

namespace Service

/-- The service with a store that behaves in another way. -/
def withConduct (service : Service) (conduct : Conduct) : Service :=
  { service with backend := { service.backend with conduct } }

/-- The service after an event. -/
def react (service : Service) : Event → Service
  | .call call => (service.perform call).2
  | .conduct behaviour => service.withConduct behaviour
  | .elapse ticks => service.mapCache (·.elapse ticks)

/-- The service after several events. -/
def run (service : Service) (events : List Event) : Service := events.foldl react service

/-! ## What a call comes to -/

@[simp] theorem reply_snd {α : Type} (succeed : α → Reply) (answered : Answered α) :
    (answered.reply succeed).2 = answered.2 := by
  obtain ⟨answer | value, service⟩ := answered <;> rfl

/-- A call that saves comes to one of the outcomes of saving. -/
theorem perform_saving {service : Service} (quiet : service.Quiet) {call : Call}
    {requested : EntryId} (saves : call.saves = some requested) :
    ∃ answered : Answered Entry, service.perform call = answered.reply .entry ∧
      Saving service requested answered.1 answered.2 := by
  cases call with
  | create entry =>
    obtain rfl : entry.id = requested := Option.some.inj saves
    exact ⟨_, rfl, create_saving quiet entry⟩
  | update id change =>
    obtain rfl : id = requested := Option.some.inj saves
    exact ⟨_, rfl, update_saving quiet id change⟩
  | delete | get | preview | search | sanitize | rebuild => cases saves

/-- A call to a quiet service changes nothing of its backend but the stored entries. -/
theorem perform_backend {service : Service} (quiet : service.Quiet) (call : Call) :
    ∃ store, (service.perform call).2.backend = { service.backend with store } := by
  cases call with
  | create entry =>
    rw [perform, reply_snd]
    exact (create_saving quiet entry).backend_eq
  | update id change =>
    rw [perform, reply_snd]
    exact (update_saving quiet id change).backend_eq
  | delete id =>
    rw [perform, reply_snd]
    exact (delete_deleting quiet id).backend_eq
  | get id =>
    rw [perform, reply_snd, get_of_quiet quiet]
    exact ⟨_, rfl⟩
  | preview id =>
    rw [perform, reply_snd]
    exact ⟨service.backend.store, (preview_reading quiet id).backend_eq⟩
  | search query =>
    rw [perform, reply_snd]
    exact ⟨service.backend.store, search_backend quiet query⟩
  | sanitize => exact ⟨_, rfl⟩
  | rebuild =>
    rw [perform, reply_snd]
    exact ⟨service.backend.store, (rebuild_rebuilding service).backend_eq⟩

end Service

/-- The services at the end of a history of which every behaviour is admitted. -/
inductive Reached (Admitted : Conduct → Prop) : Service → Prop
  | start {config : Config} {store : Store} {conduct : Conduct} {service : Service}
      (admitted : Admitted conduct)
      (started : Service.start config { store, conduct } = .ok service) :
      Reached Admitted service
  | react {service : Service} {event : Event} (reached : Reached Admitted service)
      (within : event.Within Admitted) : Reached Admitted (service.react event)

variable {Admitted : Conduct → Prop} {service : Service}

/-- A reached service is quiet, and its store behaves in an admitted way. -/
theorem Reached.quiet_and_admitted (reached : Reached Admitted service) :
    service.Quiet ∧ Admitted service.backend.conduct := by
  induction reached with
  | start admitted started =>
    rw [Service.eq_of_start started, Service.Quiet]
    simp only [Service.mapEngine, Service.flushed_backend]
    exact ⟨rfl, admitted⟩
  | @react service event _ within ih =>
    obtain ⟨quiet, admitted⟩ := ih
    cases event with
    | call call =>
      obtain ⟨store, backend⟩ := Service.perform_backend quiet call
      rw [Service.react, Service.Quiet, backend]
      exact ⟨quiet, admitted⟩
    | conduct => exact ⟨quiet, within⟩
    | elapse => exact ⟨quiet, admitted⟩

theorem Reached.quiet (reached : Reached Admitted service) : service.Quiet :=
  reached.quiet_and_admitted.1

/-- A service that is reached with admitted behaviours is reached where more are admitted. -/
theorem Reached.mono {Other : Conduct → Prop} (weaker : ∀ conduct, Admitted conduct → Other conduct)
    (reached : Reached Admitted service) : Reached Other service := by
  induction reached with
  | start admitted started => exact .start (weaker _ admitted) started
  | @react service event _ within ih =>
    refine ih.react ?_
    cases event with
    | call | elapse => trivial
    | conduct behaviour => exact weaker behaviour within

theorem Reached.run (reached : Reached Admitted service) {events : List Event}
    (within : ∀ event ∈ events, event.Within Admitted) : Reached Admitted (service.run events) := by
  induction events generalizing service with
  | nil => exact reached
  | cons event events ih =>
    exact ih (reached.react (within event List.mem_cons_self)) fun other member =>
      within other (List.mem_cons_of_mem _ member)

/-! ## A history with failures -/

/-- Two entries with a keyword in common. -/
def sampleStore : Store := Roster.ofList [
  { id := ⟨1⟩, question := "Printer offline", keywords := ["print", "printer"] },
  { id := ⟨2⟩, question := "Printer toner", keywords := ["Printer", "toner*"] }]

/-- An entry is replaced; then the store refuses to save and to delete, and at last it
amends what it saves. -/
def sampleEvents : List Event := [
  .call (.create { id := ⟨1⟩, question := "Printing", keywords := ["print", "ink"] }),
  .conduct { saveFault := some "disk full" },
  .call (.update ⟨2⟩ { keywords := some ["ink"] }),
  .call (.search "printer"),
  .conduct { deleteFault := some "busy", amendment := some { active := some true } },
  .call (.delete ⟨2⟩),
  .call (.update ⟨1⟩ { keywords := some ["prints", "tone"] }),
  .call .rebuild]

def sampleService : Service :=
  (Service.ofBackend {} { store := sampleStore }).rebuild.2.run sampleEvents

theorem reached_sample : Reached Conduct.KeepsIds sampleService := by
  refine .run (@Reached.start _ {} sampleStore {} _ (fun _ => rfl) rfl) ?_
  intro event member
  simp only [sampleEvents, List.mem_cons, List.not_mem_nil, or_false] at member
  rcases member with rfl | rfl | rfl | rfl | rfl | rfl | rfl | rfl
  case inr.inl | inr.inr.inr.inr.inl => exact fun _ => rfl
  all_goals trivial

end KeywordSearch
