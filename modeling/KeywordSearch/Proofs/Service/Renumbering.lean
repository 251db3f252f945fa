import KeywordSearch.Proofs.Service.Consistency

/-!
# Stores that choose ids

A store may keep what it is given to save under an id of its own choice.  The
service takes the entry stored under the requested id out of the index, and puts
what was saved into it under the id that the store chose.  Where these are
different ids, an entry that is replaced under the chosen id stays in the index
with all its tokens, and the one under the requested id, which is still stored,
is no longer in it.  So the index may fall out of step with the store.

Whether it does can be told before the call from the requested id and the saved
entry (`Service.inStep_saving_iff`), and, as long as the index is in step, from
the store alone (`Store.Absorbs`).  Over a history the index stays in step
exactly as long as the store absorbs what is saved
(`Service.inStep_throughout_iff`).
-/

set_option autoImplicit false

namespace KeywordSearch

/-- Saving an entry leaves nothing of another entry behind: either the store kept the
requested id, or the entry that is still stored under it has no tokens and whatever
was replaced under the chosen id spells only what the saved entry spells. -/
def Store.Absorbs (store : Store) (requested : EntryId) (saved : Entry) : Prop :=
  saved.id = requested ∨
    (∀ previous, store.find? requested = some previous → previous.tokens = []) ∧
      ∀ replaced, store.find? saved.id = some replaced →
        ∀ path, replaced.Spells path → saved.Spells path

theorem Entry.tokens_eq_nil {entry : Entry} (silent : ∀ path, ¬entry.Spells path) :
    entry.tokens = [] :=
  List.eq_nil_iff_forall_not_mem.2 fun token member => silent token (Entry.spells_of_mem member)

namespace Index

variable {index : Index} {store : Store} {entry previous saved : Entry} {id other : EntryId}

theorem agreesAt_removeAll_of_ne {tokens : List Token} (different : other ≠ id) :
    (index.removeAll tokens id).AgreesAt store other ↔ index.AgreesAt store other := by
  simp only [AgreesAt, holds_removeAll, different, false_and, not_false_eq_true, and_true]

/-- Only an entry without tokens can be taken out of the index while it stays stored. -/
theorem agreesAt_removeAll_self (found : store.find? id = some entry) :
    (index.removeAll entry.tokens id).AgreesAt store id ↔
      entry.tokens = [] ∧ index.AgreesAt store id := by
  constructor
  · intro agrees
    have silent : ∀ path, ¬entry.Spells path := by
      intro path spells
      have holds := (agrees path).2 ⟨entry, found, spells⟩
      exact (holds_removeAll.1 holds).2 ⟨rfl, spells⟩
    have none : entry.tokens = [] := Entry.tokens_eq_nil silent
    rw [none] at agrees
    exact ⟨none, agrees⟩
  · rintro ⟨none, agrees⟩
    rw [none]
    exact agrees

/-- Taking an entry out of the index and putting another in brings the index in agreement
with the store in which the other is saved exactly if it agreed at all ids but that of the
saved entry, the one taken out has no tokens unless it was replaced, and what is held under
the id of the saved entry is spelled by that entry or has been taken out. -/
theorem agrees_removeAll_insertAll_iff (found : store.find? previous.id = some previous) :
    ((index.removeAll previous.tokens previous.id).insertAll saved.tokens saved.id).Agrees
        (store.insert saved) ↔
      (∀ id, id ≠ saved.id → index.AgreesAt store id ∧ (id = previous.id → previous.tokens = [])) ∧
        ∀ path, index.Holds path saved.id →
          saved.Spells path ∨ saved.id = previous.id ∧ previous.Spells path := by
  rw [agrees_insertAll_iff]
  refine and_congr (forall₂_congr fun id _ => ?_) (forall_congr' fun path => ?_)
  · by_cases itself : id = previous.id
    · subst itself
      rw [agreesAt_removeAll_self found, and_comm, imp_iff_right rfl]
    · rw [agreesAt_removeAll_of_ne itself, iff_self_and]
      exact fun _ same => absurd same itself
  · rw [holds_removeAll]
    constructor
    · intro covered holds
      by_cases taken : saved.id = previous.id ∧ previous.Spells path
      · exact .inr taken
      · exact .inl (covered ⟨holds, taken⟩)
    · rintro covered ⟨holds, notTaken⟩
      exact (covered holds).resolve_right notTaken

end Index

namespace Service

variable {service after : Service} {requested id : EntryId} {saved : Entry}

/-- The index holds what the stored entries spell, and nothing else. -/
def InStep (service : Service) : Prop := service.engine.index.Agrees service.backend.store

theorem inStep_mapCache {change : Cache → Cache} :
    (service.mapCache change).InStep ↔ service.InStep := .rfl

/-- Saving an entry brings the index in step: it is so at all ids but the one that the
store chose, it loses no entry that stays stored, and all that it holds under the
chosen id is spelled by the saved entry or has just been taken out. -/
structure Absorbs (service : Service) (requested : EntryId) (saved : Entry) : Prop where
  others : ∀ id, id ≠ saved.id → service.engine.index.AgreesAt service.backend.store id
  lost : saved.id ≠ requested →
    ∀ previous, service.backend.store.find? requested = some previous → previous.tokens = []
  left : ∀ path, service.engine.index.Holds path saved.id → saved.Spells path ∨
    saved.id = requested ∧
      ∃ previous, service.backend.store.find? requested = some previous ∧ previous.Spells path

/-- A service in step absorbs what its store absorbs. -/
theorem InStep.absorbs_iff (inStep : service.InStep) :
    service.Absorbs requested saved ↔ service.backend.store.Absorbs requested saved := by
  constructor
  · intro absorbs
    by_cases kept : saved.id = requested
    · exact .inl kept
    · refine .inr ⟨absorbs.lost kept, fun replaced found path spells => ?_⟩
      exact (absorbs.left path (inStep.holds found spells)).resolve_right fun both => kept both.1
  · intro absorbs
    refine ⟨fun id _ => Index.agrees_iff.1 inStep id, fun renumbered => ?_, fun path holds => ?_⟩
    · exact (absorbs.resolve_left renumbered).1
    · obtain ⟨replaced, found, spells⟩ := (inStep path saved.id).1 holds
      rcases absorbs with kept | ⟨_, covers⟩
      · exact .inr ⟨kept, replaced, kept ▸ found, spells⟩
      · exact .inl (covers replaced found path spells)

/-! ## Saving -/

/-- **After an entry is saved the index is in step exactly if the entry was absorbed.** -/
theorem inStep_saving_iff (saving : Saving service requested (.ok saved) after) :
    after.InStep ↔ service.Absorbs requested saved := by
  cases saving with
  | added absent =>
    refine Index.agrees_insertAll_iff.trans ⟨?_, ?_⟩
    · rintro ⟨others, covered⟩
      refine ⟨others, fun _ previous found => ?_, fun path holds => .inl (covered path holds)⟩
      rw [absent] at found
      cases found
    · intro absorbs
      refine ⟨absorbs.others, fun path holds => (absorbs.left path holds).resolve_right ?_⟩
      rintro ⟨_, previous, found, _⟩
      rw [absent] at found
      cases found
  | @replaced previous _ found =>
    have same : previous.id = requested := Roster.entryId_of_find? found
    subst same
    refine Index.agrees_prune_iff.trans
      ((Index.agrees_removeAll_insertAll_iff found).trans ⟨?_, ?_⟩)
    · rintro ⟨others, covered⟩
      refine ⟨fun id different => (others id different).1, ?_, fun path holds => ?_⟩
      · intro renumbered other foundOther
        cases found.symm.trans foundOther
        exact (others _ (Ne.symm renumbered)).2 rfl
      · rcases covered path holds with spells | ⟨kept, spells⟩
        · exact .inl spells
        · exact .inr ⟨kept, previous, found, spells⟩
    · intro absorbs
      refine ⟨fun id different => ⟨absorbs.others id different, ?_⟩, fun path holds => ?_⟩
      · rintro rfl
        exact absorbs.lost (Ne.symm different) previous found
      · rcases absorbs.left path holds with spells | ⟨kept, other, foundOther, spells⟩
        · exact .inl spells
        · cases found.symm.trans foundOther
          exact .inr ⟨kept, spells⟩

/-- A call that fails to save leaves a service in step. -/
theorem InStep.of_saving_error (inStep : service.InStep) {failure : Failure}
    (saving : Saving service requested (.error failure) after) : after.InStep := by
  cases saving with
  | refused => exact inStep
  | restored _ found =>
    rw [InStep, index_restored inStep found]
    exact inStep

/-! ## Other calls -/

theorem InStep.deleting {answer : Except Failure Unit} (inStep : service.InStep)
    (deleting : Deleting service id answer after) : after.InStep := by
  cases deleting with
  | refused => exact inStep
  | restored _ found => exact agrees_regrown inStep found
  | @deleted current found =>
    have same : current.id = id := Roster.entryId_of_find? found
    subst same
    exact Index.agrees_prune_iff.2 (inStep.removeAll found)

theorem InStep.rebuilding {answer : Except Failure Nat} (inStep : service.InStep)
    (rebuilding : Rebuilding service answer after) : after.InStep := by
  cases rebuilding with
  | failed =>
    rw [InStep, flushed_index, flushed_backend]
    exact inStep
  | rebuilt =>
    have flushed : service.flushed.engine.index.Agrees service.backend.store := by
      rw [flushed_index]
      exact inStep
    show (service.flushed.engine.indexAll _).index.Agrees service.flushed.backend.store
    rw [flushed_backend]
    exact Engine.agrees_indexAll flushed

/-- A call that does not save leaves a service in step. -/
theorem InStep.perform (inStep : service.InStep) (quiet : service.Quiet) {call : Call}
    (savesNot : call.saves = none) : (service.perform call).2.InStep := by
  cases call with
  | create | update => cases savesNot
  | delete id =>
    rw [Service.perform, reply_snd]
    exact inStep.deleting (delete_deleting quiet id)
  | get id =>
    rw [Service.perform, reply_snd, get_of_quiet quiet]
    exact inStep
  | preview id =>
    rw [Service.perform, reply_snd, (preview_reading quiet id).eq_mapCache]
    exact inStep_mapCache.2 inStep
  | search query =>
    rw [Service.perform, reply_snd, search_eq_mapCache quiet]
    exact inStep_mapCache.2 inStep
  | sanitize => exact Index.agrees_prune_iff.2 inStep
  | rebuild =>
    rw [Service.perform, reply_snd]
    exact inStep.rebuilding (rebuild_rebuilding service)

/-! ## Histories -/

/-- An event is a call by which an entry is saved when one with a requested id should be. -/
def SavesBy (service : Service) (event : Event) (requested : EntryId) (saved : Entry) : Prop :=
  ∃ call, event = .call call ∧ call.saves = some requested ∧
    (service.perform call).1 = .entry saved

theorem saving_of_reply (quiet : service.Quiet) {call : Call} (saves : call.saves = some requested)
    (replied : (service.perform call).1 = .entry saved) :
    Saving service requested (.ok saved) (service.perform call).2 := by
  obtain ⟨⟨answer, after⟩, performs, saving⟩ := perform_saving quiet saves
  rw [performs] at replied ⊢
  cases answer with
  | error failure => cases replied
  | ok other =>
    cases replied
    exact saving

/-- **An event leaves a service in step exactly if the store absorbs what it saves.** -/
theorem InStep.react_iff (inStep : service.InStep) (quiet : service.Quiet) (event : Event) :
    (service.react event).InStep ↔ ∀ requested saved, service.SavesBy event requested saved →
      service.backend.store.Absorbs requested saved := by
  constructor
  · rintro after requested saved ⟨call, rfl, saves, replied⟩
    exact inStep.absorbs_iff.1 ((inStep_saving_iff (saving_of_reply quiet saves replied)).1 after)
  · intro absorbs
    cases event with
    | conduct | elapse => exact inStep
    | call call =>
      cases saves : call.saves with
      | none => exact inStep.perform quiet saves
      | some requested =>
        obtain ⟨⟨answer, after⟩, performs, saving⟩ := perform_saving quiet saves
        rw [react, performs, reply_snd]
        cases answer with
        | error failure => exact inStep.of_saving_error saving
        | ok saved =>
          have replied : (service.perform call).1 = .entry saved := by rw [performs]; rfl
          exact (inStep_saving_iff saving).2
            (inStep.absorbs_iff.2 (absorbs requested saved ⟨call, rfl, saves, replied⟩))

/-- **A service stays in step throughout a history exactly if its store absorbs everything
that is saved.** -/
theorem inStep_throughout_iff {Admitted : Conduct → Prop} (reached : Reached Admitted service)
    (inStep : service.InStep) {events : List Event}
    (within : ∀ event ∈ events, event.Within Admitted) :
    (∀ earlier, earlier <+: events → (service.run earlier).InStep) ↔
      ∀ earlier event, earlier ++ [event] <+: events → ∀ requested saved,
        (service.run earlier).SavesBy event requested saved →
          (service.run earlier).backend.store.Absorbs requested saved := by
  induction events generalizing service with
  | nil =>
    constructor
    · intro _ earlier event initial
      simp at initial
    · intro _ earlier initial
      obtain rfl := List.prefix_nil.1 initial
      exact inStep
  | cons first rest ih =>
    have reachedNext := reached.react (within first List.mem_cons_self)
    have withinRest : ∀ event ∈ rest, event.Within Admitted := fun event member =>
      within event (List.mem_cons_of_mem _ member)
    have head := inStep.react_iff reached.quiet first
    constructor
    · intro throughout
      have next : (service.react first).InStep :=
        throughout [first] (List.cons_prefix_cons.2 ⟨rfl, List.nil_prefix⟩)
      have tail := (ih reachedNext next withinRest).1 fun earlier initial =>
        throughout (first :: earlier) (List.cons_prefix_cons.2 ⟨rfl, initial⟩)
      intro earlier event initial
      cases earlier with
      | nil =>
        obtain ⟨rfl, -⟩ := List.cons_prefix_cons.1 initial
        exact head.1 next
      | cons other earlier =>
        obtain ⟨rfl, onward⟩ := List.cons_prefix_cons.1 initial
        exact tail earlier event onward
    · intro absorbs
      have next : (service.react first).InStep :=
        head.2 (absorbs [] first (List.cons_prefix_cons.2 ⟨rfl, List.nil_prefix⟩))
      have tail := (ih reachedNext next withinRest).2 fun earlier event initial =>
        absorbs (first :: earlier) event (List.cons_prefix_cons.2 ⟨rfl, initial⟩)
      intro earlier initial
      cases earlier with
      | nil => exact inStep
      | cons other earlier =>
        obtain ⟨rfl, onward⟩ := List.cons_prefix_cons.1 initial
        exact tail earlier onward

end Service

/-! ## Every reached service -/

/-- **After an entry is saved the index of a reached service is in step with the store exactly
if the entry was absorbed**; for a service in step this can be told from the store. -/
theorem inStep_after_saving_iff {service : Service} (reached : Reached (fun _ => True) service)
    {call : Call} {requested : EntryId} (saves : call.saves = some requested) {saved : Entry}
    (replied : (service.perform call).1 = .entry saved) :
    ((service.perform call).2.InStep ↔ service.Absorbs requested saved) ∧
      (service.InStep →
        (service.Absorbs requested saved ↔ service.backend.store.Absorbs requested saved)) :=
  ⟨Service.inStep_saving_iff (Service.saving_of_reply reached.quiet saves replied),
    fun inStep => inStep.absorbs_iff⟩

/-- An entry to be saved under an id that is not in use. -/
def newEntry (keyword : String) : Entry :=
  { id := ⟨5⟩, question := "Third", keywords := [keyword] }

/-- Two entries with a keyword in common. -/
def crowdedStore : Store := Roster.ofList [
  { id := ⟨1⟩, question := "First", keywords := ["alpha", "beta"] },
  { id := ⟨7⟩, question := "Second", keywords := ["alpha"] }]

/-- A service whose store keeps whatever it is given under the id of the second entry. -/
def renumberingService : Service :=
  (Service.ofBackend {} { store := crowdedStore, conduct := { assignedId := some ⟨7⟩ } }).rebuild.2

theorem start_renumberingService :
    Service.start {} { store := crowdedStore, conduct := { assignedId := some ⟨7⟩ } } =
      .ok renumberingService := rfl

/-- The second entry is replaced by one with a keyword that begins as its own does, and
nothing of it is left behind. -/
theorem inStep_after_saving_iff_sample :
    Reached (fun _ => True) renumberingService ∧
    (Call.create (newEntry "alphabet")).saves = some ⟨5⟩ ∧
    (renumberingService.perform (.create (newEntry "alphabet"))).1 =
      .entry { newEntry "alphabet" with id := ⟨7⟩ } ∧
    (renumberingService.perform (.create (newEntry "alphabet"))).2.InStep := by
  have reached : Reached (fun _ => True) renumberingService :=
    .start trivial start_renumberingService
  have inStep : renumberingService.InStep :=
    (Service.consistent_start start_renumberingService).mirrors.agrees
  have saves : (Call.create (newEntry "alphabet")).saves = some ⟨5⟩ := rfl
  have replied : (renumberingService.perform (.create (newEntry "alphabet"))).1 =
      .entry { newEntry "alphabet" with id := ⟨7⟩ } := by
    decide +kernel
  obtain ⟨exactly, fromStore⟩ := inStep_after_saving_iff reached saves replied
  refine ⟨reached, saves, replied, exactly.2 ((fromStore inStep).2 (.inr ⟨?_, ?_⟩))⟩
  · have absent : renumberingService.backend.store.find? ⟨5⟩ = none := by decide +kernel
    intro previous found
    rw [absent] at found
    cases found
  · have held : renumberingService.backend.store.find? ⟨7⟩ =
        some { id := ⟨7⟩, question := "Second", keywords := ["alpha"] } := by
      decide +kernel
    rintro replaced found path ⟨nonempty, token, member, initial⟩
    cases held.symm.trans found
    have tokens : ({ id := ⟨7⟩, question := "Second", keywords := ["alpha"] } : Entry).tokens =
        ["alpha".toList] := by
      decide +kernel
    rw [tokens] at member
    obtain rfl := List.mem_singleton.1 member
    exact ⟨nonempty, "alphabet".toList, by decide +kernel, initial.trans (by decide)⟩

/-- What was saved under the id that the store chose is held under a keyword of the entry
that it replaced there. -/
theorem index_not_in_step :
    Reached (fun _ => True) renumberingService ∧
    (renumberingService.perform (.create (newEntry "beta"))).1 =
      .entry { newEntry "beta" with id := ⟨7⟩ } ∧
    (renumberingService.perform (.create (newEntry "beta"))).2.backend.store.find? ⟨7⟩ =
      some { newEntry "beta" with id := ⟨7⟩ } ∧
    (renumberingService.perform (.create (newEntry "beta"))).2.engine.index.Holds
      "alpha".toList ⟨7⟩ ∧
    ¬(renumberingService.perform (.create (newEntry "beta"))).2.InStep := by
  have stored :
      (renumberingService.perform (.create (newEntry "beta"))).2.backend.store.find? ⟨7⟩ =
        some { newEntry "beta" with id := ⟨7⟩ } := by
    decide +kernel
  have holds : (renumberingService.perform (.create (newEntry "beta"))).2.engine.index.Holds
      "alpha".toList ⟨7⟩ := by
    decide +kernel
  refine ⟨.start trivial start_renumberingService, by decide +kernel, stored, holds, ?_⟩
  intro inStep
  obtain ⟨entry, found, spells⟩ := (inStep "alpha".toList ⟨7⟩).1 holds
  cases stored.symm.trans found
  exact absurd spells (by decide +kernel)

end KeywordSearch
