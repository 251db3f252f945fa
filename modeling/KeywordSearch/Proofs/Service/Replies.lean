import KeywordSearch.Proofs.Service.Search

/-!
# Replies depend on what is stored

Two consistent services with the same backend reply alike to every call and are
left with the same backend, whatever their caches hold (`perform_congr`), and so
they do after any number of events (`run_congr`).  Saving, deleting, looking up
and rebuilding do not ask the cache at all.  Previews and search results may
come from the cache, and then they are what the store would have given; the
look-ups that are made instead must not fail (`FindsIn`).
-/

set_option autoImplicit false

namespace KeywordSearch.Service

variable {left right : Service}

/-! ## Saving, deleting and rebuilding -/

theorem create_congr (quiet : right.Quiet) (same : left.backend = right.backend) (entry : Entry) :
    (left.create entry).1 = (right.create entry).1 ∧
      (left.create entry).2.backend = (right.create entry).2.backend := by
  have quietLeft : left.Quiet := by rwa [Quiet, same]
  rw [create, create, lookup_of_quiet quietLeft, lookup_of_quiet quiet, same]
  rcases right.backend.peek entry.id with failure | _ | previous
  · exact ⟨rfl, same⟩
  · rcases save_cases right.backend entry with ⟨text, refuses⟩ | saves
    · simp only [same, refuses, and_self]
    · simp only [same, saves, index_backend, and_self]
  · rcases save_cases right.backend entry with ⟨text, refuses⟩ | saves
    · simp only [unindex_backend, same, refuses, index_backend, and_self]
    · simp only [unindex_backend, same, saves, index_backend, sanitize_backend, and_self]

theorem stored_congr (same : left.backend = right.backend) (id : EntryId) :
    left.stored id = right.stored id := by
  rw [stored, stored, same]

theorem update_congr (quiet : right.Quiet) (same : left.backend = right.backend) (id : EntryId)
    (change : Update) :
    (left.update id change).1 = (right.update id change).1 ∧
      (left.update id change).2.backend = (right.update id change).2.backend := by
  have quietLeft : left.Quiet := by rwa [Quiet, same]
  rw [update, update, get_of_quiet quietLeft, get_of_quiet quiet, stored_congr same]
  rcases right.stored id with failure | current
  · exact ⟨rfl, same⟩
  · rcases save_cases right.backend (current.apply change) with ⟨text, refuses⟩ | saves
    · simp only [unindex_backend, same, refuses, index_backend, and_self]
    · simp only [unindex_backend, same, saves, index_backend, sanitize_backend, and_self]

theorem delete_congr (quiet : right.Quiet) (same : left.backend = right.backend) (id : EntryId) :
    (left.delete id).1 = (right.delete id).1 ∧
      (left.delete id).2.backend = (right.delete id).2.backend := by
  have quietLeft : left.Quiet := by rwa [Quiet, same]
  rw [delete, delete, get_of_quiet quietLeft, get_of_quiet quiet, stored_congr same]
  rcases right.stored id with failure | current
  · exact ⟨rfl, same⟩
  · simp only [sanitize_backend, unindex_backend, same, Backend.delete]
    cases right.backend.conduct.deleteFault <;> exact ⟨rfl, rfl⟩

theorem rebuild_congr (same : left.backend = right.backend) :
    left.rebuild.1 = right.rebuild.1 ∧ left.rebuild.2.backend = right.rebuild.2.backend := by
  rw [(rebuild_rebuilding left).backend_eq, (rebuild_rebuilding right).backend_eq]
  refine ⟨?_, same⟩
  rw [rebuild, rebuild, ← flushed, ← flushed]
  simp only [flushed_backend, same]
  cases right.backend.list <;> rfl

/-! ## Every call -/

/-- The look-ups for previews that a call makes do not fail. -/
def FindsIn (service : Service) : Call → Prop
  | .preview id => service.Finds id
  | .search query => service.FindsFor query
  | _ => True

instance (service : Service) : (call : Call) → Decidable (service.FindsIn call)
  | .preview id => inferInstanceAs (Decidable (service.Finds id))
  | .search query => inferInstanceAs (Decidable (service.FindsFor query))
  | .create _ | .update _ _ | .delete _ | .get _ | .sanitize | .rebuild => .isTrue trivial

theorem reply_congr {α : Type} {answered answered' : Answered α} (succeed : α → Reply)
    (same : answered.1 = answered'.1) :
    (answered.reply succeed).1 = (answered'.reply succeed).1 := by
  obtain ⟨answer, service⟩ := answered
  obtain ⟨answer', service'⟩ := answered'
  obtain rfl : answer = answer' := same
  cases answer <;> rfl

/-- The services that a call leaves behind have the same backend again. -/
theorem perform_backend_congr (quiet : right.Quiet) (same : left.backend = right.backend)
    (call : Call) : (left.perform call).2.backend = (right.perform call).2.backend := by
  have quietLeft : left.Quiet := by rwa [Quiet, same]
  cases call with
  | create entry =>
    rw [perform, perform, reply_snd, reply_snd]
    exact (create_congr quiet same entry).2
  | update id change =>
    rw [perform, perform, reply_snd, reply_snd]
    exact (update_congr quiet same id change).2
  | delete id =>
    rw [perform, perform, reply_snd, reply_snd]
    exact (delete_congr quiet same id).2
  | get id =>
    rw [perform, perform, reply_snd, reply_snd, get_of_quiet quietLeft, get_of_quiet quiet]
    exact same
  | preview id =>
    rw [perform, perform, reply_snd, reply_snd, (preview_reading quietLeft id).backend_eq,
      (preview_reading quiet id).backend_eq]
    exact same
  | search query =>
    rw [perform, perform, reply_snd, reply_snd, search_backend quietLeft, search_backend quiet]
    exact same
  | sanitize => exact same
  | rebuild =>
    rw [perform, perform, reply_snd, reply_snd]
    exact (rebuild_congr same).2

/-- **Consistent services with the same backend reply alike.** -/
theorem perform_congr (consistentLeft : left.Consistent) (consistentRight : right.Consistent)
    (same : left.backend = right.backend) {call : Call} (findsLeft : left.FindsIn call)
    (findsRight : right.FindsIn call) : (left.perform call).1 = (right.perform call).1 := by
  have quiet := consistentRight.quiet
  cases call with
  | create entry =>
    rw [perform, perform]
    exact reply_congr _ (create_congr quiet same entry).1
  | update id change =>
    rw [perform, perform]
    exact reply_congr _ (update_congr quiet same id change).1
  | delete id =>
    rw [perform, perform]
    exact reply_congr _ (delete_congr quiet same id).1
  | get id =>
    rw [perform, perform, get_of_quiet consistentLeft.quiet, get_of_quiet quiet]
    exact reply_congr _ (stored_congr same id)
  | preview id =>
    rw [perform, perform]
    refine reply_congr _ ?_
    rw [consistentLeft.preview_eq findsLeft, consistentRight.preview_eq findsRight, same]
  | search query =>
    obtain ⟨found, answers, answer⟩ := consistentLeft.search_eq findsLeft
    obtain ⟨found', answers', answer'⟩ := consistentRight.search_eq findsRight
    rw [perform, perform]
    refine reply_congr _ ?_
    rw [answer, answer', answers.unique (same ▸ answers')]
  | sanitize => rfl
  | rebuild =>
    rw [perform, perform]
    exact reply_congr _ (rebuild_congr same).1

/-! ## Every history -/

theorem react_backend_congr (quiet : right.Quiet) (same : left.backend = right.backend)
    (event : Event) : (left.react event).backend = (right.react event).backend := by
  cases event with
  | call call => exact perform_backend_congr quiet same call
  | conduct conduct => rw [react, react, withConduct, withConduct, same]
  | elapse => exact same

/-- Reached services with the same backend have the same backend after the same events. -/
theorem run_backend_congr {Admitted : Conduct → Prop} (reached : Reached Admitted right)
    (same : left.backend = right.backend) {events : List Event}
    (within : ∀ event ∈ events, event.Within Admitted) :
    (left.run events).backend = (right.run events).backend := by
  induction events generalizing left right with
  | nil => exact same
  | cons event events ih =>
    exact ih (reached.react (within event List.mem_cons_self))
      (react_backend_congr reached.quiet same event) fun other member =>
        within other (List.mem_cons_of_mem _ member)

/-- **After the same events, reached services with the same backend reply alike.** -/
theorem run_congr (reachedLeft : Reached Conduct.KeepsIds left)
    (reachedRight : Reached Conduct.KeepsIds right) (same : left.backend = right.backend)
    {events : List Event} (within : ∀ event ∈ events, event.Within Conduct.KeepsIds) {call : Call}
    (findsLeft : (left.run events).FindsIn call) (findsRight : (right.run events).FindsIn call) :
    ((left.run events).perform call).1 = ((right.run events).perform call).1 :=
  perform_congr (reachedLeft.run within).consistent (reachedRight.run within).consistent
    (run_backend_congr reachedRight same within) findsLeft findsRight

end KeywordSearch.Service
