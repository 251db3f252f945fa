import KeywordSearch.Proofs.Cache.Coherence
import KeywordSearch.Proofs.Index.Holding
import KeywordSearch.Proofs.Service.Atomicity

/-!
# Calls that touch one entry only

All entries share the points of the index, and replacing, changing and deleting an
entry prunes the index as a whole.  Still such a call concerns no id but its own: what
is stored, held and cached under any other id is what it was, and so are the counts of
hits and misses (`Service.ChangesOnly`).

This is said of one step at a time, of indexing and unindexing an entry, of pruning,
and of a change of the stored entry, and follows for each of the outcomes of a call,
failures among them.  It does not matter whether index, cache and store agree with
each other.  The service has to be quiet, since what races with a look-up is put into
the cache under an id of its own, and the store has to keep the ids of what it saves.

What a call does under its own id can be told from its reply (`Service.Truthful`): an
entry that was saved is stored and held, one that was deleted is neither, and where the
call failed what is stored is what it was.

The calls of a session on one entry taken together touch that entry only
(`Service.changesOnly_run`).
-/

set_option autoImplicit false

namespace KeywordSearch

namespace Service

variable {service after first second third : Service} {id : EntryId} {entry : Entry}

/-- The second service differs from the first at most in what concerns one id. -/
structure ChangesOnly (id : EntryId) (before after : Service) : Prop where
  config : after.engine.config = before.engine.config
  /-- The store behaves as it did, and nothing is on its way into the cache that was not. -/
  backend : after.backend = { before.backend with store := after.backend.store }
  stored : ∀ other, other ≠ id →
    after.backend.store.find? other = before.backend.store.find? other
  /-- Any other id is held at a path if it was held there. -/
  holds_iff : ∀ other, other ≠ id → ∀ path,
    after.engine.index.Holds path other ↔ before.engine.index.Holds path other
  /-- No other slot of the cache has changed, and neither have its settings, its clock and its
  counts of hits and misses. -/
  cache : Cache.DiffersAt id before.engine.cache after.engine.cache

theorem ChangesOnly.refl (id : EntryId) (service : Service) : service.ChangesOnly id service where
  config := rfl
  backend := rfl
  stored := fun _ _ => rfl
  holds_iff := fun _ _ _ => .rfl
  cache := .refl id _

theorem ChangesOnly.trans (earlier : first.ChangesOnly id second)
    (later : second.ChangesOnly id third) : first.ChangesOnly id third where
  config := later.config.trans earlier.config
  backend := by rw [later.backend, earlier.backend]
  stored := by
    intro other different
    rw [later.stored other different, earlier.stored other different]
  holds_iff := by
    intro other different path
    rw [later.holds_iff other different, earlier.holds_iff other different]
  cache := earlier.cache.trans later.cache

/-! ## The steps of a call -/

theorem changesOnly_index (service : Service) (same : entry.id = id) :
    service.ChangesOnly id (service.index entry) where
  config := rfl
  backend := rfl
  stored := fun _ _ => rfl
  holds_iff := by
    intro other different path
    show (service.engine.index.insertAll entry.tokens entry.id).Holds path other ↔ _
    rw [Index.holds_insertAll, same]
    refine or_iff_left ?_
    rintro ⟨mine, _⟩
    exact different mine
  cache := same ▸ Cache.differsAt_put service.engine.cache entry

theorem changesOnly_unindex (service : Service) (same : entry.id = id) :
    service.ChangesOnly id (service.unindex entry) where
  config := rfl
  backend := rfl
  stored := fun _ _ => rfl
  holds_iff := by
    intro other different path
    show (service.engine.index.removeAll entry.tokens entry.id).Holds path other ↔ _
    rw [Index.holds_removeAll, same]
    refine and_iff_left ?_
    rintro ⟨mine, _⟩
    exact different mine
  cache := same ▸ Cache.differsAt_evict service.engine.cache entry.id

/-- Pruning concerns no id at all. -/
theorem changesOnly_sanitize (id : EntryId) (service : Service) :
    service.ChangesOnly id service.sanitize where
  config := rfl
  backend := rfl
  stored := fun _ _ => rfl
  holds_iff := fun _ _ _ => Index.holds_prune
  cache := .refl id _

theorem changesOnly_withStore {store : Store}
    (stored : ∀ other, other ≠ id → store.find? other = service.backend.store.find? other) :
    service.ChangesOnly id (service.withStore store) where
  config := rfl
  backend := rfl
  stored := stored
  holds_iff := fun _ _ _ => .rfl
  cache := .refl id _

theorem changesOnly_keep (service : Service) (same : entry.id = id) :
    service.ChangesOnly id (service.keep entry) := by
  refine changesOnly_withStore ?_
  intro other different
  have carried : entryId entry = id := same
  rw [Roster.find?_insert, carried, if_neg different.symm]

/-! ## Whole calls -/

/-- Whether a call adds an entry, replaces it, or puts it back, it touches that entry only. -/
theorem changesOnly_saving {answer : Except Failure Entry}
    (keeps : service.backend.conduct.KeepsIds) (saving : Saving service id answer after) :
    service.ChangesOnly id after := by
  cases saving with
  | refused => exact .refl id service
  | @added saved _ stores =>
    have sameId : saved.id = id := keeps.id_eq stores
    exact (changesOnly_keep service sameId).trans (changesOnly_index _ sameId)
  | @restored previous _ found =>
    have sameId : previous.id = id := Roster.entryId_of_find? found
    exact (changesOnly_unindex service sameId).trans (changesOnly_index _ sameId)
  | @replaced previous saved found stores =>
    have previousId : previous.id = id := Roster.entryId_of_find? found
    have savedId : saved.id = id := keeps.id_eq stores
    have taken := changesOnly_unindex service previousId
    have kept := taken.trans (changesOnly_keep _ savedId)
    have indexed := kept.trans (changesOnly_index _ savedId)
    exact indexed.trans (changesOnly_sanitize id _)

/-- Whether the entry is deleted or put back, deleting touches that entry only. -/
theorem changesOnly_deleting {answer : Except Failure Unit}
    (deleting : Deleting service id answer after) : service.ChangesOnly id after := by
  cases deleting with
  | refused => exact .refl id service
  | @restored current _ found =>
    have sameId : current.id = id := Roster.entryId_of_find? found
    have pruned := (changesOnly_unindex service sameId).trans (changesOnly_sanitize id _)
    exact pruned.trans (changesOnly_index _ sameId)
  | @deleted current found =>
    have sameId : current.id = id := Roster.entryId_of_find? found
    have pruned := (changesOnly_unindex service sameId).trans (changesOnly_sanitize id _)
    refine pruned.trans (changesOnly_withStore ?_)
    intro other different
    rw [Roster.find?_erase, if_neg different]
    rfl

theorem changesOnly_perform (quiet : service.Quiet) (keeps : service.backend.conduct.KeepsIds)
    {call : Call} (targets : call.target = some id) :
    service.ChangesOnly id (service.perform call).2 := by
  rcases Call.saves_or_eq_delete targets with saves | rfl
  · obtain ⟨answered, performs, saving⟩ := perform_saving quiet saves
    rw [performs, reply_snd]
    exact changesOnly_saving keeps saving
  · rw [perform, reply_snd]
    exact changesOnly_deleting (delete_deleting quiet id)

/-! ## What a call does to its own entry -/

/-- The reply to a call about an entry is true of the service afterwards. -/
structure Truthful (before : Service) (id : EntryId) (reply : Reply) (after : Service) : Prop where
  /-- The entry that is replied is stored under the id, and its id held wherever it spells. -/
  saved : ∀ entry, reply = .entry entry → after.backend.store.find? id = some entry ∧
    ∀ path, entry.Spells path → after.engine.index.Holds path id
  /-- If the call is done, nothing is stored or cached under the id, and it is held nowhere
  that the entry spelled which was stored under it. -/
  deleted : reply = .done → after.backend.store.find? id = none ∧
    after.engine.cache.slots.find? id = none ∧
    ∀ entry, before.backend.store.find? id = some entry →
      ∀ path, entry.Spells path → ¬after.engine.index.Holds path id
  /-- If the call has failed, what is stored is what was stored. -/
  failed : ∀ failure, reply = .failed failure → after.backend = before.backend

theorem truthful_failed (failure : Failure) (same : after.backend = service.backend) :
    service.Truthful id (.failed failure) after where
  saved := by
    rintro _ ⟨⟩
  deleted := by
    rintro ⟨⟩
  failed := fun _ _ => same

/-- An entry that was kept and indexed is stored and held. -/
theorem truthful_saved {saved : Entry} (same : saved.id = id)
    (stored : after.backend.store = service.backend.store.insert saved)
    (holds : ∀ path, saved.Spells path → after.engine.index.Holds path saved.id) :
    service.Truthful id (.entry saved) after where
  saved := by
    rintro _ ⟨⟩
    have carried : entryId saved = id := same
    rw [stored, Roster.find?_insert, if_pos carried]
    exact ⟨rfl, same ▸ holds⟩
  deleted := by
    rintro ⟨⟩
  failed := by
    rintro _ ⟨⟩

theorem truthful_saving {answered : Answered Entry} (keeps : service.backend.conduct.KeepsIds)
    (saving : Saving service id answered.1 answered.2) :
    service.Truthful id (answered.reply .entry).1 answered.2 := by
  obtain ⟨answer, after⟩ := answered
  have indexed (before : Service) {saved : Entry} {path : List Char}
      (spells : saved.Spells path) : (before.index saved).engine.index.Holds path saved.id :=
    Index.holds_insertAll.2 (.inr ⟨rfl, spells⟩)
  cases saving with
  | refused failure => exact truthful_failed failure rfl
  | added _ stores => exact truthful_saved (keeps.id_eq stores) rfl fun _ => indexed _
  | restored failure => exact truthful_failed failure rfl
  | replaced _ stores =>
    refine truthful_saved (keeps.id_eq stores) rfl ?_
    intro path spells
    exact Index.holds_prune.2 (indexed _ spells)

theorem truthful_deleting {answered : Answered Unit}
    (deleting : Deleting service id answered.1 answered.2) :
    service.Truthful id (answered.reply fun _ => .done).1 answered.2 := by
  obtain ⟨answer, after⟩ := answered
  cases deleting with
  | refused failure => exact truthful_failed failure rfl
  | restored failure => exact truthful_failed failure rfl
  | @deleted current found =>
    obtain rfl : current.id = id := Roster.entryId_of_find? found
    refine ⟨by rintro _ ⟨⟩, fun _ => ⟨?_, ?_, ?_⟩, by rintro _ ⟨⟩⟩
    · exact Roster.find?_erase_self service.backend.store current.id
    · exact Roster.find?_erase_self service.engine.cache.slots current.id
    · intro entry before path spells holds
      obtain rfl : current = entry := Option.some.inj (found.symm.trans before)
      have left := Index.holds_removeAll.1 (Index.holds_prune.1 holds)
      exact left.2 ⟨rfl, spells⟩

theorem truthful_perform (quiet : service.Quiet) (keeps : service.backend.conduct.KeepsIds)
    {call : Call} (targets : call.target = some id) :
    service.Truthful id (service.perform call).1 (service.perform call).2 := by
  rcases Call.saves_or_eq_delete targets with saves | rfl
  · obtain ⟨answered, performs, saving⟩ := perform_saving quiet saves
    rw [performs, reply_snd]
    exact truthful_saving keeps saving
  · rw [perform, reply_snd]
    exact truthful_deleting (delete_deleting quiet id)

/-! ## Sessions on one entry -/

theorem ChangesOnly.quiet (changes : service.ChangesOnly id after) (quiet : service.Quiet) :
    after.Quiet := by
  rw [Quiet, changes.backend]
  exact quiet

theorem ChangesOnly.keepsIds (changes : service.ChangesOnly id after)
    (keeps : service.backend.conduct.KeepsIds) : after.backend.conduct.KeepsIds := by
  rw [changes.backend]
  exact keeps

/-- **However many calls are made to change one entry, they change only that.** -/
theorem changesOnly_run (quiet : service.Quiet) (keeps : service.backend.conduct.KeepsIds)
    {calls : List Call} (targets : ∀ call ∈ calls, call.target = some id) :
    service.ChangesOnly id (service.run (calls.map .call)) := by
  induction calls generalizing service with
  | nil => exact .refl id service
  | cons call calls ih =>
    have one := changesOnly_perform quiet keeps (targets call List.mem_cons_self)
    have rest := ih (one.quiet quiet) (one.keepsIds keeps) fun other member =>
      targets other (List.mem_cons_of_mem _ member)
    exact one.trans rest

end Service

/-- **Creating, updating and deleting an entry touch that entry only.**  Whether the call
succeeds or fails, and whether or not index, cache and store agree, under every other id the
same is stored, held and cached afterwards as before, and no hit or miss is counted, if no
preview is on its way into the cache and the store keeps the ids of what it saves.  What has
happened under the id itself is what the reply says. -/
theorem call_changes_only_its_entry {service : Service} (quiet : service.Quiet)
    (keeps : service.backend.conduct.KeepsIds) {call : Call} {id : EntryId}
    (targets : call.target = some id) :
    service.ChangesOnly id (service.perform call).2 ∧
      (service.perform call).2.engine.cache.hits = service.engine.cache.hits ∧
      (service.perform call).2.engine.cache.misses = service.engine.cache.misses ∧
      service.Truthful id (service.perform call).1 (service.perform call).2 := by
  have changes := Service.changesOnly_perform quiet keeps targets
  refine ⟨changes, ?_, ?_, Service.truthful_perform quiet keeps targets⟩
  · rw [changes.cache.settings]
  · rw [changes.cache.settings]

/-- A service whose index knows nothing of what is stored and has an orphan, and whose store
refuses to delete. -/
def strayService : Service where
  engine :=
    { config := {}
      index := ((Index.empty.insert "fax".toList ⟨9⟩).insert "fan".toList ⟨2⟩).remove
        "fan".toList ⟨2⟩
      cache := (((Cache.ofConfig {}).put { id := ⟨9⟩, question := "Gone" }).put
        { id := ⟨2⟩, question := "Fan" }).countHit }
  backend := { store := sampleStore, conduct := { deleteFault := some "busy" } }

/-- Deleting fails and prunes the orphan; another id is held beside it as before, and cached. -/
theorem call_changes_only_its_entry_sample :
    strayService.Quiet ∧ strayService.backend.conduct.KeepsIds ∧
    (Call.delete ⟨2⟩).target = some ⟨2⟩ ∧
    (strayService.perform (.delete ⟨2⟩)).1 = .failed (.store "busy") ∧
    strayService.ChangesOnly ⟨2⟩ (strayService.perform (.delete ⟨2⟩)).2 ∧
    (strayService.perform (.delete ⟨2⟩)).2.backend = strayService.backend ∧
    (strayService.perform (.delete ⟨2⟩)).2.engine.cache.hits = 1 ∧
    strayService.engine.index.HasPath "fan".toList ∧
    ¬(strayService.perform (.delete ⟨2⟩)).2.engine.index.HasPath "fan".toList ∧
    (strayService.perform (.delete ⟨2⟩)).2.engine.index.Holds "fax".toList ⟨9⟩ := by
  have quiet : strayService.Quiet := rfl
  have keeps : strayService.backend.conduct.KeepsIds := fun _ => rfl
  obtain ⟨changes, hits, _, truthful⟩ := call_changes_only_its_entry quiet keeps
    (rfl : (Call.delete ⟨2⟩).target = some ⟨2⟩)
  have failed : (strayService.perform (.delete ⟨2⟩)).1 = .failed (.store "busy") := by
    decide +kernel
  have held : strayService.engine.index.Holds "fax".toList ⟨9⟩ := by decide +kernel
  have orphan : strayService.engine.index.HasPath "fan".toList := by
    rw [Index.HasPath]
    decide +kernel
  have pruned : ¬(strayService.perform (.delete ⟨2⟩)).2.engine.index.HasPath "fan".toList := by
    rw [Index.HasPath]
    decide +kernel
  have different : (⟨9⟩ : EntryId) ≠ ⟨2⟩ := by decide
  exact ⟨quiet, keeps, rfl, failed, changes, truthful.failed _ failed, hits, orphan, pruned,
    (changes.holds_iff ⟨9⟩ different _).2 held⟩

end KeywordSearch
