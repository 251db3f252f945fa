import KeywordSearch.Proofs.Index.Mirror
import KeywordSearch.Proofs.Service.History

/-!
# Replaying entries in any order

Indexing an entry takes several steps: its id is inserted under each of its
tokens, and its preview is cached (`Step`).  When several threads index entries
at the same time, the steps of all the entries are taken one after another in
some order, with time passing before each of them.  Such an order is a schedule.

Inserting commutes with inserting, because an index is determined by what it
holds (`Index.insert_comm`); caching commutes with caching where the ids differ
(`Cache.put_comm`); and neither touches what the other works on.  So schedules
with the same steps lead to the same engine as long as no time passes, and to
engines with the same index and the same cached previews in any case
(`Engine.sameContents_follow`).

Indexing the stored entries once more, at any later time, changes neither the
index nor the cached previews (`Service.sameContents_rebuild`).
-/

set_option autoImplicit false

namespace KeywordSearch

variable {id : EntryId}

/-! ## What commutes -/

/-- **It does not matter which of two tokens is inserted first.** -/
theorem Index.insert_comm (index : Index) (first second : Token) (id other : EntryId) :
    (index.insert first id).insert second other = (index.insert second other).insert first id := by
  refine ext_holds rfl (fun path => ?_) fun path held => ?_
  · rw [hasPath_insert, hasPath_insert, hasPath_insert, hasPath_insert, or_right_comm]
  · rw [holds_insert, holds_insert, holds_insert, holds_insert, or_right_comm]

/-- Things with different ids may be inserted in either order. -/
theorem Roster.insert_comm {α : Type} [Identified α] (roster : Roster α) {first second : α}
    (different : entryId first ≠ entryId second) :
    (roster.insert first).insert second = (roster.insert second).insert first := by
  refine ext fun id => ?_
  rw [find?_insert, find?_insert, find?_insert, find?_insert]
  split
  next here => rw [if_neg fun there => different (there.trans here.symm)]
  next => rfl

namespace Cache

/-- Previews of entries with different ids may be cached in either order. -/
theorem put_comm (cache : Cache) {first second : Entry} (different : first.id ≠ second.id) :
    (cache.put first).put second = (cache.put second).put first := by
  have slots (now : Nat) : entryId (⟨first.preview, now⟩ : Slot) ≠
      entryId (⟨second.preview, now⟩ : Slot) := different
  cases on : cache.enabled with
  | false => simp [put, on]
  | true => simp [put, keep, on, Roster.insert_comm _ (slots _)]

/-- The preview that is cached for an id, expired or not. -/
def kept? (cache : Cache) (id : EntryId) : Option Preview :=
  (cache.slots.find? id).map Slot.preview

theorem kept?_put (cache : Cache) (entry : Entry) :
    (cache.put entry).kept? id =
      if cache.enabled = true ∧ entry.id = id then some entry.preview else cache.kept? id := by
  have carried : entryId (⟨entry.preview, cache.now⟩ : Slot) = entry.id := rfl
  rw [put, kept?]
  split
  next on =>
    simp only [on, true_and, keep, Roster.find?_insert, carried]
    split <;> rfl
  next off => simp [off, kept?]

@[simp] theorem enabled_put (cache : Cache) (entry : Entry) :
    (cache.put entry).enabled = cache.enabled := by
  rw [put]
  split <;> rfl

end Cache

/-! ## Steps and schedules -/

/-- A step of indexing an entry. -/
inductive Step where
  | insert (token : Token) (id : EntryId)
  | cache (entry : Entry)
  deriving DecidableEq

/-- The steps of indexing an entry. -/
def Entry.steps (entry : Entry) : List Step :=
  entry.tokens.map (.insert · entry.id) ++ [.cache entry]

namespace Engine

variable {engine left right : Engine} {entries : List Entry} {entry : Entry}

/-- Lets time pass. -/
def elapse (engine : Engine) (ticks : Nat) : Engine :=
  { engine with cache := engine.cache.elapse ticks }

/-- The engine after a step. -/
def take (engine : Engine) : Step → Engine
  | .insert token id => { engine with index := engine.index.insert token id }
  | .cache entry => { engine with cache := engine.cache.put entry }

/-- The engine after the steps of a schedule, each with the time that passes before it. -/
def follow (engine : Engine) (schedule : List (Nat × Step)) : Engine :=
  schedule.foldl (fun engine step => (engine.elapse step.1).take step.2) engine

/-- Indexing an entry is taking its steps. -/
theorem foldl_take_steps (engine : Engine) (entry : Entry) :
    entry.steps.foldl take engine = engine.indexEntry entry := by
  have inserted (tokens : List Token) (engine : Engine) :
      (tokens.map (Step.insert · entry.id)).foldl take engine =
        { engine with index := engine.index.insertAll tokens entry.id } := by
    induction tokens generalizing engine with
    | nil => rfl
    | cons token tokens ih =>
      rw [List.map_cons, List.foldl_cons, ih]
      rfl
  rw [Entry.steps, List.foldl_append, inserted]
  rfl

theorem foldl_take_flatMap_steps (engine : Engine) (entries : List Entry) :
    (entries.flatMap Entry.steps).foldl take engine = engine.indexAll entries := by
  induction entries generalizing engine with
  | nil => rfl
  | cons entry entries ih =>
    rw [List.flatMap_cons, List.foldl_append, foldl_take_steps, ih]
    rfl

/-- Steps commute unless they cache different entries under one id. -/
theorem take_comm {first second : Step}
    (distinct : ∀ entry other, first = .cache entry → second = .cache other →
      entry.id = other.id → entry = other) :
    (engine.take first).take second = (engine.take second).take first := by
  cases first with
  | insert token id =>
    cases second with
    | insert other held => simp only [take, Index.insert_comm]
    | cache => rfl
  | cache entry =>
    cases second with
    | insert => rfl
    | cache other =>
      by_cases same : entry.id = other.id
      · obtain rfl := distinct entry other rfl rfl same
        rfl
      · simp only [take, Cache.put_comm _ same]

/-- **In whatever order the steps of entries with different ids are taken, the engine is the
one that indexes the entries one after another.** -/
theorem foldl_take_perm (distinct : (entries.map Entry.id).Nodup) {steps : List Step}
    (order : steps.Perm (entries.flatMap Entry.steps)) :
    steps.foldl take engine = engine.indexAll entries := by
  have cached (entry : Entry) (member : Step.cache entry ∈ steps) : entry ∈ entries := by
    obtain ⟨other, stored, step⟩ := List.mem_flatMap.1 (order.mem_iff.1 member)
    have same : entry = other := by simpa [Entry.steps] using step
    exact same ▸ stored
  rw [← foldl_take_flatMap_steps]
  refine order.foldl_eq' (fun first inFirst second inSecond engine => take_comm ?_) engine
  rintro entry other rfl rfl sameId
  exact List.inj_on_of_nodup_map distinct (cached _ inFirst) (cached _ inSecond) sameId

/-- Entries with different ids may be indexed in any order. -/
theorem indexAll_perm (distinct : (entries.map Entry.id).Nodup) {order : List Entry}
    (perm : order.Perm entries) : engine.indexAll order = engine.indexAll entries := by
  rw [← foldl_take_flatMap_steps]
  exact foldl_take_perm distinct (perm.flatMap_right _)

/-! ## Steps at different times -/

/-- Engines with the same index that cache the same previews, each at its own time. -/
structure SameContents (left right : Engine) : Prop where
  index : left.index = right.index
  enabled : left.cache.enabled = right.cache.enabled
  kept : ∀ id, left.cache.kept? id = right.cache.kept? id

theorem SameContents.refl (engine : Engine) : engine.SameContents engine :=
  ⟨rfl, rfl, fun _ => rfl⟩

/-- It does not matter when a step is taken. -/
theorem SameContents.take_elapse (same : left.SameContents right) (ticks : Nat) (step : Step) :
    ((left.elapse ticks).take step).SameContents (right.take step) := by
  have kept (id : EntryId) : (left.cache.elapse ticks).kept? id = right.cache.kept? id :=
    same.kept id
  have enabled : (left.cache.elapse ticks).enabled = right.cache.enabled := same.enabled
  cases step with
  | insert token id => exact ⟨congrArg (·.insert token id) same.index, enabled, kept⟩
  | cache entry =>
    refine ⟨same.index, ?_, fun id => ?_⟩
    · simp only [take, elapse, Cache.enabled_put, enabled]
    · simp only [take, elapse, Cache.kept?_put, enabled, kept]

/-- **A schedule leads to the contents that its steps lead to at one time.** -/
theorem sameContents_follow (schedule : List (Nat × Step)) :
    (engine.follow schedule).SameContents ((schedule.map Prod.snd).foldl take engine) := by
  have related (left right : Engine) (same : left.SameContents right) :
      (left.follow schedule).SameContents ((schedule.map Prod.snd).foldl take right) := by
    induction schedule generalizing left right with
    | nil => exact same
    | cons step schedule ih => exact ih _ _ (same.take_elapse step.1 step.2)
  exact related engine engine (.refl engine)

/-- Where no time passes, a schedule is no more than its steps. -/
theorem follow_of_no_time {schedule : List (Nat × Step)} (atOnce : ∀ step ∈ schedule, step.1 = 0) :
    engine.follow schedule = (schedule.map Prod.snd).foldl take engine := by
  induction schedule generalizing engine with
  | nil => rfl
  | cons step schedule ih =>
    have now : step.1 = 0 := atOnce step List.mem_cons_self
    have same : engine.follow (step :: schedule) = (engine.take step.2).follow schedule := by
      rw [follow, List.foldl_cons, now]
      rfl
    rw [same, ih fun other member => atOnce other (List.mem_cons_of_mem _ member)]
    rfl

/-! ## Indexing again -/

theorem config_indexAll (engine : Engine) (entries : List Entry) :
    (engine.indexAll entries).config = engine.config := by
  induction entries generalizing engine with
  | nil => rfl
  | cons entry entries ih => exact ih (engine.indexEntry entry)

theorem enabled_indexAll (engine : Engine) (entries : List Entry) :
    (engine.indexAll entries).cache.enabled = engine.cache.enabled := by
  induction entries generalizing engine with
  | nil => rfl
  | cons entry entries ih => exact (ih _).trans (Cache.enabled_put engine.cache entry)

/-- A cache that is switched off stays as it is. -/
theorem cache_indexAll_of_disabled (disabled : engine.cache.enabled = false) :
    (engine.indexAll entries).cache = engine.cache := by
  induction entries generalizing engine with
  | nil => rfl
  | cons entry entries ih =>
    have first : (engine.indexEntry entry).cache = engine.cache := by
      rw [indexEntry, Cache.put, disabled]
      rfl
    exact (ih (first ▸ disabled)).trans first

theorem kept?_indexAll_of_notMem (others : ∀ entry ∈ entries, entry.id ≠ id) :
    (engine.indexAll entries).cache.kept? id = engine.cache.kept? id := by
  induction entries generalizing engine with
  | nil => rfl
  | cons entry entries ih =>
    have first : entry.id ≠ id := others entry List.mem_cons_self
    have put : (engine.indexEntry entry).cache.kept? id = engine.cache.kept? id := by
      rw [indexEntry, Cache.kept?_put, if_neg]
      exact fun both => first both.2
    exact (ih fun other member => others other (List.mem_cons_of_mem _ member)).trans put

theorem kept?_indexAll_of_mem (distinct : (entries.map Entry.id).Nodup) (member : entry ∈ entries)
    (enabled : engine.cache.enabled = true) :
    (engine.indexAll entries).cache.kept? entry.id = some entry.preview := by
  induction entries generalizing engine with
  | nil => cases member
  | cons first entries ih =>
    obtain ⟨fresh, distinct⟩ := List.nodup_cons.1 distinct
    rw [indexAll, List.foldl_cons, ← indexAll]
    rcases List.mem_cons.1 member with rfl | later
    · have others : ∀ other ∈ entries, other.id ≠ entry.id := fun other there same =>
        fresh (List.mem_map.2 ⟨other, there, same⟩)
      rw [kept?_indexAll_of_notMem others, indexEntry, Cache.kept?_put, if_pos ⟨enabled, rfl⟩]
    · exact ih distinct later ((Cache.enabled_put engine.cache first).trans enabled)

/-- Entries that have been indexed leave the index as it is when they are indexed again. -/
theorem index_indexAll_again (indexed : right.index = (left.indexAll entries).index) :
    (right.indexAll entries).index = right.index := by
  refine Index.ext_holds (by simp) (fun path => ?_) fun path id => ?_
  · rw [hasPath_indexAll, indexed, hasPath_indexAll, or_assoc, or_self]
  · rw [holds_indexAll, indexed, holds_indexAll, or_assoc, or_self]

end Engine

/-- What is stored has different ids. -/
theorem Store.nodup_ids (store : Store) : (store.items.map Entry.id).Nodup :=
  List.pairwise_map.2 (store.ascending.imp EntryId.ne_of_lt)

/-- What is cached once the stored entries have been indexed. -/
theorem Engine.kept?_indexAll_items (engine : Engine) (store : Store) (id : EntryId) :
    (engine.indexAll store.items).cache.kept? id =
      if engine.cache.enabled then
        ((store.find? id).map Entry.preview).or (engine.cache.kept? id)
      else engine.cache.kept? id := by
  split
  next enabled =>
    cases found : store.find? id with
    | some entry =>
      obtain rfl : entry.id = id := Roster.entryId_of_find? found
      exact kept?_indexAll_of_mem store.nodup_ids (Roster.mem_of_find? found) enabled
    | none =>
      refine kept?_indexAll_of_notMem fun entry stored same => ?_
      subst same
      exact Option.some_ne_none entry ((Roster.find?_of_mem stored).symm.trans found)
  next disabled => rw [cache_indexAll_of_disabled (Bool.not_eq_true _ ▸ disabled)]

/-! ## Rebuilding -/

namespace Service

variable {service : Service}

theorem kept?_flushed (service : Service) (id : EntryId) :
    service.flushed.engine.cache.kept? id =
      if service.engine.config.flushCacheOnStartup then none
      else service.engine.cache.kept? id := by
  rw [flushed]
  split <;> rfl

/-- What is cached once the index has been rebuilt: the previews of what is stored, and of
what was cached before, if that stays, the others. -/
theorem kept?_rebuild (lists : service.backend.conduct.listFault = none) (id : EntryId) :
    service.rebuild.2.engine.cache.kept? id =
      if service.engine.cache.enabled then
        ((service.backend.store.find? id).map Entry.preview).or
          (service.flushed.engine.cache.kept? id)
      else service.flushed.engine.cache.kept? id := by
  rw [rebuild_of_lists lists, ← flushed_enabled]
  exact Engine.kept?_indexAll_items _ _ _

/-- Rebuilding leaves the settings alone, and what is stored. -/
theorem rebuild_settings (service : Service) :
    service.rebuild.2.backend = service.backend ∧
      service.rebuild.2.engine.config = service.engine.config ∧
      service.rebuild.2.engine.cache.enabled = service.engine.cache.enabled := by
  refine ⟨(rebuild_rebuilding service).backend_eq, ?_⟩
  cases lists : service.backend.conduct.listFault with
  | some text =>
    rw [rebuild_of_refuses lists]
    exact ⟨flushed_config service, flushed_enabled service⟩
  | none =>
    rw [rebuild_of_lists lists]
    exact ⟨(Engine.config_indexAll _ _).trans (flushed_config service),
      (Engine.enabled_indexAll _ _).trans (flushed_enabled service)⟩

/-- **Rebuilding again, at any later time, changes neither the index nor the cached
previews.** -/
theorem sameContents_rebuild (service : Service) (ticks : Nat) :
    ((service.rebuild.2.mapCache (·.elapse ticks)).rebuild.2.engine).SameContents
      service.rebuild.2.engine := by
  obtain ⟨backend, config, enabled⟩ := rebuild_settings service
  generalize atFirst : service.rebuild.2 = once at backend config enabled ⊢
  let later := once.mapCache (·.elapse ticks)
  have kept (id : EntryId) : later.flushed.engine.cache.kept? id =
      if service.engine.config.flushCacheOnStartup then none else once.engine.cache.kept? id := by
    rw [kept?_flushed, ← config]
    rfl
  show later.rebuild.2.engine.SameContents once.engine
  cases lists : service.backend.conduct.listFault with
  | some text =>
    have refuses : later.backend.conduct.listFault = some text := by
      rw [mapCache_backend, backend, lists]
    rw [rebuild_of_refuses refuses]
    refine ⟨flushed_index later, flushed_enabled later, fun id => ?_⟩
    rw [kept, ← atFirst, rebuild_of_refuses lists, kept?_flushed]
    split <;> rfl
  | none =>
    have listsLater : later.backend.conduct.listFault = none := by
      rw [mapCache_backend, backend, lists]
    refine ⟨?_, (rebuild_settings later).2.2, fun id => ?_⟩
    · have indexed : later.flushed.engine.index =
          (service.flushed.engine.indexAll service.backend.store.items).index := by
        rw [rebuild_of_lists lists] at atFirst
        rw [flushed_index, mapCache_index, ← atFirst]
        rfl
      rw [rebuild_of_lists listsLater, mapCache_backend, backend]
      exact (Engine.index_indexAll_again indexed).trans (flushed_index later)
    · have enabledLater : later.engine.cache.enabled = service.engine.cache.enabled := enabled
      rw [kept?_rebuild listsLater, kept, enabledLater, mapCache_backend, backend, ← atFirst,
        kept?_rebuild lists, kept?_flushed]
      cases service.backend.store.find? id <;> cases service.engine.cache.enabled <;>
        cases service.engine.config.flushCacheOnStartup <;> simp

end Service

/-- **It does not matter in which order entries are replayed.**  Entries with different ids
may be indexed in any order, with the same index and the same cached previews at the end.
Nor does it matter how the steps of indexing them follow upon each other, and when.  So it
makes no difference to a rebuild whether the stored entries are indexed one after another or
side by side, and where no time passes the two lead to the same service, which counts the
same points and answers every search alike.  To rebuild once more, at any later time,
changes neither the index nor the cached previews. -/
theorem replay_in_any_order :
    (∀ (engine : Engine) {entries order : List Entry}, (entries.map Entry.id).Nodup →
      order.Perm entries → engine.indexAll order = engine.indexAll entries) ∧
    (∀ (engine : Engine) {entries : List Entry} {schedule : List (Nat × Step)},
      (entries.map Entry.id).Nodup → (schedule.map Prod.snd).Perm (entries.flatMap Entry.steps) →
      (engine.follow schedule).SameContents (engine.indexAll entries)) ∧
    (∀ (service : Service) {schedule : List (Nat × Step)},
      service.backend.conduct.listFault = none →
      (schedule.map Prod.snd).Perm (service.backend.store.items.flatMap Entry.steps) →
      (service.flushed.mapEngine (·.follow schedule)).engine.SameContents service.rebuild.2.engine ∧
      ((∀ step ∈ schedule, step.1 = 0) →
        service.flushed.mapEngine (·.follow schedule) = service.rebuild.2)) ∧
    ∀ (service : Service) (ticks : Nat),
      ((service.rebuild.2.mapCache (·.elapse ticks)).rebuild.2.engine).SameContents
        service.rebuild.2.engine := by
  have replayed (engine : Engine) {entries : List Entry} {schedule : List (Nat × Step)}
      (distinct : (entries.map Entry.id).Nodup)
      (order : (schedule.map Prod.snd).Perm (entries.flatMap Entry.steps)) :
      (engine.follow schedule).SameContents (engine.indexAll entries) :=
    Engine.foldl_take_perm distinct order ▸ Engine.sameContents_follow schedule
  refine ⟨fun engine _ _ distinct => Engine.indexAll_perm distinct,
    fun engine _ _ => replayed engine, ?_, Service.sameContents_rebuild⟩
  intro service schedule lists order
  have distinct := service.backend.store.nodup_ids
  rw [Service.rebuild_of_lists lists]
  refine ⟨replayed _ distinct order, fun atOnce => ?_⟩
  rw [Service.mapEngine, Engine.follow_of_no_time atOnce, Engine.foldl_take_perm distinct order]
  rfl

/-- Two entries that are indexed at the same time. -/
def sampleSchedule : List (Nat × Step) := [
  (3, .insert "toner*".toList ⟨2⟩),
  (0, .insert "print".toList ⟨1⟩),
  (2, .insert "printer".toList ⟨2⟩),
  (0, .cache { id := ⟨2⟩, question := "Printer toner", keywords := ["Printer", "toner*"] }),
  (5, .insert "printer".toList ⟨1⟩),
  (1, .cache { id := ⟨1⟩, question := "Printer offline", keywords := ["print", "printer"] })]

theorem replay_in_any_order_sample :
    (sampleStore.items.map Entry.id).Nodup ∧
    (sampleSchedule.map Prod.snd).Perm (sampleStore.items.flatMap Entry.steps) ∧
    ((Engine.ofConfig {}).follow sampleSchedule).SameContents
      ((Engine.ofConfig {}).indexAll sampleStore.items) ∧
    (((Service.ofBackend {} { store := sampleStore }).mapEngine
      (·.follow sampleSchedule)).engine).SameContents
        (Service.ofBackend {} { store := sampleStore }).rebuild.2.engine ∧
    ((Engine.ofConfig {}).follow sampleSchedule).index.nodeCount = 14 := by
  obtain ⟨_, schedules, services, _⟩ := replay_in_any_order
  have distinct := Store.nodup_ids sampleStore
  have order : (sampleSchedule.map Prod.snd).Perm (sampleStore.items.flatMap Entry.steps) := by
    decide +kernel
  exact ⟨distinct, order, schedules _ distinct order,
    (services (Service.ofBackend {} { store := sampleStore }) rfl order).1, by decide +kernel⟩

end KeywordSearch
