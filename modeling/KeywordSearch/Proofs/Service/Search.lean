import KeywordSearch.Proofs.Ranking
import KeywordSearch.Proofs.Service.Consistency

/-!
# What a search answers

The answer of a search is determined by the stored entries.  The index of a
consistent service mirrors them, so the candidates for a query are the stored
entries of positive weight, with their weights (`Engine.mem_candidates`).  The
cache is coherent with them, so a preview is that of the stored entry whether it
comes from the cache or not, and reading it leaves all other previews readable
(`Service.Consistent.previews_eq`).  What remains of the candidates are the
active entries in their order, which is the one answer to the query
(`Service.Consistent.search_eq`).

A search looks up only the candidates that have no fresh preview in the cache;
it is these look-ups that must not fail (`Service.FindsFor`).
-/

set_option autoImplicit false

namespace KeywordSearch

variable {store : Store} {query : String} {id : EntryId}

/-! ## Candidates -/

/-- A term finds in an index that mirrors a store the entries that it matches. -/
theorem Index.Mirrors.contains_search {index : Index} (mirrors : index.Mirrors store) {term : Token}
    (nonempty : term ≠ []) :
    (index.search term).contains id = true ↔
      ∃ entry, store.find? id = some entry ∧ store.Matches term entry := by
  have known : index.HasPath = store.Spells := funext fun path => propext mirrors.hasPath_iff
  by_cases spelled : store.Spells term
  · have has : index.HasPath term := mirrors.hasPath_iff.2 spelled
    simp only [Index.contains_search_of_hasPath has, mirrors.agrees term id, Store.Matches,
      if_pos spelled]
  · have missing : ¬index.HasPath term := fun has => spelled (mirrors.hasPath_iff.1 has)
    rw [Index.contains_search_of_not_hasPath nonempty missing, known]
    simp only [Store.Matches, if_neg spelled, Store.FallsBack]
    constructor
    · rintro ⟨reached, farthest, holds⟩
      obtain ⟨entry, found, spells⟩ := (mirrors.agrees _ id).1 holds
      exact ⟨entry, found, reached, farthest, Entry.spells_wildcard.1 spells⟩
    · rintro ⟨entry, found, reached, farthest, member⟩
      exact ⟨reached, farthest, mirrors.agrees.holds found (Entry.spells_wildcard.2 member)⟩

namespace Engine

variable {engine : Engine}

/-- The terms that find a stored entry are as many as its weight. -/
theorem countP_search (mirrors : engine.index.Mirrors store) {entry : Entry}
    (found : store.find? id = some entry) :
    ((Token.ofQuery query.toList).map engine.index.search).countP (·.contains id) =
      store.weight query entry := by
  rw [List.countP_map, Store.weight]
  refine List.countP_congr fun term member => ?_
  rw [Function.comp_apply, mirrors.contains_search (Token.ne_nil_of_mem_ofQuery member), found]
  simp

/-- **The candidates for a query are the stored entries of positive weight.** -/
theorem mem_candidates (mirrors : engine.index.Mirrors store) {candidate : Candidate} :
    candidate ∈ engine.candidates query ↔
      ∃ entry, store.find? candidate.id = some entry ∧ 0 < candidate.weight ∧
        candidate.weight = store.weight query entry := by
  rw [candidates, mem_rank]
  constructor
  · rintro ⟨positive, counted⟩
    obtain ⟨hit, member, contains⟩ := List.countP_pos_iff.1 (counted ▸ positive)
    obtain ⟨term, occurs, rfl⟩ := List.mem_map.1 member
    obtain ⟨entry, found, _⟩ :=
      (mirrors.contains_search (Token.ne_nil_of_mem_ofQuery occurs)).1 contains
    exact ⟨entry, found, positive, counted.trans (countP_search mirrors found)⟩
  · rintro ⟨entry, found, positive, weighs⟩
    exact ⟨positive, weighs.trans (countP_search mirrors found).symm⟩

end Engine

/-! ## Previews -/

namespace Store

/-- What reading a preview answers when no look-up fails. -/
def preview (store : Store) (id : EntryId) : Except Failure Preview :=
  match store.find? id with
  | some entry => .ok entry.preview
  | none => .error (.entryNotFound id)

/-- The active entries stored under some ids, in the order of the ids. -/
def activeAt (store : Store) (ids : List EntryId) : List Entry :=
  (ids.filterMap store.find?).filter (·.active)

theorem results_map_preview (store : Store) (ids : List EntryId) :
    Service.results (ids.map store.preview) = .ok ((store.activeAt ids).map Entry.preview) := by
  induction ids with
  | nil => rfl
  | cons id rest ih =>
    rw [List.map_cons, preview, activeAt]
    cases found : store.find? id with
    | none =>
      rw [List.filterMap_cons_none found]
      exact ih
    | some entry =>
      rw [List.filterMap_cons_some found, Service.results, ih]
      cases active : entry.active <;> simp [activeAt, Entry.preview, active]

end Store

namespace Service

variable {service after : Service}

/-- Reading the preview of an id makes no look-up that fails. -/
def Finds (service : Service) (id : EntryId) : Prop :=
  service.engine.cache.fresh? id = none → service.backend.conduct.findFaultOf id = none

instance (service : Service) (id : EntryId) : Decidable (service.Finds id) :=
  inferInstanceAs (Decidable (_ → _))

/-- Whether another preview is fresh does not change when one is read. -/
theorem Reading.fresh?_eq {other : EntryId} {answer : Except Failure Preview}
    (reading : Reading service id answer after) (different : other ≠ id) :
    after.engine.cache.fresh? other = service.engine.cache.fresh? other := by
  have counted : service.engine.cache.countMiss.fresh? other = service.engine.cache.fresh? other :=
    rfl
  cases reading with
  | hit | failed => rfl
  | missing =>
    rw [← counted]
    exact (Cache.differsAt_evictExpired _ id).fresh?_eq different
  | @loaded entry _ _ found =>
    have same : entry.id = id := Roster.entryId_of_find? found
    subst same
    rw [← counted]
    exact (Cache.differsAt_put _ entry).fresh?_eq different

/-- What could be read without a failing look-up can still be after another reading. -/
theorem Reading.finds {other : EntryId} {answer : Except Failure Preview}
    (reading : Reading service id answer after) (finds : service.Finds other) :
    after.Finds other := by
  by_cases same : other = id
  · subst same
    cases reading with
    | hit | failed => exact finds
    | missing _ faultless | loaded _ faultless => exact fun _ => faultless
  · rw [Finds, reading.backend_eq, reading.fresh?_eq same]
    exact finds

/-- **A consistent service answers with the preview of the stored entry.** -/
theorem Consistent.preview_eq (consistent : service.Consistent) (finds : service.Finds id) :
    (service.preview id).1 = service.backend.store.preview id := by
  have reading := preview_reading consistent.quiet id
  rw [Store.preview]
  generalize (service.preview id).1 = answer, (service.preview id).2 = after at reading
  cases reading with
  | @hit preview fresh =>
    obtain ⟨entry, found, same⟩ := consistent.coherent.of_fresh? fresh
    rw [found, same]
  | failed stale fault =>
    rw [finds stale] at fault
    cases fault
  | missing _ _ absent => rw [absent]
  | loaded _ _ found => rw [found]

/-- A consistent service answers with the previews of the stored entries. -/
theorem Consistent.previews_eq (consistent : service.Consistent) {ids : List EntryId}
    (finds : ∀ id ∈ ids, service.Finds id) :
    (service.previews ids).1 = ids.map service.backend.store.preview := by
  induction ids generalizing service with
  | nil => rfl
  | cons id rest ih =>
    have reading := preview_reading consistent.quiet id
    have others := ih (consistent_reading consistent reading) fun other member =>
      reading.finds (finds other (List.mem_cons_of_mem _ member))
    rw [reading.backend_eq] at others
    rw [List.map_cons, ← consistent.preview_eq (finds id List.mem_cons_self), ← others]
    rfl

/-! ## Answers -/

/-- The active entries among the candidates for a query are its answer. -/
theorem answers_activeAt {engine : Engine} (mirrors : engine.index.Mirrors store) (query : String) :
    store.Answers query (store.activeAt ((engine.candidates query).map Candidate.id)) where
  mem_iff := by
    intro entry
    simp only [Store.activeAt, List.mem_filter, List.mem_filterMap, List.mem_map]
    constructor
    · rintro ⟨⟨_, ⟨candidate, member, rfl⟩, found⟩, active⟩
      obtain ⟨other, foundOther, positive, weighs⟩ := (Engine.mem_candidates mirrors).1 member
      cases found.symm.trans foundOther
      exact ⟨Roster.mem_of_find? found, active, weighs ▸ positive⟩
    · rintro ⟨stored, active, positive⟩
      have found : store.find? entry.id = some entry := Roster.find?_of_mem stored
      have member : ⟨entry.id, store.weight query entry⟩ ∈ engine.candidates query :=
        (Engine.mem_candidates mirrors).2 ⟨entry, found, positive, rfl⟩
      exact ⟨⟨entry.id, ⟨_, member, rfl⟩, found⟩, active⟩
  ranked := by
    refine List.Pairwise.filter _ (List.pairwise_filterMap.2 (List.pairwise_map.2 ?_))
    refine (pairwise_rank _).imp_of_mem ?_
    intro a b memberA memberB outranks left foundA right foundB
    obtain ⟨_, foundA', -, weighsA⟩ := (Engine.mem_candidates mirrors).1 memberA
    obtain ⟨_, foundB', -, weighsB⟩ := (Engine.mem_candidates mirrors).1 memberB
    cases foundA.symm.trans foundA'
    cases foundB.symm.trans foundB'
    have idA : left.id = a.id := Roster.entryId_of_find? foundA
    have idB : right.id = b.id := Roster.entryId_of_find? foundB
    rw [Store.Precedes, idA, idB, ← weighsA, ← weighsB]
    exact outranks

/-- The look-ups that a search for a query makes do not fail. -/
def FindsFor (service : Service) (query : String) : Prop :=
  ∀ entry ∈ service.backend.store.items,
    0 < service.backend.store.weight query entry → service.Finds entry.id

instance (service : Service) (query : String) : Decidable (service.FindsFor query) :=
  inferInstanceAs (Decidable (∀ _ ∈ _, _))

/-- The answer of a consistent service to a query is that of its store. -/
theorem Consistent.search_eq (consistent : service.Consistent) (finds : service.FindsFor query) :
    ∃ found, service.backend.store.Answers query found ∧
      (service.search query).1 = .ok (found.map Entry.preview) := by
  have mirrors := consistent.mirrors
  refine ⟨_, answers_activeAt mirrors query, ?_⟩
  have read : ∀ id ∈ (service.engine.candidates query).map Candidate.id, service.Finds id := by
    intro id listed
    obtain ⟨candidate, member, rfl⟩ := List.mem_map.1 listed
    obtain ⟨entry, found, positive, weighs⟩ := (Engine.mem_candidates mirrors).1 member
    have same : entry.id = candidate.id := Roster.entryId_of_find? found
    rw [← same]
    exact finds entry (Roster.mem_of_find? found) (weighs ▸ positive)
  rw [← Store.results_map_preview, ← consistent.previews_eq read]
  rfl

/-- A consistent service shows an active stored entry just if the entry has a positive weight. -/
theorem Consistent.shows_iff (consistent : service.Consistent) (finds : service.FindsFor query) :
    ∃ shown, (service.search query).1 = .ok shown ∧
      ∀ entry ∈ service.backend.store.items, entry.active = true →
        (entry.preview ∈ shown ↔ 0 < service.backend.store.weight query entry) := by
  obtain ⟨found, answers, answer⟩ := consistent.search_eq finds
  refine ⟨found.map Entry.preview, answer, ?_⟩
  intro entry stored active
  constructor
  · intro member
    obtain ⟨other, shown, same⟩ := List.mem_map.1 member
    obtain ⟨storedOther, -, positive⟩ := (answers.mem_iff other).1 shown
    -- Previews carry ids, and no two stored entries have one id.
    have sameId : other.id = entry.id := congrArg Preview.id same
    have foundEntry : service.backend.store.find? entry.id = some entry :=
      Roster.find?_of_mem stored
    have foundOther : service.backend.store.find? other.id = some other :=
      Roster.find?_of_mem storedOther
    rw [sameId, foundEntry] at foundOther
    cases foundOther
    exact positive
  · intro positive
    exact List.mem_map_of_mem ((answers.mem_iff entry).2 ⟨stored, active, positive⟩)

end Service

/-- **A search of a reached service answers what the store alone determines.**  It gives the
previews of the active stored entries of positive weight, each of them once, by falling
weight and then by rising id; it need only not be that a look-up of its own fails. -/
theorem search_eq_answer {service : Service} (reached : Reached Conduct.KeepsIds service)
    (query : String) (finds : service.FindsFor query) :
    ∃ found, service.backend.store.Answers query found ∧ found.Nodup ∧
      (∀ other, service.backend.store.Answers query other → other = found) ∧
      (service.search query).1 = .ok (found.map Entry.preview) := by
  obtain ⟨found, answers, answer⟩ := reached.consistent.search_eq finds
  exact ⟨found, answers, answers.nodup, fun _ others => others.unique answers, answer⟩

theorem search_eq_answer_sample :
    Reached Conduct.KeepsIds sampleService ∧ sampleService.FindsFor "tonery print print" ∧
    (∃ found, sampleService.backend.store.Answers "tonery print print" found ∧ found.Nodup ∧
      (∀ other, sampleService.backend.store.Answers "tonery print print" other → other = found) ∧
      (sampleService.search "tonery print print").1 = .ok (found.map Entry.preview)) ∧
    (sampleService.search "tonery print print").1 =
      .ok [⟨⟨2⟩, "Printer toner", true⟩, ⟨⟨1⟩, "Printing", true⟩] := by
  have finds : sampleService.FindsFor "tonery print print" := by decide +kernel
  exact ⟨reached_sample, finds, search_eq_answer reached_sample _ finds, by decide +kernel⟩

end KeywordSearch
