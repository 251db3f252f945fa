import KeywordSearch.Proofs.Cache.Slots
import KeywordSearch.Proofs.Service.Search

/-!
# A search of any service

What a search does is settled by the service as it stands, whether or not index,
cache and store are in step.  The ids that the terms of the query find are read
one after another, each of them once, since a ranking holds no id twice.  Reading
one id changes no slot but its own, so each is read as if it were the only one
(`previews_fst`, `find?_previews`), and every reading is counted, as a hit or as a
miss (`previews_snd`).

Only after all of them were read does it matter whether a look-up failed: the
first that did, in order of rank, is what the search answers with.  If none did,
it answers with the active ones of the previews that were there
(`search_searched`).
-/

set_option autoImplicit false

namespace KeywordSearch

/-! ## The ids that a query finds -/

namespace Engine

variable {engine : Engine} {query : String}

/-- How many terms of a query find an id. -/
def weight (engine : Engine) (query : String) (id : EntryId) : Nat :=
  (Token.ofQuery query.toList).countP fun term => (engine.index.search term).contains id

/-- Of two ids the one that more terms find goes first, and of two that equally many find
the lower. -/
def Ahead (engine : Engine) (query : String) (a b : EntryId) : Prop :=
  engine.weight query b < engine.weight query a ∨
    (engine.weight query a = engine.weight query b ∧ a < b)

/-- The ids that the terms of a query find, best first. -/
def found (engine : Engine) (query : String) : List EntryId :=
  (engine.candidates query).map Candidate.id

theorem weight_of_mem_candidates {candidate : Candidate}
    (member : candidate ∈ engine.candidates query) :
    0 < candidate.weight ∧ candidate.weight = engine.weight query candidate.id := by
  rw [candidates, mem_rank, List.countP_map] at member
  exact member

theorem pairwise_found (engine : Engine) (query : String) :
    (engine.found query).Pairwise (engine.Ahead query) := by
  refine List.pairwise_map.2 ((pairwise_rank _).imp_of_mem ?_)
  intro a b memberA memberB outranks
  rw [Ahead, ← (weight_of_mem_candidates memberA).2, ← (weight_of_mem_candidates memberB).2]
  exact outranks

theorem nodup_found (engine : Engine) (query : String) : (engine.found query).Nodup := by
  refine (pairwise_found engine query).imp ?_
  rintro a b (heavier | ⟨_, lower⟩)
  · rintro rfl
    exact Nat.lt_irrefl _ heavier
  · exact EntryId.ne_of_lt lower

/-- A query finds the ids that one of its terms finds. -/
theorem mem_found {id : EntryId} :
    id ∈ engine.found query ↔
      ∃ term ∈ Token.ofQuery query.toList, (engine.index.search term).contains id = true := by
  rw [← List.countP_pos_iff, found, List.mem_map]
  constructor
  · rintro ⟨candidate, member, rfl⟩
    obtain ⟨positive, weighs⟩ := weight_of_mem_candidates member
    rwa [weighs] at positive
  · intro positive
    refine ⟨⟨id, engine.weight query id⟩, ?_, rfl⟩
    rw [candidates, mem_rank, List.countP_map]
    exact ⟨positive, rfl⟩

end Engine

namespace Service

variable {service after : Service} {id other : EntryId} {ids : List EntryId}

/-! ## Reading one preview -/

/-- What reading the preview of an id answers: the fresh preview of the cache, or else what
comes of looking up the entry. -/
def read (service : Service) (id : EntryId) : Except Failure Preview :=
  match service.engine.cache.fresh? id with
  | some preview => .ok preview
  | none =>
    match service.backend.conduct.findFaultOf id with
    | some text => .error (.store text)
    | none => service.backend.store.preview id

/-- The fresh preview that the cache holds of an id, or else that of the stored entry. -/
def shown (service : Service) (id : EntryId) : Option Preview :=
  (service.engine.cache.fresh? id).or ((service.backend.store.find? id).map Entry.preview)

/-- Whether reading the preview of an id is a hit. -/
def hits (service : Service) (id : EntryId) : Bool := (service.engine.cache.fresh? id).isSome

/-- What the slot of an id holds after its preview was read.  A hit and a look-up that fails
leave it as it is; a loaded entry is kept from now on, if the cache keeps anything, and where
nothing is stored an expired preview is dropped. -/
def slotRead (service : Service) (id : EntryId) : Option Slot :=
  let cache := service.engine.cache
  if cache.fresh? id = none ∧ service.backend.conduct.findFaultOf id = none then
    match service.backend.store.find? id with
    | some entry =>
      if cache.enabled then some ⟨entry.preview, cache.now⟩ else cache.slots.find? id
    | none => (cache.slots.find? id).filter fun slot => !cache.expired slot
  else cache.slots.find? id

theorem Reading.answer_eq {answer : Except Failure Preview}
    (reading : Reading service id answer after) : answer = service.read id := by
  rw [read]
  cases reading with
  | hit fresh => rw [fresh]
  | failed stale fault => rw [stale, fault]
  | missing stale finds absent => rw [stale, finds, Store.preview, absent]
  | loaded stale finds found => rw [stale, finds, Store.preview, found]

/-- Reading changes the slot of the id that is read and counts a hit or a miss. -/
theorem Reading.cache_eq {answer : Except Failure Preview}
    (reading : Reading service id answer after) :
    after.engine.cache = { service.engine.cache with
      slots := after.engine.cache.slots
      hits := service.engine.cache.hits + [id].countP service.hits
      misses := service.engine.cache.misses + [id].countP (!service.hits ·) } := by
  have evicted := (Cache.differsAt_evictExpired service.engine.cache.countMiss id).settings
  cases reading with
  | hit fresh => simp [hits, fresh, Cache.countHit]
  | failed stale => simp [hits, stale, Cache.countMiss]
  | missing stale =>
    rw [mapCache_cache, evicted]
    simp [hits, stale, Cache.countMiss]
  | @loaded entry stale =>
    rw [mapCache_cache, (Cache.differsAt_put service.engine.cache.countMiss entry).settings]
    simp [hits, stale, Cache.countMiss]

/-- Only a look-up that does not fail changes the slot. -/
theorem slotRead_of_not_found
    (kept : ¬(service.engine.cache.fresh? id = none ∧
      service.backend.conduct.findFaultOf id = none)) :
    service.slotRead id = service.engine.cache.slots.find? id := if_neg kept

theorem slotRead_of_found (stale : service.engine.cache.fresh? id = none)
    (finds : service.backend.conduct.findFaultOf id = none) :
    service.slotRead id = match service.backend.store.find? id with
      | some entry =>
        if service.engine.cache.enabled then
          some ⟨entry.preview, service.engine.cache.now⟩
        else service.engine.cache.slots.find? id
      | none => (service.engine.cache.slots.find? id).filter
          fun slot => !service.engine.cache.expired slot := if_pos ⟨stale, finds⟩

/-- Reading an id leaves its slot as it says, and no other slot changes. -/
theorem Reading.find?_eq {answer : Except Failure Preview}
    (reading : Reading service id answer after) (other : EntryId) :
    after.engine.cache.slots.find? other =
      if other = id then service.slotRead id else service.engine.cache.slots.find? other := by
  cases reading with
  | hit fresh =>
    have slot : service.slotRead id = service.engine.cache.slots.find? id :=
      slotRead_of_not_found (by simp [fresh])
    split
    next same => rw [slot, same]; rfl
    next => rfl
  | failed stale fault =>
    have slot : service.slotRead id = service.engine.cache.slots.find? id :=
      slotRead_of_not_found (by simp [fault])
    split
    next same => rw [slot, same]; rfl
    next => rfl
  | missing stale finds absent =>
    rw [slotRead_of_found stale finds, absent, mapCache_cache, Cache.find?_evictExpired]
    rfl
  | @loaded entry stale finds found =>
    have same : entry.id = id := Roster.entryId_of_find? found
    have put := Cache.find?_put service.engine.cache.countMiss entry other
    rw [same] at put
    rw [slotRead_of_found stale finds, found, mapCache_cache, put]
    by_cases here : other = id
    · subst here
      simp [Cache.countMiss]
    · simp [here, Ne.symm here, Cache.countMiss]

theorem Reading.quiet {answer : Except Failure Preview}
    (reading : Reading service id answer after) (quiet : service.Quiet) : after.Quiet := by
  rw [Quiet, reading.backend_eq]
  exact quiet

theorem Reading.read_eq {answer : Except Failure Preview}
    (reading : Reading service id answer after) (different : other ≠ id) :
    after.read other = service.read other := by
  rw [read, read, reading.fresh?_eq different, reading.backend_eq]

theorem Reading.hits_eq {answer : Except Failure Preview}
    (reading : Reading service id answer after) (different : other ≠ id) :
    after.hits other = service.hits other := by
  rw [hits, hits, reading.fresh?_eq different]

theorem Reading.slotRead_eq {answer : Except Failure Preview}
    (reading : Reading service id answer after) (different : other ≠ id) :
    after.slotRead other = service.slotRead other := by
  have slot := reading.find?_eq other
  rw [if_neg different] at slot
  have expires : after.engine.cache.expired = service.engine.cache.expired := by
    rw [reading.cache_eq]
    rfl
  have enabled : after.engine.cache.enabled = service.engine.cache.enabled := by
    rw [reading.cache_eq]
  have now : after.engine.cache.now = service.engine.cache.now := by
    rw [reading.cache_eq]
  simp only [slotRead, reading.fresh?_eq different, reading.backend_eq, slot, expires, enabled, now]

/-! ## Reading several previews -/

theorem previews_cons (service : Service) (id : EntryId) (rest : List EntryId) :
    service.previews (id :: rest) =
      ((service.preview id).1 :: ((service.preview id).2.previews rest).1,
        ((service.preview id).2.previews rest).2) := rfl

/-- Previews of different ids are read as if each of them were the only one. -/
theorem previews_fst (quiet : service.Quiet) (distinct : ids.Nodup) :
    (service.previews ids).1 = ids.map service.read := by
  induction ids generalizing service with
  | nil => rfl
  | cons id rest ih =>
    obtain ⟨notRead, others⟩ := List.nodup_cons.1 distinct
    have reading := preview_reading quiet id
    have stays := reading.quiet quiet
    rw [previews_cons, List.map_cons, ← reading.answer_eq, ih stays others]
    refine congrArg _ (List.map_congr_left fun other member => reading.read_eq ?_)
    rintro rfl
    exact notRead member

/-- Each id that was read has the slot that its own reading leaves, and all other slots are
as before. -/
theorem find?_previews (quiet : service.Quiet) (distinct : ids.Nodup) (other : EntryId) :
    (service.previews ids).2.engine.cache.slots.find? other =
      if other ∈ ids then service.slotRead other
      else service.engine.cache.slots.find? other := by
  induction ids generalizing service with
  | nil => rfl
  | cons id rest ih =>
    obtain ⟨notRead, others⟩ := List.nodup_cons.1 distinct
    have reading := preview_reading quiet id
    have stays := reading.quiet quiet
    rw [previews_cons, ih stays others, reading.find?_eq]
    by_cases here : other = id
    · subst here
      simp [notRead]
    · simp only [reading.slotRead_eq here, here, List.mem_cons, false_or, if_false]

/-- Reading previews changes slots and counts hits and misses, one for each preview. -/
theorem previews_snd (quiet : service.Quiet) (distinct : ids.Nodup) :
    (service.previews ids).2 = service.mapCache fun cache => { cache with
      slots := (service.previews ids).2.engine.cache.slots
      hits := cache.hits + ids.countP service.hits
      misses := cache.misses + ids.countP (!service.hits ·) } := by
  suffices counted : (service.previews ids).2.engine.cache = { service.engine.cache with
      slots := (service.previews ids).2.engine.cache.slots
      hits := service.engine.cache.hits + ids.countP service.hits
      misses := service.engine.cache.misses + ids.countP (!service.hits ·) } by
    rw [previews_eq_mapCache quiet, counted]
    rfl
  induction ids generalizing service with
  | nil => rfl
  | cons id rest ih =>
    obtain ⟨notRead, others⟩ := List.nodup_cons.1 distinct
    have reading := preview_reading quiet id
    have stays := reading.quiet quiet
    have hits : rest.countP (service.preview id).2.hits = rest.countP service.hits := by
      refine List.countP_congr fun other member => ?_
      rw [reading.hits_eq]
      rintro rfl
      exact notRead member
    have misses : rest.countP (!(service.preview id).2.hits ·) =
        rest.countP (!service.hits ·) := by
      refine List.countP_congr fun other member => ?_
      rw [reading.hits_eq]
      rintro rfl
      exact notRead member
    rw [previews_cons, ih stays others, hits, misses, reading.cache_eq]
    simp only [List.countP_cons, List.countP_nil]
    congr 1 <;> omega

/-! ## What a search makes of them -/

/-- Unless its look-up fails, an id is read as what is shown of it. -/
theorem read_of_finds (finds : service.Finds id) :
    service.read id = match service.shown id with
      | some preview => .ok preview
      | none => .error (.entryNotFound id) := by
  rw [read, shown]
  cases fresh : service.engine.cache.fresh? id with
  | some preview => rfl
  | none =>
    rw [finds fresh, Store.preview]
    cases service.backend.store.find? id <;> rfl

/-- Where no look-up fails, the results are the active previews that there are. -/
theorem results_of_finds (finds : ∀ id ∈ ids, service.Finds id) :
    results (ids.map service.read) = .ok ((ids.filterMap service.shown).filter (·.active)) := by
  induction ids with
  | nil => rfl
  | cons id rest ih =>
    have others := ih fun other member => finds other (List.mem_cons_of_mem _ member)
    rw [List.map_cons, read_of_finds (finds id List.mem_cons_self), List.filterMap_cons]
    cases service.shown id with
    | none => exact others
    | some preview => cases active : preview.active <;> simp [results, others, active]

/-- The first look-up that fails is what comes of all of them. -/
theorem results_of_fault {before rest : List EntryId} {text : String}
    (finds : ∀ other ∈ before, service.Finds other) (stale : service.engine.cache.fresh? id = none)
    (fault : service.backend.conduct.findFaultOf id = some text) :
    results ((before ++ id :: rest).map service.read) = .error (.store text) := by
  induction before with
  | nil =>
    rw [List.nil_append, List.map_cons, read, stale, fault]
    rfl
  | cons first before ih =>
    have others := ih fun other member => finds other (List.mem_cons_of_mem _ member)
    rw [List.cons_append, List.map_cons, read_of_finds (finds first List.mem_cons_self)]
    cases service.shown first with
    | none => exact others
    | some preview => rw [results, others]

/-- The first look-up that fails comes after readings that do not fail. -/
def FirstFault (service : Service) (ids : List EntryId) (failure : Failure) : Prop :=
  ∃ before id rest text, ids = before ++ id :: rest ∧ (∀ other ∈ before, service.Finds other) ∧
    service.engine.cache.fresh? id = none ∧
    service.backend.conduct.findFaultOf id = some text ∧ failure = .store text

/-- If any look-up fails, one of them is the first. -/
theorem exists_firstFault (fails : ∃ id ∈ ids, ¬service.Finds id) :
    ∃ failure, service.FirstFault ids failure := by
  obtain ⟨id, first⟩ := Option.isSome_iff_exists.1
    (List.find?_isSome (p := fun id => decide ¬service.Finds id) |>.2 (by simpa using fails))
  obtain ⟨faulty, before, rest, rfl, finds⟩ := List.find?_eq_some_iff_append.1 first
  have refused : ¬service.Finds id := of_decide_eq_true faulty
  rw [Finds, Classical.not_imp] at refused
  obtain ⟨text, fault⟩ := Option.ne_none_iff_exists'.1 refused.2
  exact ⟨_, before, id, rest, text, rfl, fun other member => by simpa using finds other member,
    refused.1, fault, rfl⟩

/-- Readings come to a failure if and only if it is that of the first look-up that fails. -/
theorem results_eq_error_iff {failure : Failure} :
    results (ids.map service.read) = .error failure ↔ service.FirstFault ids failure := by
  constructor
  · intro fails
    have refused : ∃ id ∈ ids, ¬service.Finds id := by
      by_contra allFind
      push Not at allFind
      rw [results_of_finds allFind] at fails
      cases fails
    obtain ⟨other, first⟩ := exists_firstFault refused
    obtain ⟨before, id, rest, text, rfl, finds, stale, fault, rfl⟩ := first
    rw [results_of_fault finds stale fault] at fails
    cases fails
    exact ⟨before, id, rest, text, rfl, finds, stale, fault, rfl⟩
  · rintro ⟨before, id, rest, text, rfl, finds, stale, fault, rfl⟩
    exact results_of_fault finds stale fault

/-- There is a first look-up that fails if and only if there is one that fails. -/
theorem exists_firstFault_iff :
    (∃ failure, service.FirstFault ids failure) ↔ ∃ id ∈ ids,
      service.engine.cache.fresh? id = none ∧
        (service.backend.conduct.findFaultOf id).isSome = true := by
  constructor
  · rintro ⟨_, before, id, rest, text, rfl, _, stale, fault, _⟩
    exact ⟨id, List.mem_append_right _ List.mem_cons_self, stale, fault ▸ rfl⟩
  · rintro ⟨id, member, stale, fault⟩
    refine exists_firstFault ⟨id, member, fun finds => ?_⟩
    rw [finds stale] at fault
    cases fault

/-! ## Searching -/

/-- A search reads what the query finds, and its answer is what comes of the readings. -/
theorem search_eq (service : Service) (query : String) :
    service.search query = (results (service.previews (service.engine.found query)).1,
      (service.previews (service.engine.found query)).2) := rfl

/-- What a search comes to that reads some ids in their order. -/
structure Searched (service : Service) (query : String) (ids : List EntryId)
    (answer : Except Failure (List Preview)) (after : Service) : Prop where
  /-- The ids are those that a term finds, each of them once. -/
  found : ids.Nodup ∧ ∀ id, id ∈ ids ↔
    ∃ term ∈ Token.ofQuery query.toList, (service.engine.index.search term).contains id = true
  /-- They are in order of rank. -/
  ranked : ids.Pairwise (service.engine.Ahead query)
  /-- The search fails if and only if the look-up of an id without a fresh preview does. -/
  fails_iff : (∃ failure, answer = .error failure) ↔ ∃ id ∈ ids,
    service.engine.cache.fresh? id = none ∧
      (service.backend.conduct.findFaultOf id).isSome = true
  /-- It fails as the first of these look-ups does. -/
  failure_iff : ∀ failure, answer = .error failure ↔ service.FirstFault ids failure
  /-- Otherwise it answers with the active previews, fresh or stored. -/
  previews : (∀ id ∈ ids, service.Finds id) →
    answer = .ok ((ids.filterMap service.shown).filter (·.active))
  /-- Index and store are what they were, and the readings were counted. -/
  counted : after = service.mapCache fun cache => { cache with
    slots := after.engine.cache.slots
    hits := cache.hits + ids.countP service.hits
    misses := cache.misses + ids.countP (!service.hits ·) }
  /-- There were as many readings as ids. -/
  length : ids.countP service.hits + ids.countP (!service.hits ·) = ids.length
  /-- The slots of the ids are as their readings leave them, and all others as they were. -/
  slots : ∀ id, after.engine.cache.slots.find? id =
    if id ∈ ids then service.slotRead id else service.engine.cache.slots.find? id

end Service

/-- **What a search comes to, whatever index, cache and store hold.**  It reads each id that
the terms find, whatever comes of the others; it answers with the first failure of a
look-up, and otherwise with the active ones of the previews. -/
theorem search_searched {service : Service} (quiet : service.Quiet) (query : String) :
    service.Searched query (service.engine.found query) (service.search query).1
      (service.search query).2 := by
  have distinct := service.engine.nodup_found query
  rw [Service.search_eq, Service.previews_fst quiet distinct]
  dsimp only
  exact {
    found := ⟨distinct, fun _ => Engine.mem_found⟩
    ranked := Engine.pairwise_found _ _
    fails_iff := by simp only [Service.results_eq_error_iff, Service.exists_firstFault_iff]
    failure_iff := fun _ => Service.results_eq_error_iff
    previews := Service.results_of_finds
    counted := Service.previews_snd quiet distinct
    length := by
      rw [List.length_eq_countP_add_countP service.hits]
      simp only [Bool.not_eq_true, Bool.decide_eq_false]
    slots := Service.find?_previews quiet distinct }

/-- A service whose index, cache and store have drifted apart.  Entry 3 is indexed and not
stored, what is cached of entry 4 was never saved, and what is cached of entries 2 and 3
has expired. -/
def driftedService : Service where
  engine := {
    config := { cacheTtlSecs := 60 }
    index := (((Index.empty.insert "network".toList ⟨2⟩).insert "network".toList ⟨3⟩).insert
      "network".toList ⟨4⟩).insert "net".toList ⟨1⟩
    cache := {
      enabled := true
      ttlSecs := 60
      now := 60 * Cache.ticksPerSecond
      slots := Roster.ofList [⟨⟨⟨2⟩, "Network", true⟩, 0⟩, ⟨⟨⟨3⟩, "Nets", true⟩, 0⟩,
        ⟨⟨⟨4⟩, "Networks", true⟩, 1⟩] } }
  backend := {
    store := Roster.ofList [
      { id := ⟨1⟩, question := "Net", active := false },
      { id := ⟨2⟩, question := "Network down" }]
    conduct := { findFaults := Roster.ofList [(⟨4⟩, "busy")] } }

theorem search_searched_sample :
    driftedService.Quiet ∧
    driftedService.Searched "network net" (driftedService.engine.found "network net")
      (driftedService.search "network net").1 (driftedService.search "network net").2 ∧
    driftedService.engine.found "network net" = [⟨2⟩, ⟨3⟩, ⟨4⟩, ⟨1⟩] ∧
    (driftedService.search "network net").1 =
      .ok [⟨⟨2⟩, "Network down", true⟩, ⟨⟨4⟩, "Networks", true⟩] ∧
    (driftedService.search "network net").2.engine.cache.slots.find? ⟨3⟩ = none ∧
    ((driftedService.react (.elapse 1)).search "network net").1 = .error (.store "busy") := by
  have quiet : driftedService.Quiet := rfl
  have searched := search_searched quiet "network net"
  refine ⟨quiet, searched, ?_, ?_, ?_, ?_⟩
  all_goals decide +kernel

end KeywordSearch
