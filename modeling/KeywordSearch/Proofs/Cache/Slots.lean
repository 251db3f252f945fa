import KeywordSearch.Proofs.Cache.Coherence

/-!
# What a cache keeps after each operation

Putting an entry into a cache, and dropping an expired preview from it, say
exactly which slot they change and what it holds afterwards (`find?_put`,
`find?_evictExpired`).  A preview that was just put is fresh unless previews expire
at once (`fresh?_put`).

A miss that an entry was put during completes on the slots that the put left
(`complete`).  What was put stays unless it has the id of the miss and has expired
(`find?_complete_put_raced`); where it does not stay, or has another id, the slot of
the miss holds what was loaded (`find?_complete_put_loaded`).
-/

set_option autoImplicit false

namespace KeywordSearch.Cache

variable {cache : Cache} {entry : Entry} {id other : EntryId}

/-! ## Slots -/

/-- A cache that is switched on keeps what is put there from now on; nothing else changes. -/
theorem find?_put (cache : Cache) (entry : Entry) (id : EntryId) :
    (cache.put entry).slots.find? id =
      if cache.enabled = true ∧ entry.id = id then some ⟨entry.preview, cache.now⟩
      else cache.slots.find? id := by
  have carried : entryId (⟨entry.preview, cache.now⟩ : Slot) = entry.id := rfl
  rw [put]
  cases enabled : cache.enabled with
  | false => simp
  | true => simp [keep, Roster.find?_insert, carried]

theorem put_of_disabled (disabled : cache.enabled = false) (entry : Entry) :
    cache.put entry = cache := by
  rw [put, disabled]
  rfl

/-- Dropping an expired preview leaves no expired preview in its slot. -/
theorem find?_evictExpired (cache : Cache) (id other : EntryId) :
    (cache.evictExpired id).slots.find? other =
      if other = id then (cache.slots.find? id).filter fun slot => !cache.expired slot
      else cache.slots.find? other := by
  split
  next same =>
    subst same
    rw [evictExpired]
    cases held : cache.slots.find? other with
    | none => exact held
    | some slot => cases expired : cache.expired slot <;> simp [expired, evict, held, Option.filter]
  next different => exact (differsAt_evictExpired cache id).others other different

/-- What is cached for an id and not fresh has expired, if the cache is switched on. -/
theorem expired_of_fresh?_eq_none (enabled : cache.enabled = true)
    (stale : cache.fresh? id = none) {slot : Slot} (held : cache.slots.find? id = some slot) :
    cache.expired slot = true := by
  rw [fresh?, if_pos enabled, held] at stale
  cases expired : cache.expired slot with
  | true => rfl
  | false => simp [expired] at stale

/-! ## Freshness of what was just put -/

/-- What was put at this moment has expired only if previews are not kept for any time. -/
theorem expired_now (cache : Cache) (preview : Preview) :
    cache.expired ⟨preview, cache.now⟩ = decide (cache.ttlSecs = 0) := by
  have seconds : cache.ttlSecs.toNat = 0 ↔ cache.ttlSecs = 0 := UInt64.toNat_inj (b := 0)
  have zero : cache.ttl ≤ cache.now - cache.now ↔ cache.ttlSecs = 0 := by
    rw [ttl, ticksPerSecond, ← seconds]
    omega
  rw [expired]
  exact decide_eq_decide.2 zero

/-- Putting an entry into a cache changes nothing of it but slots. -/
theorem put_settings (cache : Cache) (entry : Entry) :
    cache.put entry = { cache with slots := (cache.put entry).slots } :=
  (differsAt_put cache entry).settings

section Put

variable (cache : Cache) (entry : Entry)

@[simp] theorem put_enabled : (cache.put entry).enabled = cache.enabled := by rw [put_settings]

@[simp] theorem put_now : (cache.put entry).now = cache.now := by rw [put_settings]

@[simp] theorem put_expired : (cache.put entry).expired = cache.expired := by
  rw [put_settings]
  rfl

end Put

/-- A preview that was just put is fresh unless previews expire at once, and what is fresh
under other ids stays so. -/
theorem fresh?_put (cache : Cache) (entry : Entry) (id : EntryId) :
    (cache.put entry).fresh? id =
      if cache.enabled = true ∧ entry.id = id then
        if cache.ttlSecs = 0 then none else some entry.preview
      else cache.fresh? id := by
  rw [fresh?, fresh?, put_enabled, find?_put, put_expired]
  cases cache.enabled with
  | false => simp
  | true =>
    by_cases same : entry.id = id
    · simp [same, expired_now]
    · simp [same]

/-- Nothing is left of what has expired. -/
theorem filter_expired_of_stale (enabled : cache.enabled = true)
    (stale : cache.fresh? id = none) :
    ((cache.slots.find? id).filter fun slot => !cache.expired slot) = none := by
  cases held : cache.slots.find? id with
  | none => rfl
  | some slot => simp [Option.filter, expired_of_fresh?_eq_none enabled stale held]

/-! ## Completing a miss -/

/-- A miss keeps what it loaded, unless a preview of the same entry was put before it completes
and is still fresh. -/
theorem fill_put {raced : Entry} (stale : cache.fresh? entry.id = none) :
    (cache.put raced).fill entry =
      if cache.enabled = true ∧ raced.id = entry.id ∧ cache.ttlSecs ≠ 0 then
        (raced.preview, cache.put raced)
      else (entry.preview, (cache.put raced).put entry) := by
  rw [fill, fresh?_put, stale]
  cases cache.enabled <;> by_cases same : raced.id = entry.id <;>
    by_cases expiring : cache.ttlSecs = 0 <;> simp [same, expiring]

/-- Completes a miss with the entry that was loaded, if there is one. -/
def complete (cache : Cache) (id : EntryId) : Option Entry → Cache
  | some entry => (cache.fill entry).2
  | none => cache.evictExpired id

theorem differsAt_complete (cache : Cache) {loaded : Option Entry}
    (carried : ∀ entry ∈ loaded, entry.id = id) :
    DiffersAt id cache (cache.complete id loaded) := by
  cases loaded with
  | none => exact differsAt_evictExpired cache id
  | some entry =>
    obtain rfl := carried entry rfl
    rw [complete, fill]
    split
    · exact .refl entry.id cache
    · exact differsAt_put cache entry

section Completed

variable {loaded : Option Entry} (enabled : cache.enabled = true)
  (carried : ∀ entry ∈ loaded, entry.id = id) (stale : cache.fresh? id = none) (raced : Entry)

include enabled carried stale

/-- What was put while a miss waited is kept when the miss completes, under whatever id, unless
it has expired by then. -/
theorem find?_complete_put_raced (kept : raced.id ≠ id ∨ cache.ttlSecs ≠ 0) :
    ((cache.put raced).complete id loaded).slots.find? raced.id =
      some ⟨raced.preview, cache.now⟩ := by
  have put := find?_put cache raced raced.id
  rw [if_pos ⟨enabled, rfl⟩] at put
  by_cases same : raced.id = id
  · have lasting := kept.resolve_left (not_not_intro same)
    subst same
    cases loaded with
    | none =>
      have stays := expired_now cache raced.preview
      rw [decide_eq_false lasting] at stays
      rw [complete, find?_evictExpired, if_pos rfl, put, put_expired]
      simp [Option.filter, stays]
    | some entry =>
      have sameId : entry.id = raced.id := carried entry rfl
      rw [complete, fill_put (sameId ▸ stale), if_pos ⟨enabled, sameId.symm, lasting⟩]
      exact put
  · exact ((differsAt_complete _ carried).others raced.id same).trans put

/-- Where nothing that lasts was put for the id of a miss, its slot holds what was loaded. -/
theorem find?_complete_put_loaded (free : raced.id ≠ id ∨ cache.ttlSecs = 0) :
    ((cache.put raced).complete id loaded).slots.find? id =
      loaded.map fun entry => ⟨entry.preview, cache.now⟩ := by
  cases loaded with
  | none =>
    rw [complete, find?_evictExpired, if_pos rfl, find?_put, put_expired]
    split
    next wins =>
      have gone := expired_now cache raced.preview
      rw [decide_eq_true (free.resolve_left (not_not_intro wins.2))] at gone
      simp [Option.filter, gone]
    next => exact filter_expired_of_stale enabled stale
  | some entry =>
    obtain rfl := carried entry rfl
    have loses : ¬(cache.enabled = true ∧ raced.id = entry.id ∧ cache.ttlSecs ≠ 0) :=
      fun ⟨_, same, lasting⟩ => lasting (free.resolve_left (not_not_intro same))
    rw [complete, fill_put stale, if_neg loses, find?_put, put_enabled, put_now,
      if_pos ⟨enabled, rfl⟩]
    rfl

end Completed

/-- A cache that is switched off comes to hold nothing when a miss completes. -/
theorem of_find?_complete_of_disabled {loaded : Option Entry} (disabled : cache.enabled = false)
    {slot : Slot} (held : (cache.complete id loaded).slots.find? other = some slot) :
    cache.slots.find? other = some slot := by
  cases loaded with
  | none =>
    rw [complete, find?_evictExpired] at held
    split at held
    next same => exact same ▸ Option.eq_some_of_filter_eq_some held
    next => exact held
  | some entry =>
    have unseen : cache.fresh? entry.id = none := by rw [fresh?, disabled]; rfl
    rw [complete, fill, unseen, put_of_disabled disabled] at held
    exact held

end KeywordSearch.Cache
