import KeywordSearch.Backend
import KeywordSearch.Cache

/-!
# Caches of what is stored

A cache is coherent with a store when every preview in it, expired or not, is
the preview of the entry that the store holds under its id.  Evicting an id
keeps the cache coherent with the store without it, and putting an entry in
keeps it coherent with the store into which that entry is inserted.

What an operation of the cache leaves alone is said by `DiffersAt`: all but the
slot of one id.
-/

set_option autoImplicit false

namespace KeywordSearch.Cache

variable {cache : Cache} {store : Store} {entry : Entry} {id other : EntryId}

/-! ## What an operation leaves alone -/

/-- The second cache differs from the first at most in the slot of an id. -/
structure DiffersAt (id : EntryId) (before after : Cache) : Prop where
  settings : after = { before with slots := after.slots }
  others : ∀ other, other ≠ id → after.slots.find? other = before.slots.find? other

theorem DiffersAt.refl (id : EntryId) (cache : Cache) : DiffersAt id cache cache :=
  ⟨rfl, fun _ _ => rfl⟩

theorem DiffersAt.trans {first second third : Cache} (earlier : DiffersAt id first second)
    (later : DiffersAt id second third) : DiffersAt id first third where
  settings := by rw [later.settings, earlier.settings]
  others := fun other different =>
    (later.others other different).trans (earlier.others other different)

theorem differsAt_evict (cache : Cache) (id : EntryId) : DiffersAt id cache (cache.evict id) where
  settings := rfl
  others := by
    intro other different
    rw [evict, Roster.find?_erase, if_neg different]

theorem differsAt_evictExpired (cache : Cache) (id : EntryId) :
    DiffersAt id cache (cache.evictExpired id) := by
  rw [evictExpired]
  split
  · split
    · exact differsAt_evict cache id
    · exact .refl id cache
  · exact .refl id cache

theorem differsAt_put (cache : Cache) (entry : Entry) :
    DiffersAt entry.id cache (cache.put entry) := by
  rw [put]
  split
  · refine ⟨rfl, fun other different => ?_⟩
    have carried : entryId (⟨entry.preview, cache.now⟩ : Slot) = entry.id := rfl
    rw [keep, Roster.find?_insert, carried, if_neg (Ne.symm different)]
  · exact .refl entry.id cache

/-- Whether a preview is fresh depends on its own slot. -/
theorem DiffersAt.fresh?_eq {before after : Cache} (differs : DiffersAt id before after)
    (different : other ≠ id) : after.fresh? other = before.fresh? other := by
  rw [fresh?, fresh?, differs.others other different, differs.settings]
  rfl

/-! ## Coherence -/

/-- Every cached preview is that of the entry stored under its id. -/
def Coherent (cache : Cache) (store : Store) : Prop :=
  ∀ id slot, cache.slots.find? id = some slot →
    ∃ entry, store.find? id = some entry ∧ slot.preview = entry.preview

/-- A fresh preview of a coherent cache is that of the stored entry. -/
theorem Coherent.of_fresh? (coherent : cache.Coherent store) {preview : Preview}
    (fresh : cache.fresh? id = some preview) :
    ∃ entry, store.find? id = some entry ∧ preview = entry.preview := by
  rw [fresh?] at fresh
  split at fresh
  · split at fresh
    next slot held =>
      split at fresh
      · cases fresh
      · cases fresh
        exact coherent id slot held
    next => cases fresh
  · cases fresh

theorem coherent_of_slots_empty (none : cache.slots = Roster.empty) (store : Store) :
    cache.Coherent store := by
  intro id slot held
  rw [none] at held
  cases held

theorem Coherent.evict (coherent : cache.Coherent store) (id : EntryId) :
    (cache.evict id).Coherent (store.erase id) := by
  intro other slot held
  rw [Cache.evict, Roster.find?_erase] at held
  split at held
  next => cases held
  next different =>
    rw [Roster.find?_erase, if_neg different]
    exact coherent other slot held

theorem Coherent.evictExpired (coherent : cache.Coherent store) (id : EntryId) :
    (cache.evictExpired id).Coherent store := by
  intro other slot held
  refine coherent other slot ?_
  rw [Cache.evictExpired] at held
  split at held
  · split at held
    · rw [Cache.evict, Roster.find?_erase] at held
      split at held
      · cases held
      · exact held
    · exact held
  · exact held

/-- What a cache holds after an entry was put in: the preview of that entry, or what it
held before. -/
theorem slot_of_put {slot : Slot} (held : (cache.put entry).slots.find? id = some slot) :
    id = entry.id ∧ slot.preview = entry.preview ∨ cache.slots.find? id = some slot := by
  rw [put] at held
  split at held
  · have carried : entryId (⟨entry.preview, cache.now⟩ : Slot) = entry.id := rfl
    rw [keep, Roster.find?_insert, carried] at held
    split at held
    next same =>
      cases held
      exact .inl ⟨same.symm, rfl⟩
    next => exact .inr held
  · exact .inr held

theorem Coherent.put (coherent : cache.Coherent store) (absent : store.find? entry.id = none) :
    (cache.put entry).Coherent (store.insert entry) := by
  intro id slot held
  have carried : entryId entry = entry.id := rfl
  rw [Roster.find?_insert, carried]
  rcases slot_of_put held with ⟨rfl, same⟩ | before
  · exact ⟨entry, if_pos rfl, same⟩
  · obtain ⟨other, found, same⟩ := coherent id slot before
    have different : entry.id ≠ id := by
      rintro rfl
      rw [absent] at found
      cases found
    exact ⟨other, by rw [if_neg different, found], same⟩

/-- Putting in an entry as it is stored keeps a cache coherent. -/
theorem Coherent.put_stored (coherent : cache.Coherent store)
    (found : store.find? entry.id = some entry) : (cache.put entry).Coherent store := by
  intro id slot held
  rcases slot_of_put held with ⟨rfl, same⟩ | before
  · exact ⟨entry, found, same⟩
  · exact coherent id slot before

end KeywordSearch.Cache
