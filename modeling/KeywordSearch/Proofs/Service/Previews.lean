import KeywordSearch.Proofs.Service.Search

/-!
# Previews of a reached service

A preview comes to be cached when it was read, when its entry was indexed, when
an entry was put back after a call had failed, and when the index was rebuilt.
It leaves the cache when the entry is unindexed or the cache is flushed, and an
expired one also when a reading finds nothing stored.  All this time the
store goes its own way, and still every preview in the cache of a reached service
is that of the entry stored under its id, whether it has expired or not.

So a preview that is read agrees with the entry that is looked up, whichever of
them comes from the cache (`Service.Consistent.preview_eq_get`,
`cached_previews_are_stored`).
-/

set_option autoImplicit false

namespace KeywordSearch

namespace Service

variable {service : Service} {id : EntryId}

/-- A look-up that does not fail answers with the stored entry, or that there is none. -/
theorem stored_of_finds (finds : service.backend.conduct.findFaultOf id = none) :
    service.stored id = match service.backend.store.find? id with
      | some entry => .ok entry
      | none => .error (.entryNotFound id) := by
  rw [stored, Backend.peek, finds]
  cases service.backend.store.find? id <;> rfl

/-- **The preview of a consistent service is that of the entry it looks up.** -/
theorem Consistent.preview_eq_get (consistent : service.Consistent)
    (finds : service.backend.conduct.findFaultOf id = none) :
    (service.preview id).1 = (service.get id).1.map Entry.preview := by
  have reads : service.Finds id := fun _ => finds
  rw [consistent.preview_eq reads, Store.preview, get_of_quiet consistent.quiet,
    stored_of_finds finds]
  cases service.backend.store.find? id <;> rfl

end Service

/-- **Every cached preview of a reached service is that of a stored entry, and reading a
preview agrees with looking up its entry.**  Unless the look-up fails, either both find
nothing, or the preview is that of the entry. -/
theorem cached_previews_are_stored {service : Service}
    (reached : Reached Conduct.KeepsIds service) :
    (∀ id slot, service.engine.cache.slots.find? id = some slot →
      ∃ entry, service.backend.store.find? id = some entry ∧ slot.preview = entry.preview) ∧
    ∀ id, service.backend.conduct.findFaultOf id = none →
      ((service.get id).1 = .error (.entryNotFound id) ∧
        (service.preview id).1 = .error (.entryNotFound id)) ∨
      ∃ entry, (service.get id).1 = .ok entry ∧ (service.preview id).1 = .ok entry.preview := by
  have consistent := reached.consistent
  refine ⟨consistent.coherent, ?_⟩
  intro id finds
  rw [consistent.preview_eq_get finds, Service.get_of_quiet consistent.quiet,
    Service.stored_of_finds finds]
  cases service.backend.store.find? id with
  | none => exact .inl ⟨rfl, rfl⟩
  | some entry => exact .inr ⟨entry, rfl, rfl⟩

/-- A service all of whose cached previews have expired. -/
def staleService : Service := sampleService.react (.elapse (1800 * Cache.ticksPerSecond))

theorem cached_previews_are_stored_sample :
    Reached Conduct.KeepsIds staleService ∧
    (∃ slot, staleService.engine.cache.slots.find? ⟨1⟩ = some slot ∧
      staleService.engine.cache.expired slot = true ∧
      ∃ entry, staleService.backend.store.find? ⟨1⟩ = some entry ∧
        slot.preview = entry.preview) ∧
    staleService.backend.conduct.findFaultOf ⟨1⟩ = none ∧
    (staleService.preview ⟨1⟩).1 = .ok ⟨⟨1⟩, "Printing", true⟩ ∧
    (((staleService.get ⟨1⟩).1 = .error (.entryNotFound ⟨1⟩) ∧
        (staleService.preview ⟨1⟩).1 = .error (.entryNotFound ⟨1⟩)) ∨
      ∃ entry, (staleService.get ⟨1⟩).1 = .ok entry ∧
        (staleService.preview ⟨1⟩).1 = .ok entry.preview) := by
  have reached : Reached Conduct.KeepsIds staleService := reached_sample.react trivial
  obtain ⟨cached, read⟩ := cached_previews_are_stored reached
  have held : staleService.engine.cache.slots.find? ⟨1⟩ =
      some { preview := ⟨⟨1⟩, "Printing", true⟩, cachedAt := 0 } := by
    decide +kernel
  have finds : staleService.backend.conduct.findFaultOf ⟨1⟩ = none := rfl
  exact ⟨reached, ⟨_, held, by decide +kernel, cached _ _ held⟩, finds, by decide +kernel,
    read _ finds⟩

end KeywordSearch
