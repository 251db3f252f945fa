import KeywordSearch.Proofs.Engine.Wildcards
import KeywordSearch.Proofs.Service.History

/-!
# The upkeep that a service does

A service changes its index by upkeep alone: each of its calls indexes entries, unindexes
them and sanitizes, in an order that depends on what the store answers (`Service.upkeep`),
and does nothing else to the index, whatever is put into the cache meanwhile
(`Service.index_perform`).

What can be done where a service runs is more than its calls.  Its engine is open to upkeep
past the service, its store to writes that the service does not see, and both the behaviour
of the store and the previews that race with its look-ups may change at any time (`Act`).
In whatever order all this is done, the index is the one that comes of the upkeep in it, done
from nothing (`Service.index_actAll`).  So its paths are well-formed, nothing goes on from a
wildcard, and what a search finds at one can be told from the upkeep
(`wildcards_end_paths`).
-/

set_option autoImplicit false

namespace KeywordSearch

namespace Engine

variable {left right : Engine}

/-- Upkeep sees nothing of an engine but its index. -/
theorem index_keepUp_congr (same : left.index = right.index) (work : Upkeep) :
    (left.keepUp work).index = (right.keepUp work).index := by
  cases work <;> simp only [keepUp, indexEntry, unindexEntry, sanitize, same]

theorem index_keepUpAll_congr (same : left.index = right.index) (works : List Upkeep) :
    (left.keepUpAll works).index = (right.keepUpAll works).index := by
  induction works generalizing left right with
  | nil => exact same
  | cons work works ih => exact ih (index_keepUp_congr same work)

theorem keepUpAll_map_index (engine : Engine) (entries : List Entry) :
    engine.keepUpAll (entries.map .index) = engine.indexAll entries := by
  rw [keepUpAll, List.foldl_map]
  rfl

end Engine

namespace Service

variable {service after : Service}

/-! ## The upkeep of a call -/

/-- The upkeep of saving an entry in the stead of what was stored under its id. -/
def rewriting : Option Entry → Except Failure Entry → List Upkeep
  | none, .ok saved => [.index saved]
  | none, .error _ => []
  | some previous, .ok saved => [.unindex previous, .index saved, .sanitize]
  | some previous, .error _ => [.unindex previous, .index previous]

/-- The upkeep of deleting a stored entry. -/
def removing (current : Entry) : Except Failure Unit → List Upkeep
  | .ok _ => [.unindex current, .sanitize]
  | .error _ => [.unindex current, .sanitize, .index current]

/-- The upkeep of a call. -/
def upkeep (service : Service) : Call → List Upkeep
  | .create entry =>
    match service.lookup entry.id with
    | (.ok previous, after) => rewriting previous (after.backend.save entry).1
    | (.error _, _) => []
  | .update id change =>
    match service.get id with
    | (.ok current, after) => rewriting (some current) (after.backend.save (current.apply change)).1
    | (.error _, _) => []
  | .delete id =>
    match service.get id with
    | (.ok current, after) => removing current (after.backend.delete id).1
    | (.error _, _) => []
  | .rebuild =>
    match service.backend.list with
    | .ok entries => entries.map .index
    | .error _ => []
  | .sanitize => [.sanitize]
  | .get _ | .preview _ | .search _ => []

/-! ## Reading leaves the index alone -/

theorem index_lookup (service : Service) (id : EntryId) :
    (service.lookup id).2.engine.index = service.engine.index := by
  rw [lookup]
  simp only
  split <;> rfl

theorem index_get (service : Service) (id : EntryId) :
    (service.get id).2.engine.index = service.engine.index := by
  have looked := index_lookup service id
  rw [get]
  generalize service.lookup id = answered at looked ⊢
  rcases answered with ⟨_ | _ | entry, after⟩ <;> exact looked

theorem index_preview (service : Service) (id : EntryId) :
    (service.preview id).2.engine.index = service.engine.index := by
  rw [preview]
  cases service.engine.cache.fresh? id with
  | some preview => rfl
  | none =>
    have looked := index_lookup (service.mapCache Cache.countMiss) id
    generalize (service.mapCache Cache.countMiss).lookup id = answered at looked ⊢
    rcases answered with ⟨_ | _ | entry, after⟩ <;> exact looked

theorem index_previews (service : Service) (ids : List EntryId) :
    (service.previews ids).2.engine.index = service.engine.index := by
  induction ids generalizing service with
  | nil => rfl
  | cons id ids ih => exact (ih (service.preview id).2).trans (index_preview service id)

/-! ## Calls do their upkeep -/

theorem index_create (service : Service) (entry : Entry) :
    (service.create entry).2.engine.index =
      (service.engine.keepUpAll (service.upkeep (.create entry))).index := by
  have looked := index_lookup service entry.id
  rw [create, upkeep]
  generalize service.lookup entry.id = answered at looked ⊢
  rcases answered with ⟨_ | _ | previous, after⟩
  case error failure => exact looked
  case ok.none =>
    rcases save_cases after.backend entry with ⟨text, refuses⟩ | saves
    · simp only [refuses]
      exact looked
    · simp only [saves]
      exact Engine.index_keepUpAll_congr looked [.index _]
  case ok.some =>
    rcases save_cases after.backend entry with ⟨text, refuses⟩ | saves
    · simp only [unindex_backend, refuses]
      exact Engine.index_keepUpAll_congr looked [.unindex previous, .index previous]
    · simp only [unindex_backend, saves]
      exact Engine.index_keepUpAll_congr looked [.unindex previous, .index _, .sanitize]

theorem index_update (service : Service) (id : EntryId) (change : Update) :
    (service.update id change).2.engine.index =
      (service.engine.keepUpAll (service.upkeep (.update id change))).index := by
  have gotten := index_get service id
  rw [update, upkeep]
  generalize service.get id = answered at gotten ⊢
  rcases answered with ⟨_ | current, after⟩
  case error failure => exact gotten
  case ok =>
    rcases save_cases after.backend (current.apply change) with ⟨text, refuses⟩ | saves
    · simp only [unindex_backend, refuses]
      exact Engine.index_keepUpAll_congr gotten [.unindex current, .index current]
    · simp only [unindex_backend, saves]
      exact Engine.index_keepUpAll_congr gotten [.unindex current, .index _, .sanitize]

theorem index_delete (service : Service) (id : EntryId) :
    (service.delete id).2.engine.index =
      (service.engine.keepUpAll (service.upkeep (.delete id))).index := by
  have gotten := index_get service id
  rw [delete, upkeep]
  generalize service.get id = answered at gotten ⊢
  rcases answered with ⟨_ | current, after⟩
  case error failure => exact gotten
  case ok =>
    simp only [sanitize_backend, unindex_backend]
    generalize after.backend.delete id = deleted
    rcases deleted with ⟨_ | _, backend⟩
    case error =>
      exact Engine.index_keepUpAll_congr gotten [.unindex current, .sanitize, .index current]
    case ok => exact Engine.index_keepUpAll_congr gotten [.unindex current, .sanitize]

theorem index_rebuild (service : Service) :
    service.rebuild.2.engine.index =
      (service.engine.keepUpAll (service.upkeep .rebuild)).index := by
  rw [rebuild, upkeep, ← flushed, flushed_backend]
  rcases service.backend.list with _ | entries
  case error failure => exact flushed_index service
  case ok =>
    have indexed : (service.flushed.engine.keepUpAll (entries.map .index)).index =
        (service.engine.keepUpAll (entries.map .index)).index :=
      Engine.index_keepUpAll_congr (flushed_index service) _
    rwa [Engine.keepUpAll_map_index] at indexed

/-- **A call does its upkeep and nothing else to the index.** -/
theorem index_perform (service : Service) (call : Call) :
    (service.perform call).2.engine.index =
      (service.engine.keepUpAll (service.upkeep call)).index := by
  cases call with
  | create entry =>
    rw [perform, reply_snd]
    exact index_create service entry
  | update id change =>
    rw [perform, reply_snd]
    exact index_update service id change
  | delete id =>
    rw [perform, reply_snd]
    exact index_delete service id
  | get id =>
    rw [perform, reply_snd]
    exact index_get service id
  | preview id =>
    rw [perform, reply_snd]
    exact index_preview service id
  | search query =>
    rw [perform, reply_snd]
    exact index_previews service _
  | sanitize => rfl
  | rebuild =>
    rw [perform, reply_snd]
    exact index_rebuild service

end Service

/-! ## All that can be done where a service runs -/

/-- What can be done where a service runs: upkeep of its engine past the service, an event,
and an exchange of the backend, be it of what is stored, of how the store behaves or of what
races with its look-ups. -/
inductive Act where
  | upkeep (work : Upkeep)
  | event (event : Event)
  | exchange (backend : Backend)

namespace Service

variable {service : Service}

/-- The service after an act. -/
def act (service : Service) : Act → Service
  | .upkeep work => service.mapEngine (·.keepUp work)
  | .event event => service.react event
  | .exchange backend => { service with backend }

/-- The service after several acts. -/
def actAll (service : Service) (acts : List Act) : Service := acts.foldl act service

/-- The upkeep in an act. -/
def upkeepIn (service : Service) : Act → List Upkeep
  | .upkeep work => [work]
  | .event (.call call) => service.upkeep call
  | .event _ | .exchange _ => []

/-- The upkeep in several acts, in the order in which it is done. -/
def upkeepInAll : Service → List Act → List Upkeep
  | _, [] => []
  | service, first :: acts => service.upkeepIn first ++ (service.act first).upkeepInAll acts

/-- **An act does its upkeep and nothing else to the index.** -/
theorem index_act (service : Service) (act : Act) :
    (service.act act).engine.index = (service.engine.keepUpAll (service.upkeepIn act)).index := by
  cases act with
  | upkeep work => rfl
  | event event =>
    cases event with
    | call call => exact index_perform service call
    | conduct | elapse => rfl
  | exchange backend => rfl

/-- **The index is the one that comes of the upkeep that has been done.** -/
theorem index_actAll (service : Service) (acts : List Act) :
    (service.actAll acts).engine.index =
      (service.engine.keepUpAll (service.upkeepInAll acts)).index := by
  induction acts generalizing service with
  | nil => rfl
  | cons first acts ih =>
    have rest : (service.actAll (first :: acts)).engine.index =
        ((service.act first).engine.keepUpAll ((service.act first).upkeepInAll acts)).index :=
      ih (service.act first)
    rw [rest, upkeepInAll, Engine.keepUpAll_append]
    exact Engine.index_keepUpAll_congr (index_act service first) _

end Service

/-- **Wildcards end the paths of an index.**  Whatever is done where a service runs, from a
fresh engine on, the paths of the index look as tokens do, so nothing goes on from a wildcard,
and the root holds no id.  From the root and from every path there is, a search that leads on
from a wildcard finds nothing, and one that ends at the wildcard finds the ids that have been
indexed, and not unindexed since, under the very token that is searched. -/
theorem wildcards_end_paths (config : Config) (backend : Backend) (acts : List Act) :
    let fresh := Service.ofBackend config backend
    let index := (fresh.actAll acts).engine.index
    (∀ path, index.HasPath path → Token.WellFormed path) ∧
    (∀ stem more, index.HasPath (stem ++ wildcard :: more) → more = []) ∧
    index.root.ids = Roster.empty ∧
    ∀ stem, (stem = [] ∨ index.HasPath stem) →
      (∀ more, more ≠ [] → index.search (stem ++ wildcard :: more) = Roster.empty) ∧
      ∀ id, (index.search (stem ++ [wildcard])).contains id = true ↔
        Upkeep.StaysIndexed (fresh.upkeepInAll acts) (stem ++ [wildcard]) id := by
  intro fresh index
  have came : index = (fresh.engine.keepUpAll (fresh.upkeepInAll acts)).index :=
    Service.index_actAll fresh acts
  have wellFormed : index.WellFormed := by
    rw [came]
    exact Engine.wellFormed_keepUpAll Index.wellFormed_empty _
  have bare : index.root.ids = Roster.empty := by
    rw [came]
    exact Engine.root_ids_keepUpAll fresh.engine _
  refine ⟨wellFormed, fun stem more => wellFormed.eq_nil_of_hasPath, bare, ?_⟩
  intro stem here
  refine ⟨fun more => Index.search_past_wildcard wellFormed here, ?_⟩
  intro id
  rw [Index.contains_search_wildcard here, came]
  exact Engine.holds_wildcard_keepUpAll rfl

/-- The index is rebuilt; an entry is indexed past the service; then the store refuses to
delete one entry and saves another one under an id of its own choice; and at last the entry
that was indexed past the service is unindexed with one of its keywords. -/
def sampleActs : List Act := [
  .event (.call .rebuild),
  .upkeep (.index { id := ⟨5⟩, question := "Ink", keywords := ["ton*er", "toner*", "tone*"] }),
  .event (.conduct { deleteFault := some "busy", assignedId := some ⟨7⟩ }),
  .event (.call (.delete ⟨2⟩)),
  .event (.call (.update ⟨1⟩ { keywords := some ["Toner*", "prints"] })),
  .upkeep (.unindex { id := ⟨5⟩, question := "Ink", keywords := ["toner*"] })]

/-- The service to which all this is done. -/
def freshService : Service := Service.ofBackend {} { store := sampleStore }

theorem wildcards_end_paths_sample :
    (freshService.actAll sampleActs).engine.index.HasPath "toner".toList ∧
    (freshService.actAll sampleActs).engine.index.search "toner*s".toList = Roster.empty ∧
    Upkeep.StaysIndexed (freshService.upkeepInAll sampleActs) "toner*".toList ⟨2⟩ ∧
    Upkeep.StaysIndexed (freshService.upkeepInAll sampleActs) "toner*".toList ⟨7⟩ ∧
    ¬Upkeep.StaysIndexed (freshService.upkeepInAll sampleActs) "toner*".toList ⟨5⟩ := by
  obtain ⟨-, -, -, searches⟩ := wildcards_end_paths {} { store := sampleStore } sampleActs
  have has : (freshService.actAll sampleActs).engine.index.HasPath "toner".toList := by
    show (_ : Bool) = true
    decide +kernel
  obtain ⟨beyond, atEnd⟩ := searches "toner".toList (.inr has)
  refine ⟨has, beyond "s".toList (by decide), ?_, ?_, ?_⟩
  · exact (atEnd ⟨2⟩).1 (by decide +kernel)
  · exact (atEnd ⟨7⟩).1 (by decide +kernel)
  · intro stays
    exact absurd ((atEnd ⟨5⟩).2 stays) (by decide +kernel)

end KeywordSearch
