import KeywordSearch.Backend
import KeywordSearch.Engine

/-!
# The search service

The service answers searches from its engine and keeps the engine in step with
the document store behind it.  Each operation takes the service as it is and
gives an answer together with the service as it is afterwards, also when the
answer is a failure.

An entry leaves the index before it is saved or deleted and enters it again as
it was saved; where the store refuses, the entry that is still stored is put
back.
-/

set_option autoImplicit false

namespace KeywordSearch

/-- An engine in front of a document store. -/
structure Service where
  engine : Engine
  backend : Backend

/-- An answer or a failure, and the service afterwards. -/
abbrev Answered (α : Type) := Except Failure α × Service

namespace Service

/-! ## Parts of the service -/

/-- Changes the engine. -/
def mapEngine (service : Service) (change : Engine → Engine) : Service :=
  { service with engine := change service.engine }

/-- Changes the index. -/
def mapIndex (service : Service) (change : Index → Index) : Service :=
  service.mapEngine fun engine => { engine with index := change engine.index }

/-- Changes the cache. -/
def mapCache (service : Service) (change : Cache → Cache) : Service :=
  service.mapEngine fun engine => { engine with cache := change engine.cache }

/-- Makes an entry found. -/
def index (service : Service) (entry : Entry) : Service := service.mapEngine (·.indexEntry entry)

/-- Makes an entry found no longer. -/
def unindex (service : Service) (entry : Entry) : Service :=
  service.mapEngine (·.unindexEntry entry)

/-- Prunes the index. -/
def sanitize (service : Service) : Service := service.mapEngine Engine.sanitize

/-! ## Looking up -/

/-- Looks up a stored entry.  What races with the look-up reaches the cache
before the answer is there. -/
def lookup (service : Service) (id : EntryId) : Answered (Option Entry) :=
  let (found, backend) := service.backend.find id
  let service := { service with backend }
  match found.raced with
  | some entry => (found.answer, service.mapCache (·.put entry))
  | none => (found.answer, service)

/-- A stored entry; it is a failure if there is none. -/
def get (service : Service) (id : EntryId) : Answered Entry :=
  match service.lookup id with
  | (.error failure, service) => (.error failure, service)
  | (.ok none, service) => (.error (.entryNotFound id), service)
  | (.ok (some entry), service) => (.ok entry, service)

/-- The preview of an entry: the cached one while it is fresh, and otherwise
that of the stored entry, which is then cached. -/
def preview (service : Service) (id : EntryId) : Answered Preview :=
  match service.engine.cache.fresh? id with
  | some preview => (.ok preview, service.mapCache Cache.countHit)
  | none =>
    match (service.mapCache Cache.countMiss).lookup id with
    | (.error failure, service) => (.error failure, service)
    | (.ok none, service) => (.error (.entryNotFound id), service.mapCache (·.evictExpired id))
    | (.ok (some entry), service) =>
      let (preview, cache) := service.engine.cache.fill entry
      (.ok preview, service.mapCache fun _ => cache)

/-! ## Searching -/

/-- The previews of all the given ids, each read whatever becomes of the rest. -/
def previews (service : Service) : List EntryId → List (Except Failure Preview) × Service
  | [] => ([], service)
  | id :: rest =>
    let (first, service) := service.preview id
    let (others, service) := service.previews rest
    (first :: others, service)

/-- The active ones of the previews that were read.  Entries that are not there
are passed over; the first failure of any other kind is the answer. -/
def results : List (Except Failure Preview) → Except Failure (List Preview)
  | [] => .ok []
  | .ok preview :: rest =>
    match results rest with
    | .ok others => .ok (if preview.active then preview :: others else others)
    | .error failure => .error failure
  | .error failure :: rest => if failure.isNotFound then results rest else .error failure

/-- The previews of the active entries that a query finds, best first. -/
def search (service : Service) (query : String) : Answered (List Preview) :=
  let (read, service) := service.previews ((service.engine.candidates query).map Candidate.id)
  (results read, service)

/-! ## The life of an entry -/

/-- Saves an entry in the stead of the one stored under its id, if any. -/
def create (service : Service) (entry : Entry) : Answered Entry :=
  match service.lookup entry.id with
  | (.error failure, service) => (.error failure, service)
  | (.ok none, service) =>
    match service.backend.save entry with
    | (.error failure, backend) => (.error failure, { service with backend })
    | (.ok saved, backend) => (.ok saved, { service with backend }.index saved)
  | (.ok (some previous), service) =>
    let service := service.unindex previous
    match service.backend.save entry with
    | (.error failure, backend) => (.error failure, { service with backend }.index previous)
    | (.ok saved, backend) => (.ok saved, ({ service with backend }.index saved).sanitize)

/-- Changes a stored entry. -/
def update (service : Service) (id : EntryId) (change : Update) : Answered Entry :=
  match service.get id with
  | (.error failure, service) => (.error failure, service)
  | (.ok current, service) =>
    let service := service.unindex current
    match service.backend.save (current.apply change) with
    | (.error failure, backend) => (.error failure, { service with backend }.index current)
    | (.ok saved, backend) => (.ok saved, ({ service with backend }.index saved).sanitize)

/-- Deletes a stored entry. -/
def delete (service : Service) (id : EntryId) : Answered Unit :=
  match service.get id with
  | (.error failure, service) => (.error failure, service)
  | (.ok current, service) =>
    let service := (service.unindex current).sanitize
    match service.backend.delete id with
    | (.error failure, backend) => (.error failure, { service with backend }.index current)
    | (.ok _, backend) => (.ok (), { service with backend })

/-! ## Starting -/

/-- Indexes every stored entry and answers with their number.  Where the
configuration says so, the cache is emptied first. -/
def rebuild (service : Service) : Answered Nat :=
  let service :=
    if service.engine.config.flushCacheOnStartup then service.mapCache Cache.clear else service
  match service.backend.list with
  | .error failure => (.error failure, service)
  | .ok entries => (.ok entries.length, service.mapEngine (·.indexAll entries))

/-- A service whose engine has seen none of the stored entries. -/
def ofBackend (config : Config) (backend : Backend) : Service := ⟨Engine.ofConfig config, backend⟩

/-- A service with a valid configuration that has indexed what is stored. -/
def start (config : Config) (backend : Backend) : Except Failure Service :=
  match config.validate with
  | .error failure => .error failure
  | .ok config =>
    match (ofBackend config backend).rebuild with
    | (.error failure, _) => .error failure
    | (.ok _, service) => .ok service

end Service

end KeywordSearch
