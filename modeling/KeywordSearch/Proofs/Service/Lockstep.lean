import KeywordSearch.Proofs.Engine.Likeness
import KeywordSearch.Proofs.Service.History

/-!
# What cannot be observed through the service

Two services are alike when they have the same engine and the same behaviour of
their stores, and alike entries are stored in the same places.  A call to the one
and an alike call to the other come to alike replies and leave alike services
behind (`Service.Alike.perform`); so every other event leaves them alike, and so
does a whole history (`Service.Alike.react`, `Service.Alike.run`).

The answer texts of entries, and how the tokens of their keywords are written,
therefore have no effect on anything else that a history shows.  Take two
histories that differ in nothing but these.  Every preview that is read and every
search has the same result in both, a call fails in one as it fails in the other,
and the gauges of the service show the same after every step
(`transcripts_alike`).
-/

set_option autoImplicit false

namespace KeywordSearch

/-! ## Alike services, calls and answers -/

/-- Backends that behave in the same way over alike stores, with no preview on its way into
a cache. -/
structure Backend.Alike (left right : Backend) : Prop where
  stores : left.store.Alike right.store
  conduct : left.conduct = right.conduct
  quietLeft : left.races = Roster.empty
  quietRight : right.races = Roster.empty

/-- Services with the same engine over alike backends. -/
structure Service.Alike (left right : Service) : Prop where
  engine : left.engine = right.engine
  backends : left.backend.Alike right.backend

/-- The same failure twice, or two values that are related. -/
inductive Matching {α : Type} (Related : α → α → Prop) :
    Except Failure α → Except Failure α → Prop
  | ok {left right : α} (related : Related left right) : Matching Related (.ok left) (.ok right)
  | error (failure : Failure) : Matching Related (.error failure) (.error failure)

theorem Matching.imp {α : Type} {Related Related' : α → α → Prop} {left right : Except Failure α}
    (answers : Matching Related left right)
    (related : ∀ {left right}, Related left right → Related' left right) :
    Matching Related' left right := by
  cases answers with
  | ok holds => exact .ok (related holds)
  | error failure => exact .error failure

theorem matching_eq_iff {α : Type} {left right : Except Failure α} :
    Matching Eq left right ↔ left = right := by
  constructor
  · rintro (⟨rfl⟩ | failure)
    · rfl
    · rfl
  · rintro rfl
    cases left with
    | error failure => exact .error failure
    | ok value => exact .ok rfl

/-- Matching answers that leave alike services behind. -/
structure Answered.Alike {α : Type} (Related : α → α → Prop) (left right : Answered α) : Prop where
  answers : Matching Related left.1 right.1
  services : left.2.Alike right.2

/-- The same call twice, but for an entry to create or a change to make, which may be alike. -/
inductive Call.Alike : Call → Call → Prop
  | create {left right : Entry} (entries : left.Alike right) : Alike (.create left) (.create right)
  | update (id : EntryId) {left right : Update} (changes : left.Alike right) :
      Alike (.update id left) (.update id right)
  | delete (id : EntryId) : Alike (.delete id) (.delete id)
  | get (id : EntryId) : Alike (.get id) (.get id)
  | preview (id : EntryId) : Alike (.preview id) (.preview id)
  | search (query : String) : Alike (.search query) (.search query)
  | sanitize : Alike .sanitize .sanitize
  | rebuild : Alike .rebuild .rebuild

/-- The same reply twice, or two alike entries. -/
inductive Reply.Alike : Reply → Reply → Prop
  | entry {left right : Entry} (entries : left.Alike right) : Alike (.entry left) (.entry right)
  | same (reply : Reply) : Alike reply reply

/-- The same event twice, or two alike calls. -/
inductive Event.Alike : Event → Event → Prop
  | call {left right : Call} (calls : left.Alike right) : Alike (.call left) (.call right)
  | conduct (conduct : Conduct) : Alike (.conduct conduct) (.conduct conduct)
  | elapse (ticks : Nat) : Alike (.elapse ticks) (.elapse ticks)

/-- Matching answers are replied to alike. -/
theorem Answered.Alike.reply {α : Type} {Related : α → α → Prop} {left right : Answered α}
    (answered : left.Alike Related right) {succeed : α → Reply}
    (replies : ∀ {leftValue rightValue}, Related leftValue rightValue →
      (succeed leftValue).Alike (succeed rightValue)) :
    (left.reply succeed).1.Alike (right.reply succeed).1 ∧
      (left.reply succeed).2.Alike (right.reply succeed).2 := by
  obtain ⟨leftAnswer, leftAfter⟩ := left
  obtain ⟨rightAnswer, rightAfter⟩ := right
  obtain ⟨answers, services⟩ := answered
  cases answers with
  | ok related => exact ⟨replies related, services⟩
  | error failure => exact ⟨.same _, services⟩

/-! ## Backends -/

namespace Backend.Alike

variable {left right : Backend}

theorem peek (backends : left.Alike right) (id : EntryId) :
    Matching (Option.Rel Entry.Alike) (left.peek id) (right.peek id) := by
  rw [Backend.peek, Backend.peek, backends.conduct]
  cases right.conduct.findFaultOf id with
  | some text => exact .error _
  | none => exact .ok (backends.stores.find? id)

/-- Alike backends refuse alike entries with the same text, or save them as alike ones. -/
theorem save (backends : left.Alike right) {leftEntry rightEntry : Entry}
    (entries : leftEntry.Alike rightEntry) :
    (∃ text, left.save leftEntry = (.error (.store text), left) ∧
      right.save rightEntry = (.error (.store text), right)) ∨
    ∃ leftSaved rightSaved : Entry, leftSaved.Alike rightSaved ∧
      left.save leftEntry = (.ok leftSaved, { left with store := left.store.insert leftSaved }) ∧
      right.save rightEntry =
        (.ok rightSaved, { right with store := right.store.insert rightSaved }) := by
  rw [Backend.save, Backend.save, backends.conduct]
  cases right.conduct.saveFault with
  | some text => exact .inl ⟨text, rfl, rfl⟩
  | none => exact .inr ⟨_, _, entries.amend right.conduct, rfl, rfl⟩

/-- Alike backends refuse to delete with the same text, or both delete. -/
theorem delete (backends : left.Alike right) (id : EntryId) :
    (∃ text, left.delete id = (.error (.store text), left) ∧
      right.delete id = (.error (.store text), right)) ∨
    left.delete id = (.ok (), { left with store := left.store.erase id }) ∧
      right.delete id = (.ok (), { right with store := right.store.erase id }) := by
  rw [Backend.delete, Backend.delete, backends.conduct]
  cases right.conduct.deleteFault with
  | some text => exact .inl ⟨text, rfl, rfl⟩
  | none => exact .inr ⟨rfl, rfl⟩

theorem list (backends : left.Alike right) :
    Matching (List.Forall₂ Entry.Alike) left.list right.list := by
  rw [Backend.list, Backend.list, backends.conduct]
  cases right.conduct.listFault with
  | some text => exact .error _
  | none => exact .ok backends.stores

end Backend.Alike

/-! ## Parts of a service -/

namespace Service

variable {left right : Service} {leftEntry rightEntry : Entry}

namespace Alike

section Parts

variable (services : left.Alike right)
include services

theorem quietLeft : left.Quiet := services.backends.quietLeft

theorem quietRight : right.Quiet := services.backends.quietRight

theorem mapEngine {change change' : Engine → Engine}
    (same : change left.engine = change' left.engine) :
    (left.mapEngine change).Alike (right.mapEngine change') :=
  ⟨same.trans (congrArg change' services.engine), services.backends⟩

theorem mapCache (change : Cache → Cache) : (left.mapCache change).Alike (right.mapCache change) :=
  services.mapEngine rfl

theorem index (entries : leftEntry.Alike rightEntry) :
    (left.index leftEntry).Alike (right.index rightEntry) :=
  services.mapEngine (left.engine.indexEntry_congr entries)

theorem unindex (entries : leftEntry.Alike rightEntry) :
    (left.unindex leftEntry).Alike (right.unindex rightEntry) :=
  services.mapEngine (left.engine.unindexEntry_congr entries)

theorem sanitize : left.sanitize.Alike right.sanitize := services.mapEngine rfl

theorem withStore {leftStore rightStore : Store} (stores : leftStore.Alike rightStore) :
    (left.withStore leftStore).Alike (right.withStore rightStore) :=
  ⟨services.engine, { services.backends with stores }⟩

theorem keep (entries : leftEntry.Alike rightEntry) :
    (left.keep leftEntry).Alike (right.keep rightEntry) :=
  services.withStore (services.backends.stores.insert entries)

theorem flushed : left.flushed.Alike right.flushed := by
  rw [Service.flushed, Service.flushed, services.engine]
  split
  · exact services.mapCache Cache.clear
  · exact services

end Parts

/-! ## Every operation -/

theorem stored (services : left.Alike right) (id : EntryId) :
    Matching Entry.Alike (left.stored id) (right.stored id) := by
  rw [Service.stored, Service.stored]
  have found := services.backends.peek id
  generalize left.backend.peek id = leftFound, right.backend.peek id = rightFound at found ⊢
  cases found with
  | error failure => exact .error failure
  | ok entries =>
    cases entries with
    | none => exact .error _
    | some entries => exact .ok entries

theorem get (services : left.Alike right) (id : EntryId) :
    Answered.Alike Entry.Alike (left.get id) (right.get id) := by
  rw [get_of_quiet services.quietLeft, get_of_quiet services.quietRight]
  exact ⟨services.stored id, services⟩

theorem create (services : left.Alike right) (entries : leftEntry.Alike rightEntry) :
    Answered.Alike Entry.Alike (left.create leftEntry) (right.create rightEntry) := by
  rw [Service.create, Service.create, lookup_of_quiet services.quietLeft,
    lookup_of_quiet services.quietRight, entries.id]
  have found := services.backends.peek rightEntry.id
  have saves := services.backends.save entries
  generalize left.backend.peek rightEntry.id = leftFound,
    right.backend.peek rightEntry.id = rightFound at found ⊢
  cases found with
  | error failure => exact ⟨.error failure, services⟩
  | ok stored =>
    cases stored with
    | none =>
      obtain ⟨text, refusesLeft, refusesRight⟩ |
        ⟨leftSaved, rightSaved, saved, savesLeft, savesRight⟩ := saves
      · simp only [refusesLeft, refusesRight]
        exact ⟨.error _, services⟩
      · simp only [savesLeft, savesRight]
        exact ⟨.ok saved, (services.keep saved).index saved⟩
    | some previous =>
      obtain ⟨text, refusesLeft, refusesRight⟩ |
        ⟨leftSaved, rightSaved, saved, savesLeft, savesRight⟩ := saves
      · simp only [unindex_backend, refusesLeft, refusesRight]
        exact ⟨.error _, (services.unindex previous).index previous⟩
      · simp only [unindex_backend, savesLeft, savesRight]
        exact ⟨.ok saved, (((services.unindex previous).keep saved).index saved).sanitize⟩

theorem update (services : left.Alike right) (id : EntryId) {leftChange rightChange : Update}
    (changes : leftChange.Alike rightChange) :
    Answered.Alike Entry.Alike (left.update id leftChange) (right.update id rightChange) := by
  rw [Service.update, Service.update, get_of_quiet services.quietLeft,
    get_of_quiet services.quietRight]
  have found := services.stored id
  generalize left.stored id = leftFound, right.stored id = rightFound at found ⊢
  cases found with
  | error failure => exact ⟨.error failure, services⟩
  | ok current =>
    obtain ⟨text, refusesLeft, refusesRight⟩ |
      ⟨leftSaved, rightSaved, saved, savesLeft, savesRight⟩ :=
      services.backends.save (current.apply changes)
    · simp only [unindex_backend, refusesLeft, refusesRight]
      exact ⟨.error _, (services.unindex current).index current⟩
    · simp only [unindex_backend, savesLeft, savesRight]
      exact ⟨.ok saved, (((services.unindex current).keep saved).index saved).sanitize⟩

theorem delete (services : left.Alike right) (id : EntryId) :
    Answered.Alike Eq (left.delete id) (right.delete id) := by
  rw [Service.delete, Service.delete, get_of_quiet services.quietLeft,
    get_of_quiet services.quietRight]
  have found := services.stored id
  generalize left.stored id = leftFound, right.stored id = rightFound at found ⊢
  cases found with
  | error failure => exact ⟨.error failure, services⟩
  | ok current =>
    have unindexed := (services.unindex current).sanitize
    obtain ⟨text, refusesLeft, refusesRight⟩ | ⟨deletesLeft, deletesRight⟩ :=
      services.backends.delete id
    · simp only [sanitize_backend, unindex_backend, refusesLeft, refusesRight]
      exact ⟨.error _, unindexed.index current⟩
    · simp only [sanitize_backend, unindex_backend, deletesLeft, deletesRight]
      exact ⟨.ok rfl, unindexed.withStore (services.backends.stores.erase id)⟩

theorem preview (services : left.Alike right) (id : EntryId) :
    Answered.Alike Eq (left.preview id) (right.preview id) := by
  have missed := services.mapCache Cache.countMiss
  rw [Service.preview, Service.preview, lookup_of_quiet missed.quietLeft,
    lookup_of_quiet missed.quietRight, services.engine]
  have found := services.backends.peek id
  simp only [mapCache_backend]
  cases right.engine.cache.fresh? id with
  | some preview => exact ⟨.ok rfl, services.mapCache Cache.countHit⟩
  | none =>
    generalize left.backend.peek id = leftFound, right.backend.peek id = rightFound at found ⊢
    cases found with
    | error failure => exact ⟨.error failure, missed⟩
    | ok stored =>
      cases stored with
      | none => exact ⟨.error _, missed.mapCache (·.evictExpired id)⟩
      | some entries =>
        simp only [missed.engine, Cache.fill_congr _ entries]
        exact ⟨.ok rfl, missed.mapCache fun _ => _⟩

theorem previews (services : left.Alike right) (ids : List EntryId) :
    (left.previews ids).1 = (right.previews ids).1 ∧
      (left.previews ids).2.Alike (right.previews ids).2 := by
  induction ids generalizing left right with
  | nil => exact ⟨rfl, services⟩
  | cons id rest ih =>
    obtain ⟨answers, stays⟩ := services.preview id
    obtain ⟨others, last⟩ := ih stays
    rw [Service.previews, Service.previews]
    exact ⟨congrArg₂ List.cons (matching_eq_iff.1 answers) others, last⟩

theorem search (services : left.Alike right) (query : String) :
    Answered.Alike Eq (left.search query) (right.search query) := by
  rw [Service.search, Service.search, services.engine]
  obtain ⟨read, stays⟩ :=
    services.previews ((right.engine.candidates query).map Candidate.id)
  exact ⟨matching_eq_iff.2 (congrArg results read), stays⟩

theorem rebuild (services : left.Alike right) :
    Answered.Alike Eq left.rebuild right.rebuild := by
  rw [Service.rebuild, Service.rebuild, ← Service.flushed, ← Service.flushed]
  have lists := services.flushed.backends.list
  generalize left.flushed.backend.list = leftListed, right.flushed.backend.list = rightListed
    at lists ⊢
  cases lists with
  | error failure => exact ⟨.error failure, services.flushed⟩
  | @ok lefts rights entries =>
    have indexed : (left.flushed.mapEngine (·.indexAll lefts)).Alike
        (right.flushed.mapEngine (·.indexAll rights)) :=
      services.flushed.mapEngine (left.flushed.engine.indexAll_congr entries)
    exact ⟨.ok entries.length_eq, indexed⟩

/-! ## Every call and every event -/

/-- **Alike calls to alike services have alike replies and leave alike services behind.** -/
theorem perform (services : left.Alike right) {leftCall rightCall : Call}
    (calls : leftCall.Alike rightCall) :
    (left.perform leftCall).1.Alike (right.perform rightCall).1 ∧
      (left.perform leftCall).2.Alike (right.perform rightCall).2 := by
  cases calls with
  | create entries => exact (services.create entries).reply fun saved => .entry saved
  | update id changes => exact (services.update id changes).reply fun saved => .entry saved
  | delete id => exact (services.delete id).reply fun _ => .same .done
  | get id => exact (services.get id).reply fun found => .entry found
  | preview id => exact (services.preview id).reply fun same => same ▸ .same _
  | search query => exact (services.search query).reply fun same => same ▸ .same _
  | sanitize => exact ⟨.same .done, services.sanitize⟩
  | rebuild => exact services.rebuild.reply fun same => same ▸ .same _

/-- Alike events leave alike services behind. -/
theorem react (services : left.Alike right) {leftEvent rightEvent : Event}
    (events : leftEvent.Alike rightEvent) :
    (left.react leftEvent).Alike (right.react rightEvent) := by
  cases events with
  | call calls => exact (services.perform calls).2
  | conduct => exact ⟨services.engine, { services.backends with conduct := rfl }⟩
  | elapse ticks => exact services.mapCache (·.elapse ticks)

/-- Alike histories leave alike services behind: in particular the same engine. -/
theorem run (services : left.Alike right) {leftEvents rightEvents : List Event}
    (events : List.Forall₂ Event.Alike leftEvents rightEvents) :
    (left.run leftEvents).Alike (right.run rightEvents) :=
  List.rel_foldl (fun _ _ services _ _ events => services.react events) services events

end Alike

/-- Over alike stores services start alike, or fail to start with the same failure. -/
theorem start_alike (config : Config) {left right : Backend} (backends : left.Alike right) :
    Matching Alike (start config left) (start config right) := by
  rw [start, start]
  cases config.validate with
  | error failure => exact .error failure
  | ok config =>
    have services : (ofBackend config left).Alike (ofBackend config right) := ⟨rfl, backends⟩
    have rebuilt := services.rebuild
    dsimp only
    generalize (ofBackend config left).rebuild = leftRebuilt,
      (ofBackend config right).rebuild = rightRebuilt at rebuilt ⊢
    obtain ⟨leftAnswer, leftAfter⟩ := leftRebuilt
    obtain ⟨rightAnswer, rightAfter⟩ := rightRebuilt
    obtain ⟨answers, services⟩ := rebuilt
    cases answers with
    | ok => exact .ok services
    | error failure => exact .error failure

end Service

/-! ## What a history shows -/

/-- What the gauges of a service show: the points in its index, the previews that it keeps
in its cache, and the reads that were and were not answered from there. -/
structure Gauges where
  nodeCount : Nat
  cached : Nat
  hits : Nat
  misses : Nat
  deriving DecidableEq, Repr

/-- What an event shows: the reply, if it is a call, and the gauges afterwards. -/
structure Observation where
  reply : Option Reply
  gauges : Gauges
  deriving DecidableEq, Repr

/-- Alike replies, if any, and the same on all gauges. -/
structure Observation.Alike (left right : Observation) : Prop where
  reply : Option.Rel Reply.Alike left.reply right.reply
  gauges : left.gauges = right.gauges

namespace Service

/-- What the gauges show. -/
def gauges (service : Service) : Gauges where
  nodeCount := service.engine.index.nodeCount
  cached := service.engine.cache.size
  hits := service.engine.cache.hits
  misses := service.engine.cache.misses

/-- The reply to an event that is a call. -/
def replyTo (service : Service) : Event → Option Reply
  | .call call => some (service.perform call).1
  | .conduct _ | .elapse _ => none

/-- What each of several events shows. -/
def transcript (service : Service) : List Event → List Observation
  | [] => []
  | event :: events =>
    let after := service.react event
    ⟨service.replyTo event, after.gauges⟩ :: after.transcript events

namespace Alike

variable {left right : Service} (services : left.Alike right)
include services

theorem gauges : left.gauges = right.gauges := by
  rw [Service.gauges, Service.gauges, services.engine]

theorem replyTo {leftEvent rightEvent : Event} (events : leftEvent.Alike rightEvent) :
    Option.Rel Reply.Alike (left.replyTo leftEvent) (right.replyTo rightEvent) := by
  cases events with
  | call calls => exact .some (services.perform calls).1
  | conduct => exact .none
  | elapse => exact .none

/-- Alike histories show alike things at every step. -/
theorem transcript {leftEvents rightEvents : List Event}
    (events : List.Forall₂ Event.Alike leftEvents rightEvents) :
    List.Forall₂ Observation.Alike (left.transcript leftEvents)
      (right.transcript rightEvents) := by
  induction events generalizing left right with
  | nil => exact .nil
  | cons first _ ih =>
    have after := services.react first
    exact .cons ⟨services.replyTo first, after.gauges⟩ (ih after)

end Alike

end Service

/-- **Histories of which the stored entries, the entries to create and the changes to make
differ only in answers and in how tokens are written show the same.**  Either both fail to
start, with the same failure, or their gauges show the same from the start and after every
event; and at every event both make the same reply, unless the reply is an entry, and then
the entries are alike. -/
theorem transcripts_alike (config : Config) (conduct : Conduct) {leftStore rightStore : Store}
    {leftEvents rightEvents : List Event} (stores : leftStore.Alike rightStore)
    (events : List.Forall₂ Event.Alike leftEvents rightEvents) :
    Matching (fun left right => left.gauges = right.gauges ∧
        List.Forall₂ Observation.Alike (left.transcript leftEvents)
          (right.transcript rightEvents))
      (Service.start config { store := leftStore, conduct })
      (Service.start config { store := rightStore, conduct }) := by
  have backends : Backend.Alike { store := leftStore, conduct } { store := rightStore, conduct } :=
    ⟨stores, rfl, rfl, rfl⟩
  exact (Service.start_alike config backends).imp fun services =>
    ⟨services.gauges, services.transcript events⟩

/-- Two entries, told tersely. -/
def terseEntries : List Entry := [
  { id := ⟨1⟩, question := "Printer offline", keywords := ["printer", "offline"] },
  { id := ⟨2⟩, question := "Printer toner", keywords := ["toner*"] }]

/-- The same two entries at greater length. -/
def wordyEntries : List Entry := [
  { id := ⟨1⟩, question := "Printer offline", answer := "Switch it off and on again.",
    keywords := ["Off-line", "PRINTER", "offline!"] },
  { id := ⟨2⟩, question := "Printer toner", answer := "Ask for a new cartridge.",
    keywords := ["TONER*", "toner *", ""] }]

/-- An entry is replaced, another is not deleted but changed, and both are searched for. -/
def toldHistory (answer : String) (keywords : List String) : List Event := [
  .call (.create { id := ⟨1⟩, question := "Printing", answer, keywords }),
  .call (.search "printer"),
  .conduct { deleteFault := some "busy" },
  .call (.delete ⟨2⟩),
  .call (.update ⟨2⟩ { answer := some answer, keywords := some keywords }),
  .call (.search "pri"),
  .call (.get ⟨2⟩)]

theorem transcripts_alike_sample :
    Store.Alike (Roster.ofList terseEntries) (Roster.ofList wordyEntries) ∧
    List.Forall₂ Event.Alike (toldHistory "" ["ink", "print"])
      (toldHistory "See the manual." ["Print", "INK", "ink"]) ∧
    ∃ left right,
      Service.start {} { store := Roster.ofList terseEntries } = .ok left ∧
      Service.start {} { store := Roster.ofList wordyEntries } = .ok right ∧
      left.gauges = right.gauges ∧
      List.Forall₂ Observation.Alike (left.transcript (toldHistory "" ["ink", "print"]))
        (right.transcript (toldHistory "See the manual." ["Print", "INK", "ink"])) := by
  have stores : Store.Alike (Roster.ofList terseEntries) (Roster.ofList wordyEntries) :=
    .ofList (.cons ⟨rfl, rfl, rfl, by decide +kernel⟩
      (.cons ⟨rfl, rfl, rfl, by decide +kernel⟩ .nil))
  have same : Token.setOfKeywords ["ink", "print"] =
      Token.setOfKeywords ["Print", "INK", "ink"] := by
    decide +kernel
  have events : List.Forall₂ Event.Alike (toldHistory "" ["ink", "print"])
      (toldHistory "See the manual." ["Print", "INK", "ink"]) :=
    .cons (.call (.create ⟨rfl, rfl, rfl, same⟩)) <| .cons (.call (.search _)) <|
      .cons (.conduct _) <| .cons (.call (.delete _)) <|
      .cons (.call (.update _ ⟨rfl, rfl, congrArg some same⟩)) <| .cons (.call (.search _)) <|
      .cons (.call (.get _)) .nil
  have shown := transcripts_alike {} {} stores events
  have started (store : Store) :
      Service.start {} { store } = .ok (Service.ofBackend {} { store }).rebuild.2 := rfl
  rw [started, started] at shown
  cases shown with
  | ok alike => exact ⟨stores, events, _, _, started _, started _, alike⟩

end KeywordSearch
