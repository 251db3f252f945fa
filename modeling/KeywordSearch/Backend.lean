import KeywordSearch.Entry
import KeywordSearch.Failure

/-!
# The document store

The store keeps entries by id; the last entry saved under an id is the one that
is kept.  A backend is a store together with the way it behaves: which requests
it refuses, how it amends entries that it is given to save, and which previews
reach the cache while a look-up is under way, be it one that fails or one that does
not.
-/

set_option autoImplicit false

namespace KeywordSearch

/-- The stored entries, in ascending order of id. -/
abbrev Store := Roster Entry

/-- How a store behaves.  A text makes requests of one kind fail with that
text; looking up can fail for every id or for some.  What is saved is first
amended, and may be given another id. -/
structure Conduct where
  listFault : Option String := none
  findFault : Option String := none
  findFaults : Roster (EntryId × String) := Roster.empty
  saveFault : Option String := none
  deleteFault : Option String := none
  amendment : Option Update := none
  assignedId : Option EntryId := none

namespace Conduct

/-- The text that looking up an id fails with. -/
def findFaultOf (conduct : Conduct) (id : EntryId) : Option String :=
  match conduct.findFault with
  | some text => some text
  | none => (conduct.findFaults.find? id).map Prod.snd

/-- The entry that is stored when a given one is to be saved. -/
def amend (conduct : Conduct) (entry : Entry) : Entry :=
  let amended := match conduct.amendment with
    | some update => entry.apply update
    | none => entry
  match conduct.assignedId with
  | some id => { amended with id }
  | none => amended

end Conduct

/-- A put that races with a look-up: the preview of an entry is put into the cache
during the next look-up of an id that does not fail, or during the next one that
does. -/
structure Race where
  id : EntryId
  entry : Entry
  fails : Bool := false

instance : Identified Race := ⟨Race.id⟩

/-- A store, its behaviour, and the puts that are to race with look-ups. -/
structure Backend where
  store : Store
  conduct : Conduct := {}
  races : Roster Race := Roster.empty

/-- What comes of a look-up: the answer, and the entry that is put into the
cache after the store was read and before the answer arrives. -/
structure Lookup where
  answer : Except Failure (Option Entry)
  raced : Option Entry

namespace Backend

/-- All entries in ascending order of id. -/
def list (backend : Backend) : Except Failure (List Entry) :=
  match backend.conduct.listFault with
  | some text => .error (.store text)
  | none => .ok backend.store.items

/-- What a look-up answers. -/
def peek (backend : Backend) (id : EntryId) : Except Failure (Option Entry) :=
  match backend.conduct.findFaultOf id with
  | some text => .error (.store text)
  | none => .ok (backend.store.find? id)

/-- The entry whose preview is put into the cache while an id is looked up. -/
def raced? (backend : Backend) (id : EntryId) : Option Entry :=
  match backend.races.find? id with
  | some race =>
    if race.fails = (backend.conduct.findFaultOf id).isSome then some race.entry else none
  | none => none

/-- Looks up an entry.  A put that races with the look-up is handed on and is over
then; all others wait. -/
def find (backend : Backend) (id : EntryId) : Lookup × Backend :=
  match backend.raced? id with
  | some entry =>
    (⟨backend.peek id, some entry⟩, { backend with races := backend.races.erase id })
  | none => (⟨backend.peek id, none⟩, backend)

/-- Saves an entry and answers with what was stored. -/
def save (backend : Backend) (entry : Entry) : Except Failure Entry × Backend :=
  match backend.conduct.saveFault with
  | some text => (.error (.store text), backend)
  | none =>
    let stored := backend.conduct.amend entry
    (.ok stored, { backend with store := backend.store.insert stored })

/-- Deletes an entry; an id that is not there is no failure. -/
def delete (backend : Backend) (id : EntryId) : Except Failure Unit × Backend :=
  match backend.conduct.deleteFault with
  | some text => (.error (.store text), backend)
  | none => (.ok (), { backend with store := backend.store.erase id })

end Backend

end KeywordSearch
