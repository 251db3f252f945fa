import KeywordSearch.Backend
import Mathlib.Data.List.Basic
import Mathlib.Data.List.Induction
import Mathlib.Data.List.Perm.Basic

/-!
# What a store holds after its writes

A store that is kept in memory begins with a list of entries and then takes writes: entries
are saved, and ids are deleted.  The entries of the beginning are no more than the first
ones that were saved, so the whole past of a store is one list of writes, its history.

What the store holds is read off the history.  An entry prevails in it when it was saved and
no later write is about its id (`Write.Prevails`).  One more write settles what prevails
under its own id and leaves all else as it was (`Write.prevails_append`); by induction on the
history from its end, a look-up answers with the entry that prevails under the id, if there
is one (`Store.find?_ofWrites`).  The listing, the number of entries and whether there are
any follow from what look-ups answer.
-/

set_option autoImplicit false

namespace KeywordSearch

/-- A write to a store. -/
inductive Write where
  | save (entry : Entry)
  | delete (id : EntryId)
  deriving DecidableEq

namespace Write

variable {history : List Write} {write : Write} {entry : Entry}

/-- The id that a write is about. -/
def target : Write → EntryId
  | save entry => entry.id
  | delete id => id

/-- What a write leaves under its id. -/
def outcome : Write → Option Entry
  | save entry => some entry
  | delete _ => none

/-- The entry was saved, and no later write is about its id. -/
def Prevails (history : List Write) (entry : Entry) : Prop :=
  ∃ earlier later, history = earlier ++ save entry :: later ∧
    ∀ write ∈ later, write.target ≠ entry.id

theorem not_prevails_nil (entry : Entry) : ¬Prevails [] entry := by
  rintro ⟨earlier, later, history, _⟩
  exact absurd history.symm (by simp)

theorem id_of_outcome (left : write.outcome = some entry) : entry.id = write.target := by
  cases write with
  | save saved =>
    cases left
    rfl
  | delete id => cases left

/-- The last write settles what prevails under its id, and nothing else. -/
theorem prevails_append : Prevails (history ++ [write]) entry ↔
    if write.target = entry.id then write.outcome = some entry else Prevails history entry := by
  constructor
  · rintro ⟨earlier, later, divided, others⟩
    rcases List.eq_nil_or_concat' later with rfl | ⟨rest, last, rfl⟩
    · obtain ⟨-, rfl⟩ := List.append_singleton_inj.1 divided
      simp [target, outcome]
    · rw [← List.cons_append, ← List.append_assoc] at divided
      obtain ⟨rfl, rfl⟩ := List.append_singleton_inj.1 divided
      rw [if_neg (others write (by simp))]
      refine ⟨earlier, rest, rfl, ?_⟩
      intro other member
      exact others other (List.mem_append_left _ member)
  · intro settled
    split at settled
    next about =>
      cases write with
      | save saved =>
        cases settled
        exact ⟨history, [], rfl, by simp⟩
      | delete id => cases settled
    next other =>
      obtain ⟨earlier, later, rfl, others⟩ := settled
      refine ⟨earlier, later ++ [write], by simp, ?_⟩
      intro last member
      rcases List.mem_append.1 member with inLater | isLast
      · exact others last inLater
      · rwa [List.mem_singleton.1 isLast]

end Write

/-! ## Stores as their writes leave them -/

namespace Store

variable {history : List Write} {id : EntryId} {entry : Entry}

/-- The store after a write. -/
def write (store : Store) : Write → Store
  | .save entry => store.insert entry
  | .delete id => store.erase id

/-- The store that writes make from nothing. -/
def ofWrites (history : List Write) : Store := history.foldl write Roster.empty

/-- After a write its id answers with what the write leaves, and all other ids as before. -/
theorem find?_write (store : Store) (last : Write) (id : EntryId) :
    (store.write last).find? id = if last.target = id then last.outcome else store.find? id := by
  cases last with
  | save entry => exact Roster.find?_insert store entry id
  | delete deleted =>
    rw [write, Roster.find?_erase, Write.target, Write.outcome]
    by_cases same : deleted = id
    · rw [if_pos same.symm, if_pos same]
    · rw [if_neg (Ne.symm same), if_neg same]

/-- **A look-up answers with the entry that prevails under the id.** -/
theorem find?_ofWrites :
    (ofWrites history).find? id = some entry ↔ entry.id = id ∧ Write.Prevails history entry := by
  induction history using List.reverseRec with
  | nil =>
    refine iff_of_false (by simp [ofWrites]) ?_
    rintro ⟨-, prevails⟩
    exact Write.not_prevails_nil entry prevails
  | append_singleton history last ih =>
    rw [ofWrites, List.foldl_append, List.foldl_cons, List.foldl_nil, ← ofWrites, find?_write,
      Write.prevails_append]
    by_cases about : last.target = id
    · -- What is found under the id is what was saved last, so it has the id.
      rw [if_pos about]
      constructor
      · intro left
        have same : entry.id = id := (Write.id_of_outcome left).trans about
        rw [same, if_pos about]
        exact ⟨rfl, left⟩
      · rintro ⟨rfl, prevails⟩
        rwa [if_pos about] at prevails
    · rw [if_neg about, ih]
      constructor
      · rintro ⟨rfl, prevails⟩
        rw [if_neg about]
        exact ⟨rfl, prevails⟩
      · rintro ⟨rfl, prevails⟩
        rw [if_neg about] at prevails
        exact ⟨rfl, prevails⟩

theorem mem_items_ofWrites : entry ∈ (ofWrites history).items ↔ Write.Prevails history entry := by
  have carried : entryId entry = entry.id := rfl
  rw [Roster.mem_iff_find?, carried, find?_ofWrites, and_iff_right rfl]

/-- The stored entries sorted by id, in whatever order they come and in whatever way they are
sorted, are the listing. -/
theorem eq_items_of_sorted (store : Store) {sorted : List Entry}
    (members : sorted.Perm store.items) (ordered : sorted.Pairwise fun a b => ¬b.id < a.id) :
    sorted = store.items := by
  have listed : store.items.Pairwise fun a b => ¬b.id < a.id :=
    store.ascending.imp EntryId.not_lt_of_lt
  refine members.eq_of_pairwise ?_ ordered listed
  intro a b inSorted stored notAfter notBefore
  have same : a.id = b.id := EntryId.eq_of_not_lt notBefore notAfter
  have foundLeft : store.find? a.id = some a := Roster.find?_of_mem (members.subset inSorted)
  have foundRight : store.find? b.id = some b := Roster.find?_of_mem stored
  rw [same, foundRight] at foundLeft
  exact (Option.some.inj foundLeft).symm

end Store

/-! ## Stores that are kept in memory -/

namespace Backend

/-- A store in memory that holds some entries from the beginning. -/
def ofEntries (entries : List Entry) : Backend := { store := Roster.ofList entries }

/-- The backend after a write. -/
def write (backend : Backend) : Write → Backend
  | .save entry => (backend.save entry).2
  | .delete id => (backend.delete id).2

/-- The backend after several writes. -/
def writeAll (backend : Backend) (writes : List Write) : Backend := writes.foldl write backend

/-- In memory a write does to the store what it says. -/
theorem write_inMemory (store : Store) (last : Write) :
    write { store } last = { store := store.write last } := by
  cases last <;> rfl

theorem writeAll_inMemory (store : Store) (writes : List Write) :
    writeAll { store } writes = { store := writes.foldl Store.write store } := by
  induction writes generalizing store with
  | nil => rfl
  | cons first writes ih =>
    rw [writeAll, List.foldl_cons, write_inMemory, ← writeAll, ih, List.foldl_cons]

/-- The entries of the beginning count as the first ones that were saved. -/
theorem writeAll_ofEntries (entries : List Entry) (writes : List Write) :
    (ofEntries entries).writeAll writes =
      { store := Store.ofWrites (entries.map .save ++ writes) } := by
  rw [ofEntries, writeAll_inMemory, Store.ofWrites, List.foldl_append, List.foldl_map]
  rfl

end Backend

/-- **A store in memory is a map in which the last writer wins.**  With the history that the
entries of its beginning and the writes since make up, it finds under each id the entry that
prevails there, or nothing.  It lists what prevails, each id once and by ascending id, which
is how any sorting of it by id comes out; whatever it lists it finds; it counts what it lists.
Reading changes nothing, an entry is saved as it is given, and no request fails. -/
theorem last_writer_wins (entries : List Entry) (writes : List Write) :
    let backend := (Backend.ofEntries entries).writeAll writes
    let history := entries.map .save ++ writes
    (∀ id, ∃ found, (backend.find id).1.answer = .ok found ∧ (backend.find id).2 = backend ∧
      ∀ entry, found = some entry ↔ entry.id = id ∧ Write.Prevails history entry) ∧
    (∃ listed, backend.list = .ok listed ∧
      (∀ entry, entry ∈ listed ↔ Write.Prevails history entry) ∧
      (listed.Pairwise fun a b => a.id < b.id) ∧
      (∀ sorted, sorted.Perm listed → (sorted.Pairwise fun a b => ¬b.id < a.id) →
        sorted = listed) ∧
      (∀ entry ∈ listed, (backend.find entry.id).1.answer = .ok (some entry)) ∧
      backend.store.size = listed.length ∧ (backend.store.isEmpty = true ↔ listed = [])) ∧
    (∀ entry, (backend.save entry).1 = .ok entry ∧
      ((backend.save entry).2.find entry.id).1.answer = .ok (some entry)) ∧
    ∀ id, (backend.delete id).1 = .ok () := by
  intro backend history
  have came : backend = { store := Store.ofWrites history } :=
    Backend.writeAll_ofEntries entries writes
  rw [came]
  generalize stored : Store.ofWrites history = store
  have found (id : EntryId) (entry : Entry) :
      store.find? id = some entry ↔ entry.id = id ∧ Write.Prevails history entry := by
    rw [← stored, Store.find?_ofWrites]
  refine ⟨?_, ⟨store.items, rfl, ?_, store.ascending, ?_, ?_, rfl, ?_⟩, ?_, fun _ => rfl⟩
  · intro id
    exact ⟨store.find? id, rfl, rfl, found id⟩
  · intro entry
    rw [← stored, Store.mem_items_ofWrites]
  · intro sorted members ordered
    exact store.eq_items_of_sorted members ordered
  · intro entry member
    exact congrArg Except.ok (Roster.find?_of_mem member)
  · exact List.isEmpty_iff
  · intro entry
    have kept : (store.insert entry).find? entry.id = some entry :=
      (Roster.find?_insert store entry entry.id).trans (if_pos rfl)
    exact ⟨rfl, congrArg Except.ok kept⟩

/-- Of three entries two have one id. -/
def firstEntries : List Entry := [
  { id := ⟨3⟩, question := "First" },
  { id := ⟨1⟩, question := "Other" },
  { id := ⟨3⟩, question := "Second" }]

/-- One entry is deleted and comes again, and one is deleted that is not there. -/
def firstWrites : List Write :=
  [.delete ⟨1⟩, .delete ⟨9⟩, .save { id := ⟨1⟩, question := "Another" }]

theorem last_writer_wins_sample :
    let backend := (Backend.ofEntries firstEntries).writeAll firstWrites
    let another : Entry := { id := ⟨1⟩, question := "Another" }
    let second : Entry := { id := ⟨3⟩, question := "Second" }
    Write.Prevails (firstEntries.map .save ++ firstWrites) second ∧
    (backend.find ⟨3⟩).1.answer = .ok (some second) ∧
    ¬Write.Prevails (firstEntries.map .save ++ firstWrites) { id := ⟨3⟩, question := "First" } ∧
    backend.list = .ok [another, second] ∧
    ∀ sorted, sorted.Perm [another, second] → (sorted.Pairwise fun a b => ¬b.id < a.id) →
      sorted = [another, second] := by
  intro backend another second
  obtain ⟨finds, ⟨listed, lists, members, -, sorts, found, -⟩, -⟩ :=
    last_writer_wins firstEntries firstWrites
  have listing : backend.list = .ok [another, second] := rfl
  obtain rfl : [another, second] = listed := Except.ok.inj (listing.symm.trans lists)
  refine ⟨(members second).1 (by simp), found second (by simp), ?_, listing, sorts⟩
  intro prevails
  exact absurd ((members _).2 prevails) (by decide)

end KeywordSearch
