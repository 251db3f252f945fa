import KeywordSearch.EntryId

/-!
# Rosters

A roster holds things that carry an entry id, at most one of each id, in
ascending order of id.  Sets of ids, the stored entries and the cached previews
are all rosters.

A roster is determined by its look-up function (`ext`), and each operation is
described by what it does to that function: inserting answers the new thing at
its own id (`find?_insert`), erasing answers nothing there (`find?_erase`), and
neither changes the answer anywhere else.
-/

set_option autoImplicit false

namespace KeywordSearch

/-- A kind of thing that carries the id of an entry. -/
class Identified (α : Type) where
  entryId : α → EntryId

export Identified (entryId)

instance : Identified EntryId := ⟨fun id => id⟩

instance {β : Type} : Identified (EntryId × β) := ⟨fun pair => pair.1⟩

/-- Things in strictly ascending order of the ids that they carry. -/
structure Roster (α : Type) [Identified α] where
  items : List α
  ascending : items.Pairwise fun a b => entryId a < entryId b

namespace Roster

variable {α : Type} [Identified α]

instance [DecidableEq α] : DecidableEq (Roster α)
  | ⟨left, _⟩, ⟨right, _⟩ =>
    if same : left = right then .isTrue (by subst same; rfl)
    else .isFalse fun equal => same (congrArg items equal)

/-! ## Operations -/

/-- The roster that holds nothing. -/
def empty : Roster α := ⟨[], .nil⟩

instance : Inhabited (Roster α) := ⟨empty⟩

/-- What a roster holds under an id. -/
def find? (roster : Roster α) (id : EntryId) : Option α :=
  roster.items.find? fun item => entryId item == id

/-- Whether a roster holds anything under an id. -/
def contains (roster : Roster α) (id : EntryId) : Bool := (roster.find? id).isSome

/-- How many things a roster holds. -/
def size (roster : Roster α) : Nat := roster.items.length

/-- Whether a roster holds nothing. -/
def isEmpty (roster : Roster α) : Bool := roster.items.isEmpty

/-- Puts a thing at its place in an ascending list, in the stead of one with
the same id. -/
def insertInto (item : α) : List α → List α
  | [] => [item]
  | head :: rest =>
    if entryId item < entryId head then item :: head :: rest
    else if entryId item = entryId head then item :: rest
    else head :: insertInto item rest

theorem mem_insertInto {item other : α} {items : List α} (found : other ∈ insertInto item items) :
    other = item ∨ other ∈ items := by
  induction items with
  | nil => simpa [insertInto] using found
  | cons head rest ih =>
    rw [insertInto] at found
    split at found
    · simpa using found
    · split at found
      · rcases List.mem_cons.1 found with here | there
        · exact .inl here
        · exact .inr (List.mem_cons_of_mem _ there)
      · rcases List.mem_cons.1 found with here | there
        · exact .inr (here ▸ List.mem_cons_self)
        · exact (ih there).imp_right (List.mem_cons_of_mem _)

theorem ascending_insertInto (item : α) {items : List α}
    (ascending : items.Pairwise fun a b => entryId a < entryId b) :
    (insertInto item items).Pairwise fun a b => entryId a < entryId b := by
  induction items with
  | nil => simp [insertInto]
  | cons head rest ih =>
    obtain ⟨first, others⟩ := List.pairwise_cons.1 ascending
    rw [insertInto]
    split
    next less =>
      refine List.pairwise_cons.2 ⟨fun other found => ?_, ascending⟩
      rcases List.mem_cons.1 found with rfl | there
      · exact less
      · exact EntryId.lt_trans less (first other there)
    next notLess =>
      split
      next same => exact List.pairwise_cons.2 ⟨fun other found => same ▸ first other found, others⟩
      next different =>
        refine List.pairwise_cons.2 ⟨fun other found => ?_, ih others⟩
        rcases mem_insertInto found with rfl | there
        · exact Classical.byContradiction fun notMore =>
            different (EntryId.eq_of_not_lt notLess notMore)
        · exact first other there

/-- Adds a thing, replacing what the roster holds under its id. -/
def insert (roster : Roster α) (item : α) : Roster α :=
  ⟨insertInto item roster.items, ascending_insertInto item roster.ascending⟩

/-- Drops what a roster holds under an id. -/
def erase (roster : Roster α) (id : EntryId) : Roster α :=
  ⟨roster.items.filter fun item => entryId item != id, roster.ascending.filter _⟩

/-- The roster of a list; of several things with one id the last is kept. -/
def ofList (items : List α) : Roster α := items.foldl insert empty

/-! ## Looking up after an operation -/

@[simp] theorem find?_empty (id : EntryId) : (empty : Roster α).find? id = none := rfl

theorem find?_insertInto_self (item : α) (items : List α) :
    (insertInto item items).find? (fun other => entryId other == entryId item) = some item := by
  induction items with
  | nil => simp [insertInto]
  | cons head rest ih =>
    rw [insertInto]
    split
    · simp
    · split
      · simp
      next different => rw [List.find?_cons_of_neg (by simpa using Ne.symm different)]; exact ih

theorem find?_insertInto_of_ne {item : α} {id : EntryId} (different : entryId item ≠ id)
    (items : List α) :
    (insertInto item items).find? (fun other => entryId other == id) =
      items.find? fun other => entryId other == id := by
  induction items with
  | nil => simp [insertInto, different]
  | cons head rest ih =>
    rw [insertInto]
    split
    · rw [List.find?_cons_of_neg (by simpa using different)]
    · split
      next same =>
        rw [List.find?_cons_of_neg (by simpa using different),
          List.find?_cons_of_neg (by simpa [← same] using different)]
      next => simp only [List.find?_cons, ih]

/-- An inserted thing is found at its own id, and all else is found as before. -/
theorem find?_insert (roster : Roster α) (item : α) (id : EntryId) :
    (roster.insert item).find? id = if entryId item = id then some item else roster.find? id := by
  split
  next same => subst same; exact find?_insertInto_self item roster.items
  next different => exact find?_insertInto_of_ne different roster.items

/-- An erased id answers nothing, and all else is found as before. -/
theorem find?_erase (roster : Roster α) (erased id : EntryId) :
    (roster.erase erased).find? id = if id = erased then none else roster.find? id := by
  simp only [erase, find?, List.find?_filter]
  split
  next same =>
    subst same
    rw [List.find?_eq_none]
    intro item _
    simp
  next different =>
    congr 1
    funext item
    by_cases here : entryId item = id
    · simp [here, different]
    · simp [here]

@[simp] theorem find?_erase_self (roster : Roster α) (id : EntryId) :
    (roster.erase id).find? id = none := by
  rw [find?_erase, if_pos rfl]

/-- What is found under an id carries that id. -/
theorem entryId_of_find? {roster : Roster α} {id : EntryId} {item : α}
    (found : roster.find? id = some item) : entryId item = id := by
  simpa using List.find?_some found

theorem mem_of_find? {roster : Roster α} {id : EntryId} {item : α}
    (found : roster.find? id = some item) : item ∈ roster.items := List.mem_of_find?_eq_some found

/-- Whatever a roster holds is found under its own id. -/
theorem find?_of_mem {roster : Roster α} {item : α} (held : item ∈ roster.items) :
    roster.find? (entryId item) = some item := by
  obtain ⟨items, ascending⟩ := roster
  simp only [find?] at held ⊢
  induction items with
  | nil => simp at held
  | cons head rest ih =>
    obtain ⟨first, others⟩ := List.pairwise_cons.1 ascending
    rcases List.mem_cons.1 held with rfl | there
    · simp
    · rw [List.find?_cons_of_neg (by simpa using EntryId.ne_of_lt (first item there))]
      exact ih others there

theorem mem_iff_find? {roster : Roster α} {item : α} :
    item ∈ roster.items ↔ roster.find? (entryId item) = some item :=
  ⟨find?_of_mem, mem_of_find?⟩

/-- Two ascending lists with the same members are the same list. -/
theorem items_ext {left right : List α}
    (leftAscends : left.Pairwise fun a b => entryId a < entryId b)
    (rightAscends : right.Pairwise fun a b => entryId a < entryId b)
    (same : ∀ item, item ∈ left ↔ item ∈ right) : left = right := by
  induction left generalizing right with
  | nil =>
    cases right with
    | nil => rfl
    | cons head rest => exact absurd ((same head).2 List.mem_cons_self) List.not_mem_nil
  | cons a as ih =>
    cases right with
    | nil => exact absurd ((same a).1 List.mem_cons_self) List.not_mem_nil
    | cons b bs =>
      obtain ⟨aFirst, asAscends⟩ := List.pairwise_cons.1 leftAscends
      obtain ⟨bFirst, bsAscends⟩ := List.pairwise_cons.1 rightAscends
      have heads : a = b := by
        rcases List.mem_cons.1 ((same a).1 List.mem_cons_self) with equal | inRest
        · exact equal
        rcases List.mem_cons.1 ((same b).2 List.mem_cons_self) with equal | inRest'
        · exact equal.symm
        exact absurd (bFirst a inRest) (EntryId.not_lt_of_lt (aFirst b inRest'))
      subst heads
      refine congrArg _ (ih asAscends bsAscends fun item => ⟨fun found => ?_, fun found => ?_⟩)
      · rcases List.mem_cons.1 ((same item).1 (List.mem_cons_of_mem _ found)) with rfl | there
        · exact absurd (aFirst _ found) (EntryId.lt_irrefl _)
        · exact there
      · rcases List.mem_cons.1 ((same item).2 (List.mem_cons_of_mem _ found)) with rfl | there
        · exact absurd (bFirst _ found) (EntryId.lt_irrefl _)
        · exact there

/-- Rosters that answer alike at every id are the same roster. -/
theorem ext {left right : Roster α} (same : ∀ id, left.find? id = right.find? id) :
    left = right := by
  have items : left.items = right.items :=
    items_ext left.ascending right.ascending fun item => by
      rw [mem_iff_find?, mem_iff_find?, same]
  cases left; cases right; simpa using items

/-- What is erased before something is inserted at the same id makes no difference. -/
theorem insert_erase {roster : Roster α} {item : α} {id : EntryId} (same : entryId item = id) :
    (roster.erase id).insert item = roster.insert item := by
  refine ext fun other => ?_
  rw [find?_insert, find?_insert, find?_erase]
  split
  · rfl
  next different => rw [if_neg fun equal => different (same.trans equal.symm)]

/-- Inserting what is there already changes nothing. -/
theorem insert_of_find? {roster : Roster α} {item : α}
    (found : roster.find? (entryId item) = some item) : roster.insert item = roster := by
  refine ext fun other => ?_
  rw [find?_insert]
  split
  next same => rw [← same, found]
  · rfl

end Roster

/-! ## Sets of ids -/

/-- A finite set of entry ids. -/
abbrev IdSet := Roster EntryId

namespace Roster

theorem contains_iff {α : Type} [Identified α] {roster : Roster α} {id : EntryId} :
    roster.contains id = true ↔ ∃ item, roster.find? id = some item :=
  Option.isSome_iff_exists

/-- There is one empty roster. -/
theorem isEmpty_iff {α : Type} [Identified α] {roster : Roster α} :
    roster.isEmpty = true ↔ roster = empty := by
  rw [isEmpty, List.isEmpty_iff]
  constructor
  · intro nothing
    obtain ⟨items, ascending⟩ := roster
    cases nothing
    rfl
  · exact congrArg items

/-- A roster that is not empty holds something under some id. -/
theorem isEmpty_eq_false_iff {α : Type} [Identified α] {roster : Roster α} :
    roster.isEmpty = false ↔ ∃ id, roster.contains id = true := by
  constructor
  · intro notEmpty
    have filled : roster.items ≠ [] := by simpa [isEmpty] using notEmpty
    obtain ⟨item, held⟩ := List.exists_mem_of_ne_nil roster.items filled
    exact ⟨entryId item, contains_iff.2 ⟨item, find?_of_mem held⟩⟩
  · rintro ⟨id, contained⟩
    obtain ⟨item, found⟩ := contains_iff.1 contained
    have held : roster.items ≠ [] := List.ne_nil_of_mem (mem_of_find? found)
    simpa [isEmpty] using held

/-- What a set of ids holds under an id is that id. -/
theorem find?_eq_some_of_contains {ids : IdSet} {id : EntryId}
    (contained : ids.contains id = true) : ids.find? id = some id := by
  obtain ⟨item, found⟩ := contains_iff.1 contained
  have same : item = id := entryId_of_find? found
  rw [found, same]

theorem contains_insert {ids : IdSet} {added id : EntryId} :
    (ids.insert added).contains id = true ↔ id = added ∨ ids.contains id = true := by
  have itself : entryId added = added := rfl
  rw [contains, find?_insert, itself]
  split
  next same => simp [same]
  next different => simp [Ne.symm different, contains]

theorem contains_erase {ids : IdSet} {erased id : EntryId} :
    (ids.erase erased).contains id = true ↔ id ≠ erased ∧ ids.contains id = true := by
  rw [contains, find?_erase]
  split
  next same => simp [same]
  next different => simp [different, contains]

/-- Sets with the same members are the same set. -/
theorem ext_contains {left right : IdSet}
    (same : ∀ id, left.contains id = true ↔ right.contains id = true) : left = right := by
  refine ext fun id => ?_
  cases held : left.contains id with
  | true =>
    rw [find?_eq_some_of_contains held, find?_eq_some_of_contains ((same id).1 held)]
  | false =>
    have absent : right.contains id = false := by
      rw [← Bool.not_eq_true, ← same id, held]
      exact Bool.false_ne_true
    rw [contains, Option.isSome_eq_false_iff, Option.isNone_iff_eq_none] at held absent
    rw [held, absent]

end Roster

end KeywordSearch
