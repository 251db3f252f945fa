import KeywordSearch.Backend
import KeywordSearch.Engine
import KeywordSearch.Proofs.Index.Holding
import Mathlib.Data.Finset.Dedup
import Mathlib.Data.List.Forall2

/-!
# Entries that the engine cannot tell apart

Two entries are alike when they have the same id, question and active flag, and
their keywords come to the same set of tokens.  Their answers may differ, and so
may the spelling, the order and the number of their keywords.

Alike entries stay alike through alike updates and through whatever a store makes
of them when it saves them.  The engine treats them as one entry: indexing,
unindexing and caching one of them leads to the same engine as doing so with the
other (`indexEntry_congr`, `unindexEntry_congr`, `indexAll_congr`).
-/

set_option autoImplicit false

namespace KeywordSearch

/-- The tokens that a list of keywords comes to, whatever their order and number. -/
def Token.setOfKeywords (keywords : List String) : Finset Token := (ofKeywords keywords).toFinset

/-- Entries that differ at most in their answers and in how their tokens are written. -/
structure Entry.Alike (left right : Entry) : Prop where
  id : left.id = right.id
  question : left.question = right.question
  active : left.active = right.active
  tokens : Token.setOfKeywords left.keywords = Token.setOfKeywords right.keywords

/-- Updates that differ at most in the answer that they give, if any, and in how the tokens
of the keywords that they give are written. -/
structure Update.Alike (left right : Update) : Prop where
  question : left.question = right.question
  active : left.active = right.active
  tokens : left.keywords.map Token.setOfKeywords = right.keywords.map Token.setOfKeywords

/-- Stores whose entries are alike, each with the one in its place. -/
def Store.Alike (left right : Store) : Prop := List.Forall₂ Entry.Alike left.items right.items

variable {left right : Entry}

/-! ## Changing and saving entries -/

/-- Alike updates of alike entries are alike. -/
theorem Entry.Alike.apply {leftChange rightChange : Update} (entries : left.Alike right)
    (changes : leftChange.Alike rightChange) :
    (left.apply leftChange).Alike (right.apply rightChange) where
  id := entries.id
  question := by simp only [Entry.apply, changes.question, entries.question]
  active := by simp only [Entry.apply, changes.active, entries.active]
  tokens := by
    rw [Entry.apply, Entry.apply, ← Option.getD_map Token.setOfKeywords,
      ← Option.getD_map Token.setOfKeywords, changes.tokens, entries.tokens]

/-- A store makes alike entries of alike entries. -/
theorem Entry.Alike.amend (entries : left.Alike right) (conduct : Conduct) :
    (conduct.amend left).Alike (conduct.amend right) := by
  have amended (change : Update) : (left.apply change).Alike (right.apply change) :=
    entries.apply ⟨rfl, rfl, rfl⟩
  rw [Conduct.amend, Conduct.amend]
  rcases conduct.amendment with _ | change <;> rcases conduct.assignedId with _ | id
  · exact entries
  · exact ⟨rfl, entries.question, entries.active, entries.tokens⟩
  · exact amended change
  · exact ⟨rfl, (amended change).question, (amended change).active, (amended change).tokens⟩

/-! ## Stores of alike entries -/

namespace Store.Alike

variable {leftStore rightStore : Store}

/-- Alike stores hold alike entries under an id, or both hold none. -/
theorem find? (stores : leftStore.Alike rightStore) (id : EntryId) :
    Option.Rel Entry.Alike (leftStore.find? id) (rightStore.find? id) := by
  rw [Roster.find?, Roster.find?]
  rw [Store.Alike] at stores
  generalize leftStore.items = lefts, rightStore.items = rights at stores ⊢
  induction stores with
  | nil => exact .none
  | @cons left right _ _ entries _ ih =>
    have same : entryId left = entryId right := entries.id
    rw [List.find?_cons, List.find?_cons, same]
    cases entryId right == id with
    | true => exact .some entries
    | false => exact ih

theorem insert (stores : leftStore.Alike rightStore) (entries : left.Alike right) :
    Store.Alike (leftStore.insert left) (rightStore.insert right) := by
  rw [Store.Alike, Roster.insert, Roster.insert]
  rw [Store.Alike] at stores
  dsimp only
  generalize leftStore.items = lefts, rightStore.items = rights at stores ⊢
  induction stores with
  | nil => exact .cons entries .nil
  | @cons leftHead rightHead _ _ heads rest ih =>
    have same : entryId left = entryId right := entries.id
    have sameHead : entryId leftHead = entryId rightHead := heads.id
    simp only [Roster.insertInto, same, sameHead]
    split
    · exact .cons entries (.cons heads rest)
    · split
      · exact .cons entries rest
      · exact .cons heads ih

theorem erase (stores : leftStore.Alike rightStore) (id : EntryId) :
    Store.Alike (leftStore.erase id) (rightStore.erase id) := by
  refine List.rel_filter (fun left right entries => ?_) stores
  have same : entryId left = entryId right := entries.id
  simp only [same]

/-- Alike lists of entries make alike stores. -/
theorem ofList {lefts rights : List Entry} (entries : List.Forall₂ Entry.Alike lefts rights) :
    Store.Alike (Roster.ofList lefts) (Roster.ofList rights) :=
  List.rel_foldl (fun _ _ stores _ _ => stores.insert) .nil entries

end Store.Alike

/-! ## The engine -/

theorem Token.spelled_congr {tokens tokens' : List Token}
    (same : tokens.toFinset = tokens'.toFinset) (path : List Char) :
    Spelled tokens path ↔ Spelled tokens' path := by
  simp only [Spelled, ← List.mem_toFinset, same]

namespace Index

variable {tokens tokens' : List Token} (same : tokens.toFinset = tokens'.toFinset)
include same

/-- An index does not remember in which order and how often tokens were inserted. -/
theorem insertAll_congr (index : Index) (id : EntryId) :
    index.insertAll tokens id = index.insertAll tokens' id := by
  refine ext_holds (by simp) (fun path => ?_) fun path held => ?_
  · rw [hasPath_insertAll, hasPath_insertAll, Token.spelled_congr same]
  · rw [holds_insertAll, holds_insertAll, Token.spelled_congr same]

theorem removeAll_congr (index : Index) (id : EntryId) :
    index.removeAll tokens id = index.removeAll tokens' id := by
  refine ext_holds (by simp) (fun path => ?_) fun path held => ?_
  · rw [hasPath_removeAll, hasPath_removeAll]
  · rw [holds_removeAll, holds_removeAll, Token.spelled_congr same]

end Index

theorem Entry.Alike.preview_eq (entries : left.Alike right) : left.preview = right.preview := by
  rw [Entry.preview, Entry.preview, entries.id, entries.question, entries.active]

namespace Cache

theorem put_congr (cache : Cache) (entries : left.Alike right) :
    cache.put left = cache.put right := by
  rw [put, put, entries.preview_eq]

theorem fill_congr (cache : Cache) (entries : left.Alike right) :
    cache.fill left = cache.fill right := by
  rw [fill, fill, entries.id, entries.preview_eq, cache.put_congr entries]

end Cache

namespace Engine

theorem indexEntry_congr (engine : Engine) (entries : left.Alike right) :
    engine.indexEntry left = engine.indexEntry right := by
  have same : left.tokens.toFinset = right.tokens.toFinset := entries.tokens
  rw [indexEntry, indexEntry, entries.id, Index.insertAll_congr same,
    engine.cache.put_congr entries]

theorem unindexEntry_congr (engine : Engine) (entries : left.Alike right) :
    engine.unindexEntry left = engine.unindexEntry right := by
  have same : left.tokens.toFinset = right.tokens.toFinset := entries.tokens
  rw [unindexEntry, unindexEntry, entries.id, Index.removeAll_congr same]

theorem indexAll_congr (engine : Engine) {lefts rights : List Entry}
    (entries : List.Forall₂ Entry.Alike lefts rights) :
    engine.indexAll lefts = engine.indexAll rights := by
  induction entries generalizing engine with
  | nil => rfl
  | cons first _ ih =>
    rw [indexAll, indexAll, List.foldl_cons, List.foldl_cons, engine.indexEntry_congr first]
    exact ih _

end Engine

end KeywordSearch
