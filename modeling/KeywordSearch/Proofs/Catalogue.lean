import KeywordSearch.Backend
import KeywordSearch.Proofs.Index.Walk
import KeywordSearch.Proofs.Token
import Mathlib.Data.Finset.Card
import Mathlib.Data.List.Infix

/-!
# What a query should find among stored entries

The stored entries alone say what a search has to answer.  They spell the
nonempty initial parts of their tokens.  A term that they spell matches the
entries with a token that it begins; any other term matches the entries whose
token is the longest spelled initial part of the term, or the empty one,
followed by the wildcard.  An entry weighs as much as the number of terms of the
query that match it, terms that occur twice counted twice.

The answer to a query is the list of active entries of positive weight, by
falling weight and then by rising id (`Answers`); there is one such list
(`Answers.unique`).
-/

set_option autoImplicit false

namespace KeywordSearch

/-- An entry spells the nonempty initial parts of its tokens. -/
abbrev Entry.Spells (entry : Entry) (path : List Char) : Prop := Token.Spelled entry.tokens path

theorem Entry.spells_of_mem {entry : Entry} {token : Token} (member : token ∈ entry.tokens) :
    entry.Spells token :=
  ⟨Token.ne_nil_of_mem_ofKeywords member, token, member, List.prefix_rfl⟩

/-- An entry spells a path that ends in the wildcard only as a whole token. -/
theorem Entry.spells_wildcard {entry : Entry} {stem : List Char} :
    entry.Spells (stem ++ [wildcard]) ↔ stem ++ [wildcard] ∈ entry.tokens := by
  refine ⟨?_, spells_of_mem⟩
  rintro ⟨_, token, member, initial⟩
  exact Token.eq_of_wildcard_prefix member initial ▸ member

namespace Store

variable {store : Store} {query : String}

/-- What is found under an id is one of the stored entries and has that id. -/
theorem exists_find?_iff {id : EntryId} {holds : Entry → Prop} :
    (∃ entry, store.find? id = some entry ∧ holds entry) ↔
      ∃ entry ∈ store.items, entry.id = id ∧ holds entry := by
  constructor
  · rintro ⟨entry, found, held⟩
    exact ⟨entry, Roster.mem_of_find? found, Roster.entryId_of_find? found, held⟩
  · rintro ⟨entry, stored, rfl, held⟩
    exact ⟨entry, Roster.find?_of_mem stored, held⟩

/-- Stored entries spell what one of them spells. -/
def Spells (store : Store) (path : List Char) : Prop := ∃ entry ∈ store.items, entry.Spells path

instance (store : Store) : DecidablePred store.Spells :=
  fun _ => inferInstanceAs (Decidable (∃ _ ∈ _, _))

/-- The paths that stored entries spell. -/
def paths (store : Store) : Finset (List Char) :=
  (store.items.flatMap fun entry => entry.tokens.flatMap List.inits).toFinset.erase []

theorem mem_paths {path : List Char} : path ∈ store.paths ↔ store.Spells path := by
  simp only [paths, Finset.mem_erase, List.mem_toFinset, List.mem_flatMap, List.mem_inits, Spells,
    Entry.Spells, Token.Spelled]
  constructor
  · rintro ⟨nonempty, entry, stored, token, member, initial⟩
    exact ⟨entry, stored, nonempty, token, member, initial⟩
  · rintro ⟨entry, stored, nonempty, token, member, initial⟩
    exact ⟨nonempty, entry, stored, token, member, initial⟩

/-! ## Matching and weighing -/

/-- An entry is what a term falls back to when the longest spelled initial part of the
term, or the empty one, followed by the wildcard is a token of the entry. -/
def FallsBack (store : Store) (term : Token) (entry : Entry) : Prop :=
  ∃ reached, Farthest store.Spells term reached ∧ reached ++ [wildcard] ∈ entry.tokens

/-- A term matches the entries with a token that it begins or, if no stored entry has
one, the entries that it falls back to. -/
def Matches (store : Store) (term : Token) (entry : Entry) : Prop :=
  if store.Spells term then entry.Spells term else store.FallsBack term entry

theorem farthest_iff {Known : List Char → Prop} {path reached : List Char} :
    Farthest Known path reached ↔
      reached ∈ path.inits ∧ (reached = [] ∨ Known reached) ∧
        ∀ other ∈ path.inits, Known other → other.length ≤ reached.length := by
  simp only [List.mem_inits]
  exact ⟨fun ⟨initial, known, longest⟩ => ⟨initial, known, longest⟩,
    fun ⟨initial, known, longest⟩ => ⟨initial, known, longest⟩⟩

instance (store : Store) (term : Token) (entry : Entry) : Decidable (store.FallsBack term entry) :=
  decidable_of_iff (∃ reached ∈ term.inits, ((reached = [] ∨ store.Spells reached) ∧
      ∀ other ∈ term.inits, store.Spells other → other.length ≤ reached.length) ∧
        reached ++ [wildcard] ∈ entry.tokens) <| by
    simp only [FallsBack, farthest_iff, and_assoc]

instance (store : Store) (term : Token) (entry : Entry) : Decidable (store.Matches term entry) :=
  inferInstanceAs
    (Decidable (if store.Spells term then entry.Spells term else store.FallsBack term entry))

/-- The number of occurrences of terms of a query that match an entry. -/
def weight (store : Store) (query : String) (entry : Entry) : Nat :=
  (Token.ofQuery query.toList).countP fun term => store.Matches term entry

/-- Heavier entries come first, and of two equally heavy ones that with the lower id. -/
def Precedes (store : Store) (query : String) (a b : Entry) : Prop :=
  store.weight query b < store.weight query a ∨
    store.weight query a = store.weight query b ∧ a.id < b.id

theorem not_precedes_self (a : Entry) : ¬store.Precedes query a a := by
  rintro (less | ⟨_, less⟩)
  · exact Nat.lt_irrefl _ less
  · exact EntryId.lt_irrefl _ less

theorem Precedes.asymm {a b : Entry} (before : store.Precedes query a b) :
    ¬store.Precedes query b a := by
  rintro (less | ⟨level, lower⟩)
  · rcases before with less' | ⟨level', _⟩ <;> omega
  · rcases before with less' | ⟨_, lower'⟩
    · omega
    · exact EntryId.not_lt_of_lt lower lower'

/-! ## Answers -/

/-- The answer to a query: the active stored entries of positive weight, each of them
before those that it precedes. -/
structure Answers (store : Store) (query : String) (found : List Entry) : Prop where
  mem_iff : ∀ entry,
    entry ∈ found ↔ entry ∈ store.items ∧ entry.active = true ∧ 0 < store.weight query entry
  ranked : found.Pairwise (store.Precedes query)

/-- No entry is answered twice. -/
theorem Answers.nodup {found : List Entry} (answers : store.Answers query found) : found.Nodup :=
  answers.ranked.imp fun {a b} before (same : a = b) => not_precedes_self b (same ▸ before)

/-- **A query has one answer.** -/
theorem Answers.unique {left right : List Entry} (answersLeft : store.Answers query left)
    (answersRight : store.Answers query right) : left = right := by
  have same : left.Perm right :=
    (List.perm_ext_iff_of_nodup answersLeft.nodup answersRight.nodup).2 fun entry =>
      (answersLeft.mem_iff entry).trans (answersRight.mem_iff entry).symm
  exact same.eq_of_pairwise (fun _ _ _ _ before after => absurd after before.asymm)
    answersLeft.ranked answersRight.ranked

end Store

end KeywordSearch
