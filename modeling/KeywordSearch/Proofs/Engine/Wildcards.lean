import KeywordSearch.Proofs.Engine.Upkeep
import KeywordSearch.Proofs.Shape

/-!
# Wildcards in an index

Entries are indexed under their tokens, and a token is letters with at most one wildcard, at
its end.  So whatever upkeep an index has seen, its paths are well-formed
(`Engine.wellFormed_keepUpAll`): unindexing leaves them, and pruning only takes some away.
None of this touches the ids of the root (`Engine.root_ids_keepUpAll`).

In an index with well-formed paths nothing goes on from a wildcard.  A search that leads
through one beyond a path therefore finds nothing (`Index.search_past_wildcard`), and one
that leads to it finds what is held there and nothing else, whether or not the index has that
path (`Index.contains_search_wildcard`).  What is held at a wildcard is what was indexed, and
not unindexed since, under the very token that ends there (`Engine.holds_wildcard_keepUpAll`),
because no other token has this token as its beginning.  At any other path this would be
wrong: unindexing one token of an entry takes the entry's id away from the beginnings that it
shares with another.
-/

set_option autoImplicit false

namespace KeywordSearch

/-- The beginnings of a well-formed token are well-formed. -/
theorem Token.WellFormed.of_append {path rest : List Char}
    (wellFormed : WellFormed (path ++ rest)) : WellFormed path := by
  by_cases nothing : rest = []
  · rwa [nothing, List.append_nil] at wellFormed
  · refine wellFormed_of_letters ?_
    intro c member
    have front : (path ++ rest).dropLast = path ++ rest.dropLast :=
      List.dropLast_append_of_ne_nil nothing
    exact wellFormed.letters c (front ▸ List.mem_append_left _ member)

theorem Entry.wellFormed_of_spells {entry : Entry} {path : List Char}
    (spells : entry.Spells path) : Token.WellFormed path := by
  obtain ⟨_, token, member, rest, rfl⟩ := spells
  exact (Token.wellFormed_of_mem_ofKeywords member).of_append

namespace Index

variable {index : Index} {entry : Entry} {stem more : List Char} {id : EntryId}

/-! ## Well-formed paths -/

/-- All paths look as tokens do. -/
def WellFormed (index : Index) : Prop := ∀ path, index.HasPath path → Token.WellFormed path

theorem wellFormed_empty : empty.WellFormed :=
  fun path has => absurd has (not_hasPath_empty path)

theorem WellFormed.insertAll (wellFormed : index.WellFormed) (entry : Entry) :
    (index.insertAll entry.tokens entry.id).WellFormed := by
  intro path has
  rcases hasPath_insertAll.1 has with before | spelled
  · exact wellFormed path before
  · exact Entry.wellFormed_of_spells spelled

theorem WellFormed.removeAll (wellFormed : index.WellFormed) (entry : Entry) :
    (index.removeAll entry.tokens entry.id).WellFormed := by
  intro path has
  exact wellFormed path (hasPath_removeAll.1 has)

theorem WellFormed.prune (wellFormed : index.WellFormed) : index.prune.WellFormed := by
  intro path has
  obtain ⟨nonempty, more, id, holds⟩ := hasPath_prune.1 has
  exact wellFormed path (holds.hasPath.of_append nonempty)

/-- Nothing goes on from a wildcard. -/
theorem WellFormed.eq_nil_of_hasPath (wellFormed : index.WellFormed)
    (has : index.HasPath (stem ++ wildcard :: more)) : more = [] :=
  (wellFormed _ has).at_end stem more rfl

/-! ## Searching at a wildcard -/

/-- A walk that passes the end of a path passes it as far as there are paths. -/
theorem exists_append_of_farthest {path rest reached : List Char}
    (here : path = [] ∨ index.HasPath path)
    (farthest : Farthest index.HasPath (path ++ rest) reached) :
    ∃ further, reached = path ++ further ∧ further <+: rest := by
  have le : path.length ≤ reached.length := by
    rcases here with rfl | has
    · exact Nat.zero_le _
    · exact farthest.longest path (List.prefix_append path rest) has
  obtain ⟨further, rfl⟩ :=
    List.prefix_of_prefix_length_le (List.prefix_append path rest) farthest.initial le
  exact ⟨further, rfl, (List.prefix_append_right_inj path).1 farthest.initial⟩

/-- A search that leads to a wildcard from a path or the root finds what is held there. -/
theorem contains_search_wildcard (here : stem = [] ∨ index.HasPath stem) :
    (index.search (stem ++ [wildcard])).contains id = true ↔
      index.Holds (stem ++ [wildcard]) id := by
  by_cases has : index.HasPath (stem ++ [wildcard])
  · exact contains_search_of_hasPath has
  · rw [contains_search_of_not_hasPath (by simp) has]
    constructor
    · -- The walk ends where the wildcard would have to go out, and there is none.
      rintro ⟨reached, farthest, holds⟩
      obtain ⟨further, rfl, initial⟩ := exists_append_of_farthest here farthest
      cases further with
      | nil => rwa [List.append_nil] at holds
      | cons c further =>
        obtain ⟨rfl, ends⟩ := List.cons_prefix_cons.1 initial
        obtain rfl := List.prefix_nil.1 ends
        exact absurd (holds.hasPath.of_append (by simp)) has
    · intro holds
      exact absurd holds.hasPath has

/-- A search that leads on from a wildcard finds nothing. -/
theorem search_past_wildcard (wellFormed : index.WellFormed)
    (here : stem = [] ∨ index.HasPath stem) (beyond : more ≠ []) :
    index.search (stem ++ wildcard :: more) = Roster.empty := by
  have missing : ¬index.HasPath (stem ++ wildcard :: more) :=
    fun has => beyond (wellFormed.eq_nil_of_hasPath has)
  refine Roster.ext_contains fun id => iff_of_false ?_ Bool.false_ne_true
  rw [contains_search_of_not_hasPath (by simp) missing]
  rintro ⟨reached, farthest, holds⟩
  obtain ⟨further, rfl, initial⟩ := exists_append_of_farthest here farthest
  cases further with
  | nil =>
    -- The wildcard goes out from the stem, so the walk would not have ended there.
    rw [List.append_nil] at farthest holds
    have known : stem ++ [wildcard] <+: stem ++ wildcard :: more := ⟨more, by simp⟩
    have le := farthest.longest (stem ++ [wildcard]) known holds.hasPath
    rw [List.length_append, List.length_singleton] at le
    exact Nat.not_succ_le_self _ le
  | cons c further =>
    -- The walk has passed the wildcard, from where no other one can go out.
    obtain ⟨rfl, -⟩ := List.cons_prefix_cons.1 initial
    have has : index.HasPath (stem ++ wildcard :: (further ++ [wildcard])) := by
      simpa using holds.hasPath
    exact absurd (wellFormed.eq_nil_of_hasPath has) (by simp)

end Index

/-! ## Staying indexed -/

namespace Upkeep

variable {works : List Upkeep} {work : Upkeep} {token : Token} {id : EntryId} {entry : Entry}

/-- An entry of an id was indexed under a token, and none has been unindexed under it since. -/
def StaysIndexed (works : List Upkeep) (token : Token) (id : EntryId) : Prop :=
  ∃ earlier entry later, works = earlier ++ index entry :: later ∧
    (entry.id = id ∧ token ∈ entry.tokens) ∧
    ∀ other, unindex other ∈ later → ¬(other.id = id ∧ token ∈ other.tokens)

theorem not_staysIndexed_nil : ¬StaysIndexed [] token id := by
  rintro ⟨earlier, entry, later, divided, _⟩
  exact absurd divided.symm (by simp)

/-- What stays indexed with one more piece of upkeep is what it indexes, and what stayed
before it if it does not unindex that. -/
theorem staysIndexed_append : StaysIndexed (works ++ [work]) token id ↔
    (∃ entry, work = index entry ∧ entry.id = id ∧ token ∈ entry.tokens) ∨
      StaysIndexed works token id ∧
        ∀ other, work = unindex other → ¬(other.id = id ∧ token ∈ other.tokens) := by
  constructor
  · rintro ⟨earlier, entry, later, divided, about, kept⟩
    rcases List.eq_nil_or_concat' later with rfl | ⟨rest, last, rfl⟩
    · obtain ⟨-, rfl⟩ := List.append_singleton_inj.1 divided
      exact .inl ⟨entry, rfl, about⟩
    · rw [← List.cons_append, ← List.append_assoc] at divided
      obtain ⟨rfl, rfl⟩ := List.append_singleton_inj.1 divided
      refine .inr ⟨⟨earlier, entry, rest, rfl, about, ?_⟩, ?_⟩
      · intro other member
        exact kept other (List.mem_append_left _ member)
      · rintro other rfl
        exact kept other (by simp)
  · rintro (⟨entry, rfl, about⟩ | ⟨⟨earlier, entry, later, rfl, about, kept⟩, spared⟩)
    · exact ⟨works, entry, [], rfl, about, by simp⟩
    · refine ⟨earlier, entry, later ++ [work], by simp, about, ?_⟩
      intro other member
      rcases List.mem_append.1 member with inLater | isLast
      · exact kept other inLater
      · exact spared other (List.mem_singleton.1 isLast).symm

end Upkeep

namespace Engine

variable {engine : Engine} {works : List Upkeep} {stem : List Char} {id : EntryId}

theorem keepUpAll_append (engine : Engine) (works more : List Upkeep) :
    engine.keepUpAll (works ++ more) = (engine.keepUpAll works).keepUpAll more :=
  List.foldl_append

/-! ## What upkeep keeps -/

theorem wellFormed_keepUp (wellFormed : engine.index.WellFormed) (work : Upkeep) :
    (engine.keepUp work).index.WellFormed := by
  cases work with
  | index entry => exact wellFormed.insertAll entry
  | unindex entry => exact wellFormed.removeAll entry
  | sanitize => exact wellFormed.prune

/-- **Upkeep keeps the paths of an index well-formed.** -/
theorem wellFormed_keepUpAll (wellFormed : engine.index.WellFormed) (works : List Upkeep) :
    (engine.keepUpAll works).index.WellFormed := by
  induction works generalizing engine with
  | nil => exact wellFormed
  | cons work works ih => exact ih (wellFormed_keepUp wellFormed work)

theorem root_ids_keepUp (engine : Engine) (work : Upkeep) :
    (engine.keepUp work).index.root.ids = engine.index.root.ids := by
  cases work with
  | index entry => exact Index.root_ids_insertAll _ entry.tokens entry.id
  | unindex entry => exact Index.root_ids_removeAll _ entry.tokens entry.id
  | sanitize => rfl

/-- **Upkeep neither gives the root an id nor takes one from it.** -/
theorem root_ids_keepUpAll (engine : Engine) (works : List Upkeep) :
    (engine.keepUpAll works).index.root.ids = engine.index.root.ids := by
  induction works generalizing engine with
  | nil => rfl
  | cons work works ih => exact (ih (engine.keepUp work)).trans (root_ids_keepUp engine work)

/-- Upkeep holds at a wildcard what it indexes under the token that ends there, and what was
held there if it does not unindex that. -/
theorem holds_wildcard_keepUp (engine : Engine) (work : Upkeep) :
    (engine.keepUp work).index.Holds (stem ++ [wildcard]) id ↔
      (∃ entry, work = .index entry ∧ entry.id = id ∧ stem ++ [wildcard] ∈ entry.tokens) ∨
        engine.index.Holds (stem ++ [wildcard]) id ∧
          ∀ other, work = .unindex other →
            ¬(other.id = id ∧ stem ++ [wildcard] ∈ other.tokens) := by
  cases work with
  | index entry =>
    have inserted : (engine.keepUp (.index entry)).index.Holds (stem ++ [wildcard]) id ↔
        engine.index.Holds (stem ++ [wildcard]) id ∨
          id = entry.id ∧ entry.Spells (stem ++ [wildcard]) := Index.holds_insertAll
    rw [inserted, Entry.spells_wildcard, or_comm, eq_comm (a := id)]
    simp
  | unindex entry =>
    have removed : (engine.keepUp (.unindex entry)).index.Holds (stem ++ [wildcard]) id ↔
        engine.index.Holds (stem ++ [wildcard]) id ∧
          ¬(id = entry.id ∧ entry.Spells (stem ++ [wildcard])) := Index.holds_removeAll
    rw [removed, Entry.spells_wildcard, eq_comm (a := id)]
    simp
  | sanitize =>
    have pruned : (engine.keepUp .sanitize).index.Holds (stem ++ [wildcard]) id ↔
        engine.index.Holds (stem ++ [wildcard]) id := Index.holds_prune
    rw [pruned]
    simp

/-- **At a wildcard an index holds what stays indexed under the token that ends there.** -/
theorem holds_wildcard_keepUpAll (nothing : engine.index = Index.empty) :
    (engine.keepUpAll works).index.Holds (stem ++ [wildcard]) id ↔
      Upkeep.StaysIndexed works (stem ++ [wildcard]) id := by
  induction works using List.reverseRec with
  | nil =>
    refine iff_of_false ?_ Upkeep.not_staysIndexed_nil
    intro holds
    rw [keepUpAll, List.foldl_nil, nothing] at holds
    exact Index.not_hasPath_empty _ holds.hasPath
  | append_singleton works last ih =>
    have done : engine.keepUpAll (works ++ [last]) = (engine.keepUpAll works).keepUp last :=
      keepUpAll_append engine works [last]
    rw [done, holds_wildcard_keepUp, Upkeep.staysIndexed_append, ih]

end Engine

end KeywordSearch
