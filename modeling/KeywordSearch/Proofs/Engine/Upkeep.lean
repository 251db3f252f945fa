import KeywordSearch.Proofs.Index.DeadBranches
import KeywordSearch.Proofs.Index.Mirror

/-!
# Upkeep of the index

Entries are indexed, unindexed as they were indexed, and now and then the index
is sanitized.  When each of this is done is a list of upkeep, and an orderly list
indexes no id that is indexed already and takes nothing out of the index but as it
went in (`Upkeep.Orderly`).  The index after orderly upkeep agrees with the
entries that are indexed at the end.

Sanitizing is not without consequence for searches: an entry that has been
unindexed leaves dead branches, and a token that leads into one finds nothing
until they have been pruned (`search_changes_when_sanitized`).  Apart from that
it makes no difference where an index is sanitized, and an entry that has been
unindexed might as well never have been indexed
(`differsByDeadBranches_upkeep`).
-/

set_option autoImplicit false

namespace KeywordSearch

/-- A piece of upkeep of the index. -/
inductive Upkeep where
  | index (entry : Entry)
  | unindex (entry : Entry)
  | sanitize
  deriving DecidableEq

namespace Upkeep

variable {id : EntryId}

/-- The id of the entry that goes in or out. -/
def target : Upkeep → Option EntryId
  | index entry | unindex entry => some entry.id
  | sanitize => none

/-- The upkeep without sanitizing. -/
def unswept (works : List Upkeep) : List Upkeep := works.filter (· ≠ sanitize)

/-- The upkeep without all that is done about the entry of an id. -/
def sparing (id : EntryId) (works : List Upkeep) : List Upkeep :=
  works.filter (·.target ≠ some id)

/-! ## Entries that are indexed -/

/-- The entries that are indexed afterwards. -/
def track (indexed : Store) : Upkeep → Store
  | index entry => indexed.insert entry
  | unindex entry => indexed.erase entry.id
  | sanitize => indexed

/-- An entry goes in when its id is not in, and comes out as it went in, if it did. -/
def Fits (indexed : Store) : Upkeep → Prop
  | index entry => indexed.find? entry.id = none
  | unindex entry => indexed.find? entry.id = none ∨ indexed.find? entry.id = some entry
  | sanitize => True

instance (indexed : Store) : DecidablePred (Fits indexed)
  | index _ => inferInstanceAs (Decidable (_ = _))
  | unindex _ => inferInstanceAs (Decidable (_ ∨ _))
  | sanitize => inferInstanceAs (Decidable True)

/-- Each piece of upkeep fits the entries that are indexed when it is done. -/
def Orderly : Store → List Upkeep → Prop
  | _, [] => True
  | indexed, work :: rest => work.Fits indexed ∧ Orderly (work.track indexed) rest

instance decidableOrderly : (indexed : Store) → (works : List Upkeep) →
    Decidable (Orderly indexed works)
  | _, [] => inferInstanceAs (Decidable True)
  | indexed, work :: rest =>
    have := decidableOrderly (work.track indexed) rest
    inferInstanceAs (Decidable (work.Fits indexed ∧ Orderly (work.track indexed) rest))

/-- Upkeep about other ids does not change whether an id is indexed. -/
theorem find?_track {indexed : Store} {work : Upkeep} (other : work.target ≠ some id) :
    (work.track indexed).find? id = indexed.find? id := by
  cases work with
  | index entry =>
    have different : entryId entry ≠ id := fun same => other (congrArg some same)
    rw [track, Roster.find?_insert, if_neg different]
  | unindex entry =>
    have different : id ≠ entry.id := fun same => other (congrArg some same.symm)
    rw [track, Roster.find?_erase, if_neg different]
  | sanitize => rfl

theorem find?_foldl_track {indexed : Store} {works : List Upkeep}
    (others : ∀ work ∈ works, work.target ≠ some id) :
    (works.foldl track indexed).find? id = indexed.find? id := by
  induction works generalizing indexed with
  | nil => rfl
  | cons work rest ih =>
    have first : work.target ≠ some id := others work List.mem_cons_self
    rw [List.foldl_cons, ih fun other member => others other (List.mem_cons_of_mem _ member),
      find?_track first]

end Upkeep

namespace Engine

open Index (Overgrows)

variable {engine left right : Engine} {extra : EntryId → Prop} {id : EntryId}

/-- The engine after a piece of upkeep. -/
def keepUp (engine : Engine) : Upkeep → Engine
  | .index entry => engine.indexEntry entry
  | .unindex entry => engine.unindexEntry entry
  | .sanitize => engine.sanitize

/-- The engine after several pieces of upkeep. -/
def keepUpAll (engine : Engine) (works : List Upkeep) : Engine := works.foldl keepUp engine

/-! ## The index after orderly upkeep -/

theorem agrees_keepUp {indexed : Store} {work : Upkeep} (agrees : engine.index.Agrees indexed)
    (fits : work.Fits indexed) : (engine.keepUp work).index.Agrees (work.track indexed) := by
  cases work with
  | index entry => exact agrees.insertAll fits
  | unindex entry =>
    rcases fits with absent | found
    · -- Nothing is held under the id, so there is nothing to be taken out.
      intro path held
      show (engine.index.removeAll entry.tokens entry.id).Holds path held ↔ _
      rw [Index.holds_removeAll, agrees, Upkeep.track, Roster.find?_erase]
      by_cases same : held = entry.id
      · subst same
        simp [absent]
      · simp [same]
    · exact agrees.removeAll found
  | sanitize => exact Index.agrees_prune_iff.2 agrees

/-- **After orderly upkeep the index agrees with the entries that are indexed.** -/
theorem agrees_keepUpAll {indexed : Store} {works : List Upkeep}
    (agrees : engine.index.Agrees indexed) (orderly : Upkeep.Orderly indexed works) :
    (engine.keepUpAll works).index.Agrees (works.foldl Upkeep.track indexed) := by
  induction works generalizing engine indexed with
  | nil => exact agrees
  | cons work rest ih =>
    obtain ⟨fits, orderlyRest⟩ := orderly
    exact ih (agrees_keepUp agrees fits) orderlyRest

/-- An id that is not indexed at the end is held nowhere. -/
theorem not_holds_keepUpAll {indexed : Store} {works : List Upkeep}
    (agrees : engine.index.Agrees indexed) (orderly : Upkeep.Orderly indexed works)
    (out : (works.foldl Upkeep.track indexed).find? id = none) (path : List Char) :
    ¬(engine.keepUpAll works).index.Holds path id := by
  intro holds
  obtain ⟨entry, found, _⟩ := (agrees_keepUpAll agrees orderly path id).1 holds
  rw [out] at found
  cases found

/-! ## Upkeep left out -/

/-- The same upkeep of two indexes leaves one grown over the other. -/
theorem overgrows_keepUp (grown : Overgrows extra left.index right.index) {work : Upkeep}
    (common : ∀ id, work.target = some id → ¬extra id) :
    Overgrows extra (left.keepUp work).index (right.keepUp work).index := by
  cases work with
  | index entry => exact grown.insertAll (common entry.id rfl)
  | unindex entry => exact grown.removeAll
  | sanitize => exact grown.prune

/-- Upkeep about an extra id leaves the index grown. -/
theorem overgrows_keepUp_extra (grown : Overgrows extra left.index right.index) {work : Upkeep}
    (about : work.target = some id) (isExtra : extra id) :
    Overgrows extra (left.keepUp work).index right.index := by
  cases work with
  | index entry =>
    cases about
    exact grown.insertAll_extra isExtra
  | unindex entry =>
    cases about
    exact grown.removeAll_extra isExtra
  | sanitize => cases about

theorem overgrows_unswept (grown : Overgrows (fun _ => False) left.index right.index)
    (works : List Upkeep) :
    Overgrows (fun _ => False) (left.keepUpAll (Upkeep.unswept works)).index
      (right.keepUpAll works).index := by
  induction works generalizing left right with
  | nil => exact grown
  | cons work rest ih =>
    by_cases sweeps : work = .sanitize
    · subst sweeps
      have skipped : Upkeep.unswept (.sanitize :: rest) = Upkeep.unswept rest :=
        List.filter_cons_of_neg (by simp)
      rw [skipped]
      exact ih grown.prune_clean
    · have kept : Upkeep.unswept (work :: rest) = work :: Upkeep.unswept rest :=
        List.filter_cons_of_pos (by simpa using sweeps)
      rw [kept]
      exact ih (overgrows_keepUp grown fun _ _ => not_false)

theorem overgrows_sparing (grown : Overgrows (· = id) left.index right.index)
    (works : List Upkeep) :
    Overgrows (· = id) (left.keepUpAll works).index
      (right.keepUpAll (Upkeep.sparing id works)).index := by
  induction works generalizing left right with
  | nil => exact grown
  | cons work rest ih =>
    by_cases about : work.target = some id
    · have spared : Upkeep.sparing id (work :: rest) = Upkeep.sparing id rest :=
        List.filter_cons_of_neg (by simpa using about)
      rw [spared]
      exact ih (overgrows_keepUp_extra grown about rfl)
    · have kept : Upkeep.sparing id (work :: rest) = work :: Upkeep.sparing id rest :=
        List.filter_cons_of_pos (by simpa using about)
      rw [kept]
      refine ih (overgrows_keepUp grown ?_)
      rintro other targets rfl
      exact about targets

end Engine

/-- **Sanitizing takes away dead branches, and so does never having indexed an entry.**  An
index differs by dead branches from the one that was sanitized in between; and after
orderly upkeep in which an entry was unindexed for good it differs by dead branches from
the one that the entry was never in. -/
theorem differsByDeadBranches_upkeep (config : Config) (works : List Upkeep) :
    ((Engine.ofConfig config).keepUpAll (Upkeep.unswept works)).index.DiffersByDeadBranches
      ((Engine.ofConfig config).keepUpAll works).index ∧
    (Upkeep.Orderly Roster.empty works → ∀ earlier entry later,
      works = earlier ++ .unindex entry :: later →
      (∀ work ∈ later, work.target ≠ some entry.id) →
      ((Engine.ofConfig config).keepUpAll works).index.DiffersByDeadBranches
        ((Engine.ofConfig config).keepUpAll (Upkeep.sparing entry.id works)).index) := by
  constructor
  · refine (Engine.overgrows_unswept ?_ works).differsByDeadBranches
    exact .refl_empty _
  · intro orderly earlier entry later split others
    have grown : Index.Overgrows (· = entry.id)
        ((Engine.ofConfig config).keepUpAll works).index
        ((Engine.ofConfig config).keepUpAll (Upkeep.sparing entry.id works)).index :=
      Engine.overgrows_sparing (.refl_empty _) works
    have out : (works.foldl Upkeep.track Roster.empty).find? entry.id = none := by
      rw [split, List.foldl_append, List.foldl_cons, Upkeep.find?_foldl_track others]
      exact Roster.find?_erase_self _ _
    refine (grown.of_removed ?_).differsByDeadBranches
    rintro path id rfl
    exact Engine.not_holds_keepUpAll Index.mirrors_empty.agrees orderly out path

/-- An entry with a wildcard keyword. -/
def netEntry : Entry := { id := ⟨1⟩, question := "Any network", keywords := ["net*"] }

/-- An entry with a keyword that goes on where the wildcard stands. -/
def networkEntry : Entry := { id := ⟨2⟩, question := "Network down", keywords := ["network"] }

/-- An entry with a keyword that begins as the other two do. -/
def newsEntry : Entry := { id := ⟨3⟩, question := "News", keywords := ["news"] }

/-- Of three entries that are indexed, one is unindexed again. -/
def sampleUpkeep : List Upkeep :=
  [.index netEntry, .index networkEntry, .unindex networkEntry, .index newsEntry]

theorem differsByDeadBranches_upkeep_sample :
    Upkeep.Orderly Roster.empty sampleUpkeep ∧
    ((Engine.ofConfig {}).keepUpAll sampleUpkeep).index.DiffersByDeadBranches
      ((Engine.ofConfig {}).keepUpAll [.index netEntry, .index newsEntry]).index := by
  have orderly : Upkeep.Orderly Roster.empty sampleUpkeep := by decide +kernel
  refine ⟨orderly, (differsByDeadBranches_upkeep {} sampleUpkeep).2 orderly
    [.index netEntry, .index networkEntry] networkEntry [.index newsEntry] rfl ?_⟩
  intro work member
  cases List.mem_singleton.1 member
  decide

/-- The beginning of the keyword that has gone leads into a dead branch and finds nothing,
where the wildcard answers once the index is sanitized, and where it answers if the
entry never was indexed.  So it can be told when an index is sanitized. -/
theorem search_changes_when_sanitized :
    (((Engine.ofConfig {}).keepUpAll sampleUpkeep).index.search "netw".toList = Roster.empty ∧
      ((Engine.ofConfig {}).keepUpAll (sampleUpkeep ++ [.sanitize])).index.search "netw".toList =
        Roster.ofList [⟨1⟩] ∧
      ((Engine.ofConfig {}).keepUpAll (Upkeep.sparing ⟨2⟩ sampleUpkeep)).index.search
        "netw".toList = Roster.ofList [⟨1⟩]) ∧
    ¬∀ works, Upkeep.Orderly Roster.empty works → ∀ token,
      ((Engine.ofConfig {}).keepUpAll (Upkeep.unswept works)).index.search token =
        ((Engine.ofConfig {}).keepUpAll works).index.search token := by
  refine ⟨by decide +kernel, fun always => ?_⟩
  have same := always (sampleUpkeep ++ [.sanitize]) (by decide +kernel) "netw".toList
  exact absurd same (by decide +kernel)

end KeywordSearch
