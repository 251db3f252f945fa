import KeywordSearch.Roster

/-!
# Ranking

Each term of a query finds a set of ids, and an id weighs as much as the number
of sets that hold it.  Candidates are ranked by falling weight, and by rising
id where the weights are equal, which leaves no two candidates level.
-/

set_option autoImplicit false

namespace KeywordSearch

/-- An id and the number of terms that found it. -/
structure Candidate where
  id : EntryId
  weight : Nat
  deriving DecidableEq, Repr

instance : Identified Candidate := ⟨Candidate.id⟩

/-- Heavier candidates come first, and of two equally heavy ones the lower id. -/
def Candidate.Outranks (a b : Candidate) : Prop :=
  b.weight < a.weight ∨ (a.weight = b.weight ∧ a.id < b.id)

instance (a b : Candidate) : Decidable (a.Outranks b) :=
  inferInstanceAs (Decidable (_ ∨ _))

namespace Ranking

/-- The candidates counted so far. -/
abbrev Tally := Roster Candidate

/-- How often an id has been counted. -/
def weight (tally : Tally) (id : EntryId) : Nat :=
  match tally.find? id with
  | some candidate => candidate.weight
  | none => 0

/-- Counts an id once more. -/
def credit (tally : Tally) (id : EntryId) : Tally :=
  tally.insert ⟨id, weight tally id + 1⟩

/-- Counts, for every id, the sets that hold it. -/
def count (hits : List IdSet) : Tally :=
  hits.foldl (fun tally found => found.items.foldl credit tally) Roster.empty

/-- Puts a candidate before the first one that it outranks. -/
def insertRanked (candidate : Candidate) : List Candidate → List Candidate
  | [] => [candidate]
  | head :: rest =>
    if candidate.Outranks head then candidate :: head :: rest
    else head :: insertRanked candidate rest

/-- Sorts candidates by rank. -/
def sort : List Candidate → List Candidate
  | [] => []
  | candidate :: rest => insertRanked candidate (sort rest)

end Ranking

/-- The candidates that a list of id sets yields, best first. -/
def rank (hits : List IdSet) : List Candidate := Ranking.sort (Ranking.count hits).items

end KeywordSearch
