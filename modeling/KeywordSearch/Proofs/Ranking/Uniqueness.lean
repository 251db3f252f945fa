import KeywordSearch.Proofs.Ranking
import Mathlib.Data.List.Forall2
import Mathlib.Data.List.Nodup
import Mathlib.Data.List.Perm.Basic

/-!
# The ranking of id sets

A list ranks some sets of ids when it holds each id of their union once, with the number of
sets that hold it, and each of its candidates outranks the next one (`Ranks`).  That is all
that there is to say about a ranking: sets of ids have just one (`Ranks.eq_rank`).

So nothing that is left open on the way can show in it.  Credits commute
(`Ranking.credit_comm`), because a tally is determined by the candidate that it has for each
id; hence the order in which a set is gone through makes no difference to the tally.  And the
counted candidates have different ids, of which no two are level; hence the order in which
they come out of the tally makes no difference to the sorted list, nor does the way in which
they are sorted.
-/

set_option autoImplicit false

namespace KeywordSearch

variable {hits : List IdSet} {ranked sorted : List Candidate}

instance : Trans Candidate.Outranks Candidate.Outranks Candidate.Outranks :=
  ⟨Candidate.Outranks.trans⟩

/-- The list ranks the ids of some sets. -/
structure Ranks (hits : List IdSet) (ranked : List Candidate) : Prop where
  /-- No id is ranked twice. -/
  once : (ranked.map Candidate.id).Nodup
  /-- The ids that are ranked are those in the union of the sets. -/
  mem_iff : ∀ id, id ∈ ranked.map Candidate.id ↔ ∃ found ∈ hits, found.contains id = true
  /-- An id weighs as much as there are sets that hold it. -/
  weighed : ∀ candidate ∈ ranked, candidate.weight = hits.countP (·.contains candidate.id)
  /-- Each candidate outranks the next one. -/
  descending : ranked.IsChain Candidate.Outranks

/-! ## One ranking -/

/-- A candidate is ranked when it has the weight that its id has, if that is not nothing. -/
theorem Ranks.mem_iff_weight (ranks : Ranks hits ranked) {candidate : Candidate} :
    candidate ∈ ranked ↔
      0 < candidate.weight ∧ candidate.weight = hits.countP (·.contains candidate.id) := by
  constructor
  · intro member
    have weighed := ranks.weighed candidate member
    have held := (ranks.mem_iff candidate.id).1 (List.mem_map_of_mem member)
    rw [weighed]
    exact ⟨List.countP_pos_iff.2 held, rfl⟩
  · rintro ⟨positive, weighed⟩
    rw [weighed] at positive
    have held : candidate.id ∈ ranked.map Candidate.id :=
      (ranks.mem_iff candidate.id).2 (List.countP_pos_iff.1 positive)
    obtain ⟨other, member, sameId⟩ := List.mem_map.1 held
    have sameWeight : other.weight = candidate.weight := by
      rw [ranks.weighed other member, sameId, weighed]
    have same : other = candidate := by
      cases other
      cases candidate
      simp_all
    exact same ▸ member

/-- The ids of a ranking are different. -/
theorem nodup_map_id_rank (hits : List IdSet) : ((rank hits).map Candidate.id).Nodup := by
  refine (nodup_rank hits).map_on ?_
  rintro ⟨id, weight⟩ member ⟨other, level⟩ member' rfl
  have left := (mem_rank.1 member).2
  have right := (mem_rank.1 member').2
  exact congrArg (Candidate.mk id) (left.trans right.symm)

theorem ranks_rank (hits : List IdSet) : Ranks hits (rank hits) where
  once := nodup_map_id_rank hits
  mem_iff := by
    intro id
    rw [← List.countP_pos_iff, List.mem_map]
    constructor
    · rintro ⟨candidate, member, rfl⟩
      obtain ⟨positive, weighed⟩ := mem_rank.1 member
      exact weighed ▸ positive
    · intro positive
      exact ⟨⟨id, hits.countP (·.contains id)⟩, mem_rank.2 ⟨positive, rfl⟩, rfl⟩
  weighed := by
    intro candidate member
    exact (mem_rank.1 member).2
  descending := (pairwise_rank hits).isChain

/-- Candidates with different ids that are sorted by rank, in whatever way, are in one order. -/
theorem eq_rank_of_sorted (members : sorted.Perm (rank hits))
    (ordered : sorted.Pairwise fun a b => ¬b.Outranks a) : sorted = rank hits := by
  have ranked : (rank hits).Pairwise fun a b => ¬b.Outranks a :=
    (pairwise_rank hits).imp Candidate.Outranks.asymm
  refine members.eq_of_pairwise ?_ ordered ranked
  intro a b inSorted inRank notBefore notBehind
  have sameId : a.id = b.id := by
    refine Classical.byContradiction fun different => ?_
    exact notBefore (.of_not notBehind different)
  exact List.inj_on_of_nodup_map (nodup_map_id_rank hits) (members.subset inSorted) inRank sameId

/-- **Sets of ids have one ranking.** -/
theorem Ranks.eq_rank (ranks : Ranks hits ranked) : ranked = rank hits := by
  have distinct : ranked.Nodup := ranks.once.of_map
  have members : ranked.Perm (rank hits) := by
    refine (List.perm_ext_iff_of_nodup distinct (nodup_rank hits)).2 ?_
    intro candidate
    rw [ranks.mem_iff_weight, mem_rank]
  exact eq_rank_of_sorted members (ranks.descending.pairwise.imp Candidate.Outranks.asymm)

/-! ## Counting in any order -/

namespace Ranking

variable {orders : List (List EntryId)}

/-- Counts ids list by list. -/
def countIn (orders : List (List EntryId)) : Tally :=
  orders.foldl (fun tally order => order.foldl credit tally) Roster.empty

theorem find?_credit (tally : Tally) (credited id : EntryId) :
    (credit tally credited).find? id =
      if credited = id then some ⟨credited, weight tally credited + 1⟩ else tally.find? id :=
  Roster.find?_insert tally ⟨credited, weight tally credited + 1⟩ id

/-- It does not matter which of two ids is counted first. -/
theorem credit_comm (tally : Tally) (first second : EntryId) :
    credit (credit tally first) second = credit (credit tally second) first := by
  by_cases same : first = second
  · rw [same]
  refine Roster.ext fun id => ?_
  simp only [find?_credit, weight_credit, if_neg same, if_neg (Ne.symm same), Nat.add_zero]
  by_cases isFirst : first = id
  · have notSecond : second ≠ id := fun isSecond => same (isFirst.trans isSecond.symm)
    rw [if_neg notSecond, if_pos isFirst, if_pos isFirst]
  · rw [if_neg isFirst, if_neg isFirst]

/-- **Sets are counted alike in whatever order each of them is gone through.** -/
theorem countIn_eq_count
    (each : List.Forall₂ (fun order (found : IdSet) => order.Perm found.items) orders hits) :
    countIn orders = count hits := by
  have whole : orders.flatten.Perm (hits.map Roster.items).flatten :=
    .flatten_congr (List.forall₂_map_right_iff.2 each)
  calc countIn orders
      = orders.flatten.foldl credit Roster.empty := List.foldl_flatten.symm
    _ = (hits.map Roster.items).flatten.foldl credit Roster.empty :=
        whole.foldl_eq' (fun first _ second _ tally => credit_comm tally first second) _
    _ = count hits := by rw [List.foldl_flatten, List.foldl_map, count]

end Ranking

/-- **A ranking is exact and blind to every order.**  It is the one list that ranks the ids of
the sets; it is the same in whatever order the sets come, in whatever order each of them is
gone through, in whatever order the counted candidates are taken from the tally, and in
whatever way they are sorted. -/
theorem ranks_iff_eq_rank (hits : List IdSet) :
    (∀ ranked, Ranks hits ranked ↔ ranked = rank hits) ∧
    (∀ permuted, permuted.Perm hits → rank permuted = rank hits) ∧
    ∀ orders, List.Forall₂ (fun order (found : IdSet) => order.Perm found.items) orders hits →
      ∀ counted, counted.Perm (Ranking.countIn orders).items →
        Ranking.sort counted = rank hits ∧
        ∀ sorted, sorted.Perm counted → (sorted.Pairwise fun a b => ¬b.Outranks a) →
          sorted = rank hits := by
  refine ⟨?_, fun _ => rank_perm, ?_⟩
  · intro ranked
    constructor
    · exact Ranks.eq_rank
    · rintro rfl
      exact ranks_rank hits
  · intro orders each counted taken
    rw [Ranking.countIn_eq_count each] at taken
    have members : counted.Perm (rank hits) := taken.trans (Ranking.perm_sort _).symm
    have anySort : ∀ sorted, sorted.Perm counted →
        (sorted.Pairwise fun a b => ¬b.Outranks a) → sorted = rank hits := by
      intro sorted permuted ordered
      exact eq_rank_of_sorted (permuted.trans members) ordered
    refine ⟨anySort _ (Ranking.perm_sort counted) ?_, anySort⟩
    have distinct : counted.Pairwise fun a b => a.id ≠ b.id :=
      List.pairwise_map.1 ((members.map Candidate.id).nodup_iff.2 (nodup_map_id_rank hits))
    exact (Ranking.pairwise_sort distinct).imp Candidate.Outranks.asymm

/-- Two equal sets and one that has nothing in common with them. -/
def sampleHits : List IdSet := [.ofList [⟨9⟩, ⟨4⟩], .ofList [⟨4⟩, ⟨9⟩], .ofList [⟨7⟩, ⟨2⟩]]

theorem ranks_iff_eq_rank_sample :
    Ranks sampleHits [⟨⟨4⟩, 2⟩, ⟨⟨9⟩, 2⟩, ⟨⟨2⟩, 1⟩, ⟨⟨7⟩, 1⟩] ∧
    rank sampleHits.reverse = rank sampleHits ∧
    Ranking.sort [⟨⟨7⟩, 1⟩, ⟨⟨9⟩, 2⟩, ⟨⟨2⟩, 1⟩, ⟨⟨4⟩, 2⟩] = rank sampleHits := by
  obtain ⟨unique, permuted, ordered⟩ := ranks_iff_eq_rank sampleHits
  have each : List.Forall₂ (fun order (found : IdSet) => order.Perm found.items)
      [[⟨9⟩, ⟨4⟩], [⟨4⟩, ⟨9⟩], [⟨7⟩, ⟨2⟩]] sampleHits :=
    .cons (by decide) (.cons (by decide) (.cons (by decide) .nil))
  refine ⟨(unique _).2 (by decide), permuted _ sampleHits.reverse_perm, ?_⟩
  exact (ordered _ each _ (by decide)).1

end KeywordSearch
