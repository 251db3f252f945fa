import KeywordSearch.Ranking

/-!
# What a ranking holds

A ranking of id sets holds, for every id in any of them, one candidate whose
weight is the number of sets that hold the id (`mem_rank`), and each of its
candidates outranks all that follow (`pairwise_rank`).  That determines the
ranking, so it does not depend on the order of the sets (`rank_perm`).

Counting is described by the weight that a tally gives to each id: a credit adds
one to the weight of its id, and a set adds one to the weights of its members.
Sorting is insertion sort; it orders because of two candidates with different
ids one outranks the other.
-/

set_option autoImplicit false

namespace KeywordSearch

namespace Candidate

theorem Outranks.trans {a b c : Candidate} (first : a.Outranks b) (second : b.Outranks c) :
    a.Outranks c := by
  rcases first with heavier | ⟨level, lower⟩
  · rcases second with heavier' | ⟨level', _⟩
    · exact .inl (Nat.lt_trans heavier' heavier)
    · exact .inl (level' ▸ heavier)
  · rcases second with heavier' | ⟨level', lower'⟩
    · exact .inl (level ▸ heavier')
    · exact .inr ⟨level.trans level', EntryId.lt_trans lower lower'⟩

/-- No two candidates outrank each other. -/
theorem Outranks.asymm {a b : Candidate} (before : a.Outranks b) : ¬b.Outranks a := by
  intro behind
  rcases before.trans behind with heavier | ⟨_, lower⟩
  · exact Nat.lt_irrefl _ heavier
  · exact EntryId.lt_irrefl _ lower

/-- Of two candidates with different ids one outranks the other. -/
theorem Outranks.of_not {a b : Candidate} (notBefore : ¬a.Outranks b) (different : a.id ≠ b.id) :
    b.Outranks a := by
  rcases Nat.lt_trichotomy a.weight b.weight with lighter | level | heavier
  · exact .inl lighter
  · refine .inr ⟨level.symm, Classical.byContradiction fun notLower => different ?_⟩
    exact EntryId.eq_of_not_lt (fun lower => notBefore (.inr ⟨level, lower⟩)) notLower
  · exact absurd (.inl heavier) notBefore

end Candidate

namespace Ranking

/-! ## Counting -/

theorem weight_credit (tally : Tally) (credited id : EntryId) :
    weight (credit tally credited) id = weight tally id + if id = credited then 1 else 0 := by
  have carried : entryId (⟨credited, weight tally credited + 1⟩ : Candidate) = credited := rfl
  rw [weight, credit, Roster.find?_insert, carried]
  by_cases same : credited = id
  · subst same
    simp
  · rw [if_neg same, if_neg (Ne.symm same)]
    rfl

theorem weight_foldl_credit (ids : List EntryId) (tally : Tally) (id : EntryId) :
    weight (ids.foldl credit tally) id = weight tally id + ids.count id := by
  induction ids generalizing tally with
  | nil => rfl
  | cons head rest ih =>
    rw [List.foldl_cons, ih, weight_credit, List.count_cons, Nat.add_assoc]
    by_cases same : id = head
    · simp [same, Nat.add_comm]
    · simp [same, Ne.symm same]

/-- A set counts each of its members once. -/
theorem count_items (ids : IdSet) (id : EntryId) :
    ids.items.count id = if ids.contains id = true then 1 else 0 := by
  have distinct : ids.items.Nodup := ids.ascending.imp EntryId.ne_of_lt
  have member : id ∈ ids.items ↔ ids.contains id = true :=
    ⟨fun held => Roster.contains_iff.2 ⟨id, Roster.find?_of_mem held⟩,
      fun contained => Roster.mem_of_find? (Roster.find?_eq_some_of_contains contained)⟩
  simp only [distinct.count, member]

/-- The weight of an id is the number of sets that hold it. -/
theorem weight_count (hits : List IdSet) (id : EntryId) :
    weight (count hits) id = hits.countP (·.contains id) := by
  suffices counted : ∀ tally, weight
      (hits.foldl (fun tally found => found.items.foldl credit tally) tally) id =
        weight tally id + hits.countP (·.contains id) by
    rw [count, counted]
    exact Nat.zero_add _
  induction hits with
  | nil => exact fun tally => rfl
  | cons found rest ih =>
    intro tally
    rw [List.foldl_cons, ih, weight_foldl_credit, count_items, List.countP_cons]
    omega

/-- Every candidate that has been counted weighs something. -/
def Positive (tally : Tally) : Prop := ∀ candidate ∈ tally.items, 0 < candidate.weight

theorem Positive.credit {tally : Tally} (positive : Positive tally) (id : EntryId) :
    Positive (credit tally id) := by
  intro candidate member
  rcases Roster.mem_insertInto member with rfl | before
  · exact Nat.succ_pos _
  · exact positive candidate before

theorem Positive.foldl_credit {tally : Tally} (positive : Positive tally) (ids : List EntryId) :
    Positive (ids.foldl Ranking.credit tally) := by
  induction ids generalizing tally with
  | nil => exact positive
  | cons id ids ih => exact ih (positive.credit id)

theorem positive_count (hits : List IdSet) : Positive (count hits) := by
  suffices kept : ∀ tally, Positive tally → Positive
      (hits.foldl (fun tally found => found.items.foldl credit tally) tally) from
    kept Roster.empty fun candidate member => nomatch member
  induction hits with
  | nil => exact fun tally positive => positive
  | cons found rest ih => exact fun tally positive => ih _ (positive.foldl_credit found.items)

/-- A tally holds a candidate for each id that has a weight, with that weight. -/
theorem mem_count {hits : List IdSet} {candidate : Candidate} :
    candidate ∈ (count hits).items ↔
      0 < candidate.weight ∧ candidate.weight = hits.countP (·.contains candidate.id) := by
  rw [← weight_count]
  constructor
  · intro member
    refine ⟨positive_count hits candidate member, ?_⟩
    have found : (count hits).find? candidate.id = some candidate := Roster.find?_of_mem member
    rw [weight, found]
  · rintro ⟨positive, counted⟩
    rw [weight] at counted
    split at counted
    next held found =>
      have carried : held.id = candidate.id := Roster.entryId_of_find? found
      have same : held = candidate := by
        cases held
        cases candidate
        simp_all
      exact same ▸ Roster.mem_of_find? found
    next => omega

/-! ## Sorting -/

theorem perm_insertRanked (candidate : Candidate) (ranked : List Candidate) :
    (insertRanked candidate ranked).Perm (candidate :: ranked) := by
  induction ranked with
  | nil => exact .refl _
  | cons head rest ih =>
    rw [insertRanked]
    split
    · exact .refl _
    · exact (ih.cons head).trans (.swap candidate head rest)

theorem perm_sort (candidates : List Candidate) : (sort candidates).Perm candidates := by
  induction candidates with
  | nil => exact .refl _
  | cons candidate rest ih => exact (perm_insertRanked candidate _).trans (ih.cons candidate)

theorem pairwise_insertRanked {candidate : Candidate} {ranked : List Candidate}
    (ordered : ranked.Pairwise Candidate.Outranks)
    (distinct : ∀ other ∈ ranked, candidate.id ≠ other.id) :
    (insertRanked candidate ranked).Pairwise Candidate.Outranks := by
  induction ranked with
  | nil => exact List.pairwise_singleton _ _
  | cons head rest ih =>
    obtain ⟨first, others⟩ := List.pairwise_cons.1 ordered
    rw [insertRanked]
    split
    next before =>
      refine List.pairwise_cons.2 ⟨fun other member => ?_, ordered⟩
      rcases List.mem_cons.1 member with rfl | there
      · exact before
      · exact before.trans (first other there)
    next notBefore =>
      have behind : head.Outranks candidate :=
        .of_not notBefore (distinct head List.mem_cons_self)
      refine List.pairwise_cons.2 ⟨fun other member => ?_,
        ih others fun other there => distinct other (List.mem_cons_of_mem _ there)⟩
      rcases List.mem_cons.1 ((perm_insertRanked candidate rest).mem_iff.1 member) with rfl | there
      · exact behind
      · exact first other there

/-- Sorting puts candidates with distinct ids in order of rank. -/
theorem pairwise_sort {candidates : List Candidate}
    (distinct : candidates.Pairwise fun a b => a.id ≠ b.id) :
    (sort candidates).Pairwise Candidate.Outranks := by
  induction candidates with
  | nil => exact .nil
  | cons candidate rest ih =>
    obtain ⟨first, others⟩ := List.pairwise_cons.1 distinct
    exact pairwise_insertRanked (ih others) fun other member =>
      first other ((perm_sort rest).mem_iff.1 member)

end Ranking

/-- **A ranking holds each id with the number of sets that hold it, if there are any.** -/
theorem mem_rank {hits : List IdSet} {candidate : Candidate} :
    candidate ∈ rank hits ↔
      0 < candidate.weight ∧ candidate.weight = hits.countP (·.contains candidate.id) := by
  rw [rank, (Ranking.perm_sort _).mem_iff, Ranking.mem_count]

/-- **Each candidate of a ranking outranks those that follow it.** -/
theorem pairwise_rank (hits : List IdSet) : (rank hits).Pairwise Candidate.Outranks :=
  Ranking.pairwise_sort ((Ranking.count hits).ascending.imp EntryId.ne_of_lt)

/-! ## The order of the sets -/

/-- No candidate is ranked twice. -/
theorem nodup_rank (hits : List IdSet) : (rank hits).Nodup := by
  refine (pairwise_rank hits).imp ?_
  rintro a b outranks rfl
  exact outranks.asymm outranks

/-- Sets that hold each id equally often are ranked alike. -/
theorem rank_congr {left right : List IdSet}
    (same : ∀ id, left.countP (·.contains id) = right.countP (·.contains id)) :
    rank left = rank right := by
  have members : (rank left).Perm (rank right) := by
    refine (List.perm_ext_iff_of_nodup (nodup_rank left) (nodup_rank right)).2 ?_
    intro candidate
    rw [mem_rank, mem_rank, same]
  refine members.eq_of_pairwise ?_ (pairwise_rank left) (pairwise_rank right)
  intro a b _ _ before behind
  exact absurd behind before.asymm

/-- **A ranking does not depend on the order in which the sets come.** -/
theorem rank_perm {left right : List IdSet} (permuted : left.Perm right) :
    rank left = rank right := rank_congr fun _ => permuted.countP_eq _

end KeywordSearch
