import KeywordSearch.Proofs.Index.Walk

/-!
# Dead branches

A branch of an index is dead when no id is held on it or beyond it.  Removing
leaves dead branches behind and pruning takes them away.  Neither says anything
about which ids are held, yet a search can tell whether pruning has been done: a
token that leads into a dead branch finds nothing there, and where the branch has
been pruned the same token finds what is held under the wildcard from the last
point on its way.

That is all that a search can tell.  An index that has grown over another
(`Index.Overgrows`) keeps all its paths and holds the same ids.  The two answer
alike every token whose walk ends at one point in both; where a walk goes on in
the overgrown index it finds nothing there; and once both have been pruned they
are the same index (`Index.Overgrows.differsByDeadBranches`).

To compare an index with what it would be without some of its ids, these are
allowed to occur in the overgrown index alone, until they are removed from it.
-/

set_option autoImplicit false

namespace KeywordSearch.Index

variable {overgrown clean : Index} {extra : EntryId → Prop} {path : List Char} {token : Token}
  {id : EntryId} {tokens : List Token}

/-- An index has grown over another: it has all the paths of the other and holds the same,
except for extra ids, of which the other holds none.  At the root there are no extra ids. -/
structure Overgrows (extra : EntryId → Prop) (overgrown clean : Index) : Prop where
  roots : overgrown.root.ids = clean.root.ids
  hasPath : ∀ {path}, clean.HasPath path → overgrown.HasPath path
  holds_iff : ∀ {path id}, ¬extra id → (overgrown.Holds path id ↔ clean.Holds path id)
  absent : ∀ {path id}, extra id → ¬clean.Holds path id

namespace Overgrows

theorem refl_empty (extra : EntryId → Prop) : Overgrows extra empty empty where
  roots := rfl
  hasPath := fun has => has
  holds_iff := fun _ => .rfl
  absent := fun _ holds => not_hasPath_empty _ holds.hasPath

/-- What the clean index holds, the overgrown one holds. -/
theorem holds (grown : Overgrows extra overgrown clean) (held : clean.Holds path id) :
    overgrown.Holds path id := by
  by_cases more : extra id
  · exact absurd held (grown.absent more)
  · exact (grown.holds_iff more).2 held

/-! ## Changes of both indexes -/

theorem insertAll (grown : Overgrows extra overgrown clean) (common : ¬extra id) :
    Overgrows extra (overgrown.insertAll tokens id) (clean.insertAll tokens id) where
  roots := by rw [root_ids_insertAll, root_ids_insertAll, grown.roots]
  hasPath := by
    intro path has
    rcases hasPath_insertAll.1 has with before | spelled
    · exact hasPath_insertAll.2 (.inl (grown.hasPath before))
    · exact hasPath_insertAll.2 (.inr spelled)
  holds_iff := by
    intro path held notExtra
    rw [holds_insertAll, holds_insertAll, grown.holds_iff notExtra]
  absent := by
    intro path held isExtra holds
    rcases holds_insertAll.1 holds with before | ⟨rfl, _⟩
    · exact grown.absent isExtra before
    · exact common isExtra

theorem removeAll (grown : Overgrows extra overgrown clean) :
    Overgrows extra (overgrown.removeAll tokens id) (clean.removeAll tokens id) where
  roots := by rw [root_ids_removeAll, root_ids_removeAll, grown.roots]
  hasPath := by
    intro path has
    exact hasPath_removeAll.2 (grown.hasPath (hasPath_removeAll.1 has))
  holds_iff := by
    intro path held notExtra
    rw [holds_removeAll, holds_removeAll, grown.holds_iff notExtra]
  absent := by
    intro path held isExtra holds
    exact grown.absent isExtra (holds_removeAll.1 holds).1

/-- Pruning takes away no path that the clean index has use for. -/
theorem prune (grown : Overgrows extra overgrown clean) :
    Overgrows extra overgrown.prune clean.prune where
  roots := grown.roots
  hasPath := by
    intro path has
    obtain ⟨nonempty, more, id, holds⟩ := hasPath_prune.1 has
    exact hasPath_prune.2 ⟨nonempty, more, id, grown.holds holds⟩
  holds_iff := by
    intro path id notExtra
    rw [holds_prune, holds_prune, grown.holds_iff notExtra]
  absent := by
    intro path id isExtra holds
    exact grown.absent isExtra (holds_prune.1 holds)

/-! ## Changes of one index -/

theorem prune_clean (grown : Overgrows extra overgrown clean) :
    Overgrows extra overgrown clean.prune where
  roots := grown.roots
  hasPath := by
    intro path has
    obtain ⟨nonempty, more, id, holds⟩ := hasPath_prune.1 has
    exact (grown.holds holds).hasPath.of_append nonempty
  holds_iff := by
    intro path id notExtra
    rw [holds_prune, grown.holds_iff notExtra]
  absent := by
    intro path id isExtra holds
    exact grown.absent isExtra (holds_prune.1 holds)

theorem insertAll_extra (grown : Overgrows extra overgrown clean) (isExtra : extra id) :
    Overgrows extra (overgrown.insertAll tokens id) clean where
  roots := by rw [root_ids_insertAll, grown.roots]
  hasPath := fun has => hasPath_insertAll.2 (.inl (grown.hasPath has))
  holds_iff := by
    intro path held notExtra
    rw [holds_insertAll, ← grown.holds_iff notExtra]
    refine or_iff_left ?_
    rintro ⟨rfl, _⟩
    exact notExtra isExtra
  absent := grown.absent

theorem removeAll_extra (grown : Overgrows extra overgrown clean) (isExtra : extra id) :
    Overgrows extra (overgrown.removeAll tokens id) clean where
  roots := by rw [root_ids_removeAll, grown.roots]
  hasPath := fun has => hasPath_removeAll.2 (grown.hasPath has)
  holds_iff := by
    intro path held notExtra
    rw [holds_removeAll, ← grown.holds_iff notExtra]
    refine and_iff_left ?_
    rintro ⟨rfl, _⟩
    exact notExtra isExtra
  absent := grown.absent

/-- When the extra ids have been removed, none is left to tell apart. -/
theorem of_removed (grown : Overgrows extra overgrown clean)
    (removed : ∀ path id, extra id → ¬overgrown.Holds path id) :
    Overgrows (fun _ => False) overgrown clean where
  roots := grown.roots
  hasPath := grown.hasPath
  holds_iff := by
    intro path id _
    by_cases isExtra : extra id
    · exact iff_of_false (removed path id isExtra) (grown.absent isExtra)
    · exact grown.holds_iff isExtra
  absent := False.elim

end Overgrows

/-! ## What a search can tell -/

/-- A token whose walk ends at one point in both indexes is answered alike.  Where it goes
on in the first index, that finds nothing, and the second finds what it holds under the
wildcard from where the walk ends there. -/
def AnswersUnlessAstray (overgrown clean : Index) (token : Token) : Prop :=
  ∃ reached strayed, Farthest clean.HasPath token reached ∧
    Farthest overgrown.HasPath token strayed ∧ reached <+: strayed ∧
    (strayed = reached → overgrown.search token = clean.search token) ∧
    (strayed ≠ reached → overgrown.search token = Roster.empty ∧
      ∀ id, (clean.search token).contains id = true ↔ clean.Holds (reached ++ [wildcard]) id)

/-- Two indexes differ by dead branches of the first: they hold the same ids, the first
answers as the second does unless a token goes astray in it, and pruning makes them one. -/
structure DiffersByDeadBranches (overgrown clean : Index) : Prop where
  holds_iff : ∀ path id, overgrown.Holds path id ↔ clean.Holds path id
  search : ∀ token, overgrown.AnswersUnlessAstray clean token
  prune_eq : overgrown.prune = clean.prune

namespace Overgrows

variable {reached strayed : List Char}

/-- A walk goes at least as far in the overgrown index. -/
theorem further (grown : Overgrows extra overgrown clean)
    (toReached : Farthest clean.HasPath token reached)
    (toStrayed : Farthest overgrown.HasPath token strayed) : reached <+: strayed := by
  rcases toReached.known with rfl | known
  · exact List.nil_prefix
  · have le : reached.length ≤ strayed.length :=
      toStrayed.longest reached toReached.initial (grown.hasPath known)
    exact List.prefix_of_prefix_length_le toReached.initial toStrayed.initial le

variable (grown : Overgrows (fun _ => False) overgrown clean)

include grown

/-- Where a walk goes further in the overgrown index, nothing is held at its end there or
beyond. -/
theorem not_holds_astray (toReached : Farthest clean.HasPath token reached)
    (toStrayed : Farthest overgrown.HasPath token strayed) (astray : strayed ≠ reached)
    (more : List Char) : ¬overgrown.Holds (strayed ++ more) id := by
  intro holds
  have initial := grown.further toReached toStrayed
  have nonempty : strayed ≠ [] := by
    rintro rfl
    exact astray (List.prefix_nil.1 initial).symm
  have known : clean.HasPath strayed :=
    ((grown.holds_iff not_false).1 holds).hasPath.of_append nonempty
  have le : strayed.length ≤ reached.length := toReached.longest strayed toStrayed.initial known
  exact astray (initial.eq_of_length_le le).symm

/-- **A token is answered alike unless it goes astray.** -/
theorem answersUnlessAstray (token : Token) : overgrown.AnswersUnlessAstray clean token := by
  obtain ⟨reached, toReached⟩ := Farthest.exists clean.HasPath token
  obtain ⟨strayed, toStrayed⟩ := Farthest.exists overgrown.HasPath token
  have initial := grown.further toReached toStrayed
  refine ⟨reached, strayed, toReached, toStrayed, initial, ?_, ?_⟩
  · rintro rfl
    refine Roster.ext_contains fun id => ?_
    rw [contains_search, contains_search, toReached.found_iff, toStrayed.found_iff,
      grown.holds_iff not_false, grown.holds_iff not_false]
  · intro astray
    constructor
    · refine Roster.ext_contains fun id => iff_of_false ?_ Bool.false_ne_true
      rw [contains_search, toStrayed.found_iff]
      rintro ⟨_, ⟨rfl, holds⟩ | ⟨_, holds⟩⟩
      · exact grown.not_holds_astray toReached toStrayed astray [] (by rwa [List.append_nil])
      · exact grown.not_holds_astray toReached toStrayed astray _ holds
    · intro id
      have shorter : reached ≠ token := by
        rintro rfl
        exact astray (toStrayed.initial.eq_of_length_le initial.length_le)
      have nonempty : token ≠ [] := by
        rintro rfl
        exact shorter (List.prefix_nil.1 toReached.initial)
      rw [contains_search, toReached.found_iff]
      simp only [ne_eq, nonempty, not_false_eq_true, shorter, false_and, false_or, true_and]

/-- **An index that has grown over another differs from it by dead branches.** -/
theorem differsByDeadBranches : overgrown.DiffersByDeadBranches clean where
  holds_iff := fun _ _ => grown.holds_iff not_false
  search := grown.answersUnlessAstray
  prune_eq := by
    refine (prune_eq_prune_iff grown.roots).2 ?_
    intro path id
    exact grown.holds_iff not_false

end Overgrows

end KeywordSearch.Index
