import KeywordSearch.Proofs.Index.Holding
import Mathlib.Data.Finset.Card
import Mathlib.Data.List.Nodup

/-!
# Counting the points of an index

The points of an index other than its root are its paths.  The paths of a trie
are listed along its branches; an ordered trie lists each of them once, so its
size is the number of paths (`nodeCount_eq`).  An index is empty when it has none and
its root holds nothing (`isEmpty_iff`).
-/

set_option autoImplicit false

namespace KeywordSearch

namespace Trie

/-- The paths of a trie, branch by branch. -/
def paths : Trie → List (List Char)
  | empty => []
  | branch char _ below beside => [char] :: below.paths.map (char :: ·) ++ beside.paths

theorem length_paths (trie : Trie) : trie.paths.length = trie.size := by
  induction trie with
  | empty => rfl
  | branch char ids below beside ihBelow ihBeside =>
    simp only [paths, size, List.length_append, List.length_cons, List.length_map, ihBelow,
      ihBeside]
    omega

theorem nil_notMem_paths (trie : Trie) : [] ∉ trie.paths := by
  induction trie with
  | empty => exact List.not_mem_nil
  | branch char ids below beside _ ih => simp [paths, ih]

/-- The paths from a branch on are those that begin with its character. -/
theorem cons_mem_paths_branch {char c : Char} {ids : IdSet} {below beside : Trie}
    {rest : List Char} :
    c :: rest ∈ (branch char ids below beside).paths ↔
      c = char ∧ (rest = [] ∨ rest ∈ below.paths) ∨ c :: rest ∈ beside.paths := by
  simp only [paths, List.mem_append, List.mem_cons, List.cons.injEq, List.mem_map]
  constructor
  · rintro ((⟨same, nothing⟩ | ⟨rest', member, same, rfl⟩) | there)
    · exact .inl ⟨same, .inl nothing⟩
    · exact .inl ⟨same.symm, .inr member⟩
    · exact .inr there
  · rintro (⟨same, nothing | member⟩ | there)
    · exact .inl (.inl ⟨same, nothing⟩)
    · exact .inl (.inr ⟨rest, member, same.symm, rfl⟩)
    · exact .inr there

/-- The listed paths of an ordered trie are the paths at which it has a point. -/
theorem mem_paths {trie : Trie} (ordered : trie.Ordered) {path : List Char} :
    path ∈ trie.paths ↔ (trie.at? path).isSome = true := by
  induction trie generalizing path with
  | empty => simp [paths, at?_empty]
  | branch char ids below beside ihBelow ihBeside =>
    cases path with
    | nil => simp [nil_notMem_paths]
    | cons c rest =>
      rw [cons_mem_paths_branch, ihBeside ordered.2.1]
      by_cases here : c = char
      · subst here
        rw [at?_branch, ordered.2.2.at?_eq_none]
        split
        next nothing => simp [nothing]
        next notNil => simp [notNil, ihBelow ordered.1]
      · rw [at?_branch_of_ne here]
        simp [here]

/-- An ordered trie lists no path twice. -/
theorem nodup_paths {trie : Trie} (ordered : trie.Ordered) : trie.paths.Nodup := by
  induction trie with
  | empty => exact List.nodup_nil
  | branch char ids below beside ihBelow ihBeside =>
    have first : ([char] :: below.paths.map (char :: ·)).Nodup := by
      refine List.nodup_cons.2 ⟨?_, (ihBelow ordered.1).map fun _ _ same => List.cons.inj same |>.2⟩
      simp [nil_notMem_paths]
    refine List.Nodup.append first (ihBeside ordered.2.1) ?_
    -- A path that the branch itself lists begins with its character, and none beside it does.
    have begins : ∀ path ∈ [char] :: below.paths.map (char :: ·), ∃ rest, path = char :: rest := by
      simp
    intro path here there
    obtain ⟨rest, rfl⟩ := begins path here
    rw [mem_paths ordered.2.1, ordered.2.2.at?_eq_none] at there
    exact Bool.false_ne_true there

end Trie

namespace Index

/-- An index has finitely many paths. -/
theorem exists_paths (index : Index) :
    ∃ paths : Finset (List Char), ∀ path, path ∈ paths ↔ index.HasPath path := by
  refine ⟨index.root.below.paths.toFinset, fun path => ?_⟩
  rw [List.mem_toFinset, Trie.mem_paths index.ordered, HasPath, at?]

/-- **An index has one point more than it has paths.** -/
theorem nodeCount_eq {index : Index} {paths : Finset (List Char)}
    (same : ∀ path, path ∈ paths ↔ index.HasPath path) : index.nodeCount = 1 + paths.card := by
  have listed : index.root.below.paths.toFinset = paths := by
    ext path
    rw [List.mem_toFinset, Trie.mem_paths index.ordered, same, HasPath, at?]
  rw [nodeCount, ← Trie.length_paths, ← listed,
    List.toFinset_card_of_nodup (Trie.nodup_paths index.ordered), Nat.add_comm]

/-- No branch leaves the root of an index that has no path. -/
theorem isEmpty_below_iff {index : Index} :
    index.root.below.isEmpty = true ↔ ∀ path, ¬index.HasPath path := by
  simp only [HasPath, at?]
  cases index.root.below with
  | empty => simp [Trie.isEmpty, Trie.at?_empty]
  | branch char ids below beside =>
    refine iff_of_false Bool.false_ne_true fun none => none [char] ?_
    rw [Trie.at?_branch]
    rfl

/-- An index is empty when its root holds nothing and it has no path. -/
theorem isEmpty_iff {index : Index} :
    index.isEmpty = true ↔ index.root.ids = Roster.empty ∧ ∀ path, ¬index.HasPath path := by
  rw [isEmpty, Trie.Node.isOrphaned, Bool.and_eq_true, isEmpty_below_iff, Roster.isEmpty_iff]

end Index

end KeywordSearch
