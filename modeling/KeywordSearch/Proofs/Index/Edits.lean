import KeywordSearch.Proofs.Index.Points
import KeywordSearch.Proofs.Index.Walk
import Mathlib.Data.List.DropRight

/-!
# An index as its edits tell it

An index comes of a sequence of edits: an id is inserted under a token, an id is
removed under a token, or the dead paths are pruned.  What the index holds, which
paths it has and what a search in it finds are told here by the sequence alone,
without building the index.

An id stands at a path when the last edit that inserts or removes it through
that path inserts it (`Edit.Stands`).  A path is grown when a token through it has
been inserted since the last pruning, or when at that pruning some id stood at it
or beyond it (`Edit.Grown`).  The index of the edits holds the ids that stand at
its paths, and its paths are those that are grown (`Index.holds_ofEdits`,
`Index.hasPath_ofEdits`).  Removing never takes a path away, so an id that a
removal strips from the beginning of a token may stand further on.
-/

set_option autoImplicit false

namespace KeywordSearch

/-- A change of an index. -/
inductive Edit where
  | insert (token : Token) (id : EntryId)
  | remove (token : Token) (id : EntryId)
  | prune
  deriving DecidableEq

namespace Edit

variable {edits : List Edit} {edit : Edit} {token : Token} {path : List Char} {id other : EntryId}

/-- The edit inserts or removes an id through a path. -/
def Touches (path : List Char) (id : EntryId) : Edit → Prop
  | insert token other | remove token other => other = id ∧ path <+: token
  | prune => False

instance (path : List Char) (id : EntryId) : DecidablePred (Touches path id)
  | insert _ _ | remove _ _ => inferInstanceAs (Decidable (_ ∧ _))
  | prune => inferInstanceAs (Decidable False)

/-- Of the edits that insert or remove an id through a path, the last one inserts it. -/
def Stands (edits : List Edit) (path : List Char) (id : EntryId) : Prop :=
  ∃ token, (edits.filter (Touches path id)).getLast? = some (insert token id)

/-- The edits since the last pruning. -/
def recent (edits : List Edit) : List Edit := edits.rtakeWhile (· ≠ prune)

/-- The edits up to the last pruning, if there was one. -/
def settled (edits : List Edit) : List Edit := edits.rdropWhile (· ≠ prune)

/-- A token through the path has been inserted since the last pruning, or at that pruning
an id stood at the path or beyond it. -/
def Grown (edits : List Edit) (path : List Char) : Prop :=
  path ≠ [] ∧
    ((∃ token id, insert token id ∈ recent edits ∧ path <+: token) ∨
      ∃ more id, Stands (settled edits) (path ++ more) id)

/-! ## One more edit -/

theorem not_stands_nil (path : List Char) (id : EntryId) : ¬Stands [] path id := by
  rintro ⟨token, last⟩
  cases last

/-- An edit that touches an id at a path decides whether it stands there; any other
leaves it as it was. -/
theorem stands_append : Stands (edits ++ [edit]) path id ↔
    if Touches path id edit then ∃ token, edit = insert token id else Stands edits path id := by
  rw [Stands, List.filter_append]
  split
  next touches => simp [touches]
  next passes => simp [passes, Stands]

theorem stands_append_insert : Stands (edits ++ [insert token other]) path id ↔
    Stands edits path id ∨ other = id ∧ path <+: token := by
  rw [stands_append]
  split
  next touches =>
    obtain ⟨rfl, initial⟩ := touches
    simp [initial]
  next passes => exact (or_iff_left passes).symm

theorem stands_append_remove : Stands (edits ++ [remove token other]) path id ↔
    Stands edits path id ∧ ¬(other = id ∧ path <+: token) := by
  rw [stands_append]
  split
  next touches =>
    have both : other = id ∧ path <+: token := touches
    simp [both]
  next passes => exact (and_iff_left passes).symm

theorem stands_append_prune : Stands (edits ++ [prune]) path id ↔ Stands edits path id := by
  simp [stands_append, Touches]

theorem not_grown_nil (path : List Char) : ¬Grown [] path := by
  rintro ⟨_, ⟨token, id, member, _⟩ | ⟨more, id, stands⟩⟩
  · cases member
  · exact not_stands_nil _ _ stands

theorem grown_append_insert : Grown (edits ++ [insert token id]) path ↔
    Grown edits path ∨ path ≠ [] ∧ path <+: token := by
  have later : recent (edits ++ [insert token id]) = recent edits ++ [insert token id] :=
    List.rtakeWhile_concat_pos _ _ _ (by simp)
  have earlier : settled (edits ++ [insert token id]) = settled edits :=
    List.rdropWhile_concat_pos _ _ _ (by simp)
  rw [Grown, Grown, later, earlier, ← and_or_left]
  refine and_congr_right fun _ => ?_
  constructor
  · rintro (⟨other, held, member, initial⟩ | stood)
    · rcases List.mem_append.1 member with before | last
      · exact .inl (.inl ⟨other, held, before, initial⟩)
      · cases List.mem_singleton.1 last
        exact .inr initial
    · exact .inl (.inr stood)
  · rintro ((⟨other, held, member, initial⟩ | stood) | initial)
    · exact .inl ⟨other, held, List.mem_append_left _ member, initial⟩
    · exact .inr stood
    · exact .inl ⟨token, id, List.mem_append_right _ List.mem_cons_self, initial⟩

theorem grown_append_remove : Grown (edits ++ [remove token id]) path ↔ Grown edits path := by
  have later : recent (edits ++ [remove token id]) = recent edits ++ [remove token id] :=
    List.rtakeWhile_concat_pos _ _ _ (by simp)
  have earlier : settled (edits ++ [remove token id]) = settled edits :=
    List.rdropWhile_concat_pos _ _ _ (by simp)
  rw [Grown, Grown, later, earlier]
  simp

theorem grown_append_prune : Grown (edits ++ [prune]) path ↔
    path ≠ [] ∧ ∃ more id, Stands edits (path ++ more) id := by
  have later : recent (edits ++ [prune]) = [] := List.rtakeWhile_concat_neg _ _ _ (by simp)
  have earlier : settled (edits ++ [prune]) = edits ++ [prune] :=
    List.rdropWhile_concat_neg _ _ _ (by simp)
  rw [Grown, later, earlier]
  simp only [List.not_mem_nil, false_and, exists_false, false_or, stands_append_prune]

end Edit

namespace Index

variable {edits : List Edit} {path : List Char} {id : EntryId}

/-- The index after an edit. -/
def edit (index : Index) : Edit → Index
  | .insert token id => index.insert token id
  | .remove token id => index.remove token id
  | .prune => index.prune

/-- The index that edits make from nothing. -/
def ofEdits (edits : List Edit) : Index := edits.foldl edit empty

theorem ofEdits_append (edits : List Edit) (last : Edit) :
    ofEdits (edits ++ [last]) = (ofEdits edits).edit last := by
  rw [ofEdits, List.foldl_append]
  rfl

/-- No edit gives the root an id. -/
theorem root_ids_ofEdits (edits : List Edit) : (ofEdits edits).root.ids = Roster.empty := by
  induction edits using List.reverseRec with
  | nil => rfl
  | append_singleton edits last ih =>
    rw [ofEdits_append]
    cases last <;> exact ih

/-- The index of some edits holds at its paths the ids that stand there. -/
theorem holds_ofEdits : (ofEdits edits).Holds path id ↔ path ≠ [] ∧ Edit.Stands edits path id := by
  induction edits using List.reverseRec with
  | nil =>
    constructor
    · intro holds
      exact absurd holds.hasPath (not_hasPath_empty path)
    · rintro ⟨_, stands⟩
      exact absurd stands (Edit.not_stands_nil path id)
  | append_singleton edits last ih =>
    rw [ofEdits_append]
    cases last with
    | insert token other =>
      rw [edit, holds_insert, ih, Edit.stands_append_insert, and_or_left, eq_comm (a := id)]
      simp only [and_left_comm]
    | remove token other =>
      rw [edit, holds_remove, ih, Edit.stands_append_remove, and_assoc, eq_comm (a := id)]
    | prune => rw [edit, holds_prune, ih, Edit.stands_append_prune]

/-- The paths of the index of some edits are those that are grown. -/
theorem hasPath_ofEdits : (ofEdits edits).HasPath path ↔ Edit.Grown edits path := by
  induction edits using List.reverseRec with
  | nil => exact iff_of_false (not_hasPath_empty path) (Edit.not_grown_nil path)
  | append_singleton edits last ih =>
    rw [ofEdits_append]
    cases last with
    | insert token other => rw [edit, hasPath_insert, ih, Edit.grown_append_insert]
    | remove token other => rw [edit, hasPath_remove, ih, Edit.grown_append_remove]
    | prune =>
      rw [edit, hasPath_prune, Edit.grown_append_prune]
      refine and_congr_right fun nonempty => exists₂_congr fun more held => ?_
      rw [holds_ofEdits, and_iff_right]
      exact List.append_ne_nil_of_left_ne_nil nonempty more

/-- **The edits of an index tell everything about it.**  They tell which ids it holds
and which paths it has; what a token finds, how many points there are and whether there
are any but the root follows from these. -/
theorem ofEdits_told (edits : List Edit) :
    (∀ path id, (ofEdits edits).Holds path id ↔ path ≠ [] ∧ Edit.Stands edits path id) ∧
    (∀ path, (ofEdits edits).HasPath path ↔ Edit.Grown edits path) ∧
    (∀ token id, ((ofEdits edits).search token).contains id = true ↔
      Found (Edit.Grown edits) (Edit.Stands edits) token id) ∧
    (∃ paths : Finset (List Char), (∀ path, path ∈ paths ↔ Edit.Grown edits path) ∧
      (ofEdits edits).nodeCount = 1 + paths.card) ∧
    ((ofEdits edits).isEmpty = true ↔ ∀ path, ¬Edit.Grown edits path) := by
  have grown : (ofEdits edits).HasPath = Edit.Grown edits :=
    funext fun path => propext hasPath_ofEdits
  refine ⟨fun _ _ => holds_ofEdits, fun _ => hasPath_ofEdits, fun token id => ?_, ?_, ?_⟩
  · rw [contains_search, grown]
    simp only [Found, holds_ofEdits]
    refine and_congr_right fun nonempty => ?_
    simp [nonempty]
  · obtain ⟨paths, member⟩ := exists_paths (ofEdits edits)
    exact ⟨paths, fun path => (member path).trans hasPath_ofEdits, nodeCount_eq member⟩
  · rw [isEmpty_iff, and_iff_right (root_ids_ofEdits edits), grown]

/-- Removing a token that was never inserted strips the id from the common beginning, and
leaves it further on. -/
example :
    let index := ofEdits [.insert "hello".toList ⟨1⟩, .remove "helium".toList ⟨1⟩, .prune]
    ¬index.Holds "hel".toList ⟨1⟩ ∧ index.Holds "hello".toList ⟨1⟩ ∧ index.nodeCount = 6 := by
  decide

end Index

end KeywordSearch
