import KeywordSearch.Index

/-!
# Which ids an index holds

An index is seen here through two relations: which paths it has (`HasPath`) and
which ids it holds at them (`Holds`).  With the ids of the root, which no operation
touches, they determine the index (`ext_holds`).

The operations act on the relations alone.  Inserting tokens holds the id at
every path that the tokens spell; removing them takes the id away there and
leaves the paths; pruning leaves what is held and keeps a path only where an id
is held at it or beyond it.  Removing tokens and inserting them again gives the
same index where the id was held at all that the tokens spell
(`insertAll_removeAll`).
-/

set_option autoImplicit false

namespace KeywordSearch

/-- A list of tokens spells the nonempty initial parts of its tokens. -/
def Token.Spelled (tokens : List Token) (path : List Char) : Prop :=
  path ≠ [] ∧ ∃ token ∈ tokens, path <+: token

instance (tokens : List Token) (path : List Char) : Decidable (Token.Spelled tokens path) :=
  inferInstanceAs (Decidable (_ ∧ _))

namespace Token

theorem not_spelled_nil (path : List Char) : ¬Spelled [] path := by
  rintro ⟨_, token, member, _⟩
  cases member

theorem spelled_cons {token : Token} {tokens : List Token} {path : List Char} :
    Spelled (token :: tokens) path ↔ path ≠ [] ∧ path <+: token ∨ Spelled tokens path := by
  simp only [Spelled, List.mem_cons, exists_eq_or_imp, and_or_left]

/-- With a path its nonempty initial parts are spelled. -/
theorem Spelled.of_append {tokens : List Token} {path more : List Char}
    (spelled : Spelled tokens (path ++ more)) (nonempty : path ≠ []) : Spelled tokens path := by
  obtain ⟨_, token, member, initial⟩ := spelled
  exact ⟨nonempty, token, member, (List.prefix_append path more).trans initial⟩

end Token

namespace Index

/-! ## Paths and the ids held at them -/

/-- The index has a point at the end of a path. -/
def HasPath (index : Index) (path : List Char) : Prop := (index.at? path).isSome = true

/-- The index holds an id at a path. -/
def Holds (index : Index) (path : List Char) (id : EntryId) : Prop :=
  ∃ ids, index.at? path = some ids ∧ ids.contains id = true

instance (index : Index) (path : List Char) (id : EntryId) : Decidable (index.Holds path id) :=
  decidable_of_iff ((index.at? path).any (·.contains id) = true) (Option.any_eq_true _ _)

variable {index : Index} {path : List Char} {id held : EntryId}

theorem Holds.hasPath (holds : index.Holds path id) : index.HasPath path := by
  obtain ⟨ids, found, _⟩ := holds
  exact Option.isSome_iff_exists.2 ⟨ids, found⟩

/-- The root is no path. -/
theorem HasPath.ne_nil (has : index.HasPath path) : path ≠ [] := by
  rintro rfl
  exact Bool.false_ne_true has

theorem not_hasPath_empty (path : List Char) : ¬empty.HasPath path := by
  rw [HasPath, at?, empty, Trie.at?_empty]
  exact Bool.false_ne_true

/-- The ids of the root, the paths of an index and the ids held at them determine the index. -/
theorem ext_holds {left right : Index} (roots : left.root.ids = right.root.ids)
    (paths : ∀ path, left.HasPath path ↔ right.HasPath path)
    (ids : ∀ path id, left.Holds path id ↔ right.Holds path id) : left = right := by
  refine ext roots fun path => ?_
  have has := paths path
  have holds := ids path
  simp only [HasPath, Holds] at has holds
  cases atLeft : left.at? path with
  | none =>
    rw [atLeft] at has
    exact (Option.not_isSome_iff_eq_none.1 fun some => Bool.false_ne_true (has.2 some)).symm
  | some leftIds =>
    rw [atLeft] at has holds
    obtain ⟨rightIds, atRight⟩ := Option.isSome_iff_exists.1 (has.1 rfl)
    rw [atRight] at holds
    have same : leftIds = rightIds := Roster.ext_contains fun id => by simpa using holds id
    rw [atRight, same]

/-! ## Inserting and removing one token -/

theorem hasPath_insert {token : Token} :
    (index.insert token id).HasPath path ↔ index.HasPath path ∨ path ≠ [] ∧ path <+: token := by
  rw [HasPath, at?, insert, Trie.at?_insert index.ordered, HasPath, at?]
  split
  next initial => simp [initial]
  next other => simp [other]

theorem holds_insert {token : Token} :
    (index.insert token id).Holds path held ↔
      index.Holds path held ∨ held = id ∧ path ≠ [] ∧ path <+: token := by
  rw [Holds, at?, insert, Trie.at?_insert index.ordered, Holds, at?]
  split
  next initial =>
    simp only [Option.some.injEq, exists_eq_left', Roster.contains_insert, and_iff_left initial]
    cases index.root.below.at? path with
    | none => simp [Roster.contains]
    | some ids => simp [or_comm]
  next other => simp [other]

theorem hasPath_remove {token : Token} :
    (index.remove token id).HasPath path ↔ index.HasPath path := by
  rw [HasPath, at?, remove, Trie.at?_remove, HasPath, at?]
  split <;> simp

theorem holds_remove {token : Token} :
    (index.remove token id).Holds path held ↔
      index.Holds path held ∧ ¬(held = id ∧ path <+: token) := by
  rw [Holds, at?, remove, Trie.at?_remove, Holds, at?]
  split
  next initial =>
    cases index.root.below.at? path with
    | none => simp
    | some ids => simp [Roster.contains_erase, initial, and_comm]
  next other => simp [other]

/-! ## Inserting and removing all tokens of an entry -/

theorem hasPath_insertAll {tokens : List Token} :
    (index.insertAll tokens id).HasPath path ↔ index.HasPath path ∨ Token.Spelled tokens path := by
  induction tokens generalizing index with
  | nil => simp [insertAll, Token.not_spelled_nil]
  | cons token tokens ih =>
    rw [insertAll, List.foldl_cons, ← insertAll, ih, hasPath_insert, Token.spelled_cons, or_assoc]

theorem holds_insertAll {tokens : List Token} :
    (index.insertAll tokens id).Holds path held ↔
      index.Holds path held ∨ held = id ∧ Token.Spelled tokens path := by
  induction tokens generalizing index with
  | nil => simp [insertAll, Token.not_spelled_nil]
  | cons token tokens ih =>
    rw [insertAll, List.foldl_cons, ← insertAll, ih, holds_insert, Token.spelled_cons, or_assoc,
      ← and_or_left]

theorem hasPath_removeAll {tokens : List Token} :
    (index.removeAll tokens id).HasPath path ↔ index.HasPath path := by
  induction tokens generalizing index with
  | nil => rfl
  | cons token tokens ih => rw [removeAll, List.foldl_cons, ← removeAll, ih, hasPath_remove]

theorem holds_removeAll {tokens : List Token} :
    (index.removeAll tokens id).Holds path held ↔
      index.Holds path held ∧ ¬(held = id ∧ Token.Spelled tokens path) := by
  induction tokens generalizing index with
  | nil => simp [removeAll, Token.not_spelled_nil]
  | cons token tokens ih =>
    rw [removeAll, List.foldl_cons, ← removeAll, ih, holds_remove, Token.spelled_cons]
    constructor
    · rintro ⟨⟨holds, notHere⟩, notThere⟩
      refine ⟨holds, ?_⟩
      rintro ⟨same, ⟨_, initial⟩ | spelled⟩
      · exact notHere ⟨same, initial⟩
      · exact notThere ⟨same, spelled⟩
    · rintro ⟨holds, notSpelled⟩
      have nonempty := holds.hasPath.ne_nil
      exact ⟨⟨holds, fun ⟨same, initial⟩ => notSpelled ⟨same, .inl ⟨nonempty, initial⟩⟩⟩,
        fun ⟨same, spelled⟩ => notSpelled ⟨same, .inr spelled⟩⟩

/-- **Where an id was held at all that its tokens spell, removing the tokens and inserting
them again changes nothing.** -/
theorem insertAll_removeAll {tokens : List Token}
    (whole : ∀ path, Token.Spelled tokens path → index.Holds path id) :
    (index.removeAll tokens id).insertAll tokens id = index := by
  refine ext_holds (by simp) (fun path => ?_) fun path held => ?_
  · rw [hasPath_insertAll, hasPath_removeAll]
    exact or_iff_left_of_imp fun spelled => (whole path spelled).hasPath
  · rw [holds_insertAll, holds_removeAll]
    constructor
    · rintro (⟨holds, _⟩ | ⟨rfl, spelled⟩)
      · exact holds
      · exact whole path spelled
    · intro holds
      by_cases mine : held = id ∧ Token.Spelled tokens path
      · exact .inr mine
      · exact .inl ⟨holds, mine⟩

/-! ## Pruning -/

theorem alive_iff : index.root.below.Alive path ↔ ∃ more id, index.Holds (path ++ more) id := by
  constructor
  · rintro ⟨more, ids, found, notEmpty⟩
    obtain ⟨id, contained⟩ := Roster.isEmpty_eq_false_iff.1 notEmpty
    exact ⟨more, id, ids, found, contained⟩
  · rintro ⟨more, id, ids, found, contained⟩
    exact ⟨more, ids, found, Roster.isEmpty_eq_false_iff.2 ⟨id, contained⟩⟩

theorem Holds.alive (holds : index.Holds path id) : index.root.below.Alive path :=
  alive_iff.2 ⟨[], id, by rwa [List.append_nil]⟩

/-- Pruning changes nothing of what is held. -/
theorem holds_prune : index.prune.Holds path id ↔ index.Holds path id := by
  by_cases alive : index.root.below.Alive path
  · rw [Holds, Holds, at?, prune, Trie.at?_prune_of_alive index.ordered alive, at?]
  · refine ⟨?_, fun holds => absurd holds.alive alive⟩
    rintro ⟨ids, found, _⟩
    rw [at?, prune, Trie.at?_prune_of_not_alive index.ordered alive] at found
    cases found

/-- An index that has a path has its nonempty initial parts. -/
theorem HasPath.of_append {more : List Char} (has : index.HasPath (path ++ more))
    (nonempty : path ≠ []) : index.HasPath path :=
  Trie.isSome_at?_of_append has nonempty

/-- Pruning keeps a path exactly where an id is held at it or beyond it. -/
theorem hasPath_prune :
    index.prune.HasPath path ↔ path ≠ [] ∧ ∃ more id, index.Holds (path ++ more) id := by
  rw [← alive_iff]
  by_cases alive : index.root.below.Alive path
  · rw [HasPath, at?, prune, Trie.at?_prune_of_alive index.ordered alive]
    constructor
    · intro has
      have hasPath : index.HasPath path := has
      exact ⟨hasPath.ne_nil, alive⟩
    · rintro ⟨nonempty, _⟩
      obtain ⟨more, id, holds⟩ := alive_iff.1 alive
      exact holds.hasPath.of_append nonempty
  · rw [HasPath, at?, prune, Trie.at?_prune_of_not_alive index.ordered alive]
    simp [alive]

/-- Pruning makes two indexes with the same root one just if they hold the same. -/
theorem prune_eq_prune_iff {left right : Index} (roots : left.root.ids = right.root.ids) :
    left.prune = right.prune ↔ ∀ path id, left.Holds path id ↔ right.Holds path id := by
  constructor
  · intro same path id
    rw [← holds_prune, same, holds_prune]
  · intro same
    refine ext_holds roots ?_ ?_
    · intro path
      rw [hasPath_prune, hasPath_prune]
      simp only [same]
    · intro path id
      rw [holds_prune, holds_prune, same]

end Index

end KeywordSearch
