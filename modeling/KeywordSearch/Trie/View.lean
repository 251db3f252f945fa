import KeywordSearch.Trie

/-!
# What a trie holds at each path

The operations on tries, described by the branch that a trie has for a
character (`child?`) and by what it holds at a path (`at?`).

* Inserting an id makes every nonempty initial part of the token a path and
  adds the id there (`at?_insert`).
* Removing an id takes it away on the initial parts of the token
  (`at?_remove`).
* Pruning keeps what is held at the paths on which, or beyond which, an id is
  held, and takes away all others (`at?_prune_of_alive`,
  `at?_prune_of_not_alive`).
* Ordered tries that hold the same at every path are the same trie
  (`Ordered.ext`).
-/

set_option autoImplicit false

namespace KeywordSearch.Trie

/-! ## The branch for a character -/

/-- A point whose branches all come later has no branch for a character. -/
theorem After.child?_eq_none {c : Char} {trie : Trie} (after : After c trie) :
    trie.child? c = none := by
  induction trie with
  | empty => rfl
  | branch char ids below beside _ ih =>
    rw [child?, if_neg (fun same => Char.ne_of_lt after.1 same)]
    exact ih after.2

theorem child?_path (id : EntryId) (c : Char) (rest : Token) (d : Char) :
    (path id (c :: rest)).child? d =
      if d = c then some ⟨Roster.empty.insert id, path id rest⟩ else none := by
  rw [path, child?]
  split <;> rfl

/-- The branch that a token is inserted at: the one that was there, or none yet. -/
def nodeAt (trie : Trie) (c : Char) : Node := (trie.child? c).getD ⟨Roster.empty, empty⟩

theorem insert_empty (id : EntryId) (token : Token) : empty.insert id token = path id token := by
  cases token <;> rfl

/-- Inserting a token changes the branch for its first character and no other. -/
theorem child?_insert {trie : Trie} (ordered : trie.Ordered) (id : EntryId) (c : Char)
    (rest : Token) (d : Char) :
    (trie.insert id (c :: rest)).child? d =
      if d = c then
        some ⟨(trie.nodeAt c).ids.insert id, (trie.nodeAt c).below.insert id rest⟩
      else trie.child? d := by
  induction trie with
  | empty =>
    rw [insert_empty, child?_path]
    simp only [nodeAt, child?, Option.getD_none, insert_empty]
  | branch char ids below beside _ ih =>
    rw [insert]
    split
    next same =>
      subst same
      simp only [child?, nodeAt, if_true, Option.getD_some]
      split <;> rfl
    next different =>
      split
      next less =>
        have absent : (branch char ids below beside).child? c = none :=
          After.child?_eq_none ⟨less, ordered.2.2.of_lt less⟩
        rw [child?]
        split
        next same => simp only [nodeAt, absent, Option.getD_none, insert_empty]
        next => rfl
      next =>
        have same : (branch char ids below beside).nodeAt c = beside.nodeAt c := by
          rw [nodeAt, child?, if_neg different, nodeAt]
        rw [same, child?]
        split
        next here =>
          rw [if_neg (fun equal => different (equal.symm.trans here)), child?, if_pos here]
        next there =>
          rw [ih ordered.2.1]
          split
          next => rfl
          next => rw [child?, if_neg there]

/-- Removing a token changes the branch for its first character, if there is
one, and no other. -/
theorem child?_remove (trie : Trie) (id : EntryId) (c : Char) (rest : Token) (d : Char) :
    (trie.remove id (c :: rest)).child? d =
      if d = c then
        (trie.child? c).map fun node => ⟨node.ids.erase id, node.below.remove id rest⟩
      else trie.child? d := by
  induction trie with
  | empty =>
    show (empty : Trie).child? d = _
    split <;> rfl
  | branch char ids below beside _ ih =>
    rw [remove]
    split
    next same =>
      subst same
      simp only [child?, if_true, Option.map_some]
      split <;> rfl
    next different =>
      rw [child?]
      split
      next here =>
        rw [if_neg (fun equal => different (equal.symm.trans here)), child?, if_pos here]
      next there =>
        rw [ih]
        split
        next => rw [child?, if_neg different]
        next => rw [child?, if_neg there]

/-! ## What is held at a path -/

@[simp] theorem at?_nil (trie : Trie) : trie.at? [] = none := rfl

theorem at?_cons (trie : Trie) (c : Char) (rest : List Char) :
    trie.at? (c :: rest) =
      (trie.child? c).bind fun node =>
        if rest = [] then some node.ids else node.below.at? rest := by
  rw [at?]
  cases trie.child? c with
  | none => rfl
  | some node => cases rest <;> rfl

theorem at?_empty (path : List Char) : empty.at? path = none := by
  cases path <;> rfl

/-- An inserted id is held at every nonempty initial part of its token. -/
theorem at?_insert {trie : Trie} (ordered : trie.Ordered) (id : EntryId) (token path : List Char) :
    (trie.insert id token).at? path =
      if path ≠ [] ∧ path <+: token then
        some (((trie.at? path).getD Roster.empty).insert id)
      else trie.at? path := by
  induction path generalizing trie token with
  | nil => simp
  | cons d path ih =>
    cases token with
    | nil => simp [insert]
    | cons c rest =>
      rw [at?_cons, child?_insert ordered, at?_cons]
      by_cases same : d = c
      · subst same
        have below : (trie.nodeAt d).below.Ordered := by
          rw [nodeAt]
          cases child : trie.child? d with
          | none => trivial
          | some node => exact ordered.of_child? child
        simp only [if_true, Option.bind_some, List.cons_prefix_cons, true_and, ne_eq,
          reduceCtorEq, not_false_eq_true]
        cases path with
        | nil =>
          simp only [if_true, List.nil_prefix, nodeAt]
          cases trie.child? d <;> rfl
        | cons e path =>
          rw [if_neg (by simp), ih below]
          simp only [ne_eq, reduceCtorEq, not_false_eq_true, true_and, if_false, nodeAt]
          cases trie.child? d with
          | none => simp [at?_empty]
          | some node => rfl
      · simp [same]

/-- A removed id is held at no initial part of its token any more; the paths stay. -/
theorem at?_remove (trie : Trie) (id : EntryId) (token path : List Char) :
    (trie.remove id token).at? path =
      if path <+: token then (trie.at? path).map (·.erase id) else trie.at? path := by
  induction path generalizing trie token with
  | nil => simp
  | cons d path ih =>
    cases token with
    | nil => cases trie <;> simp [remove]
    | cons c rest =>
      rw [at?_cons, child?_remove, at?_cons]
      by_cases same : d = c
      · subst same
        simp only [if_true, List.cons_prefix_cons, true_and]
        cases trie.child? d with
        | none => simp
        | some node =>
          simp only [Option.map_some, Option.bind_some]
          cases path with
          | nil => simp
          | cons e path =>
            rw [if_neg (by simp), ih]
            simp only [reduceCtorEq, if_false]
      · simp [same]

/-- A trie that has a path has its nonempty initial parts. -/
theorem isSome_at?_of_append {trie : Trie} {path more : List Char}
    (has : (trie.at? (path ++ more)).isSome = true) (nonempty : path ≠ []) :
    (trie.at? path).isSome = true := by
  induction path generalizing trie with
  | nil => exact absurd rfl nonempty
  | cons c rest ih =>
    rw [List.cons_append, at?_cons] at has
    rw [at?_cons]
    cases child : trie.child? c with
    | none =>
      rw [child] at has
      exact has
    | some node =>
      rw [child, Option.bind_some] at has
      rw [Option.bind_some]
      split
      · rfl
      next notNil =>
        rw [if_neg fun nothing => notNil (List.append_eq_nil_iff.1 nothing).1] at has
        exact ih has notNil

/-! ## Pruning -/

/-- An id is held at a path or beyond it. -/
def Alive (trie : Trie) (path : List Char) : Prop :=
  ∃ more ids, trie.at? (path ++ more) = some ids ∧ ids.isEmpty = false

theorem not_alive_empty (path : List Char) : ¬empty.Alive path := by
  rintro ⟨more, ids, found, _⟩
  rw [at?_empty] at found
  cases found

/-- A nonempty path is alive when ids are held at its end or alive below it. -/
theorem alive_cons (trie : Trie) (c : Char) (rest : List Char) :
    trie.Alive (c :: rest) ↔
      ∃ node, trie.child? c = some node ∧
        (node.below.Alive rest ∨ rest = [] ∧ node.ids.isEmpty = false) := by
  constructor
  · rintro ⟨more, ids, found, held⟩
    rw [List.cons_append, at?_cons] at found
    obtain ⟨node, child, found⟩ := Option.bind_eq_some_iff.1 found
    refine ⟨node, child, ?_⟩
    split at found
    next nothing =>
      cases found
      exact .inr ⟨(List.append_eq_nil_iff.1 nothing).1, held⟩
    next => exact .inl ⟨more, ids, found, held⟩
  · rintro ⟨node, child, ⟨more, ids, found, held⟩ | ⟨rfl, held⟩⟩
    · refine ⟨more, ids, ?_, held⟩
      rw [List.cons_append, at?_cons, child, Option.bind_some, if_neg]
      · exact found
      · intro nothing
        rw [nothing] at found
        cases found
    · refine ⟨[], node.ids, ?_, held⟩
      rw [List.append_nil, at?_cons, child, Option.bind_some, if_pos rfl]

/-- The root is alive when some branch that leaves it is. -/
theorem alive_nil (trie : Trie) : trie.Alive [] ↔ ∃ c, trie.Alive [c] := by
  constructor
  · rintro ⟨more, ids, found, held⟩
    cases more with
    | nil => cases found
    | cons c more => exact ⟨c, more, ids, found, held⟩
  · rintro ⟨c, more, ids, found, held⟩
    exact ⟨c :: more, ids, found, held⟩

/-- Pruning keeps the branches that are alive, with the tries below them pruned. -/
theorem child?_prune {trie : Trie} (ordered : trie.Ordered) (c : Char) :
    trie.prune.child? c =
      (trie.child? c).bind fun node =>
        if (Node.mk node.ids node.below.prune).isOrphaned then none
        else some ⟨node.ids, node.below.prune⟩ := by
  induction trie with
  | empty => rfl
  | branch char ids below beside _ ih =>
    rw [prune, regrow]
    by_cases same : c = char
    · subst same
      have gone : beside.prune.child? c = none := ordered.2.2.prune.child?_eq_none
      simp only [child?, if_true, Option.bind_some]
      split
      · exact gone
      · rw [child?, if_pos rfl]
    · simp only [child?, if_neg same, ← ih ordered.2.1]
      split
      · rfl
      · rw [child?, if_neg same]

/-- A pruned trie has a branch exactly when an id was held anywhere. -/
theorem isEmpty_prune {trie : Trie} (ordered : trie.Ordered) :
    trie.prune.isEmpty = false ↔ trie.Alive [] := by
  induction trie with
  | empty => simp [prune, isEmpty, not_alive_empty]
  | branch char ids below beside ihBelow ihBeside =>
    have here : (branch char ids below beside).Alive [char] ↔
        below.Alive [] ∨ ids.isEmpty = false := by
      rw [alive_cons]
      simp [child?]
    rw [prune, regrow]
    split
    next dead =>
      simp only [Node.isOrphaned, Bool.and_eq_true] at dead
      rw [ihBeside ordered.2.1, alive_nil, alive_nil]
      refine exists_congr fun c => ?_
      by_cases same : c = char
      · subst same
        rw [here, ← ihBelow ordered.1, dead.1, dead.2]
        simp only [Bool.true_eq_false, or_self, iff_false]
        rw [alive_cons, ordered.2.2.child?_eq_none]
        simp
      · rw [alive_cons, alive_cons, child?, if_neg same]
    next live =>
      simp only [isEmpty, true_iff]
      refine (alive_nil _).2 ⟨char, here.2 ?_⟩
      rw [Node.isOrphaned, Bool.not_eq_true, Bool.and_eq_false_iff] at live
      rw [← ihBelow ordered.1]
      exact live.symm

/-- Pruning leaves what is held at the paths that are alive. -/
theorem at?_prune_of_alive {trie : Trie} (ordered : trie.Ordered) {path : List Char}
    (alive : trie.Alive path) : trie.prune.at? path = trie.at? path := by
  induction path generalizing trie with
  | nil => rfl
  | cons c rest ih =>
    obtain ⟨node, child, live⟩ := (alive_cons trie c rest).1 alive
    have below : node.below.Ordered := ordered.of_child? child
    have kept : (Node.mk node.ids node.below.prune).isOrphaned = false := by
      rw [Node.isOrphaned, Bool.and_eq_false_iff]
      rcases live with live | ⟨rfl, held⟩
      · have : node.below.Alive [] := by
          obtain ⟨more, ids, found, held⟩ := live
          exact ⟨rest ++ more, ids, found, held⟩
        exact .inr ((isEmpty_prune below).2 this)
      · exact .inl held
    rw [at?_cons, child?_prune ordered, child, Option.bind_some, kept, at?_cons, child]
    simp only [Bool.false_eq_true, if_false, Option.bind_some]
    cases rest with
    | nil => rfl
    | cons d rest =>
      rw [if_neg (by simp), if_neg (by simp)]
      refine ih below ?_
      rcases live with live | ⟨nothing, _⟩
      · exact live
      · cases nothing

/-- Pruning takes away every path that is not alive. -/
theorem at?_prune_of_not_alive {trie : Trie} (ordered : trie.Ordered) {path : List Char}
    (dead : ¬trie.Alive path) : trie.prune.at? path = none := by
  induction path generalizing trie with
  | nil => rfl
  | cons c rest ih =>
    rw [at?_cons, child?_prune ordered]
    cases child : trie.child? c with
    | none => rfl
    | some node =>
      have below : node.below.Ordered := ordered.of_child? child
      have deadBelow : ¬(node.below.Alive rest ∨ rest = [] ∧ node.ids.isEmpty = false) :=
        fun live => dead ((alive_cons trie c rest).2 ⟨node, child, live⟩)
      rw [Option.bind_some]
      split
      · rfl
      next live =>
        rw [Option.bind_some]
        split
        next nothing =>
          subst nothing
          exfalso
          apply deadBelow
          rw [Node.isOrphaned, Bool.not_eq_true, Bool.and_eq_false_iff] at live
          exact live.symm.imp (isEmpty_prune below).1 fun held => ⟨rfl, held⟩
        next => exact ih below fun live => deadBelow (.inl live)

/-! ## Equal views -/

theorem at?_branch (char : Char) (ids : IdSet) (below beside : Trie) (rest : List Char) :
    (branch char ids below beside).at? (char :: rest) =
      if rest = [] then some ids else below.at? rest := by
  rw [at?_cons, child?, if_pos rfl, Option.bind_some]

theorem at?_branch_of_ne {c char : Char} (different : c ≠ char) (ids : IdSet)
    (below beside : Trie) (rest : List Char) :
    (branch char ids below beside).at? (c :: rest) = beside.at? (c :: rest) := by
  rw [at?_cons, child?, if_neg different, at?_cons]

theorem After.at?_eq_none {c : Char} {trie : Trie} (after : After c trie) (rest : List Char) :
    trie.at? (c :: rest) = none := by
  rw [at?_cons, after.child?_eq_none, Option.bind_none]

/-- Where two tries hold the same, neither begins before the other. -/
theorem not_lt_of_at?_eq {char other : Char} {ids otherIds : IdSet}
    {below otherBelow beside otherBeside : Trie}
    (ordered : (branch other otherIds otherBelow otherBeside).Ordered)
    (same : ∀ path, (branch char ids below beside).at? path =
      (branch other otherIds otherBelow otherBeside).at? path) : ¬char < other := by
  intro less
  have after : After char (branch other otherIds otherBelow otherBeside) :=
    ⟨less, ordered.2.2.of_lt less⟩
  have held := same [char]
  rw [at?_branch, if_pos rfl, after.at?_eq_none] at held
  cases held

/-- Ordered tries that hold the same at every path are the same trie. -/
theorem Ordered.ext {left right : Trie} (leftOrdered : left.Ordered) (rightOrdered : right.Ordered)
    (same : ∀ path, left.at? path = right.at? path) : left = right := by
  induction left generalizing right with
  | empty =>
    cases right with
    | empty => rfl
    | branch char ids below beside =>
      have held := same [char]
      rw [at?_branch, if_pos rfl] at held
      cases held
  | branch char ids below beside ihBelow ihBeside =>
    cases right with
    | empty =>
      have held := same [char]
      rw [at?_branch, if_pos rfl] at held
      cases held
    | branch other otherIds otherBelow otherBeside =>
      have heads : char = other :=
        Char.le_antisymm
          (Char.not_lt.1 (not_lt_of_at?_eq leftOrdered fun path => (same path).symm))
          (Char.not_lt.1 (not_lt_of_at?_eq rightOrdered same))
      subst heads
      have idsSame : ids = otherIds := by
        have held := same [char]
        rwa [at?_branch, if_pos rfl, at?_branch, if_pos rfl, Option.some.injEq] at held
      have belowSame : below = otherBelow := by
        refine ihBelow leftOrdered.1 rightOrdered.1 fun path => ?_
        cases path with
        | nil => rfl
        | cons c rest =>
          have held := same (char :: c :: rest)
          rwa [at?_branch, if_neg (by simp), at?_branch, if_neg (by simp)] at held
      have besideSame : beside = otherBeside := by
        refine ihBeside leftOrdered.2.1 rightOrdered.2.1 fun path => ?_
        cases path with
        | nil => rfl
        | cons c rest =>
          by_cases here : c = char
          · subst here
            rw [leftOrdered.2.2.at?_eq_none, rightOrdered.2.2.at?_eq_none]
          · have held := same (c :: rest)
            rwa [at?_branch_of_ne here, at?_branch_of_ne here] at held
      rw [idsSame, belowSame, besideSame]

end KeywordSearch.Trie
