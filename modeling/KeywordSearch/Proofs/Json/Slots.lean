import KeywordSearch.Proofs.Json.Canonical
import Mathlib.Data.List.Forall2

/-!
# Slots of records

A record is laid out as one slot for each of its fields.  The slot of a field holds the
value that the members of an object give to its name, if they give one
(`memberOf_eq_some_iff`).  Nothing else about the object matters, neither the order of
its members nor what it gives to other names (`slots_record_congr`).  An array that is
not too long has the slots of the object that gives its items to the fields in order
(`slots_array`).

A field takes values of one kind, and may be allowed to be missing.  It is filled if it is
given one value of its kind, or none where it may be missing (`Field.FilledBy`).
-/

set_option autoImplicit false

namespace KeywordSearch.Json

/-! ## What members give to names -/

variable {members left right : List (String × Value)} {name : String}

/-- The values that members give to a name, in order. -/
def given (members : List (String × Value)) (name : String) : List Value :=
  (members.filter fun member => member.1 == name).map Prod.snd

theorem given_cons_self (value : Value) (members : List (String × Value)) (name : String) :
    given ((name, value) :: members) name = value :: given members name := by
  simp [given]

theorem given_cons_of_ne {other : String} (differs : other ≠ name) (value : Value)
    (members : List (String × Value)) :
    given ((other, value) :: members) name = given members name := by
  simp [given, differs]

theorem given_of_notMem (unknown : name ∉ members.map Prod.fst) : given members name = [] := by
  rw [given, List.map_eq_nil_iff, List.filter_eq_nil_iff]
  intro member found same
  exact unknown (List.mem_map.2 ⟨member, found, beq_iff_eq.1 same⟩)

/-- A slot holds what members give to a name. -/
theorem memberOf_eq_some_iff {slot : Option Value} :
    memberOf members name = some slot ↔ given members name = slot.toList := by
  rw [memberOf, given]
  generalize members.filter (fun member => member.1 == name) = found
  rcases found with - | ⟨first, - | ⟨second, rest⟩⟩ <;> cases slot <;> simp

/-- The slots of a record hold what its members give to the names. -/
theorem membersOf_eq_some_iff {names : List String} {filled : List (Option Value)} :
    membersOf members names = some filled ↔
      List.Forall₂ (fun name slot => given members name = slot.toList) names filled := by
  induction names generalizing filled with
  | nil => simp [membersOf, eq_comm]
  | cons name names ih =>
    rw [membersOf]
    constructor
    · intro read
      split at read
      next slot slots first others =>
        cases read
        exact .cons (memberOf_eq_some_iff.1 first) (ih.1 others)
      next => cases read
    · intro each
      cases each with
      | cons first others => rw [memberOf_eq_some_iff.2 first, ih.2 others]

theorem slots_record (names : List String) (members : List (String × Value)) :
    slots names (record members) = membersOf members names := by
  rw [record_def, slots, named_spelled, Option.bind_some]

/-- What members give to a name is seen from the members with some names, if it is one of them. -/
theorem given_filter (members : List (String × Value)) {names : List String}
    (known : name ∈ names) :
    given (members.filter (·.1 ∈ names)) name = given members name := by
  rw [given, given, List.filter_filter]
  congr 1
  refine List.filter_congr fun member _ => ?_
  by_cases same : member.1 = name
  · simp [same, known]
  · simp [same]

theorem memberOf_congr (permuted : (given left name).Perm (given right name)) :
    memberOf left name = memberOf right name := by
  -- A slot holds one value at most, and so few values have one order.
  have alone {slot : Option Value} {values : List Value} :
      values = slot.toList ↔ values.Perm slot.toList := by
    cases slot <;> simp
  refine Option.ext fun slot => ?_
  rw [memberOf_eq_some_iff, memberOf_eq_some_iff, alone, alone]
  exact ⟨permuted.symm.trans, permuted.trans⟩

theorem membersOf_congr {names : List String}
    (alike : ∀ name ∈ names, memberOf left name = memberOf right name) :
    membersOf left names = membersOf right names := by
  induction names with
  | nil => rfl
  | cons name names ih =>
    rw [membersOf, membersOf, alike name List.mem_cons_self,
      ih fun other later => alike other (List.mem_cons_of_mem _ later)]

/-- **The slots of a record depend neither on the order of its members nor on those with other
names.** -/
theorem slots_record_congr {names : List String}
    (permuted : (left.filter (·.1 ∈ names)).Perm (right.filter (·.1 ∈ names))) :
    slots names (record left) = slots names (record right) := by
  rw [slots_record, slots_record]
  refine membersOf_congr fun name known => memberOf_congr ?_
  rw [← given_filter left known, ← given_filter right known]
  exact (permuted.filter fun member => member.1 == name).map Prod.snd

/-! ## Values in order -/

theorem inOrder_nil (names : List String) : inOrder [] names = some (names.map fun _ => none) := by
  cases names <;> rfl

theorem inOrder_eq_none {names : List String} {items : List Value}
    (tooMany : names.length < items.length) : inOrder items names = none := by
  induction names generalizing items with
  | nil =>
    cases items with
    | nil => cases tooMany
    | cons item items => rfl
  | cons name names ih =>
    cases items with
    | nil => cases tooMany
    | cons item items => rw [inOrder, ih (Nat.lt_of_succ_lt_succ tooMany), Option.map_none]

theorem membersOf_nil (names : List String) :
    membersOf [] names = some (names.map fun _ => none) := by
  induction names with
  | nil => rfl
  | cons name names ih =>
    rw [membersOf, ih]
    rfl

/-- Values in the order of different names are what the object gives that has them under
these names. -/
theorem membersOf_zip {names : List String} (distinct : names.Nodup) {items : List Value}
    (enough : items.length ≤ names.length) :
    membersOf (names.zip items) names = inOrder items names := by
  induction names generalizing items with
  | nil =>
    obtain rfl := List.eq_nil_of_length_eq_zero (Nat.le_zero.1 enough)
    rfl
  | cons name names ih =>
    cases items with
    | nil => rw [List.zip_nil_right, membersOf_nil, inOrder_nil]
    | cons item items =>
      obtain ⟨fresh, distinctRest⟩ := List.nodup_cons.1 distinct
      have unknown : name ∉ (names.zip items).map Prod.fst := by
        intro member
        obtain ⟨pair, zipped, rfl⟩ := List.mem_map.1 member
        exact fresh (List.of_mem_zip zipped).1
      have here : memberOf ((name, item) :: names.zip items) name = some (some item) := by
        rw [memberOf_eq_some_iff, given_cons_self, given_of_notMem unknown]
        rfl
      have later : membersOf ((name, item) :: names.zip items) names =
          membersOf (names.zip items) names := by
        refine membersOf_congr fun other known => memberOf_congr ?_
        have differs : name ≠ other := fun same => fresh (same ▸ known)
        rw [given_cons_of_ne differs]
      have rest := ih distinctRest (Nat.le_of_succ_le_succ enough)
      rw [List.zip_cons_cons, membersOf, here, later, rest, inOrder]
      cases inOrder items names <;> rfl

/-- **An array has the slots of the object that gives its items to the fields in order**, if it has
no more items than there are fields. -/
theorem slots_array {names : List String} (distinct : names.Nodup) {items : List Value}
    (enough : items.length ≤ names.length) :
    slots names (.array items) = slots names (record (names.zip items)) := by
  rw [slots_record, membersOf_zip distinct enough, slots]

/-- Members whose names are strings are those names with their values. -/
theorem eq_spelled_of_named {written : List (List Piece × Value)}
    (strings : named written = some members) : written = spelled members := by
  induction written generalizing members with
  | nil =>
    cases strings
    rfl
  | cons first written ih =>
    obtain ⟨pieces, value⟩ := first
    rw [named] at strings
    split at strings
    next name others whole known =>
      cases strings
      obtain ⟨chars, plainly, rfl⟩ := Option.map_eq_some_iff.1 whole
      rw [spelled_cons, ← ih known, Piece.eq_map_char plainly, Piece.ofString,
        String.toList_ofList]
    next => cases strings

/-- What has slots is an object all of whose names are strings, or an array that is not too
long. -/
theorem exists_of_slots {names : List String} {value : Value} {filled : List (Option Value)}
    (read : slots names value = some filled) :
    (∃ members, value = record members) ∨
      ∃ items, value = .array items ∧ items.length ≤ names.length := by
  cases value with
  | object written =>
    obtain ⟨members, strings, -⟩ := Option.bind_eq_some_iff.1 read
    exact .inl ⟨members, congrArg Value.object (eq_spelled_of_named strings)⟩
  | array items =>
    refine .inr ⟨items, rfl, ?_⟩
    by_contra tooMany
    rw [slots, inOrder_eq_none (Nat.lt_of_not_le tooMany)] at read
    cases read
  | _ => cases read

/-! ## Fields -/

/-- A field of a record: its name, whether it may be missing, and the kind of value that it
takes. -/
structure Field where
  name : String
  optional : Bool
  kind : Value → Prop

/-- Members give a field what it takes: one value of its kind, or none if it may be missing. -/
def Field.FilledBy (field : Field) (members : List (String × Value)) : Prop :=
  (∃ value, given members field.name = [value] ∧ field.kind value) ∨
    given members field.name = [] ∧ field.optional = true

/-- Values are what fields take, in order, and the fields behind them may be missing. -/
def FillsInOrder (items : List Value) (fields : List Field) : Prop :=
  items.length ≤ fields.length ∧ (∀ pair ∈ fields.zip items, pair.1.kind pair.2) ∧
    ∀ field ∈ fields.drop items.length, field.optional = true

theorem filledBy_cons_self {field : Field} {value : Value}
    (fresh : field.name ∉ members.map Prod.fst) :
    field.FilledBy ((field.name, value) :: members) ↔ field.kind value := by
  rw [Field.FilledBy, given_cons_self, given_of_notMem fresh]
  simp

theorem filledBy_cons_of_ne {field : Field} {other : String} (differs : other ≠ field.name)
    (value : Value) : field.FilledBy ((other, value) :: members) ↔ field.FilledBy members := by
  rw [Field.FilledBy, Field.FilledBy, given_cons_of_ne differs]

/-- Values fill fields in order just if the object fills them that gives them to the fields. -/
theorem forall_filledBy_zip {fields : List Field} (distinct : (fields.map Field.name).Nodup)
    {items : List Value} (enough : items.length ≤ fields.length) :
    (∀ field ∈ fields, field.FilledBy ((fields.map Field.name).zip items)) ↔
      FillsInOrder items fields := by
  rw [FillsInOrder, and_iff_right enough]
  induction fields generalizing items with
  | nil => simp
  | cons field fields ih =>
    cases items with
    | nil => simp [Field.FilledBy, given]
    | cons item items =>
      obtain ⟨fresh, distinctRest⟩ := List.nodup_cons.1 distinct
      have unknown : field.name ∉ ((fields.map Field.name).zip items).map Prod.fst := by
        intro member
        obtain ⟨pair, zipped, same⟩ := List.mem_map.1 member
        exact fresh (same ▸ (List.of_mem_zip zipped).1)
      have others : (∀ other ∈ fields, other.FilledBy
          ((field.name, item) :: (fields.map Field.name).zip items)) ↔
            ∀ other ∈ fields, other.FilledBy ((fields.map Field.name).zip items) := by
        refine forall₂_congr fun other later => filledBy_cons_of_ne ?_ item
        exact fun same => fresh (same ▸ List.mem_map_of_mem later)
      rw [List.map_cons, List.zip_cons_cons, List.zip_cons_cons, List.forall_mem_cons,
        List.forall_mem_cons, List.length_cons, List.drop_succ_cons, filledBy_cons_self unknown,
        others, ih distinctRest (Nat.le_of_succ_le_succ enough), and_assoc]

end KeywordSearch.Json
