import KeywordSearch.Proofs.Json.Reading

/-!
# Ids, entries, previews and updates read back

A record is written with the members it has something to say in, in the order of
its fields.  Whatever members are left out, each field finds its own slot when
the record is read: filled where the member is there, empty where it is not.
So nothing is lost between writing and reading, and a field that is left out is
not mistaken for one that holds its default.
-/

set_option autoImplicit false

namespace KeywordSearch.Json

/-! ## The slots of a record -/

/-- The members that a record is written with, given what each field holds. -/
def present (fields : List (String × Option Value)) : List (String × Value) :=
  fields.filterMap fun (name, slot) => slot.map (name, ·)

theorem named_spelled (members : List (String × Value)) :
    named (spelled members) = some members := by
  induction members with
  | nil => rfl
  | cons member members ih => simp only [spelled_cons, named, Piece.string?_ofString, ih]

theorem name_of_mem_present {fields : List (String × Option Value)} {member : String × Value}
    (found : member ∈ present fields) : member.1 ∈ fields.map Prod.fst := by
  simp only [present, List.mem_filterMap, Option.map_eq_some_iff] at found
  obtain ⟨field, inside, _, _, rfl⟩ := found
  exact List.mem_map_of_mem inside

theorem filter_present_of_notMem {fields : List (String × Option Value)} {name : String}
    (unknown : name ∉ fields.map Prod.fst) :
    (present fields).filter (fun member => member.1 == name) = [] := by
  refine List.filter_eq_nil_iff.2 fun member found => ?_
  simp only [beq_iff_eq]
  rintro rfl
  exact unknown (name_of_mem_present found)

/-- What is given under the name of a field is what the field holds. -/
theorem memberOf_present {fields : List (String × Option Value)}
    (distinct : (fields.map Prod.fst).Nodup) {field : String × Option Value}
    (inside : field ∈ fields) : memberOf (present fields) field.1 = some field.2 := by
  induction fields with
  | nil => cases inside
  | cons first fields ih =>
    obtain ⟨name, slot⟩ := first
    obtain ⟨fresh, distinctRest⟩ := List.nodup_cons.1 distinct
    cases inside with
    | head =>
      have others := filter_present_of_notMem fresh
      simp only [present] at others
      cases slot <;> simp [memberOf, present, others]
    | tail _ later =>
      have differs : name ≠ field.1 := fun same =>
        fresh (List.mem_map.2 ⟨field, later, same.symm⟩)
      rw [← ih distinctRest later]
      cases slot <;> simp [memberOf, present, differs]

theorem membersOf_eq {members : List (String × Value)} {fields : List (String × Option Value)}
    (each : ∀ field ∈ fields, memberOf members field.1 = some field.2) :
    membersOf members (fields.map Prod.fst) = some (fields.map Prod.snd) := by
  induction fields with
  | nil => rfl
  | cons field fields ih =>
    have others := ih fun other later => each other (List.mem_cons_of_mem _ later)
    simp only [List.map_cons, membersOf, each field List.mem_cons_self, others]

/-- **The slots of a record are what its fields hold**, if no two fields share a name. -/
theorem slots_present (fields : List (String × Option Value))
    (distinct : (fields.map Prod.fst).Nodup) :
    slots (fields.map Prod.fst) (record (present fields)) = some (fields.map Prod.snd) := by
  rw [record_def, slots, named_spelled, Option.bind_some]
  exact membersOf_eq fun field => memberOf_present distinct

/-! ## Forms that are read back -/

/-- What a thing is written as is read back as the thing itself, and is not null. -/
class LawfulFormat (α : Type) [Format α] : Prop where
  plain (item : α) : (toValue item).Plain
  ofValue_toValue (item : α) : ofValue (toValue item) = some item
  toValue_ne_null (item : α) : toValue item ≠ .null

export LawfulFormat (plain ofValue_toValue toValue_ne_null)

attribute [simp] ofValue_toValue

theorem read_encode {α : Type} [Format α] [LawfulFormat α] (item : α) :
    read (encode item).toList = some (toValue item) := by
  rw [encode, String.toList_ofList, read_write (plain item)]

/-- A thing is read back from its text. -/
theorem decode_encode {α : Type} [Format α] [LawfulFormat α] (item : α) :
    decode α (encode item) = some item := by
  rw [decode, read_encode, Option.bind_some, ofValue_toValue]

instance : LawfulFormat Bool where
  plain := .boolean
  ofValue_toValue _ := rfl
  toValue_ne_null _ := nofun

instance : LawfulFormat String where
  plain := .text
  ofValue_toValue := Piece.string?_ofString
  toValue_ne_null _ := nofun

instance : LawfulFormat EntryId where
  plain id := .natural id.value.toNat
  ofValue_toValue id := by
    have fits : id.value.toNat < UInt64.size := id.value.toNat_lt
    simp [toValue, ofValue, fits]
  toValue_ne_null _ := nofun

section

variable {α : Type} [Format α] [LawfulFormat α]

theorem ofValues_map_toValue (items : List α) : ofValues (items.map toValue) = some items := by
  induction items with
  | nil => rfl
  | cons item items ih => simp only [List.map_cons, ofValues, ofValue_toValue, ih]

instance : LawfulFormat (List α) where
  plain items := .array fun value written => by
    obtain ⟨item, _, rfl⟩ := List.mem_map.1 written
    exact plain item
  ofValue_toValue := ofValues_map_toValue
  toValue_ne_null _ := nofun

@[simp] theorem required_some (item : α) : required (some (toValue item)) = some item :=
  ofValue_toValue item

@[simp] theorem defaulted_some (default item : α) :
    defaulted default (some (toValue item)) = some item :=
  ofValue_toValue item

theorem plain_of_mem_map (slot : Option α) : ∀ value ∈ slot.map toValue, value.Plain := by
  intro value filled
  obtain ⟨item, _, rfl⟩ := Option.map_eq_some_iff.1 filled
  exact plain item

/-- A slot that may be empty is read back, empty or not. -/
@[simp] theorem nullable_map (slot : Option α) : nullable (slot.map toValue) = some slot := by
  cases slot with
  | none => rfl
  | some item =>
    rw [Option.map_some, nullable, ofNullable, ofValue_toValue, Option.map_some]
    exact toValue_ne_null item

end

/-! ## Entries, previews and updates -/

theorem plain_record (fields : List (String × Option Value))
    (each : ∀ field ∈ fields, ∀ value ∈ field.2, value.Plain) :
    (record (present fields)).Plain := by
  refine .object fun member found => ?_
  simp only [present, List.mem_filterMap, Option.map_eq_some_iff] at found
  obtain ⟨field, inside, value, filled, rfl⟩ := found
  exact each field inside value filled

/-- What the fields of an entry hold. -/
def entryContents (entry : Entry) : List (String × Option Value) := [
  ("id", some (toValue entry.id)), ("question", some (toValue entry.question)),
  ("answer", some (toValue entry.answer)), ("keywords", some (toValue entry.keywords)),
  ("active", some (toValue entry.active))]

instance : LawfulFormat Entry where
  plain entry := plain_record (entryContents entry) (by simp [entryContents, plain])
  ofValue_toValue entry := by
    have distinct : entryFields.Nodup := by decide
    have filled : slots entryFields (toValue entry) = some ((entryContents entry).map Prod.snd) :=
      slots_present (entryContents entry) distinct
    simp [ofValue, filled, entryContents]
  toValue_ne_null _ := nofun

/-- What the fields of a preview hold. -/
def previewContents (preview : Preview) : List (String × Option Value) := [
  ("id", some (toValue preview.id)), ("question", some (toValue preview.question)),
  ("active", some (toValue preview.active))]

instance : LawfulFormat Preview where
  plain preview := plain_record (previewContents preview) (by simp [previewContents, plain])
  ofValue_toValue preview := by
    have distinct : previewFields.Nodup := by decide
    have filled :
        slots previewFields (toValue preview) = some ((previewContents preview).map Prod.snd) :=
      slots_present (previewContents preview) distinct
    simp [ofValue, filled, previewContents]
  toValue_ne_null _ := nofun

/-- What the fields of an update hold. -/
def updateContents (update : Update) : List (String × Option Value) := [
  ("question", update.question.map toValue), ("answer", update.answer.map toValue),
  ("keywords", update.keywords.map toValue), ("active", update.active.map toValue)]

theorem memberIfAny_append_present {α : Type} [Format α] (name : String) (slot : Option α)
    (fields : List (String × Option Value)) :
    memberIfAny name slot ++ present fields = present ((name, slot.map toValue) :: fields) := by
  cases slot <;> rfl

theorem toValue_update (update : Update) :
    toValue update = record (present (updateContents update)) := by
  simp only [updateContents, ← memberIfAny_append_present]
  simp [toValue, present]

instance : LawfulFormat Update where
  plain update := by
    rw [toValue_update]
    refine plain_record (updateContents update) ?_
    simp only [updateContents, List.forall_mem_cons]
    exact ⟨plain_of_mem_map _, plain_of_mem_map _, plain_of_mem_map _, plain_of_mem_map _, nofun⟩
  ofValue_toValue update := by
    have distinct : updateFields.Nodup := by decide
    have filled :
        slots updateFields (toValue update) = some ((updateContents update).map Prod.snd) := by
      rw [toValue_update]
      exact slots_present (updateContents update) distinct
    simp [ofValue, filled, updateContents]
  toValue_ne_null _ := nofun

/-! ## The round trip -/

/-- The names of the fields that an update changes, in order. -/
def changedFields (update : Update) : List String :=
  (if update.question.isSome then ["question"] else [])
    ++ (if update.answer.isSome then ["answer"] else [])
    ++ (if update.keywords.isSome then ["keywords"] else [])
    ++ (if update.active.isSome then ["active"] else [])

theorem map_fst_memberIfAny {α : Type} [Format α] (name : String) (slot : Option α) :
    (memberIfAny name slot).map Prod.fst = if slot.isSome then [name] else [] := by
  cases slot <;> rfl

/-- The text of a thing is an object whose members have given names, in order. -/
def HasMembers {α : Type} [Format α] (item : α) (names : List String) : Prop :=
  ∃ members, read (encode item).toList = some (record members) ∧ members.map Prod.fst = names

theorem hasMembers_of_toValue {α : Type} [Format α] [LawfulFormat α] {item : α}
    (members : List (String × Value)) (written : toValue item = record members) :
    HasMembers item (members.map Prod.fst) :=
  ⟨members, written ▸ read_encode item, rfl⟩

/-- The text of an update has one member for each field that it changes. -/
theorem hasMembers_update (update : Update) : HasMembers update (changedFields update) := by
  have names : (present (updateContents update)).map Prod.fst = changedFields update := by
    simp only [updateContents, ← memberIfAny_append_present, List.map_append, map_fst_memberIfAny,
      changedFields]
    simp [present]
  exact names ▸ hasMembers_of_toValue _ (toValue_update update)

/-- **Ids, previews, entries and updates are read back from their texts.**  An id is
written as its digits alone.  A preview and an entry are written with all of their
fields, and an update with those that it changes. -/
theorem decode_encode_all :
    (∀ id : EntryId, decode EntryId (encode id) = some id ∧ encode id = id.text) ∧
    (∀ preview : Preview, decode Preview (encode preview) = some preview ∧
      HasMembers preview previewFields) ∧
    (∀ entry : Entry, decode Entry (encode entry) = some entry ∧ HasMembers entry entryFields) ∧
    ∀ update : Update, decode Update (encode update) = some update ∧
      HasMembers update (changedFields update) := by
  refine ⟨fun id => ⟨decode_encode id, rfl⟩, fun preview => ⟨decode_encode preview, ?_⟩,
    fun entry => ⟨decode_encode entry, ?_⟩,
    fun update => ⟨decode_encode update, hasMembers_update update⟩⟩
  · exact hasMembers_of_toValue (present (previewContents preview)) rfl
  · exact hasMembers_of_toValue (present (entryContents entry)) rfl

example : encode ({ answer := some "Say \"ink\"", active := some false } : Update) =
    "\x7b\"answer\":\"Say \\\"ink\\\"\",\"active\":false\x7d" := by decide

end KeywordSearch.Json
