import KeywordSearch.Proofs.Json.Slots

/-!
# What is accepted as a record

The forms of entries, previews and updates are tables of fields (`entryForm` and those
next to it).  An object is accepted just if each of these fields is filled, and is then
read as the thing whose fields its members give.  An array is accepted if its items are
values for the fields in order, from the first on, and if all the fields behind them may
be missing; it is read as the object that gives these values to the fields.  Nothing else
is accepted (`AcceptedAs`).

That this is so follows for any type that is read through the slots of its fields
(`acceptedAs`), and so holds of all three (`accepted_records`).
-/

set_option autoImplicit false

namespace KeywordSearch.Json

variable {members : List (String × Value)} {name : String}

/-! ## What fields are read as -/

section

variable {α : Type} [Format α] [CanonicalFormat α]

/-- Members give a thing to a name, or nothing, which stands for a default. -/
def GivesOr (default : α) (members : List (String × Value)) (name : String) (item : α) : Prop :=
  given members name = [toValue item] ∨ given members name = [] ∧ item = default

/-- Members give a thing to a name or, where there is none, nothing or null. -/
def GivesPerhaps (members : List (String × Value)) (name : String) : Option α → Prop
  | some item => given members name = [toValue item]
  | none => given members name = [] ∨ given members name = [.null]

theorem exists_required_iff {item : α} :
    (∃ slot, given members name = slot.toList ∧ required slot = some item) ↔
      given members name = [toValue item] := by
  constructor
  · rintro ⟨slot, gives, read⟩
    obtain ⟨value, rfl, read⟩ := Option.bind_eq_some_iff.1 read
    rw [gives, ofValue_eq_some_iff.1 read]
    rfl
  · intro gives
    exact ⟨some (toValue item), gives, required_some item⟩

theorem exists_defaulted_iff {default item : α} :
    (∃ slot, given members name = slot.toList ∧ defaulted default slot = some item) ↔
      GivesOr default members name item := by
  constructor
  · rintro ⟨slot, gives, read⟩
    cases slot with
    | none => exact .inr ⟨gives, (Option.some.inj read).symm⟩
    | some value =>
      obtain rfl : value = toValue item := ofValue_eq_some_iff.1 read
      exact .inl gives
  · rintro (gives | ⟨gives, rfl⟩)
    · exact ⟨some (toValue item), gives, defaulted_some default item⟩
    · exact ⟨none, gives, rfl⟩

theorem exists_nullable_iff {item : Option α} :
    (∃ slot, given members name = slot.toList ∧ nullable slot = some item) ↔
      GivesPerhaps members name item := by
  constructor
  · rintro ⟨slot, gives, read⟩
    cases slot with
    | none =>
      cases read
      exact .inl gives
    | some value =>
      rw [nullable, ofNullable.eq_def] at read
      split at read
      next =>
        cases read
        exact .inr gives
      next =>
        obtain ⟨other, readOther, rfl⟩ := Option.map_eq_some_iff.1 read
        obtain rfl : value = toValue other := ofValue_eq_some_iff.1 readOther
        exact gives
  · intro gives
    cases item with
    | none =>
      rcases gives with missing | null
      · exact ⟨none, missing, rfl⟩
      · exact ⟨some .null, null, rfl⟩
    | some item => exact ⟨some (toValue item), gives, nullable_map (some item)⟩

end

/-! ## Entries, previews and updates -/

/-- The fields of an entry: keywords and the mark that it is active may be missing. -/
def entryForm : List Field := [
  ⟨"id", false, Value.IsId⟩, ⟨"question", false, Value.IsString⟩,
  ⟨"answer", false, Value.IsString⟩, ⟨"keywords", true, Value.IsStrings⟩,
  ⟨"active", true, Value.IsBoolean⟩]

/-- The fields of a preview, none of which may be missing. -/
def previewForm : List Field := [
  ⟨"id", false, Value.IsId⟩, ⟨"question", false, Value.IsString⟩,
  ⟨"active", false, Value.IsBoolean⟩]

/-- The fields of an update, all of which may be missing, or null. -/
def updateForm : List Field := [
  ⟨"question", true, Value.OrNull Value.IsString⟩, ⟨"answer", true, Value.OrNull Value.IsString⟩,
  ⟨"keywords", true, Value.OrNull Value.IsStrings⟩, ⟨"active", true, Value.OrNull Value.IsBoolean⟩]

/-- Members give the fields of an entry.  Missing keywords are none, and an entry that is not said
to be inactive is active. -/
structure GivesEntry (members : List (String × Value)) (entry : Entry) : Prop where
  id : given members "id" = [toValue entry.id]
  question : given members "question" = [toValue entry.question]
  answer : given members "answer" = [toValue entry.answer]
  keywords : GivesOr [] members "keywords" entry.keywords
  active : GivesOr true members "active" entry.active

/-- Members give the fields of a preview. -/
structure GivesPreview (members : List (String × Value)) (preview : Preview) : Prop where
  id : given members "id" = [toValue preview.id]
  question : given members "question" = [toValue preview.question]
  active : given members "active" = [toValue preview.active]

/-- Members give the fields of an update.  What is missing or null is not changed. -/
structure GivesUpdate (members : List (String × Value)) (update : Update) : Prop where
  question : GivesPerhaps members "question" update.question
  answer : GivesPerhaps members "answer" update.answer
  keywords : GivesPerhaps members "keywords" update.keywords
  active : GivesPerhaps members "active" update.active

/-- An entry is read from what the slots of its fields hold. -/
theorem ofValue_entry_iff {value : Value} {entry : Entry} :
    ofValue value = some entry ↔ ∃ id question answer keywords active,
      slots entryFields value = some [id, question, answer, keywords, active] ∧
      required id = some entry.id ∧ required question = some entry.question ∧
      required answer = some entry.answer ∧ defaulted [] keywords = some entry.keywords ∧
      defaulted true active = some entry.active := by
  simp only [ofValue]
  constructor
  · intro read
    split at read
    next filled =>
      simp only [Option.bind_eq_bind, Option.bind_eq_some_iff, Option.some.injEq] at read
      obtain ⟨_, id, _, question, _, answer, _, keywords, _, active, rfl⟩ := read
      exact ⟨_, _, _, _, _, filled, id, question, answer, keywords, active⟩
    next => cases read
  · rintro ⟨_, _, _, _, _, filled, id, question, answer, keywords, active⟩
    simp only [filled, id, question, answer, keywords, active]
    rfl

theorem ofValue_preview_iff {value : Value} {preview : Preview} :
    ofValue value = some preview ↔ ∃ id question active,
      slots previewFields value = some [id, question, active] ∧
      required id = some preview.id ∧ required question = some preview.question ∧
      required active = some preview.active := by
  simp only [ofValue]
  constructor
  · intro read
    split at read
    next filled =>
      simp only [Option.bind_eq_bind, Option.bind_eq_some_iff, Option.some.injEq] at read
      obtain ⟨_, id, _, question, _, active, rfl⟩ := read
      exact ⟨_, _, _, filled, id, question, active⟩
    next => cases read
  · rintro ⟨_, _, _, filled, id, question, active⟩
    simp only [filled, id, question, active]
    rfl

theorem ofValue_update_iff {value : Value} {update : Update} :
    ofValue value = some update ↔ ∃ question answer keywords active,
      slots updateFields value = some [question, answer, keywords, active] ∧
      nullable question = some update.question ∧ nullable answer = some update.answer ∧
      nullable keywords = some update.keywords ∧ nullable active = some update.active := by
  simp only [ofValue]
  constructor
  · intro read
    split at read
    next filled =>
      simp only [Option.bind_eq_bind, Option.bind_eq_some_iff, Option.some.injEq] at read
      obtain ⟨_, question, _, answer, _, keywords, _, active, rfl⟩ := read
      exact ⟨_, _, _, _, filled, question, answer, keywords, active⟩
    next => cases read
  · rintro ⟨_, _, _, _, filled, question, answer, keywords, active⟩
    simp only [filled, question, answer, keywords, active]
    rfl

/-- A record is read as an entry just if its members give the fields of the entry. -/
theorem ofValue_record_entry {entry : Entry} :
    ofValue (record members) = some entry ↔ GivesEntry members entry := by
  simp only [ofValue_entry_iff, slots_record, membersOf_eq_some_iff, entryFields,
    List.forall₂_cons]
  constructor
  · rintro ⟨_, _, _, _, _, ⟨idGiven, questionGiven, answerGiven, keywordsGiven, activeGiven, -⟩,
      id, question, answer, keywords, active⟩
    exact ⟨exists_required_iff.1 ⟨_, idGiven, id⟩,
      exists_required_iff.1 ⟨_, questionGiven, question⟩,
      exists_required_iff.1 ⟨_, answerGiven, answer⟩,
      exists_defaulted_iff.1 ⟨_, keywordsGiven, keywords⟩,
      exists_defaulted_iff.1 ⟨_, activeGiven, active⟩⟩
  · rintro ⟨id, question, answer, keywords, active⟩
    obtain ⟨_, idGiven, id⟩ := exists_required_iff.2 id
    obtain ⟨_, questionGiven, question⟩ := exists_required_iff.2 question
    obtain ⟨_, answerGiven, answer⟩ := exists_required_iff.2 answer
    obtain ⟨_, keywordsGiven, keywords⟩ := exists_defaulted_iff.2 keywords
    obtain ⟨_, activeGiven, active⟩ := exists_defaulted_iff.2 active
    exact ⟨_, _, _, _, _,
      ⟨idGiven, questionGiven, answerGiven, keywordsGiven, activeGiven, .nil⟩,
      id, question, answer, keywords, active⟩

/-- A record is read as a preview just if its members give the fields of the preview. -/
theorem ofValue_record_preview {preview : Preview} :
    ofValue (record members) = some preview ↔ GivesPreview members preview := by
  simp only [ofValue_preview_iff, slots_record, membersOf_eq_some_iff, previewFields,
    List.forall₂_cons]
  constructor
  · rintro ⟨_, _, _, ⟨idGiven, questionGiven, activeGiven, -⟩, id, question, active⟩
    exact ⟨exists_required_iff.1 ⟨_, idGiven, id⟩,
      exists_required_iff.1 ⟨_, questionGiven, question⟩,
      exists_required_iff.1 ⟨_, activeGiven, active⟩⟩
  · rintro ⟨id, question, active⟩
    obtain ⟨_, idGiven, id⟩ := exists_required_iff.2 id
    obtain ⟨_, questionGiven, question⟩ := exists_required_iff.2 question
    obtain ⟨_, activeGiven, active⟩ := exists_required_iff.2 active
    exact ⟨_, _, _, ⟨idGiven, questionGiven, activeGiven, .nil⟩, id, question, active⟩

/-- A record is read as an update just if its members give the fields of the update. -/
theorem ofValue_record_update {update : Update} :
    ofValue (record members) = some update ↔ GivesUpdate members update := by
  simp only [ofValue_update_iff, slots_record, membersOf_eq_some_iff, updateFields,
    List.forall₂_cons]
  constructor
  · rintro ⟨_, _, _, _, ⟨questionGiven, answerGiven, keywordsGiven, activeGiven, -⟩,
      question, answer, keywords, active⟩
    exact ⟨exists_nullable_iff.1 ⟨_, questionGiven, question⟩,
      exists_nullable_iff.1 ⟨_, answerGiven, answer⟩,
      exists_nullable_iff.1 ⟨_, keywordsGiven, keywords⟩,
      exists_nullable_iff.1 ⟨_, activeGiven, active⟩⟩
  · rintro ⟨question, answer, keywords, active⟩
    obtain ⟨_, questionGiven, question⟩ := exists_nullable_iff.2 question
    obtain ⟨_, answerGiven, answer⟩ := exists_nullable_iff.2 answer
    obtain ⟨_, keywordsGiven, keywords⟩ := exists_nullable_iff.2 keywords
    obtain ⟨_, activeGiven, active⟩ := exists_nullable_iff.2 active
    exact ⟨_, _, _, _, ⟨questionGiven, answerGiven, keywordsGiven, activeGiven, .nil⟩,
      question, answer, keywords, active⟩

/-! ## Which records are accepted -/

section

variable {α : Type} [Format α] {kind : Value → Prop}

theorem exists_gives_iff (kinds : ∀ value, kind value ↔ ∃ item : α, value = toValue item) :
    (∃ item : α, given members name = [toValue item]) ↔
      Field.FilledBy ⟨name, false, kind⟩ members := by
  rw [Field.FilledBy]
  constructor
  · rintro ⟨item, gives⟩
    exact .inl ⟨toValue item, gives, (kinds _).2 ⟨item, rfl⟩⟩
  · rintro (⟨value, gives, suits⟩ | ⟨-, required⟩)
    · obtain ⟨item, rfl⟩ := (kinds value).1 suits
      exact ⟨item, gives⟩
    · cases required

theorem exists_givesOr_iff (kinds : ∀ value, kind value ↔ ∃ item : α, value = toValue item)
    (default : α) :
    (∃ item, GivesOr default members name item) ↔
      Field.FilledBy ⟨name, true, kind⟩ members := by
  rw [Field.FilledBy]
  constructor
  · rintro ⟨item, gives | ⟨missing, -⟩⟩
    · exact .inl ⟨toValue item, gives, (kinds _).2 ⟨item, rfl⟩⟩
    · exact .inr ⟨missing, rfl⟩
  · rintro (⟨value, gives, suits⟩ | ⟨missing, -⟩)
    · obtain ⟨item, rfl⟩ := (kinds value).1 suits
      exact ⟨item, .inl gives⟩
    · exact ⟨default, .inr ⟨missing, rfl⟩⟩

theorem exists_givesPerhaps_iff (kinds : ∀ value, kind value ↔ ∃ item : α, value = toValue item) :
    (∃ item : Option α, GivesPerhaps members name item) ↔
      Field.FilledBy ⟨name, true, Value.OrNull kind⟩ members := by
  rw [Field.FilledBy]
  constructor
  · rintro ⟨- | item, gives⟩
    · rcases gives with missing | null
      · exact .inr ⟨missing, rfl⟩
      · exact .inl ⟨.null, null, .inl rfl⟩
    · exact .inl ⟨toValue item, gives, .inr ((kinds _).2 ⟨item, rfl⟩)⟩
  · rintro (⟨value, gives, rfl | suits⟩ | ⟨missing, -⟩)
    · exact ⟨none, .inr gives⟩
    · obtain ⟨item, rfl⟩ := (kinds value).1 suits
      exact ⟨some item, gives⟩
    · exact ⟨none, .inl missing⟩

end

theorem exists_givesEntry_iff :
    (∃ entry, GivesEntry members entry) ↔ ∀ field ∈ entryForm, field.FilledBy members := by
  simp only [entryForm, List.forall_mem_cons, ← exists_gives_iff fun _ => isId_iff,
    ← exists_gives_iff fun _ => isString_iff, ← exists_givesOr_iff (fun _ => isStrings_iff) [],
    ← exists_givesOr_iff (fun _ => isBoolean_iff) true]
  constructor
  · rintro ⟨entry, id, question, answer, keywords, active⟩
    exact ⟨⟨_, id⟩, ⟨_, question⟩, ⟨_, answer⟩, ⟨_, keywords⟩, ⟨_, active⟩, List.forall_mem_nil _⟩
  · rintro ⟨⟨id, hasId⟩, ⟨question, hasQuestion⟩, ⟨answer, hasAnswer⟩, ⟨keywords, hasKeywords⟩,
      ⟨active, hasActive⟩, -⟩
    exact ⟨⟨id, question, answer, keywords, active⟩,
      ⟨hasId, hasQuestion, hasAnswer, hasKeywords, hasActive⟩⟩

theorem exists_givesPreview_iff :
    (∃ preview, GivesPreview members preview) ↔ ∀ field ∈ previewForm, field.FilledBy members := by
  simp only [previewForm, List.forall_mem_cons, ← exists_gives_iff fun _ => isId_iff,
    ← exists_gives_iff fun _ => isString_iff, ← exists_gives_iff fun _ => isBoolean_iff]
  constructor
  · rintro ⟨preview, id, question, active⟩
    exact ⟨⟨_, id⟩, ⟨_, question⟩, ⟨_, active⟩, List.forall_mem_nil _⟩
  · rintro ⟨⟨id, hasId⟩, ⟨question, hasQuestion⟩, ⟨active, hasActive⟩, -⟩
    exact ⟨⟨id, question, active⟩, ⟨hasId, hasQuestion, hasActive⟩⟩

theorem exists_givesUpdate_iff :
    (∃ update, GivesUpdate members update) ↔ ∀ field ∈ updateForm, field.FilledBy members := by
  simp only [updateForm, List.forall_mem_cons, ← exists_givesPerhaps_iff fun _ => isString_iff,
    ← exists_givesPerhaps_iff fun _ => isStrings_iff,
    ← exists_givesPerhaps_iff fun _ => isBoolean_iff]
  constructor
  · rintro ⟨update, question, answer, keywords, active⟩
    exact ⟨⟨_, question⟩, ⟨_, answer⟩, ⟨_, keywords⟩, ⟨_, active⟩, List.forall_mem_nil _⟩
  · rintro ⟨⟨question, hasQuestion⟩, ⟨answer, hasAnswer⟩, ⟨keywords, hasKeywords⟩,
      ⟨active, hasActive⟩, -⟩
    exact ⟨⟨question, answer, keywords, active⟩,
      ⟨hasQuestion, hasAnswer, hasKeywords, hasActive⟩⟩

/-- What is accepted as a record of a type, given the form of the record and what it means that
members give the fields of a thing. -/
structure AcceptedAs (α : Type) [Format α] (form : List Field)
    (Gives : List (String × Value) → α → Prop) : Prop where
  /-- An object is accepted just if every field is given what it takes. -/
  object : ∀ members, (ofValue (record members) : Option α).isSome = true ↔
    ∀ field ∈ form, field.FilledBy members
  /-- It is read as the thing whose fields its members give. -/
  content : ∀ members (item : α), ofValue (record members) = some item ↔ Gives members item
  /-- The order of members and those with other names make no difference. -/
  alike : ∀ left right : List (String × Value),
    (left.filter (·.1 ∈ form.map Field.name)).Perm (right.filter (·.1 ∈ form.map Field.name)) →
      (ofValue (record left) : Option α) = ofValue (record right)
  /-- An array is accepted just if its items fill the fields in order. -/
  array : ∀ items, (ofValue (.array items) : Option α).isSome = true ↔ FillsInOrder items form
  /-- It is read as the object that gives its items to the fields. -/
  positions : ∀ items, items.length ≤ form.length →
    (ofValue (.array items) : Option α) = ofValue (record ((form.map Field.name).zip items))
  /-- A text is read as a thing just if it is that of such an object or of such an array. -/
  text : ∀ text (item : α), decode α text = some item ↔
    (∃ members, read text.toList = some (record members) ∧ Gives members item) ∨
    ∃ items, read text.toList = some (.array items) ∧ FillsInOrder items form ∧
      Gives ((form.map Field.name).zip items) item

/-- A type of records is accepted by its form if it is read through the slots of the fields. -/
theorem acceptedAs {α : Type} [Format α] {form : List Field}
    {Gives : List (String × Value) → α → Prop} (distinct : (form.map Field.name).Nodup)
    (congr : ∀ left right : Value,
      slots (form.map Field.name) left = slots (form.map Field.name) right →
        (ofValue left : Option α) = ofValue right)
    (filled : ∀ value (item : α), ofValue value = some item →
      ∃ filled, slots (form.map Field.name) value = some filled)
    (content : ∀ members (item : α), ofValue (record members) = some item ↔ Gives members item)
    (accepts : ∀ members, (∃ item, Gives members item) ↔ ∀ field ∈ form, field.FilledBy members) :
    AcceptedAs α form Gives := by
  have object : ∀ members, (ofValue (record members) : Option α).isSome = true ↔
      ∀ field ∈ form, field.FilledBy members := by
    intro members
    rw [Option.isSome_iff_exists, ← accepts members]
    exact exists_congr (content members)
  have positions : ∀ items, items.length ≤ form.length →
      (ofValue (.array items) : Option α) = ofValue (record ((form.map Field.name).zip items)) := by
    intro items enough
    exact congr _ _ (slots_array distinct (by rwa [List.length_map]))
  have array : ∀ items,
      (ofValue (.array items) : Option α).isSome = true ↔ FillsInOrder items form := by
    intro items
    by_cases enough : items.length ≤ form.length
    · rw [positions items enough, object, forall_filledBy_zip distinct enough]
    · refine iff_of_false (fun accepted => ?_) (fun fills => enough fills.1)
      obtain ⟨item, read⟩ := Option.isSome_iff_exists.1 accepted
      obtain ⟨slots, laid⟩ := filled _ _ read
      have tooMany : (form.map Field.name).length < items.length := by
        rw [List.length_map]
        exact Nat.lt_of_not_le enough
      rw [Json.slots, inOrder_eq_none tooMany] at laid
      cases laid
  refine ⟨object, content, ?_, array, positions, ?_⟩
  · intro left right permuted
    exact congr _ _ (slots_record_congr permuted)
  · intro text item
    rw [decode, Option.bind_eq_some_iff]
    constructor
    · rintro ⟨value, reads, denotes⟩
      obtain ⟨slots, laid⟩ := filled value item denotes
      rcases exists_of_slots laid with ⟨members, rfl⟩ | ⟨items, rfl, enough⟩
      · exact .inl ⟨members, reads, (content members item).1 denotes⟩
      · have fills := (array items).1 (Option.isSome_iff_exists.2 ⟨item, denotes⟩)
        rw [positions items fills.1] at denotes
        exact .inr ⟨items, reads, fills, (content _ item).1 denotes⟩
    · rintro (⟨members, reads, gives⟩ | ⟨items, reads, fills, gives⟩)
      · exact ⟨_, reads, (content members item).2 gives⟩
      · refine ⟨_, reads, ?_⟩
        rw [positions items fills.1]
        exact (content _ item).2 gives

/-! ## The three forms -/

theorem acceptedAs_entry : AcceptedAs Entry entryForm GivesEntry := by
  refine acceptedAs (by decide) ?congr ?filled (fun _ _ => ofValue_record_entry)
    fun _ => exists_givesEntry_iff
  case congr =>
    intro left right (same : slots entryFields left = slots entryFields right)
    simp only [ofValue, same]
  case filled =>
    intro value entry read
    obtain ⟨_, _, _, _, _, filled, -⟩ := ofValue_entry_iff.1 read
    exact ⟨_, filled⟩

theorem acceptedAs_preview : AcceptedAs Preview previewForm GivesPreview := by
  refine acceptedAs (by decide) ?congr ?filled (fun _ _ => ofValue_record_preview)
    fun _ => exists_givesPreview_iff
  case congr =>
    intro left right (same : slots previewFields left = slots previewFields right)
    simp only [ofValue, same]
  case filled =>
    intro value preview read
    obtain ⟨_, _, _, filled, -⟩ := ofValue_preview_iff.1 read
    exact ⟨_, filled⟩

theorem acceptedAs_update : AcceptedAs Update updateForm GivesUpdate := by
  refine acceptedAs (by decide) ?congr ?filled (fun _ _ => ofValue_record_update)
    fun _ => exists_givesUpdate_iff
  case congr =>
    intro left right (same : slots updateFields left = slots updateFields right)
    simp only [ofValue, same]
  case filled =>
    intro value update read
    obtain ⟨_, _, _, _, filled, -⟩ := ofValue_update_iff.1 read
    exact ⟨_, filled⟩

/-- **What is accepted as an entry, a preview or an update.**  Objects and arrays are accepted
by the fields of the three forms, with their kinds of values and with those that may be
missing, and a number is an id just if it is written as digits alone and fits 64 bits. -/
theorem accepted_records :
    AcceptedAs Entry entryForm GivesEntry ∧ AcceptedAs Preview previewForm GivesPreview ∧
    AcceptedAs Update updateForm GivesUpdate ∧
    ∀ written, (∃ value, number? written = some value ∧ value.IsId) ↔
      (written ≠ [] ∧ (∀ c ∈ written, c.isDigit = true) ∧
        (written.head? = some '0' → written = ['0'])) ∧
      Nat.ofDigitChars 10 written 0 < 2 ^ 64 :=
  ⟨acceptedAs_entry, acceptedAs_preview, acceptedAs_update, isId_number?_iff⟩

/-- Unknown members may be repeated, and stand anywhere. -/
example : decode Entry
    "\x7b\"x\":1,\"answer\":\"a\",\"id\":7,\"x\":[],\"question\":\"q\"\x7d" =
      some { id := ⟨7⟩, question := "q", answer := "a" } := by decide

end KeywordSearch.Json
