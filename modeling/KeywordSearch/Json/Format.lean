import KeywordSearch.Entry
import KeywordSearch.Json.Reader
import KeywordSearch.Json.Writer

/-!
# The JSON form of entries

Ids, entries, previews and updates have a JSON form.  An id is a number, and
the others are objects with one member for each field; an update leaves out the
fields that it does not change.

Reading is more generous than writing.  Members may come in any order, members
with other names are passed over, and fields that have a default may be
missing; but no field is given twice.  Instead of an object there may be an
array with the fields in order, as far as those that follow have defaults.
Either way a record is first laid out as one slot for each of its fields
(`slots`), and from there the two are read alike.
-/

set_option autoImplicit false

namespace KeywordSearch.Json

/-- Things that have a JSON form. -/
class Format (α : Type) where
  toValue : α → Value
  ofValue : Value → Option α

export Format (toValue ofValue)

/-! ## Basic forms -/

instance : Format Bool where
  toValue := .boolean
  ofValue
    | .boolean value => some value
    | _ => none

instance : Format String where
  toValue string := .text (Piece.ofString string)
  ofValue
    | .text pieces => Piece.string? pieces
    | _ => none

instance : Format EntryId where
  toValue id := .natural id.value.toNat
  ofValue
    | .natural n => if n < UInt64.size then some ⟨UInt64.ofNat n⟩ else none
    | _ => none

/-- The things that a list of values denotes, if each denotes one. -/
def ofValues {α : Type} [Format α] : List Value → Option (List α)
  | [] => some []
  | value :: rest =>
    match ofValue value, ofValues rest with
    | some item, some items => some (item :: items)
    | _, _ => none

instance {α : Type} [Format α] : Format (List α) where
  toValue items := .array (items.map toValue)
  ofValue
    | .array values => ofValues values
    | _ => none

/-- A value that may be null, which stands for nothing. -/
def ofNullable {α : Type} [Format α] : Value → Option (Option α)
  | .null => some none
  | value => (ofValue value).map some

/-! ## Records -/

/-- The members of an object under their names, if every name is a string. -/
def named : List (List Piece × Value) → Option (List (String × Value))
  | [] => some []
  | (name, value) :: rest =>
    match Piece.string? name, named rest with
    | some name, some members => some ((name, value) :: members)
    | _, _ => none

/-- The value that members give to a name, nothing if there is none; a name
must not be given twice. -/
def memberOf (members : List (String × Value)) (name : String) : Option (Option Value) :=
  match members.filter fun member => member.1 == name with
  | [] => some none
  | [member] => some (some member.2)
  | _ => none

/-- The values that members give to several names. -/
def membersOf (members : List (String × Value)) : List String → Option (List (Option Value))
  | [] => some []
  | name :: names =>
    match memberOf members name, membersOf members names with
    | some slot, some slots => some (slot :: slots)
    | _, _ => none

/-- Values in the order of some names, nothing for the names that are left over;
there must be no value too many. -/
def inOrder : List Value → List String → Option (List (Option Value))
  | [], names => some (names.map fun _ => none)
  | _ :: _, [] => none
  | value :: values, _ :: names => (inOrder values names).map (some value :: ·)

/-- The slots of a record with the given fields. -/
def slots (names : List String) : Value → Option (List (Option Value))
  | .object members => (named members).bind fun members => membersOf members names
  | .array values => inOrder values names
  | _ => none

/-- A field that has to be there. -/
def required {α : Type} [Format α] (slot : Option Value) : Option α := slot.bind ofValue

/-- A field with a default. -/
def defaulted {α : Type} [Format α] (default : α) : Option Value → Option α
  | none => some default
  | some value => ofValue value

/-- A field that may be missing or null. -/
def nullable {α : Type} [Format α] : Option Value → Option (Option α)
  | none => some none
  | some value => ofNullable value

/-- The object with given members. -/
def record (members : List (String × Value)) : Value :=
  .object (members.map fun (name, value) => (Piece.ofString name, value))

/-- A member that is left out when there is nothing to write. -/
def memberIfAny {α : Type} [Format α] (name : String) : Option α → List (String × Value)
  | some item => [(name, toValue item)]
  | none => []

/-! ## Entries, previews and updates -/

/-- The fields of an entry in order. -/
def entryFields : List String := ["id", "question", "answer", "keywords", "active"]

instance : Format Entry where
  toValue entry := record [
    ("id", toValue entry.id), ("question", toValue entry.question),
    ("answer", toValue entry.answer), ("keywords", toValue entry.keywords),
    ("active", toValue entry.active)]
  ofValue value :=
    match slots entryFields value with
    | some [id, question, answer, keywords, active] => do
      some {
        id := ← required id
        question := ← required question
        answer := ← required answer
        keywords := ← defaulted [] keywords
        active := ← defaulted true active }
    | _ => none

/-- The fields of a preview in order. -/
def previewFields : List String := ["id", "question", "active"]

instance : Format Preview where
  toValue preview := record [
    ("id", toValue preview.id), ("question", toValue preview.question),
    ("active", toValue preview.active)]
  ofValue value :=
    match slots previewFields value with
    | some [id, question, active] => do
      some { id := ← required id, question := ← required question, active := ← required active }
    | _ => none

/-- The fields of an update in order. -/
def updateFields : List String := ["question", "answer", "keywords", "active"]

instance : Format Update where
  toValue update := record (
    memberIfAny "question" update.question ++ memberIfAny "answer" update.answer
      ++ memberIfAny "keywords" update.keywords ++ memberIfAny "active" update.active)
  ofValue value :=
    match slots updateFields value with
    | some [question, answer, keywords, active] => do
      some {
        question := ← nullable question
        answer := ← nullable answer
        keywords := ← nullable keywords
        active := ← nullable active }
    | _ => none

/-! ## Texts -/

/-- The text that a thing is written as. -/
def encode {α : Type} [Format α] (item : α) : String := String.ofList (write (toValue item))

/-- The thing that a text denotes. -/
def decode (α : Type) [Format α] (text : String) : Option α := (read text.toList).bind ofValue

end KeywordSearch.Json
