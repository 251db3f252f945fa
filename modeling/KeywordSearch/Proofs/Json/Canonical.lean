import KeywordSearch.Proofs.Json.Records
import Mathlib.Algebra.Group.Nat.Defs

/-!
# Values of the basic kinds

Truth values, strings, ids and lists of these have one form each.  What is read as one
of them is the value that it is written as (`CanonicalFormat`), so a value is of a kind
just if it is read as something of the kind (`isId_iff` and those next to it).

An id is a number, and numbers can be written in many ways; but only digits alone make
an id (`isId_number?_iff`).
-/

set_option autoImplicit false

namespace KeywordSearch.Json

/-! ## Kinds of values -/

namespace Value

/-- A whole number without sign, fraction or exponent that fits 64 bits. -/
def IsId (value : Value) : Prop := ∃ n < 2 ^ 64, value = .natural n

/-- A text without lone halves of surrogate pairs. -/
def IsString (value : Value) : Prop := ∃ string, value = .text (Piece.ofString string)

/-- An array of strings. -/
def IsStrings (value : Value) : Prop :=
  ∃ strings : List String, value = .array (strings.map fun string => .text (Piece.ofString string))

/-- A truth value. -/
def IsBoolean (value : Value) : Prop := ∃ flag, value = .boolean flag

/-- A value of a kind, or null. -/
def OrNull (kind : Value → Prop) (value : Value) : Prop := value = .null ∨ kind value

end Value

/-- What is read as a thing is what the thing is written as. -/
class CanonicalFormat (α : Type) [Format α] : Prop extends LawfulFormat α where
  eq_toValue {value : Value} {item : α} (read : ofValue value = some item) : value = toValue item

theorem ofValue_eq_some_iff {α : Type} [Format α] [CanonicalFormat α] {value : Value} {item : α} :
    ofValue value = some item ↔ value = toValue item := by
  constructor
  · exact CanonicalFormat.eq_toValue
  · rintro rfl
    exact ofValue_toValue item

theorem Piece.eq_map_char {pieces : List Piece} {chars : List Char}
    (whole : chars? pieces = some chars) : pieces = chars.map .char := by
  induction pieces generalizing chars with
  | nil =>
    cases whole
    rfl
  | cons piece pieces ih =>
    cases piece with
    | half unit => cases whole
    | char c =>
      obtain ⟨rest, wholeRest, rfl⟩ := Option.map_eq_some_iff.1 whole
      rw [List.map_cons, ← ih wholeRest]

instance : CanonicalFormat Bool where
  eq_toValue {value flag} read := by
    cases value with
    | boolean other =>
      cases read
      rfl
    | _ => cases read

instance : CanonicalFormat String where
  eq_toValue {value string} read := by
    cases value with
    | text pieces =>
      obtain ⟨chars, whole, rfl⟩ := Option.map_eq_some_iff.1 read
      refine congrArg Value.text ?_
      rw [Piece.eq_map_char whole, Piece.ofString, String.toList_ofList]
    | _ => cases read

instance : CanonicalFormat EntryId where
  eq_toValue {value id} read := by
    cases value with
    | natural n =>
      simp only [ofValue, Option.ite_none_right_eq_some, Option.some.injEq] at read
      obtain ⟨fits, rfl⟩ := read
      exact congrArg Value.natural (Nat.mod_eq_of_lt fits).symm
    | _ => cases read

instance {α : Type} [Format α] [CanonicalFormat α] : CanonicalFormat (List α) where
  eq_toValue {value items} read := by
    cases value with
    | array values =>
      refine congrArg Value.array ?_
      replace read : ofValues values = some items := read
      induction values generalizing items with
      | nil =>
        cases read
        rfl
      | cons value values ih =>
        rw [ofValues] at read
        split at read
        next item rest first others =>
          cases read
          rw [List.map_cons, ← ih others, ← ofValue_eq_some_iff.1 first]
        next => cases read
    | _ => cases read

section

variable {value : Value}

theorem isBoolean_iff : value.IsBoolean ↔ ∃ flag : Bool, value = toValue flag := Iff.rfl

theorem isString_iff : value.IsString ↔ ∃ string : String, value = toValue string := Iff.rfl

theorem isId_iff : value.IsId ↔ ∃ id : EntryId, value = toValue id := by
  constructor
  · rintro ⟨n, fits, rfl⟩
    exact ⟨⟨UInt64.ofNat n⟩, congrArg Value.natural (Nat.mod_eq_of_lt fits).symm⟩
  · rintro ⟨id, rfl⟩
    exact ⟨_, id.value.toNat_lt, rfl⟩

theorem isStrings_iff : value.IsStrings ↔ ∃ strings : List String, value = toValue strings :=
  Iff.rfl

end

/-! ## Numbers -/

theorem isWhole_iff {digits : List Char} :
    isWhole digits = true ↔ digits ≠ [] ∧ (∀ c ∈ digits, c.isDigit = true) ∧
      (digits.head? = some '0' → digits = ['0']) := by
  unfold isWhole
  split
  next => simp
  next rest more =>
    simp only [Bool.false_eq_true, false_iff]
    rintro ⟨-, -, alone⟩
    exact more (List.cons.inj (alone rfl)).2
  next notZero notLeading =>
    rw [Bool.and_eq_true, Bool.not_eq_true', List.isEmpty_eq_false_iff, List.all_eq_true]
    refine and_congr_right fun _ => (and_iff_left fun leads => ?_).symm
    obtain ⟨rest, rfl⟩ := List.head?_eq_some_iff.1 leads
    exact absurd rfl (notLeading rest)

/-- **A number is an id just if it is written as digits alone**, without a leading zero, and fits
64 bits. -/
theorem isId_number?_iff (written : List Char) :
    (∃ value, number? written = some value ∧ value.IsId) ↔
      (written ≠ [] ∧ (∀ c ∈ written, c.isDigit = true) ∧
        (written.head? = some '0' → written = ['0'])) ∧
      Nat.ofDigitChars 10 written 0 < 2 ^ 64 := by
  rw [← isWhole_iff]
  constructor
  · rintro ⟨value, read, n, fits, rfl⟩
    unfold number? at read
    split at read
    next whole =>
      cases read
      exact ⟨whole, fits⟩
    next =>
      -- Anything else that is a number is kept as it is written.
      split at read
      next => split at read <;> cases read
      next => split at read <;> cases read
  · rintro ⟨whole, fits⟩
    exact ⟨_, if_pos whole, _, fits, rfl⟩

end KeywordSearch.Json
