import KeywordSearch.Json.Format
import KeywordSearch.Proofs.Decimal
import Mathlib.Tactic.SplitIfs

/-!
# Reading JSON that was written

A value all of whose texts are strings and all of whose numbers are natural is
read back from the text it is written as.  Numbers alone do not show where they
end, so the proofs read a value in front of any text that does not go on with a
number (`Ends`), and that is what follows every item of an array and every member
of an object.
-/

set_option autoImplicit false

namespace KeywordSearch.Json

/-! ## Texts -/

theorem hexDigit?_hexDigit : ∀ value < 16, hexDigit? (hexDigit value) = some value := by decide

/-- A number of 16 bits is read back from its escape. -/
theorem textPieces_unitEscape {unit : Nat} (fits : unit < 0x10000) (rest : List Char) :
    textPieces .plain (unitEscape unit ++ rest) =
      prepend (.ofUnit unit) (textPieces .plain rest) := by
  have digit (n : Nat) : hexDigit? (hexDigit (n % 16)) = some (n % 16) :=
    hexDigit?_hexDigit _ (Nat.mod_lt n (by decide))
  have whole : 16 * (16 * (16 * (unit / 0x1000 % 16) + unit / 0x100 % 16)
      + unit / 0x10 % 16) + unit % 16 = unit := by omega
  simp [unitEscape, textPieces, digit, whole]

theorem ofUnit_toNat_of_lt_space {c : Char} (control : c < ' ') :
    Piece.ofUnit c.toNat = .char c := by
  have small : c.toNat < 0xD800 := by
    have less : c.toNat < ' '.toNat := control
    exact Nat.lt_trans less (by decide)
  rw [Piece.ofUnit, if_neg (by omega), Char.ofNat_toNat]

/-- A character is read back from what it is written as. -/
theorem textPieces_writeChar (c : Char) (rest : List Char) :
    textPieces .plain (writeChar c ++ rest) = prepend (.char c) (textPieces .plain rest) := by
  rw [writeChar]
  split_ifs with quote backslash backspace tab lineFeed formFeed carriageReturn control
  · simp [quote, textPieces, escaped?]
  · simp [backslash, textPieces, escaped?]
  · simp [backspace, textPieces, escaped?]
  · simp [tab, textPieces, escaped?]
  · simp [lineFeed, textPieces, escaped?]
  · simp [formFeed, textPieces, escaped?]
  · simp [carriageReturn, textPieces, escaped?]
  · have fits : c.toNat < 0x10000 := by
      have less : c.toNat < ' '.toNat := control
      exact Nat.lt_trans less (by decide)
    rw [textPieces_unitEscape fits, ofUnit_toNat_of_lt_space control]
  · simp [textPieces, quote, backslash, control]

/-- Characters are read back up to the quote behind them. -/
theorem textPieces_flatMap_writePiece (chars rest : List Char) :
    textPieces .plain ((chars.map Piece.char).flatMap writePiece ++ '"' :: rest) =
      some (chars.map .char, rest) := by
  induction chars with
  | nil => rfl
  | cons c chars ih =>
    rw [List.map_cons, List.flatMap_cons, List.append_assoc, writePiece, textPieces_writeChar, ih]
    rfl

theorem pairHalves_map_char (chars : List Char) :
    pairHalves (chars.map .char) = chars.map .char := by
  induction chars with
  | nil => rfl
  | cons c chars ih => rw [List.map_cons, pairHalves, ih]

/-- A string is read back from between its quotes. -/
theorem textContent_ofString (string : String) (rest : List Char) :
    textContent ((Piece.ofString string).flatMap writePiece ++ '"' :: rest) =
      some (Piece.ofString string, rest) := by
  simp only [textContent, Piece.ofString, textPieces_flatMap_writePiece, Option.map_some,
    pairHalves_map_char]

/-! ## Numbers -/

/-- What follows a number does not go on with it. -/
def Ends (rest : List Char) : Prop := ∀ c, rest.head? = some c → isNumberChar c = false

theorem takeWhile_of_ends {rest : List Char} (ends : Ends rest) :
    rest.takeWhile isNumberChar = [] := by
  cases rest with
  | nil => rfl
  | cons c rest => exact List.takeWhile_cons_of_neg (by simp [ends c rfl])

theorem dropWhile_of_ends {rest : List Char} (ends : Ends rest) :
    rest.dropWhile isNumberChar = rest := by
  cases rest with
  | nil => rfl
  | cons c rest => exact List.dropWhile_cons_of_neg (by simp [ends c rfl])

theorem isNumberChar_of_mem_toDigits {n : Nat} {c : Char} (member : c ∈ Nat.toDigits 10 n) :
    isNumberChar c = true := by
  simp [isNumberChar, isDigit_of_mem_toDigits member]

/-- A number is written without a leading zero. -/
theorem isWhole_toDigits (n : Nat) : isWhole (Nat.toDigits 10 n) = true := by
  have digits : (Nat.toDigits 10 n).all Char.isDigit = true :=
    List.all_eq_true.2 fun _ => isDigit_of_mem_toDigits
  unfold isWhole
  split
  next => rfl
  next rest notZero written => exact absurd (eq_nil_of_toDigits_eq_zero_cons written) notZero
  next => simp [digits, Nat.toDigits_ne_nil]

theorem number?_toDigits (n : Nat) : number? (Nat.toDigits 10 n) = some (.natural n) := by
  unfold number?
  rw [if_pos (isWhole_toDigits n), Nat.ofDigitChars_ten_toDigits]

theorem skipSpace_cons {c : Char} (solid : isSpace c = false) (rest : List Char) :
    skipSpace (c :: rest) = c :: rest :=
  List.dropWhile_cons_of_neg (by simp [solid])

theorem isSpace_of_isDigit {c : Char} (digit : c.isDigit = true) : isSpace c = false := by
  cases space : isSpace c with
  | false => rfl
  | true =>
    simp only [isSpace, Bool.or_eq_true, beq_iff_eq] at space
    rcases space with ((rfl | rfl) | rfl) | rfl <;> exact absurd digit (by decide)

/-- A value that begins with a digit is a number. -/
theorem value_of_isDigit (depth : Nat) {c : Char} (digit : c.isDigit = true) (rest : List Char) :
    value depth (c :: rest) = (number? ((c :: rest).takeWhile isNumberChar)).map
      fun number => (number, (c :: rest).dropWhile isNumberChar) := by
  unfold value
  rw [skipSpace_cons (isSpace_of_isDigit digit)]
  split
  case h_1 same => cases same
  case h_8 same =>
    cases same
    rfl
  -- Each of the other cases begins with a character that is no digit.
  all_goals
    rename_i same
    cases same
    exact absurd digit (by decide)

/-! ## Values -/

/-- Members of an object with their names spelled as pieces. -/
def spelled (members : List (String × Value)) : List (List Piece × Value) :=
  members.map fun (name, value) => (Piece.ofString name, value)

theorem spelled_cons (member : String × Value) (members : List (String × Value)) :
    spelled (member :: members) = (Piece.ofString member.1, member.2) :: spelled members := rfl

theorem record_def (members : List (String × Value)) :
    record members = .object (spelled members) := rfl

/-- A value all of whose texts are strings and all of whose numbers are natural. -/
inductive Value.Plain : Value → Prop
  | null : Plain .null
  | boolean (value : Bool) : Plain (.boolean value)
  | natural (value : Nat) : Plain (.natural value)
  | text (string : String) : Plain (.text (Piece.ofString string))
  | array {items : List Value} (each : ∀ item ∈ items, Plain item) : Plain (.array items)
  | object {members : List (String × Value)} (each : ∀ member ∈ members, Plain member.2) :
    Plain (record members)

/-- A reader takes a value off the text that the value is written as, whatever follows. -/
def Takes (reader : Reader Value) (item : Value) : Prop :=
  ∀ rest, Ends rest → reader (write item ++ rest) = some (item, rest)

/-- A value begins neither with white space nor with a closing bracket. -/
theorem exists_write_eq_cons {item : Value} (plain : item.Plain) :
    ∃ c rest, write item = c :: rest ∧ isSpace c = false ∧ c ≠ ']' := by
  cases plain with
  | null => exact ⟨_, _, rfl, rfl, by decide⟩
  | boolean value => cases value <;> exact ⟨_, _, rfl, rfl, by decide⟩
  | natural value =>
    obtain ⟨c, rest, written, digit⟩ := exists_toDigits_eq_cons value
    refine ⟨c, rest, written, isSpace_of_isDigit digit, ?_⟩
    rintro rfl
    exact absurd digit (by decide)
  | text string => exact ⟨_, _, rfl, rfl, by decide⟩
  | @array items => cases items <;> exact ⟨_, _, rfl, rfl, by decide⟩
  | @object members => cases members <;> exact ⟨_, _, rfl, rfl, by decide⟩

/-! ## Arrays and objects -/

theorem ends_writeItems (items : List Value) (rest : List Char) :
    Ends (writeItems items ++ rest) := by
  cases items <;> rintro c ⟨⟩ <;> rfl

theorem ends_writeMembers (members : List (List Piece × Value)) (rest : List Char) :
    Ends (writeMembers members ++ rest) := by
  cases members <;> rintro c ⟨⟩ <;> rfl

theorem length_lt_writeItems (items : List Value) : items.length < (writeItems items).length := by
  induction items with
  | nil => simp [writeItems]
  | cons item items ih =>
    simp only [writeItems, List.length_cons, List.length_append]
    omega

/-- The items of an array are read back. -/
theorem arrayItems_writeItems {reader : Reader Value} {item : Value} {items : List Value}
    (takes : ∀ other ∈ item :: items, Takes reader other) {fuel : Nat}
    (enough : items.length < fuel) (rest : List Char) :
    arrayItems reader fuel (write item ++ writeItems items ++ rest) =
      some (item :: items, rest) := by
  induction items generalizing item fuel with
  | nil =>
    obtain ⟨fuel, rfl⟩ := Nat.exists_eq_succ_of_ne_zero (Nat.ne_zero_of_lt enough)
    have first := takes item List.mem_cons_self _ (ends_writeItems [] rest)
    rw [arrayItems, List.append_assoc, first]
    rfl
  | cons next items ih =>
    obtain ⟨fuel, rfl⟩ := Nat.exists_eq_succ_of_ne_zero (Nat.ne_zero_of_lt enough)
    have first := takes item List.mem_cons_self _ (ends_writeItems (next :: items) rest)
    have others := ih (fun other member => takes other (List.mem_cons_of_mem _ member))
      (Nat.lt_of_succ_lt_succ enough)
    rw [arrayItems, List.append_assoc, first]
    simp only [writeItems, List.cons_append, skipSpace_cons (c := ',') rfl, others, Option.map_some]

/-- A member of an object is read back, with nothing or with the members that follow. -/
theorem objectMembers_member {reader : Reader Value} (name : String) {item : Value}
    (takes : Takes reader item) (members : List (List Piece × Value)) (fuel : Nat)
    (rest : List Char) :
    objectMembers reader (fuel + 1) (writeText (Piece.ofString name) ++
        ':' :: (write item ++ (writeMembers members ++ rest))) =
      match members with
      | [] => some ([(Piece.ofString name, item)], rest)
      | (next, nextItem) :: members =>
        (objectMembers reader fuel
          (writeText next ++ ':' :: (write nextItem ++ (writeMembers members ++ rest)))).map
            fun (others, rest) => ((Piece.ofString name, item) :: others, rest) := by
  have taken := takes _ (ends_writeMembers members rest)
  rw [writeText, objectMembers, List.cons_append, skipSpace_cons rfl, List.append_assoc,
    List.singleton_append]
  simp only [textContent_ofString, skipSpace_cons (c := ':') rfl, taken]
  rcases members with - | ⟨⟨next, nextItem⟩, members⟩
  · rfl
  · simp only [writeMembers, List.cons_append, List.append_assoc, skipSpace_cons (c := ',') rfl]

/-- The members of an object are read back. -/
theorem objectMembers_writeMembers {reader : Reader Value} {name : String} {item : Value}
    {members : List (String × Value)}
    (takes : ∀ member ∈ (name, item) :: members, Takes reader member.2) {fuel : Nat}
    (enough : members.length < fuel) (rest : List Char) :
    objectMembers reader fuel (writeText (Piece.ofString name) ++
        ':' :: (write item ++ (writeMembers (spelled members) ++ rest))) =
      some (spelled ((name, item) :: members), rest) := by
  induction members generalizing name item fuel with
  | nil =>
    obtain ⟨fuel, rfl⟩ := Nat.exists_eq_succ_of_ne_zero (Nat.ne_zero_of_lt enough)
    exact objectMembers_member name (takes _ List.mem_cons_self) [] fuel rest
  | cons next members ih =>
    obtain ⟨fuel, rfl⟩ := Nat.exists_eq_succ_of_ne_zero (Nat.ne_zero_of_lt enough)
    have others := ih (fun member later => takes member (List.mem_cons_of_mem _ later))
      (Nat.lt_of_succ_lt_succ enough)
    rw [objectMembers_member name (takes _ List.mem_cons_self)]
    simp only [spelled_cons] at others ⊢
    rw [others, Option.map_some]

theorem length_lt_writeMembers (members : List (List Piece × Value)) :
    members.length < (writeMembers members).length := by
  induction members with
  | nil => simp [writeMembers]
  | cons member members ih =>
    simp only [writeMembers, List.length_cons, List.length_append]
    omega

theorem value_array {depth : Nat} {items : List Value} (each : ∀ item ∈ items, item.Plain)
    (takes : ∀ item ∈ items, Takes (value depth) item) :
    Takes (value (depth + 1)) (.array items) := by
  intro rest ends
  cases items with
  | nil => rfl
  | cons item items =>
    obtain ⟨c, more, begins, solid, unclosed⟩ := exists_write_eq_cons (each item List.mem_cons_self)
    have enough : items.length < (write item ++ writeItems items ++ rest).length + 1 := by
      have shorter := length_lt_writeItems items
      simp only [List.length_append]
      omega
    have taken := arrayItems_writeItems takes enough rest
    -- The first item shows its first character, which is not the bracket of an empty array.
    rw [begins] at taken
    simp only [write, value, begins, List.cons_append, skipSpace_cons (c := '[') rfl,
      skipSpace_cons solid] at taken ⊢
    split
    next same =>
      cases same
      exact absurd rfl unclosed
    next => rw [taken, Option.map_some]

theorem value_object {depth : Nat} {members : List (String × Value)}
    (takes : ∀ member ∈ members, Takes (value depth) member.2) :
    Takes (value (depth + 1)) (record members) := by
  intro rest ends
  rcases members with - | ⟨⟨name, item⟩, members⟩
  · rfl
  · have enough : members.length < (writeText (Piece.ofString name) ++
        ':' :: (write item ++ (writeMembers (spelled members) ++ rest))).length + 1 := by
      have shorter := length_lt_writeMembers (spelled members)
      simp only [List.length_append, List.length_cons, spelled, List.length_map] at shorter ⊢
      omega
    have taken := objectMembers_writeMembers takes enough rest
    simp only [record_def, spelled_cons, write, writeText, value, List.cons_append,
      List.append_assoc, skipSpace_cons (c := '\x7b') rfl, skipSpace_cons (c := '"') rfl] at taken ⊢
    rw [taken]
    rfl

/-! ## The round trip -/

theorem length_write_lt_writeItems {item : Value} {items : List Value} (member : item ∈ items) :
    (write item).length < (writeItems items).length := by
  induction items with
  | nil => cases member
  | cons other items ih =>
    simp only [writeItems, List.length_cons, List.length_append]
    cases member with
    | head => omega
    | tail _ later =>
      have shorter := ih later
      omega

/-- An item is written shorter than the array it stands in. -/
theorem length_write_lt_array {item : Value} {items : List Value} (member : item ∈ items) :
    (write item).length < (write (.array items)).length := by
  cases items with
  | nil => cases member
  | cons other items =>
    simp only [write, List.length_cons, List.length_append]
    cases member with
    | head => omega
    | tail _ later =>
      have shorter := length_write_lt_writeItems later
      omega

theorem length_write_lt_writeMembers {member : String × Value} {members : List (String × Value)}
    (found : member ∈ members) :
    (write member.2).length < (writeMembers (spelled members)).length := by
  induction members with
  | nil => cases found
  | cons other members ih =>
    simp only [spelled_cons, writeMembers, List.length_cons, List.length_append]
    cases found with
    | head => omega
    | tail _ later =>
      have shorter := ih later
      omega

/-- A member is written shorter than the record it stands in. -/
theorem length_write_lt_record {member : String × Value} {members : List (String × Value)}
    (found : member ∈ members) : (write member.2).length < (write (record members)).length := by
  cases members with
  | nil => cases found
  | cons other members =>
    simp only [record_def, spelled_cons, write, List.length_cons, List.length_append]
    cases found with
    | head => omega
    | tail _ later =>
      have shorter := length_write_lt_writeMembers later
      omega

/-- A plain value is read back from what it is written as, whatever follows. -/
theorem value_write {item : Value} (plain : item.Plain) {depth : Nat}
    (enough : (write item).length ≤ depth) : Takes (value depth) item := by
  induction plain generalizing depth with
  | null =>
    intro rest ends
    rw [write, value]
    rfl
  | boolean value =>
    intro rest ends
    cases value <;> rw [write, Json.value] <;> rfl
  | natural n =>
    intro rest ends
    obtain ⟨c, digits, written, digit⟩ := exists_toDigits_eq_cons n
    have numeric : ∀ d ∈ c :: digits, isNumberChar d = true := fun d member =>
      isNumberChar_of_mem_toDigits (written ▸ member)
    rw [write, written, List.cons_append, value_of_isDigit depth digit, ← List.cons_append,
      List.takeWhile_append_of_pos numeric, List.dropWhile_append_of_pos numeric,
      takeWhile_of_ends ends, dropWhile_of_ends ends, List.append_nil, ← written, number?_toDigits,
      Option.map_some]
  | text string =>
    intro rest ends
    simp only [write, writeText, value, List.cons_append, List.append_assoc, List.nil_append,
      skipSpace_cons (c := '"') rfl, textContent_ofString, Option.map_some]
  | @array items each ih =>
    obtain ⟨depth, rfl⟩ : ∃ d, depth = d + 1 := by
      refine Nat.exists_eq_succ_of_ne_zero fun none => ?_
      cases items <;> simp [none, write] at enough
    refine value_array each fun item member => ih item member ?_
    have shorter := length_write_lt_array member
    omega
  | @object members each ih =>
    obtain ⟨depth, rfl⟩ : ∃ d, depth = d + 1 := by
      refine Nat.exists_eq_succ_of_ne_zero fun none => ?_
      cases members <;> simp [none, record, write] at enough
    refine value_object fun member found => ih member found ?_
    have shorter := length_write_lt_record found
    omega

/-- **A plain value is read back from the text it is written as.** -/
theorem read_write {item : Value} (plain : item.Plain) : read (write item) = some item := by
  have taken := value_write plain (Nat.le_refl _) [] (by rintro c ⟨⟩)
  rw [List.append_nil] at taken
  rw [read, taken]
  rfl

end KeywordSearch.Json
