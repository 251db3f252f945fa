import KeywordSearch.Proofs.Decimal
import KeywordSearch.Toml.Document
import Mathlib.Data.List.Basic
import Mathlib.Data.List.TakeWhile

/-!
# Integers as they are written

A decimal integer is written with digits and no leading zero, perhaps with a sign in
front and with single underscores between the digits (`Numeral`).  In another base it
is written behind a mark that tells the base, where zeros may lead (`Spells`).

As the value of a key a written integer denotes itself if it fits 64 bits with a sign,
and nothing at all if it does not (`wordValue_of_spells`): what does not fit is not
taken for a floating-point number or for a moment instead.
-/

set_option autoImplicit false

namespace KeywordSearch.Toml

/-! ## Digits and underscores -/

/-- Digits as they are written with single underscores between them. -/
inductive Grouped (isDigit : Char → Bool) : List Char → List Char → Prop
  | last {c : Char} (digit : isDigit c = true) : Grouped isDigit [c] [c]
  | next {c : Char} {written digits : List Char} (digit : isDigit c = true)
      (rest : Grouped isDigit written digits) : Grouped isDigit (c :: written) (c :: digits)
  | group {c : Char} {written digits : List Char} (digit : isDigit c = true)
      (rest : Grouped isDigit written digits) :
      Grouped isDigit (c :: '_' :: written) (c :: digits)

namespace Grouped

variable {isDigit : Char → Bool} {written digits : List Char}

/-- Digits may be written without underscores. -/
theorem of_forall (some? : digits ≠ []) (digital : ∀ c ∈ digits, isDigit c = true) :
    Grouped isDigit digits digits := by
  induction digits with
  | nil => exact absurd rfl some?
  | cons c digits ih =>
    obtain ⟨digit, digitalRest⟩ := List.forall_mem_cons.1 digital
    cases digits with
    | nil => exact .last digit
    | cons d digits => exact .next digit (ih (List.cons_ne_nil d digits) digitalRest)

theorem forall_isDigit (grouped : Grouped isDigit written digits) :
    ∀ c ∈ digits, isDigit c = true := by
  induction grouped with
  | last digit => exact List.forall_mem_singleton.2 digit
  | next digit _ ih | group digit _ ih => exact List.forall_mem_cons.2 ⟨digit, ih⟩

/-- A kind of character that has the digits and the underscore in it has all that is written. -/
theorem forall_mem {p : Char → Bool} (grouped : Grouped isDigit written digits)
    (ofDigit : ∀ c, isDigit c = true → p c = true) (ofUnderscore : p '_' = true) :
    ∀ c ∈ written, p c = true := by
  induction grouped with
  | @last c digit => exact List.forall_mem_singleton.2 (ofDigit c digit)
  | @next c _ _ digit _ ih => exact List.forall_mem_cons.2 ⟨ofDigit c digit, ih⟩
  | @group c _ _ digit _ ih =>
    exact List.forall_mem_cons.2 ⟨ofDigit c digit, List.forall_mem_cons.2 ⟨ofUnderscore, ih⟩⟩

/-- The first character is the first digit. -/
theorem exists_cons (grouped : Grouped isDigit written digits) :
    ∃ c rest more, written = c :: rest ∧ digits = c :: more ∧ isDigit c = true := by
  cases grouped with
  | last digit | next digit | group digit => exact ⟨_, _, _, rfl, rfl, digit⟩

/-- A single digit is written as it is. -/
theorem eq_singleton {c : Char} (grouped : Grouped isDigit written digits)
    (single : digits = [c]) : written = [c] := by
  cases grouped with
  | last => exact single
  | next _ rest | group _ rest =>
    obtain ⟨d, _, more, -, rfl, -⟩ := rest.exists_cons
    cases single

/-- The digits are read back. -/
theorem ungroup_eq (grouped : Grouped isDigit written digits) (apart : isDigit '_' = false) :
    ungroup isDigit written = some digits := by
  induction grouped with
  | last digit => rw [ungroup, if_pos digit]
  | @next c written digits digit rest ih =>
    obtain ⟨d, more, _, rfl, -, digitNext⟩ := rest.exists_cons
    have single : d ≠ '_' := by
      rintro rfl
      rw [apart] at digitNext
      cases digitNext
    rw [ungroup, if_pos digit, if_neg single, ih]
  | group digit _ ih => rw [ungroup, if_pos digit, if_pos rfl, ih]

end Grouped

/-! ## Decimal integers -/

/-- What may stand before an integer. -/
inductive Sign where
  | none
  | plus
  | minus

/-- A sign as it is written. -/
def Sign.text : Sign → List Char
  | none => []
  | plus => ['+']
  | minus => ['-']

/-- The number of a given size behind a sign. -/
def Sign.apply : Sign → Nat → Int
  | none, n | plus, n => n
  | minus, n => -n

/-- A decimal integer as it is written, without a leading zero. -/
structure Numeral where
  sign : Sign
  body : List Char
  digits : List Char
  grouped : Grouped Char.isDigit body digits
  no_leading_zero : digits.head? = some '0' → digits = ['0']

namespace Numeral

variable (numeral : Numeral)

/-- A numeral as it is written. -/
def text : List Char := numeral.sign.text ++ numeral.body

/-- The integer that a numeral stands for. -/
def value : Int := numeral.sign.apply (Nat.ofDigitChars 10 numeral.digits 0)

/-- A natural number without a sign and underscores. -/
def ofNat (n : Nat) : Numeral where
  sign := .none
  body := Nat.toDigits 10 n
  digits := Nat.toDigits 10 n
  grouped := .of_forall Nat.toDigits_ne_nil fun _ => isDigit_of_mem_toDigits
  no_leading_zero zero := by
    obtain ⟨c, rest, written, -⟩ := exists_toDigits_eq_cons n
    rw [written, List.head?_cons, Option.some.injEq] at zero
    rw [zero] at written
    rw [written, eq_nil_of_toDigits_eq_zero_cons written]

theorem text_ofNat (n : Nat) : (ofNat n).text = Nat.toDigits 10 n := rfl

theorem value_ofNat (n : Nat) : (ofNat n).value = n :=
  congrArg Nat.cast Nat.ofDigitChars_ten_toDigits

end Numeral

theorem valueOf_ten {digits : List Char} (decimal : ∀ c ∈ digits, c.isDigit = true) :
    valueOf 10 digits = Nat.ofDigitChars 10 digits 0 := by
  refine List.foldl_ext _ _ _ fun value c member => ?_
  simp only [digitValue, decimal c member, if_true, Nat.mul_comm value 10]
  rfl

/-- A digit is no sign. -/
theorem splitSign_of_isDigit {c : Char} (digit : c.isDigit = true) (rest : List Char) :
    splitSign (c :: rest) = (false, c :: rest) := by
  unfold splitSign
  split
  next same =>
    cases same
    exact absurd digit (by decide)
  next same =>
    cases same
    exact absurd digit (by decide)
  next => rfl

theorem isDigitOrGroup_of_isDigit (c : Char) (digit : c.isDigit = true) :
    isDigitOrGroup c = true := by
  rw [isDigitOrGroup, digit, Bool.true_or]

namespace Numeral

variable (numeral : Numeral)

theorem forall_isDigitOrGroup : ∀ c ∈ numeral.body, isDigitOrGroup c = true :=
  numeral.grouped.forall_mem isDigitOrGroup_of_isDigit rfl

theorem wholeDigits_body : wholeDigits numeral.body = some numeral.digits := by
  have unzeroed := numeral.no_leading_zero
  rw [wholeDigits, numeral.grouped.ungroup_eq (by decide)]
  split
  next zero => exact zero.symm
  next rest notZero zero =>
    rw [Option.some.inj zero] at unzeroed
    exact absurd (List.cons.inj (unzeroed rfl)).2 notZero
  next => rfl

/-- Whether a numeral is behind a minus sign. -/
def negative : Bool :=
  match numeral.sign with
  | .minus => true
  | .none | .plus => false

/-- The sign is split off, and no digit is taken for one. -/
theorem splitSign_text : splitSign numeral.text = (numeral.negative, numeral.body) := by
  obtain ⟨c, rest, _, written, -, digit⟩ := numeral.grouped.exists_cons
  rw [text, negative]
  cases numeral.sign with
  | none => rw [written, Sign.text, List.nil_append, splitSign_of_isDigit digit]
  | plus | minus => rfl

theorem decimal?_text : decimal? numeral.text = fitting numeral.value := by
  have number := valueOf_ten numeral.grouped.forall_isDigit
  simp only [decimal?, splitSign_text, wholeDigits_body, number, value, negative]
  cases numeral.sign <;> rfl

/-- A numeral begins with a sign or a digit, and if it begins with a zero then that is all. -/
theorem text_cases :
    (∃ rest, numeral.text = '+' :: rest ∨ numeral.text = '-' :: rest) ∨
      numeral.text = ['0'] ∨
      ∃ c rest, numeral.text = c :: rest ∧ c.isDigit = true ∧ c ≠ '0' := by
  obtain ⟨c, rest, more, written, digits, digit⟩ := numeral.grouped.exists_cons
  rw [text]
  cases numeral.sign with
  | plus => exact .inl ⟨_, .inl rfl⟩
  | minus => exact .inl ⟨_, .inr rfl⟩
  | none =>
    refine .inr ?_
    by_cases zero : c = '0'
    · subst zero
      have alone : numeral.digits = ['0'] := numeral.no_leading_zero (by rw [digits]; rfl)
      exact .inl (numeral.grouped.eq_singleton alone)
    · exact .inr ⟨c, rest, written, digit, zero⟩

theorem integer?_text : integer? numeral.text = fitting numeral.value := by
  rw [← decimal?_text]
  rcases numeral.text_cases with ⟨rest, written | written⟩ | written | ⟨c, rest, written, -, big⟩
  · rw [written]
    rfl
  · rw [written]
    rfl
  · rw [written]
    rfl
  · -- What is written in another base begins with a zero.
    rw [written]
    unfold integer?
    split
    case h_4 => rfl
    all_goals
      next same =>
        cases same
        exact absurd rfl big

/-! ### No other value -/

theorem isFloat_text : isFloat numeral.text = false := by
  obtain ⟨c, rest, _, written, -, digit⟩ := numeral.grouped.exists_cons
  have notNamed : ¬(numeral.body = ['i', 'n', 'f'] ∨ numeral.body = ['n', 'a', 'n']) := by
    rw [written]
    rintro (same | same) <;>
    · cases same
      exact absurd digit (by decide)
  have taken : numeral.body.takeWhile isDigitOrGroup = numeral.body :=
    List.takeWhile_eq_self_iff.2 numeral.forall_isDigitOrGroup
  have left : numeral.body.dropWhile isDigitOrGroup = [] :=
    List.dropWhile_eq_nil_iff.2 numeral.forall_isDigitOrGroup
  have whole : scientific? numeral.body = none := by
    rw [scientific?, taken, left, wholeDigits_body]
    rfl
  simp only [isFloat, splitSign_text, if_neg notNamed, whole]

end Numeral

/-- What is left behind two digits was there before, behind the first of them. -/
theorem subset_of_pair? {least most n : Nat} {text rest : List Char}
    (read : pair? least most text = some (n, rest)) : rest ⊆ text.tail := by
  unfold pair? at read
  split at read
  next c d others =>
    dsimp only at read
    split at read
    next =>
      split at read
      next =>
        cases read
        exact List.subset_cons_self d rest
      next => cases read
    next => cases read
  next => cases read

theorem exactly_eq_none {wanted : Char} {text : List Char} (absent : wanted ∉ text) :
    exactly wanted text = none := by
  cases text with
  | nil => rfl
  | cons c rest =>
    rw [exactly, if_neg]
    rintro rfl
    exact absent List.mem_cons_self

/-- A date has a hyphen behind its first character. -/
theorem date?_eq_none {text : List Char} (absent : '-' ∉ text.tail) : date? text = none := by
  rw [date?, Option.bind_eq_bind, Option.bind_eq_none_iff]
  rintro ⟨century, rest⟩ first
  dsimp only
  rw [Option.bind_eq_bind, Option.bind_eq_none_iff]
  rintro ⟨years, others⟩ second
  have none : exactly '-' others = none := exactly_eq_none fun member =>
    absent (subset_of_pair? first (List.mem_of_mem_tail (subset_of_pair? second member)))
  dsimp only
  rw [none]
  rfl

/-- A time has a colon behind its first character. -/
theorem time?_eq_none {text : List Char} (absent : ':' ∉ text.tail) : time? text = none := by
  rw [time?, Option.bind_eq_bind, Option.bind_eq_none_iff]
  rintro ⟨hours, rest⟩ first
  have none : exactly ':' rest = none :=
    exactly_eq_none fun member => absent (subset_of_pair? first member)
  dsimp only
  rw [none]
  rfl

theorem isMoment_eq_false {text : List Char} (hyphen : '-' ∉ text.tail) (colon : ':' ∉ text.tail) :
    isMoment text = false := by
  rw [isMoment, date?_eq_none hyphen, time?_eq_none colon]
  rfl

namespace Numeral

variable (numeral : Numeral)

/-- Behind its first character a numeral has digits and underscores only. -/
theorem tail_text_subset : numeral.text.tail ⊆ numeral.body := by
  rw [text]
  cases numeral.sign with
  | none => exact fun _ => List.mem_of_mem_tail
  | plus | minus => exact List.Subset.refl _

theorem isMoment_text : isMoment numeral.text = false := by
  have decimal {c : Char} (member : c ∈ numeral.text.tail) : isDigitOrGroup c = true :=
    numeral.forall_isDigitOrGroup c (numeral.tail_text_subset member)
  exact isMoment_eq_false (fun member => absurd (decimal member) (by decide))
    fun member => absurd (decimal member) (by decide)

/-- A numeral begins as no name does. -/
theorem text_ne_cons {c : Char} (unsigned : c ≠ '+' ∧ c ≠ '-') (notDigit : c.isDigit = false)
    (rest : List Char) : numeral.text ≠ c :: rest := by
  rintro same
  rcases numeral.text_cases with ⟨_, written | written⟩ | written | ⟨d, _, written, digit, -⟩
  · exact unsigned.1 (List.cons.inj (same.symm.trans written)).1
  · exact unsigned.2 (List.cons.inj (same.symm.trans written)).1
  · rw [(List.cons.inj (same.symm.trans written)).1] at notDigit
    cases notDigit
  · rw [(List.cons.inj (same.symm.trans written)).1, digit] at notDigit
    cases notDigit

end Numeral

/-! ## Integers in any base -/

/-- A base other than ten. -/
inductive Base where
  | sixteen
  | eight
  | two

namespace Base

/-- The letter that tells a base. -/
def letter : Base → Char
  | sixteen => 'x'
  | eight => 'o'
  | two => 'b'

/-- How many digits a base has. -/
def size : Base → Nat
  | sixteen => 16
  | eight => 8
  | two => 2

/-- Whether a character is a digit of a base. -/
def isDigit : Base → Char → Bool
  | sixteen => isHexDigit
  | eight => isOctalDigit
  | two => isBinaryDigit

theorem isAlphanum_of_isDigit {base : Base} {c : Char} (digit : base.isDigit c = true) :
    c.isAlphanum = true := by
  have within {least most low high : Char} (inside : least ≤ c ∧ c ≤ most)
      (wide : low ≤ least ∧ most ≤ high) : low.val ≤ c.val ∧ c.val ≤ high.val :=
    ⟨UInt32.le_trans wide.1 inside.1, UInt32.le_trans inside.2 wide.2⟩
  have decimal (digit : c.isDigit = true) : c.isAlphanum = true := by
    rw [Char.isAlphanum, digit, Bool.or_true]
  cases base with
  | sixteen =>
    simp only [isDigit, isHexDigit, Bool.or_eq_true, Bool.and_eq_true, decide_eq_true_eq] at digit
    rcases digit with (digit | small) | capital
    · exact decimal digit
    · obtain ⟨low, high⟩ : 'a'.val ≤ c.val ∧ c.val ≤ 'z'.val := within small (by decide)
      have lower : c.isLower = true :=
        Bool.and_eq_true_iff.2 ⟨decide_eq_true low, decide_eq_true high⟩
      show ((c.isUpper || c.isLower) || c.isDigit) = true
      rw [lower, Bool.or_true, Bool.true_or]
    · have bounds : 'A'.val ≤ c.val ∧ c.val ≤ 'Z'.val := within capital (by decide)
      have upper : c.isUpper = true := decide_eq_true bounds
      show ((c.isUpper || c.isLower) || c.isDigit) = true
      rw [upper, Bool.true_or, Bool.true_or]
  | eight =>
    simp only [isDigit, isOctalDigit, Bool.and_eq_true, decide_eq_true_eq] at digit
    obtain ⟨low, high⟩ : '0'.val ≤ c.val ∧ c.val ≤ '9'.val := within digit (by decide)
    exact decimal (Bool.and_eq_true_iff.2 ⟨decide_eq_true low, decide_eq_true high⟩)
  | two =>
    simp only [isDigit, isBinaryDigit, Bool.or_eq_true, beq_iff_eq] at digit
    rcases digit with rfl | rfl <;> rfl

end Base

/-- How an integer may be written: in decimal, or in another base without a sign. -/
inductive Spells : List Char → Int → Prop
  | decimal (numeral : Numeral) : Spells numeral.text numeral.value
  | based (base : Base) {written digits : List Char}
      (grouped : Grouped base.isDigit written digits) :
      Spells ('0' :: base.letter :: written) (valueOf base.size digits)

/-- What is nothing else denotes an integer or nothing. -/
theorem wordValue_of_integer? {word : List Char} {n : Option Int}
    (notTrue : word ≠ ['t', 'r', 'u', 'e']) (notFalse : word ≠ ['f', 'a', 'l', 's', 'e'])
    (notFloat : isFloat word = false) (notMoment : isMoment word = false)
    (read : integer? word = n) :
    wordValue word = n.map .integer := by
  rw [wordValue, if_neg notTrue, if_neg notFalse, read, notFloat, notMoment]
  cases n <;> rfl

/-- **A written integer denotes itself, or nothing if it does not fit.** -/
theorem wordValue_of_spells {word : List Char} {n : Int} (spells : Spells word n) :
    wordValue word = (fitting n).map .integer := by
  cases spells with
  | decimal numeral =>
    exact wordValue_of_integer? (numeral.text_ne_cons (by decide) (by decide) _)
      (numeral.text_ne_cons (by decide) (by decide) _) numeral.isFloat_text numeral.isMoment_text
      numeral.integer?_text
  | @based base written digits grouped =>
    have apart : base.isDigit '_' = false := by cases base <;> rfl
    have marked : integer? ('0' :: base.letter :: written) =
        based? base.isDigit base.size written := by
      cases base <;> rfl
    have read : integer? ('0' :: base.letter :: written) = fitting (valueOf base.size digits) := by
      rw [marked, based?, grouped.ungroup_eq apart]
    have notFloat : isFloat ('0' :: base.letter :: written) = false := by
      cases base <;> rfl
    have notMoment : isMoment ('0' :: base.letter :: written) = false := by
      cases base <;> rfl
    exact wordValue_of_integer? nofun nofun notFloat notMoment read

/-- A written integer is one word. -/
theorem Spells.isWordChar {word : List Char} {n : Int} (spells : Spells word n) :
    ∀ c ∈ word, Toml.isWordChar c = true := by
  have ofAlphanum (c : Char) (alphanum : c.isAlphanum = true) : Toml.isWordChar c = true := by
    simp only [Toml.isWordChar, alphanum, Bool.true_or]
  cases spells with
  | decimal numeral =>
    have body := numeral.grouped.forall_mem (p := Toml.isWordChar)
      (fun c digit => ofAlphanum c (by rw [Char.isAlphanum, digit, Bool.or_true])) rfl
    rw [Numeral.text]
    refine List.forall_mem_append.2 ⟨?_, body⟩
    cases numeral.sign with
    | none => exact List.forall_mem_nil _
    | plus | minus => exact List.forall_mem_singleton.2 rfl
  | based base grouped =>
    refine List.forall_mem_cons.2 ⟨rfl, List.forall_mem_cons.2 ⟨?_, ?_⟩⟩
    · cases base <;> rfl
    · exact grouped.forall_mem (fun c digit => ofAlphanum c (Base.isAlphanum_of_isDigit digit)) rfl

end KeywordSearch.Toml
