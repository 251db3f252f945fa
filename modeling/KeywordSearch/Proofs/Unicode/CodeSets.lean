import KeywordSearch.Unicode.Chart

/-!
# Tables as sets of code points

What two tables have to do with each other is settled by going through them once.
For that a set of code points is held as the bits of one number: whether a code
point belongs to it is one test of a bit, and whether two sets have a member in
common is one conjunction of two numbers.

A look-up that succeeds in a table finds a member of the set that the spans of the
table make up (`Spans.testBit_codes` and what is derived from it), and it finds a
sequence or a value with whatever property holds throughout the table
(`Listing.of_all`, `Chart.exists_of_find?`).
-/

set_option autoImplicit false

namespace KeywordSearch.Unicode

/-! ## Code points of characters -/

theorem toNat_ofNat_of_valid {n : Nat} (valid : n.isValidChar) : (Char.ofNat n).toNat = n := by
  rw [Char.ofNat, dif_pos valid]
  rfl

/-- The code point of a character made from a number is that number, or 0 when it is
no code point at all. -/
theorem toNat_ofNat_cases (n : Nat) : (Char.ofNat n).toNat = n ∨ (Char.ofNat n).toNat = 0 := by
  by_cases valid : n.isValidChar
  · exact .inl (toNat_ofNat_of_valid valid)
  · right
    rw [Char.ofNat, dif_neg valid]
    rfl

/-! ## Sets held as bits -/

/-- The set of the code points from `first` to `last`. -/
def spanCodes (first last : Nat) : Nat := (1 <<< (last + 1 - first) - 1) <<< first

theorem testBit_spanCodes {first last n : Nat} (from_first : first ≤ n) (to_last : n ≤ last) :
    (spanCodes first last).testBit n = true := by
  rw [spanCodes, Nat.testBit_shiftLeft, Nat.one_shiftLeft, Nat.testBit_two_pow_sub_one]
  simp only [Bool.and_eq_true, decide_eq_true_eq]
  omega

theorem of_testBit_spanCodes {first last n : Nat}
    (member : (spanCodes first last).testBit n = true) : first ≤ n ∧ n ≤ last := by
  rw [spanCodes, Nat.testBit_shiftLeft, Nat.one_shiftLeft, Nat.testBit_two_pow_sub_one] at member
  simp only [Bool.and_eq_true, decide_eq_true_eq] at member
  omega

/-- The set of the code points of a list. -/
def codesOf (points : List Nat) : Nat := points.foldr (fun n codes => 1 <<< n ||| codes) 0

theorem testBit_codesOf {points : List Nat} {n : Nat} (member : n ∈ points) :
    (codesOf points).testBit n = true := by
  induction points with
  | nil => cases member
  | cons point rest ih =>
    rw [codesOf, List.foldr_cons, Nat.testBit_or, Nat.one_shiftLeft]
    rcases List.mem_cons.1 member with rfl | member
    · simp
    · have found : (rest.foldr (fun n codes => 1 <<< n ||| codes) 0).testBit n = true := ih member
      simp [found]

/-- Whether two sets have no member in common. -/
def apart (codes others : Nat) : Bool := Nat.beq (codes &&& others) 0

theorem testBit_of_apart {codes others n : Nat} (separate : apart codes others = true)
    (member : codes.testBit n = true) : others.testBit n = false := by
  have empty : codes &&& others = 0 := Nat.eq_of_beq_eq_true separate
  have both := congrArg (·.testBit n) empty
  simpa [Nat.testBit_and, member] using both

/-! ## Spans and charts -/

/-- The set of the code points of some spans. -/
def Spans.codes (spans : Spans) : Nat :=
  spans.foldr (fun span codes => spanCodes span.1 span.2 ||| codes) 0

theorem Spans.testBit_codes_of_mem {spans : Spans} {span : Nat × Nat} {n : Nat}
    (member : span ∈ spans) (from_first : span.1 ≤ n) (to_last : n ≤ span.2) :
    spans.codes.testBit n = true := by
  induction spans with
  | nil => cases member
  | cons head rest ih =>
    rw [Spans.codes, List.foldr_cons, Nat.testBit_or, Bool.or_eq_true]
    rcases List.mem_cons.1 member with rfl | member
    · exact .inl (testBit_spanCodes from_first to_last)
    · exact .inr (ih member)

theorem Spans.exists_of_contains {spans : Spans} {n : Nat} (holds : spans.contains n = true) :
    ∃ span ∈ spans, span.1 ≤ n ∧ n ≤ span.2 := by
  induction spans with
  | nil => cases holds
  | cons span rest ih =>
    obtain ⟨first, last⟩ := span
    rw [Spans.contains] at holds
    split at holds
    next => cases holds
    next from_first =>
      split at holds
      next to_last =>
        exact ⟨(first, last), List.mem_cons_self, Nat.le_of_not_lt from_first, to_last⟩
      next =>
        obtain ⟨span, member, bounds⟩ := ih holds
        exact ⟨span, List.mem_cons_of_mem _ member, bounds⟩

theorem Spans.testBit_codes {spans : Spans} {n : Nat} (holds : spans.contains n = true) :
    spans.codes.testBit n = true := by
  obtain ⟨span, member, from_first, to_last⟩ := exists_of_contains holds
  exact testBit_codes_of_mem member from_first to_last

/-- Whether spans follow each other from `least` on. -/
def Spans.ascendFrom : Nat → Spans → Bool
  | _, [] => true
  | least, (first, last) :: rest =>
    Nat.ble least first && Nat.ble first last && Spans.ascendFrom (last + 1) rest

/-- A look-up finds every member of spans that follow each other. -/
theorem Spans.contains_of_testBit_codes {spans : Spans} {least n : Nat}
    (ascending : spans.ascendFrom least = true) (member : spans.codes.testBit n = true) :
    least ≤ n ∧ spans.contains n = true := by
  induction spans generalizing least with
  | nil => simp [Spans.codes] at member
  | cons span rest ih =>
    obtain ⟨first, last⟩ := span
    simp only [Spans.ascendFrom, Bool.and_eq_true, Nat.ble_eq] at ascending
    obtain ⟨⟨from_least, to_last⟩, later⟩ := ascending
    rw [Spans.codes, List.foldr_cons, Nat.testBit_or, Bool.or_eq_true] at member
    rw [Spans.contains]
    rcases member with here | there
    · obtain ⟨from_first, within⟩ := of_testBit_spanCodes here
      rw [if_neg (by omega), if_pos within]
      exact ⟨by omega, rfl⟩
    · obtain ⟨beyond, found⟩ := ih later there
      rw [if_neg (by omega), if_neg (by omega)]
      exact ⟨by omega, found⟩

/-- Whether all code points from `lowest` to `highest` lie in one of the spans. -/
def Spans.covers : Spans → Nat → Nat → Bool
  | [], _, _ => false
  | (first, last) :: rest, lowest, highest =>
    Nat.ble first lowest
      && (Nat.ble highest last || Nat.blt last lowest && Spans.covers rest lowest highest)

theorem Spans.contains_of_covers {spans : Spans} {lowest highest n : Nat}
    (covered : spans.covers lowest highest = true) (from_lowest : lowest ≤ n)
    (to_highest : n ≤ highest) : spans.contains n = true := by
  induction spans with
  | nil => cases covered
  | cons span rest ih =>
    obtain ⟨first, last⟩ := span
    simp only [Spans.covers, Bool.and_eq_true, Bool.or_eq_true, Nat.ble_eq, Nat.blt_eq] at covered
    obtain ⟨below, inside | ⟨beyond, covered⟩⟩ := covered
    · rw [Spans.contains, if_neg (by omega), if_pos (by omega)]
    · rw [Spans.contains, if_neg (by omega), if_neg (by omega)]
      exact ih covered

/-- The spans of a chart without their values. -/
def Chart.spans {α : Type} (chart : Chart α) : Spans :=
  chart.map fun span => (span.first, span.last)

/-- A look-up in a chart finds the span that holds the code point. -/
theorem Chart.exists_of_find? {α : Type} {chart : Chart α} {n offset : Nat} {value : α}
    (found : chart.find? n = some (offset, value)) :
    ∃ span ∈ chart, span.value = value ∧ span.first + offset = n ∧ n ≤ span.last := by
  induction chart with
  | nil => cases found
  | cons span rest ih =>
    rw [Chart.find?] at found
    split at found
    next => cases found
    next from_first =>
      split at found
      next to_last =>
        obtain ⟨rfl, rfl⟩ := Prod.mk.inj (Option.some.inj found)
        exact ⟨span, List.mem_cons_self, rfl, by omega, to_last⟩
      next =>
        obtain ⟨span, member, facts⟩ := ih found
        exact ⟨span, List.mem_cons_of_mem _ member, facts⟩

theorem Chart.testBit_codes {α : Type} {chart : Chart α} {n : Nat} {hit : Nat × α}
    (found : chart.find? n = some hit) : chart.spans.codes.testBit n = true := by
  obtain ⟨span, member, -, from_first, to_last⟩ := exists_of_find? found
  exact Spans.testBit_codes_of_mem (List.mem_map_of_mem member) (by simp only; omega) to_last

/-! ## Listings -/

/-- The runs of a listing as spans. -/
def Listing.spans (listing : Listing) : Spans :=
  listing.map fun run => (run.1, run.1 + run.2.length - 1)

/-- Whether something holds of consecutive code points from `n` on, each with its
sequence. -/
def allFrom (holds : Nat → List Nat → Bool) : Nat → List (List Nat) → Bool
  | _, [] => true
  | n, sequence :: rest => holds n sequence && allFrom holds (n + 1) rest

/-- Whether something holds of every code point of a listing with its sequence. -/
def Listing.all (listing : Listing) (holds : Nat → List Nat → Bool) : Bool :=
  List.all listing fun run => allFrom holds run.1 run.2

theorem of_allFrom {holds : Nat → List Nat → Bool} {first : Nat} {sequences : List (List Nat)}
    (all : allFrom holds first sequences = true) {i : Nat} {sequence : List Nat}
    (found : sequences[i]? = some sequence) : holds (first + i) sequence = true := by
  induction sequences generalizing first i with
  | nil => cases found
  | cons head rest ih =>
    rw [allFrom, Bool.and_eq_true] at all
    cases i with
    | zero => exact Option.some.inj found ▸ all.1
    | succ i =>
      have later := ih all.2 (by simpa using found)
      rwa [Nat.add_assoc, Nat.add_comm 1 i] at later

/-- A look-up in a listing finds the run that holds the code point. -/
theorem Listing.exists_of_find? {listing : Listing} {n : Nat} {sequence : List Nat}
    (found : listing.find? n = some sequence) :
    ∃ run ∈ listing, ∃ i, run.1 + i = n ∧ run.2[i]? = some sequence := by
  induction listing with
  | nil => cases found
  | cons run rest ih =>
    obtain ⟨first, sequences⟩ := run
    rw [Listing.find?] at found
    split at found
    next => cases found
    next from_first =>
      split at found
      next here =>
        refine ⟨(first, sequences), List.mem_cons_self, n - first, ?_, here.trans found⟩
        exact Nat.add_sub_of_le (Nat.le_of_not_lt from_first)
      next =>
        obtain ⟨run, member, place⟩ := ih found
        exact ⟨run, List.mem_cons_of_mem _ member, place⟩

theorem Listing.of_all {listing : Listing} {holds : Nat → List Nat → Bool}
    (all : listing.all holds = true) {n : Nat} {sequence : List Nat}
    (found : listing.find? n = some sequence) : holds n sequence = true := by
  obtain ⟨run, member, i, rfl, place⟩ := exists_of_find? found
  exact of_allFrom (List.all_eq_true.1 all run member) place

theorem Listing.exists_span_of_find? {listing : Listing} {n : Nat} {sequence : List Nat}
    (found : listing.find? n = some sequence) :
    ∃ span ∈ listing.spans, span.1 ≤ n ∧ n ≤ span.2 := by
  obtain ⟨run, member, i, rfl, place⟩ := exists_of_find? found
  have short : i < run.2.length := (List.getElem?_eq_some_iff.1 place).1
  exact ⟨_, List.mem_map_of_mem member, by simp only; omega, by simp only; omega⟩

end KeywordSearch.Unicode
