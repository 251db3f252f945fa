import KeywordSearch.Proofs.Unicode.Hangul
import KeywordSearch.Unicode.Letter
import KeywordSearch.Unicode.Lowercase
import Mathlib.Data.List.Chain

/-!
# What the tables have to do with each other

The tables of decompositions, composites, combining classes, letters and lower cases
are written down apart, but texts go through several of them one after another.  All
that the theory needs them to agree on is gathered in one structure, `TablesAgree`,
and checked by going through the tables once (`tables_agree`).
-/

set_option autoImplicit false

namespace KeywordSearch.Unicode

/-! ## The code points in the tables -/

/-- The code points of the Hangul syllables and of the listed decompositions. -/
def decomposable : Nat :=
  spanCodes hangulSyllable (hangulSyllable + hangulSyllables - 1) |||
    Spans.codes (decompositionParts.flatMap fun part => Listing.spans part.2)

/-- The second characters of the listed pairs. -/
def secondCodes : Nat := codesOf (composites.flatMap fun row => row.2.map Prod.fst)

/-- What the listed pairs compose to. -/
def compositeCodes : Nat := codesOf (composites.flatMap fun row => row.2.map Prod.snd)

/-- Whether the first character of a row may be in a composed text: it decomposes no
further, or else it is a composite itself. -/
def isLive (row : Nat × List (Nat × Nat)) : Bool :=
  !decomposable.testBit row.1 || compositeCodes.testBit row.1

/-- The code points whose lower case is one other character, with that lower case. -/
def lowerPairs : List (Nat × Nat) :=
  lowerRuns.flatMap fun span =>
    ((List.range (span.last + 1 - span.first)).filter fun offset =>
      Nat.beq (offset % span.value.step) 0).map fun offset =>
        (span.first + offset, span.value.lower + offset)

/-- The code points with a lower case of their own. -/
def loweredCodes : Nat := codesOf ('\u0130'.toNat :: lowerPairs.map Prod.fst)

/-! ## Composing what is listed -/

/-- Whether a character is what its decomposition composes to, each mark in it joining with
what the characters before it have made. -/
def isSettled (c : Char) : Bool :=
  match decomposeChar c with
  | [] => false
  | head :: marks => marks.foldlM join? head == some c

/-- A mark may stand behind another when it is a starter or its class is no lower. -/
def MayFollow (mark next : Mark) : Prop := next.cls = 0 ∨ mark.cls ≤ next.cls

instance : DecidableRel MayFollow := fun mark next =>
  inferInstanceAs (Decidable (next.cls = 0 ∨ mark.cls ≤ next.cls))

/-- Whether a code point can join with one before it: it is the second of a listed pair, or a
Hangul letter that follows another. -/
def isJoiner (n : Nat) : Bool := secondCodes.testBit n || decide (IsFollower n)

/-- Whether a character is a letter that is its own lower case. -/
def isPlainLetter (c : Char) : Bool := isLetter c && lowercaseChar c == [c]

/-- Whether a sequence begins with a letter and has the marks behind it in order; and if its
first character can join with one before it, whether it is plain letters throughout. -/
def isGrounded : List Char → Bool
  | [] => false
  | head :: marks =>
    letters.codes.testBit head.toNat
      && decide ((marks.map Mark.of).IsChain MayFollow)
      && (!isJoiner head.toNat || (head :: marks).all isPlainLetter)

/-! ## Looking up in steps that are evaluated at once -/

/-- `lookupAscending` by the recursor of lists and by tests of numbers, each of which is
evaluated in one step. -/
def scan {α : Type} (entries : List (Nat × α)) (n : Nat) : Option α :=
  entries.rec none fun entry _ later =>
    bif Nat.ble entry.1 n then bif Nat.beq n entry.1 then some entry.2 else later else none

theorem scan_cons {α : Type} (key : Nat) (value : α) (rest : List (Nat × α)) (n : Nat) :
    scan ((key, value) :: rest) n =
      bif Nat.ble key n then bif Nat.beq n key then some value else scan rest n else none := rfl

theorem lookupAscending_eq_scan {α : Type} (entries : List (Nat × α)) (n : Nat) :
    lookupAscending entries n = scan entries n := by
  induction entries with
  | nil => rfl
  | cons entry rest ih =>
    obtain ⟨key, value⟩ := entry
    rw [lookupAscending, ih, scan_cons]
    simp only [Bool.cond_eq_ite, Nat.ble_eq, Nat.beq_eq, ← Nat.not_lt, ite_not]

/-- What a listed pair of code points composes to. -/
def joinCodes (first second : Nat) : Option Nat :=
  (scan composites first).bind fun seconds => scan seconds second

/-- Whether a sequence composes to a code point by listed pairs. -/
def recomposes (n : Nat) : List Nat → Bool
  | [] => false
  | head :: marks => marks.foldlM joinCodes head == some n

/-- The member of a list at a place, by recursors. -/
def pick (sequences : List (List Nat)) : Nat → Option (List Nat) :=
  sequences.rec (fun _ => none) fun sequence _ later place =>
    place.rec (some sequence) fun before _ => later before

theorem getElem?_eq_pick (sequences : List (List Nat)) (place : Nat) :
    sequences[place]? = pick sequences place := by
  induction sequences generalizing place with
  | nil => rfl
  | cons sequence rest ih =>
    cases place with
    | zero => rfl
    | succ before => exact ih before

/-- `Listing.find?` by recursors and a test of numbers. -/
def Listing.scan (listing : Listing) (n : Nat) : Option (List Nat) :=
  listing.rec none fun run _ later =>
    bif Nat.ble run.1 n then (pick run.2 (n - run.1)).or later else none

theorem Listing.scan_cons (first : Nat) (sequences : List (List Nat)) (rest : Listing) (n : Nat) :
    Listing.scan ((first, sequences) :: rest) n =
      bif Nat.ble first n then (pick sequences (n - first)).or (Listing.scan rest n) else none :=
  rfl

theorem Listing.find?_eq_scan (listing : Listing) (n : Nat) :
    listing.find? n = listing.scan n := by
  induction listing with
  | nil => rfl
  | cons run rest ih =>
    obtain ⟨first, sequences⟩ := run
    rw [Listing.find?, ih, Listing.scan_cons, getElem?_eq_pick]
    simp only [Bool.cond_eq_ite, Nat.ble_eq, ← Nat.not_lt, ite_not]
    split
    next => rfl
    next => cases pick sequences (n - first) <;> rfl

/-- The decomposition that the tables list for a code point. -/
def scanParts (parts : List (Nat × Listing)) (n : Nat) : Option (List Nat) :=
  parts.rec none fun part _ later => bif Nat.ble n part.1 then part.2.scan n else later

theorem listedDecomposition_eq_scanParts (parts : List (Nat × Listing)) (n : Nat) :
    listedDecomposition parts n = scanParts parts n := by
  induction parts with
  | nil => rfl
  | cons part rest ih =>
    obtain ⟨last, listing⟩ := part
    rw [listedDecomposition, ih, Listing.find?_eq_scan]
    simp only [scanParts, Bool.cond_eq_ite, Nat.ble_eq]

/-- The code points of the decomposition of a character, given its code point. -/
def decomposedCodes (n : Nat) : List Nat :=
  bif decomposable.testBit n then
    if IsSyllable n then hangulLetters n else (scanParts decompositionParts n).getD [n]
  else [n]

/-- Whether two sequences of code points are the same. -/
def sameCodes : List Nat → List Nat → Bool
  | [], [] => true
  | n :: codes, other :: others => Nat.beq n other && sameCodes codes others
  | _, _ => false

theorem eq_of_sameCodes {codes others : List Nat} (same : sameCodes codes others = true) :
    codes = others := by
  induction codes generalizing others with
  | nil =>
    cases others with
    | nil => rfl
    | cons => cases same
  | cons n codes ih =>
    cases others with
    | nil => cases same
    | cons other others =>
      rw [sameCodes, Bool.and_eq_true] at same
      rw [Nat.eq_of_beq_eq_true same.1, ih same.2]

/-- Whether a number is the code point of a character. -/
def isCode (n : Nat) : Bool := Nat.beq (Char.ofNat n).toNat n

/-! ## The agreement -/

/-- What is asked of a listed decomposition: its members decompose no further, and it is
grounded if its code point is a composite and a letter. -/
def entryAgrees (n : Nat) (sequence : List Nat) : Bool :=
  (sequence.all fun element => !decomposable.testBit element)
    && (!(compositeCodes.testBit n && letters.codes.testBit n) ||
      isGrounded (sequence.map Char.ofNat))

/-- What the tables have to agree on. -/
structure TablesAgree : Prop where
  entries : (decompositionParts.all fun part => part.2.all entryAgrees) = true
  /-- Neither the characters below U+00A0 nor Hangul letters decompose. -/
  plain : apart (spanCodes 0 0x9F ||| spanCodes hangulLead (hangulTail + hangulTails))
    decomposable = true
  /-- The listed pairs are pairs of characters, and the second is none that joins as a Hangul
  letter or that is taken for no mark. -/
  pairs : (composites.all fun row => isCode row.1 && row.2.all fun pair =>
    isCode pair.1 && Nat.ble 0x300 pair.1 && !decide (IsFollower pair.1)) = true
  /-- A row whose first character cannot be in a composed text begins with an unsettled one. -/
  live : (composites.all fun row => isLive row || !isSettled (Char.ofNat row.1)) = true
  /-- What the other pairs compose to decomposes as the first character does, followed by the
  second. -/
  joins : ((composites.filter isLive).all fun row => row.2.all fun pair => isCode pair.2 &&
    sameCodes (decomposedCodes pair.2) (decomposedCodes row.1 ++ [pair.1])) = true
  /-- A pair whose second character is a letter composes to a plain letter. -/
  letterPairs : (composites.all fun row => row.2.all fun pair =>
    !letters.codes.testBit pair.1 || isPlainLetter (Char.ofNat pair.2)) = true
  /-- Letters are starters. -/
  starters : apart letters.codes combiningClasses.spans.codes = true
  /-- Hangul letters and syllables are letters. -/
  hangul : (letters.covers hangulSyllable (hangulSyllable + hangulSyllables - 1) &&
    letters.covers hangulLead (hangulTail + hangulTails)) = true
  /-- Neither a listed lower case nor a Hangul letter or syllable has a lower case of its own. -/
  lowered : apart (codesOf (0 :: lowerPairs.map Prod.snd) |||
    spanCodes hangulLead (hangulTail + hangulTails) |||
    spanCodes hangulSyllable (hangulSyllable + hangulSyllables - 1)) loweredCodes = true
  /-- A listed lower case decomposes no further or is composed again, unless what it is the
  lower case of is not settled. -/
  lower : (lowerPairs.all fun pair => !decomposable.testBit pair.2 ||
    isCode pair.2 && recomposes pair.2 (decomposedCodes pair.2) ||
      !isSettled (Char.ofNat pair.1)) = true
  /-- The capital sigma is not its own lower case, and what it and the dotted capital I are
  lowered to are settled and their own lower cases. -/
  irregular : (lowercaseChar '\u03A3' != ['\u03A3'] &&
    ['i', '\u0307', '\u03C2', '\u03C3'].all fun d =>
      lowercaseChar d == [d] && isSettled d) = true

theorem tables_agree : TablesAgree where
  entries := by decide +kernel
  plain := by decide +kernel
  pairs := by decide +kernel
  live := by decide +kernel
  joins := by decide +kernel
  letterPairs := by decide +kernel
  starters := by decide +kernel
  hangul := by decide +kernel
  lowered := by decide +kernel
  lower := by decide +kernel
  irregular := by decide +kernel

end KeywordSearch.Unicode
