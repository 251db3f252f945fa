import KeywordSearch.Unicode.CombiningClass
import KeywordSearch.Unicode.Decomposition.Alphabets
import KeywordSearch.Unicode.Decomposition.Phonetic
import KeywordSearch.Unicode.Decomposition.Symbols
import KeywordSearch.Unicode.Decomposition.EastAsian
import KeywordSearch.Unicode.Decomposition.Ideographs
import KeywordSearch.Unicode.Decomposition.Forms
import KeywordSearch.Unicode.Decomposition.Mathematical
import KeywordSearch.Unicode.Decomposition.Supplement

/-!
# Compatibility decomposition

Every character has a full compatibility decomposition, a sequence of
characters that decompose no further.  It is found in the tables, which are those
of Unicode 17.0, computed for Hangul syllables, and is the character itself for all
the rest.  A text is
decomposed character by character, and afterwards the marks between two
starters are brought into the order of their combining classes, marks of one
class keeping their places.
-/

set_option autoImplicit false

namespace KeywordSearch.Unicode

/-! ## Hangul syllables -/

/-- The first Hangul syllable. -/
def hangulSyllable : Nat := 0xAC00

/-- How many Hangul syllables there are. -/
def hangulSyllables : Nat := 11172

/-- The first letter that leads a syllable. -/
def hangulLead : Nat := 0x1100

/-- How many letters can lead a syllable. -/
def hangulLeads : Nat := 19

/-- The first vowel of a syllable. -/
def hangulVowel : Nat := 0x1161

/-- How many vowels a syllable can have. -/
def hangulVowels : Nat := 21

/-- The code point before the first letter that closes a syllable. -/
def hangulTail : Nat := 0x11A7

/-- In how many ways a syllable can end, with a closing letter or without. -/
def hangulTails : Nat := 28

/-- The letters of a Hangul syllable: a lead, a vowel and perhaps a tail. -/
def hangulLetters (n : Nat) : List Nat :=
  let index := n - hangulSyllable
  let lead := hangulLead + index / (hangulVowels * hangulTails)
  let vowel := hangulVowel + index % (hangulVowels * hangulTails) / hangulTails
  let tail := index % hangulTails
  if tail = 0 then [lead, vowel] else [lead, vowel, hangulTail + tail]

/-! ## Decomposing one character -/

/-- The tabulated decompositions in ascending order, each part with the last
code point that it can hold. -/
def decompositionParts : List (Nat × Listing) := [
  (0x1BFF, alphabetsDecompositions), (0x1FFF, phoneticDecompositions),
  (0x2FFF, symbolsDecompositions), (0xABFF, eastAsianDecompositions),
  (0xFAFF, ideographsDecompositions), (0xFFFF, formsDecompositions),
  (0x1FFFF, mathematicalDecompositions), (0x2FFFF, supplementDecompositions)]

/-- The decomposition listed for a code point in the part that can hold it. -/
def listedDecomposition : List (Nat × Listing) → Nat → Option (List Nat)
  | [], _ => none
  | (last, listing) :: rest, n =>
    if n ≤ last then listing.find? n else listedDecomposition rest n

/-- The full compatibility decomposition of a character. -/
def decomposeChar (c : Char) : List Char :=
  let n := c.toNat
  if n < 0xA0 then [c]
  else if hangulSyllable ≤ n ∧ n < hangulSyllable + hangulSyllables then
    (hangulLetters n).map Char.ofNat
  else match listedDecomposition decompositionParts n with
    | some sequence => sequence.map Char.ofNat
    | none => [c]

/-! ## Canonical order -/

/-- A character together with its combining class. -/
structure Mark where
  cls : Nat
  char : Char
  deriving DecidableEq, Repr

/-- Attaches its combining class to a character. -/
def Mark.of (c : Char) : Mark := ⟨combiningClass c, c⟩

/-- Puts a character in front of an ordered text, behind those marks at its
head whose class is lower. -/
def place (mark : Mark) : List Mark → List Mark
  | [] => [mark]
  | head :: rest =>
    if 0 < head.cls ∧ head.cls < mark.cls then head :: place mark rest else mark :: head :: rest

/-- Sorts the marks between any two starters by class, stably. -/
def canonicalOrder : List Mark → List Mark
  | [] => []
  | mark :: rest => place mark (canonicalOrder rest)

/-- The compatibility decomposition of a text in canonical order. -/
def decompose (text : List Char) : List Mark :=
  canonicalOrder ((text.flatMap decomposeChar).map Mark.of)

end KeywordSearch.Unicode
