import KeywordSearch.Unicode.Composites
import KeywordSearch.Unicode.Decomposition

/-!
# Canonical composition and compatibility normalization

Composition walks along a decomposed text and joins each character with the
last starter before it where the two have a primary composite, unless a mark
that stays between them has a class that is not lower.  Decomposing a text for
compatibility and then composing it gives its compatibility-composed form
(`nfkc`).
-/

set_option autoImplicit false

namespace KeywordSearch.Unicode

/-! ## Joining two characters -/

/-- The entry of an association list that ascends by key. -/
def lookupAscending {α : Type} : List (Nat × α) → Nat → Option α
  | [], _ => none
  | (key, value) :: rest, n =>
    if n < key then none else if n = key then some value else lookupAscending rest n

/-- The Hangul syllable that a lead and a vowel make, or an open syllable and
a tail. -/
def joinHangul (first second : Nat) : Option Nat :=
  if hangulLead ≤ first ∧ first < hangulLead + hangulLeads
      ∧ hangulVowel ≤ second ∧ second < hangulVowel + hangulVowels then
    some (hangulSyllable
      + ((first - hangulLead) * hangulVowels + (second - hangulVowel)) * hangulTails)
  else if hangulSyllable ≤ first ∧ first < hangulSyllable + hangulSyllables
      ∧ (first - hangulSyllable) % hangulTails = 0
      ∧ hangulTail < second ∧ second < hangulTail + hangulTails then
    some (first + (second - hangulTail))
  else none

/-- The primary composite of two characters. -/
def join? (first second : Char) : Option Char :=
  match joinHangul first.toNat second.toNat with
  | some n => some (Char.ofNat n)
  | none =>
    if second.toNat < 0x300 then none
    else match lookupAscending composites first.toNat with
      | some seconds => (lookupAscending seconds second.toNat).map Char.ofNat
      | none => none

/-! ## Composing a text -/

/-- Composes a text behind a starter.  `held` are the marks, in reverse, that
stay behind the starter, and `lastClass` is the class of the last of them, or
0 when there is none. -/
def composeFrom (starter : Char) (held : List Char) (lastClass : Nat) : List Mark → List Char
  | [] => starter :: held.reverse
  | mark :: rest =>
    let joined := if lastClass ≠ 0 ∧ mark.cls ≤ lastClass then none else join? starter mark.char
    match joined with
    | some composite => composeFrom composite held lastClass rest
    | none =>
      if mark.cls = 0 then starter :: (held.reverse ++ composeFrom mark.char [] 0 rest)
      else composeFrom starter (mark.char :: held) mark.cls rest

/-- Composes a decomposed text; marks before the first starter stay as they are. -/
def compose : List Mark → List Char
  | [] => []
  | mark :: rest =>
    if mark.cls = 0 then composeFrom mark.char [] 0 rest else mark.char :: compose rest

/-- The compatibility-composed form of a text. -/
def nfkc (text : List Char) : List Char := compose (decompose text)

end KeywordSearch.Unicode
