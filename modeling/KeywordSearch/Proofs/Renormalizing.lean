import KeywordSearch.Proofs.Unicode.Lowercase
import KeywordSearch.Proofs.Unicode.Recomposition
import KeywordSearch.Token

/-!
# The token of a token

The token of a text that is a token itself is meant to be that token.  It is, except
for what dropping characters can do: where something stood between two characters of a
text that join, they are neighbours in its token, and taking the token again joins
them.  Nothing else is ever changed, by lowering or by dropping: the letters of a token
are settled and their own lower case, and so is what two of them join to
(`Normal.of_join?`).  So the second time a token is taken there is nothing to do but to
compose it (`ofText_ofText`).

A token is its own token just if no character of it joins with what the next one begins
with when it is decomposed, and the token of a token always is its own
(`ofText_ofText_eq_self_iff`).
-/

set_option autoImplicit false

namespace KeywordSearch.Token

open Unicode

/-! ## The letters of a token -/

theorem isKept_of_isLetter {c : Char} (letter : isLetter c = true) : isKept c = true := by
  rw [isKept, letter, Bool.true_or]

/-- A letter that a token can hold: it is settled and its own lower case. -/
structure Normal (c : Char) : Prop where
  letter : isLetter c = true
  settled : isSettled c = true
  lower : lowercaseChar c = [c]

/-- What two letters of a token join to is a letter that a token can hold. -/
theorem Normal.of_join? {first second c : Char} (before : Normal first) (behind : Normal second)
    (joined : join? first second = some c) : Normal c := by
  obtain ⟨letter, lower⟩ := isPlainLetter_iff.1 (isPlainLetter_of_join? behind.letter joined)
  exact ⟨letter, isSettled_of_join? before.settled joined, lower⟩

theorem Normal.isRestored {c : Char} (normal : Normal c) : IsRestored c := by
  obtain ⟨head, marks, restored, -⟩ := restored_of_isLetter normal.settled normal.letter
  exact ⟨head, marks, restored⟩

/-- The letters of a token decompose as letters of the same kind do that only join as a whole. -/
theorem exists_firm_text {text : List Char} (normal : ∀ c ∈ text, Normal c) :
    ∃ parts, spread parts = spread text ∧ ∀ part ∈ parts, IsFirm part ∧ Normal part := by
  induction text with
  | nil => exact ⟨[], rfl, by simp⟩
  | cons c rest ih =>
    obtain ⟨here, normalRest⟩ := List.forall_mem_cons.1 normal
    obtain ⟨parts, same, firm⟩ := exists_firm_parts here.settled here.letter
    obtain ⟨more, sameRest, firmRest⟩ := ih normalRest
    refine ⟨parts ++ more, ?_, ?_⟩
    · rw [spread_append, same, sameRest, ← spread_append, List.singleton_append]
    · intro part member
      rcases List.mem_append.1 member with inParts | later
      · obtain ⟨whole, rfl | ⟨plain, plainLetter⟩⟩ := firm part inParts
        · exact ⟨whole, here⟩
        · obtain ⟨letter, lower⟩ := isPlainLetter_iff.1 plainLetter
          exact ⟨whole, letter, isSettled_of_decomposeChar_eq plain, lower⟩
      · exact firmRest part later

/-- Composing letters of a token gives letters that a token can hold. -/
theorem normal_of_mem_nfkc {text : List Char} (normal : ∀ c ∈ text, Normal c) {c : Char}
    (member : c ∈ nfkc text) : Normal c := by
  obtain ⟨parts, same, firm⟩ := exists_firm_text normal
  have composed : nfkc text = nfkc parts := by
    rw [nfkc, nfkc, decompose_eq_canonicalOrder, decompose_eq_canonicalOrder, same]
  rw [composed] at member
  exact of_mem_nfkc_of_firm (fun _ _ _ => Normal.of_join?)
    (fun part inParts => (firm part inParts).1) (fun part inParts => (firm part inParts).2) member

/-! ## The form of a token -/

/-- No character that counts towards a token is white space. -/
theorem isWhiteSpace_of_isKept {c : Char} (kept : isKept c = true) : isWhiteSpace c = false := by
  have separate : (whiteSpaces.all fun c => !isKept c) = true := by decide +kernel
  by_contra white
  rw [Bool.not_eq_false, isWhiteSpace, List.contains_iff_mem] at white
  have dropped := List.all_eq_true.1 separate c white
  rw [kept] at dropped
  cases dropped

/-- A text with a character that counts towards a token is not blank. -/
theorem isValid_of_isKept {text : List Char} {c : Char} (kept : isKept c = true)
    (member : c ∈ text) : isValid text = true := by
  rw [isValid, Bool.not_eq_true', isBlank, List.all_eq_false]
  exact ⟨c, member, by rw [isWhiteSpace_of_isKept kept]; exact Bool.false_ne_true⟩

/-- A token is letters that are settled and their own lower case, and perhaps one wildcard behind
them. -/
theorem exists_letters_of_ofText (text : List Char) :
    ∃ letters, (∀ c ∈ letters, Normal c) ∧
      (ofText text = letters ∨ ofText text = letters ++ [wildcard]) := by
  rw [ofText]
  split
  next => exact ⟨[], by simp, .inl rfl⟩
  next =>
    refine ⟨((lowercase (nfkc text)).filter isKept).filter (· != wildcard), ?_, ?_⟩
    · intro c member
      obtain ⟨inKept, unmarked⟩ := List.mem_filter.1 member
      obtain ⟨lowered, kept⟩ := List.mem_filter.1 inKept
      obtain ⟨lower, settled⟩ := of_mem_lowercase (fun _ => isSettled_of_mem_nfkc) lowered
      rw [isKept, Bool.or_eq_true, beq_iff_eq] at kept
      exact ⟨kept.resolve_right (bne_iff_ne.1 unmarked), settled, lower⟩
    · rw [gatherWildcard]
      split
      next => exact .inr rfl
      next => exact .inl rfl

/-- Gathering the wildcards leaves text as it is where the only one is at its end. -/
theorem gatherWildcard_of_notMem {letters : List Char} (none : wildcard ∉ letters) :
    gatherWildcard letters = letters ∧
      gatherWildcard (letters ++ [wildcard]) = letters ++ [wildcard] := by
  have bare : letters.filter (· != wildcard) = letters := by
    refine List.filter_eq_self.2 ?_
    intro c member
    rw [bne_iff_ne]
    rintro rfl
    exact none member
  constructor
  · have open_ended : letters.getLast? ≠ some wildcard := by
      intro ends
      exact none (List.mem_of_getLast? ends)
    rw [gatherWildcard, if_neg open_ended, bare]
  · have marker : [wildcard].filter (· != wildcard) = [] := by simp
    rw [gatherWildcard, if_pos List.getLast?_concat, List.filter_append, bare, marker,
      List.append_nil]

/-! ## The token of a token -/

theorem normal_or_wildcard {token letters : List Char} (normal : ∀ c ∈ letters, Normal c)
    (form : token = letters ∨ token = letters ++ [wildcard]) {c : Char} (member : c ∈ token) :
    Normal c ∨ c = wildcard := by
  rcases form with rfl | rfl
  · exact .inl (normal c member)
  · rw [List.mem_append, List.mem_singleton] at member
    exact member.imp_left (normal c)

theorem isKept_of_normal_or_wildcard {c : Char} (among : Normal c ∨ c = wildcard) :
    isKept c = true := by
  rcases among with normal | rfl
  · exact isKept_of_isLetter normal.letter
  · decide +kernel

theorem wildcard_notMem_of_normal {letters : List Char} (normal : ∀ c ∈ letters, Normal c) :
    wildcard ∉ letters := by
  intro member
  exact absurd (normal wildcard member).letter (by decide)

/-- A text that is normalized to what a token can be has just that as its token. -/
theorem ofText_eq_nfkc {text letters : List Char} (visible : ¬isBlank text = true)
    (normal : ∀ c ∈ letters, Normal c)
    (form : nfkc text = letters ∨ nfkc text = letters ++ [wildcard]) :
    ofText text = nfkc text := by
  have lowered : ∀ c ∈ nfkc text, lowercaseChar c = [c] := by
    intro c member
    rcases normal_or_wildcard normal form member with letter | rfl
    · exact letter.lower
    · decide
  have kept : ∀ c ∈ nfkc text, isKept c = true := fun c member =>
    isKept_of_normal_or_wildcard (normal_or_wildcard normal form member)
  have gathered := gatherWildcard_of_notMem (wildcard_notMem_of_normal normal)
  rw [ofText, if_neg visible, lowercase_eq_self lowered, List.filter_eq_self.2 kept]
  rcases form with bare | marked
  · rw [bare, gathered.1]
  · rw [marked, gathered.2]

/-- The wildcard behind a text stays there when the text is normalized. -/
theorem nfkc_append_wildcard (text : List Char) :
    nfkc (text ++ [wildcard]) = nfkc text ++ [wildcard] :=
  nfkc_concat rfl (by decide) (by decide +kernel) text

/-- The second time a token is taken, there is nothing to do but to compose it. -/
theorem ofText_ofText (text : List Char) : ofText (ofText text) = nfkc (ofText text) := by
  obtain ⟨letters, normal, form⟩ := exists_letters_of_ofText text
  by_cases blank : isBlank (ofText text) = true
  · -- Only the empty token is blank.
    cases token : ofText text with
    | nil => rfl
    | cons c rest =>
      have member : c ∈ ofText text := token ▸ List.mem_cons_self
      have valid := isValid_of_isKept
        (isKept_of_normal_or_wildcard (normal_or_wildcard normal form member)) member
      rw [isValid, blank] at valid
      cases valid
  · refine ofText_eq_nfkc blank (fun c => normal_of_mem_nfkc normal) ?_
    rcases form with bare | marked
    · exact .inl (congrArg nfkc bare)
    · exact .inr (by rw [marked, nfkc_append_wildcard])

/-- **When a token is its own token.**  Taking the token of a token composes it and does nothing
else; so it gives the token back just if no character in it joins with what the next one begins
with when it is decomposed, and whatever it gives is given back from then on. -/
theorem ofText_ofText_eq_self_iff (text : List Char) :
    ofText (ofText text) = nfkc (ofText text) ∧
      (ofText (ofText text) = ofText text ↔ (ofText text).IsChain Unjoined) ∧
      ofText (ofText (ofText text)) = ofText (ofText text) := by
  refine ⟨ofText_ofText text, ?_, ?_⟩
  · rw [ofText_ofText]
    obtain ⟨letters, normal, form⟩ := exists_letters_of_ofText text
    refine nfkc_eq_self_iff ?_
    intro c member
    rcases normal_or_wildcard normal form member with letter | rfl
    · exact letter.isRestored
    · exact ⟨_, _, restored_of_plain rfl (by decide)⟩
  · rw [ofText_ofText (ofText text), ofText_ofText text, nfkc_nfkc]

/-- A hyphen between a lead and a vowel is dropped, and the second time they join. -/
theorem ofText_ofText_ne_self :
    ofText (ofText ['\u1100', '-', '\u1161']) ≠ ofText ['\u1100', '-', '\u1161'] := by
  decide +kernel

/-- Two vowel signs join in the same way, though they are not Hangul. -/
example : ofText (ofText [Char.ofNat 0x16D67, '-', Char.ofNat 0x16D67]) = [Char.ofNat 0x16D68] := by
  decide +kernel

end KeywordSearch.Token
