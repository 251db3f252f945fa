import KeywordSearch.Proofs.Unicode.CodeSets
import KeywordSearch.Unicode.Composition

/-!
# Hangul letters and syllables

A Hangul syllable is computed from its letters and not listed, and its letters are
characters of their own: a lead joins with the vowel behind it, and the syllable
that they make joins with a closing letter.  What joins has the letters of both
(`hangulLetters_of_joinHangul`).
-/

set_option autoImplicit false

namespace KeywordSearch.Unicode

/-! ## Letters and syllables -/

/-- Whether a code point is a Hangul syllable. -/
def IsSyllable (n : Nat) : Prop := hangulSyllable ≤ n ∧ n < hangulSyllable + hangulSyllables

instance (n : Nat) : Decidable (IsSyllable n) :=
  inferInstanceAs (Decidable (hangulSyllable ≤ n ∧ n < hangulSyllable + hangulSyllables))

/-- Whether a code point is a vowel or a tail, which join with what is before them. -/
def IsFollower (n : Nat) : Prop :=
  (hangulVowel ≤ n ∧ n < hangulVowel + hangulVowels) ∨
    (hangulTail < n ∧ n < hangulTail + hangulTails)

instance (n : Nat) : Decidable (IsFollower n) :=
  inferInstanceAs (Decidable ((hangulVowel ≤ n ∧ n < hangulVowel + hangulVowels) ∨
    (hangulTail < n ∧ n < hangulTail + hangulTails)))

theorem IsSyllable.toNat_ofNat {n : Nat} (syllable : IsSyllable n) : (Char.ofNat n).toNat = n := by
  simp only [IsSyllable, hangulSyllable, hangulSyllables] at syllable
  exact toNat_ofNat_of_valid (.inl (by omega))

/-- What joins is a follower with what is before it, and it makes a syllable. -/
theorem joinHangul_eq_some {first second n : Nat} (joined : joinHangul first second = some n) :
    IsFollower second ∧ IsSyllable n := by
  rw [joinHangul] at joined
  split at joined
  next letters =>
    obtain ⟨lead_from, lead_to, vowel_from, vowel_to⟩ := letters
    refine ⟨.inl ⟨vowel_from, vowel_to⟩, ?_⟩
    simp only [hangulLead, hangulLeads, hangulVowel, hangulVowels, hangulSyllable, hangulTails,
      Option.some.injEq] at *
    simp only [IsSyllable, hangulSyllable, hangulSyllables]
    omega
  next =>
    split at joined
    next letters =>
      obtain ⟨from_first, to_last, opened, tail_from, tail_to⟩ := letters
      refine ⟨.inr ⟨tail_from, tail_to⟩, ?_⟩
      simp only [hangulSyllable, hangulSyllables, hangulTail, hangulTails,
        Option.some.injEq] at *
      simp only [IsSyllable, hangulSyllable, hangulSyllables]
      omega
    next => cases joined

theorem joinHangul_of_not_isFollower {first second : Nat} (free : ¬IsFollower second) :
    joinHangul first second = none := by
  cases joined : joinHangul first second with
  | none => rfl
  | some n => exact absurd (joinHangul_eq_some joined).1 free

/-- The letters of a syllable, given the places of its lead, its vowel and its tail. -/
theorem hangulLetters_at {lead vowel tail : Nat} (vowel_lt : vowel < hangulVowels)
    (tail_lt : tail < hangulTails) :
    hangulLetters (hangulSyllable + ((lead * hangulVowels + vowel) * hangulTails + tail)) =
      (hangulLead + lead) :: (hangulVowel + vowel) ::
        if tail = 0 then [] else [hangulTail + tail] := by
  have block : ((lead * hangulVowels + vowel) * hangulTails + tail) / hangulTails =
      lead * hangulVowels + vowel := by
    rw [Nat.mul_comm, Nat.mul_add_div (by decide), Nat.div_eq_of_lt tail_lt, Nat.add_zero]
  have ends : ((lead * hangulVowels + vowel) * hangulTails + tail) % hangulTails = tail := by
    rw [Nat.mul_comm, Nat.mul_add_mod, Nat.mod_eq_of_lt tail_lt]
  have leads : ((lead * hangulVowels + vowel) * hangulTails + tail) /
      (hangulVowels * hangulTails) = lead := by
    rw [Nat.mul_comm hangulVowels hangulTails, ← Nat.div_div_eq_div_mul, block, Nat.mul_comm,
      Nat.mul_add_div (by decide), Nat.div_eq_of_lt vowel_lt, Nat.add_zero]
  have vowels : ((lead * hangulVowels + vowel) * hangulTails + tail) %
      (hangulVowels * hangulTails) / hangulTails = vowel := by
    rw [Nat.mul_comm hangulVowels hangulTails, Nat.mod_mul_right_div_self, block, Nat.mul_comm,
      Nat.mul_add_mod, Nat.mod_eq_of_lt vowel_lt]
  simp only [hangulLetters, Nat.add_sub_cancel_left, leads, vowels, ends]
  split <;> rfl

/-- Every syllable is given by three such places. -/
theorem IsSyllable.exists_at {n : Nat} (syllable : IsSyllable n) :
    ∃ lead vowel tail, lead < hangulLeads ∧ vowel < hangulVowels ∧ tail < hangulTails ∧
      n = hangulSyllable + ((lead * hangulVowels + vowel) * hangulTails + tail) := by
  obtain ⟨from_first, to_last⟩ := syllable
  obtain ⟨index, rfl⟩ := Nat.exists_eq_add_of_le from_first
  have block_lt : index / hangulTails < hangulLeads * hangulVowels :=
    Nat.div_lt_of_lt_mul (show index < hangulSyllables by omega)
  refine ⟨index / hangulTails / hangulVowels, index / hangulTails % hangulVowels,
    index % hangulTails, Nat.div_lt_of_lt_mul (Nat.mul_comm hangulLeads _ ▸ block_lt),
    Nat.mod_lt _ (by decide), Nat.mod_lt _ (by decide), ?_⟩
  rw [Nat.div_add_mod', Nat.div_add_mod']

/-- The letters of a syllable are all in the block of Hangul letters. -/
theorem mem_hangulLetters {n letter : Nat} (syllable : IsSyllable n)
    (member : letter ∈ hangulLetters n) :
    hangulLead ≤ letter ∧ letter ≤ hangulTail + hangulTails := by
  obtain ⟨lead, vowel, tail, lead_lt, vowel_lt, tail_lt, rfl⟩ := syllable.exists_at
  have among : letter = hangulLead + lead ∨ letter = hangulVowel + vowel ∨
      letter = hangulTail + tail := by
    rw [hangulLetters_at vowel_lt tail_lt] at member
    split at member
    next =>
      simp only [List.mem_cons, List.not_mem_nil, or_false] at member
      exact member.imp_right .inl
    next => simpa using member
  simp only [hangulLead, hangulLeads, hangulVowel, hangulVowels, hangulTail, hangulTails] at *
  omega

theorem toNat_ofNat_of_mem_hangulLetters {n letter : Nat} (syllable : IsSyllable n)
    (member : letter ∈ hangulLetters n) : (Char.ofNat letter).toNat = letter := by
  have to_tail := (mem_hangulLetters syllable member).2
  simp only [hangulTail, hangulTails] at to_tail
  exact toNat_ofNat_of_valid (.inl (by omega))

/-- The letters of what joins are the lead and the vowel, or those of the open syllable and
the tail. -/
theorem hangulLetters_of_joinHangul {first second n : Nat}
    (joined : joinHangul first second = some n) :
    (hangulLead ≤ first ∧ first < hangulLead + hangulLeads ∧ hangulLetters n = [first, second]) ∨
      (IsSyllable first ∧ hangulLetters n = hangulLetters first ++ [second]) := by
  rw [joinHangul] at joined
  split at joined
  next letters =>
    obtain ⟨lead_from, lead_to, vowel_from, vowel_to⟩ := letters
    refine .inl ⟨lead_from, lead_to, ?_⟩
    have vowel_lt : second - hangulVowel < hangulVowels := by omega
    have opened := @hangulLetters_at (first - hangulLead) _ 0 vowel_lt (by decide)
    rwa [Nat.add_zero, Option.some.inj joined, if_pos rfl, Nat.add_sub_cancel' lead_from,
      Nat.add_sub_cancel' vowel_from] at opened
  next =>
    split at joined
    next letters =>
      obtain ⟨from_first, to_last, opened, tail_from, tail_to⟩ := letters
      have syllable : IsSyllable first := ⟨from_first, to_last⟩
      refine .inr ⟨syllable, ?_⟩
      obtain ⟨lead, vowel, tail, -, vowel_lt, tail_lt, rfl⟩ := syllable.exists_at
      rw [Nat.add_sub_cancel_left, Nat.mul_comm, Nat.mul_add_mod, Nat.mod_eq_of_lt tail_lt]
        at opened
      subst opened
      have closing_lt : second - hangulTail < hangulTails := by omega
      have closed := @hangulLetters_at lead _ _ vowel_lt closing_lt
      rw [if_neg (by omega), Nat.add_sub_cancel' (Nat.le_of_lt tail_from)] at closed
      rw [← Option.some.inj joined, hangulLetters_at vowel_lt tail_lt, if_pos rfl, Nat.add_zero,
        Nat.add_assoc, closed]
      rfl
    next => cases joined

end KeywordSearch.Unicode
