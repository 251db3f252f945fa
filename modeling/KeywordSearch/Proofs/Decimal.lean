/-!
# Decimal digits

A natural number is written with decimal digits, at least one, and no zero leads
them unless the number is zero.
-/

set_option autoImplicit false

namespace KeywordSearch

theorem isDigit_of_mem_toDigits {n : Nat} {c : Char} (member : c ∈ Nat.toDigits 10 n) :
    c.isDigit = true :=
  Nat.isDigit_of_mem_toDigits (by decide) (by decide) member

/-- A number has a first digit. -/
theorem exists_toDigits_eq_cons (n : Nat) :
    ∃ c rest, Nat.toDigits 10 n = c :: rest ∧ c.isDigit = true := by
  obtain ⟨c, rest, written⟩ := List.exists_cons_of_ne_nil (Nat.toDigits_ne_nil (n := n) (b := 10))
  exact ⟨c, rest, written, isDigit_of_mem_toDigits (written ▸ List.mem_cons_self)⟩

theorem digitChar_ne_zero : ∀ n < 10, 0 < n → n.digitChar ≠ '0' := by decide

/-- Only zero begins with a zero. -/
theorem head?_toDigits_ne_zero {n : Nat} (positive : 0 < n) :
    (Nat.toDigits 10 n).head? ≠ some '0' := by
  induction n using Nat.strongRecOn with
  | ind n ih =>
    rw [Nat.toDigits_eq_if (by decide)]
    split
    next small => simpa using digitChar_ne_zero n small positive
    next large =>
      have shorter : (Nat.toDigits 10 (n / 10)).head? ≠ some '0' :=
        ih (n / 10) (by omega) (by omega)
      obtain ⟨d, digits, first⟩ := List.exists_cons_of_ne_nil (Nat.toDigits_ne_nil (n := n / 10))
      rw [first] at shorter ⊢
      exact shorter

/-- A zero that begins a number is all of it. -/
theorem eq_nil_of_toDigits_eq_zero_cons {n : Nat} {rest : List Char}
    (written : Nat.toDigits 10 n = '0' :: rest) : rest = [] := by
  rcases Nat.eq_zero_or_pos n with rfl | positive
  · cases written
    rfl
  · exact absurd (congrArg List.head? written) (head?_toDigits_ne_zero positive)

end KeywordSearch
