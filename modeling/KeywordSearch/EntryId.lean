/-!
# Entry ids

An entry is known by a number of 64 bits.  Ids are compared as numbers; the
order settles ties between search results and nothing else.
-/

set_option autoImplicit false

namespace KeywordSearch

/-- The number that an entry is known by. -/
structure EntryId where
  value : UInt64
  deriving DecidableEq, Repr, Inhabited

namespace EntryId

instance : LT EntryId := ⟨fun a b => a.value < b.value⟩

instance (a b : EntryId) : Decidable (a < b) := inferInstanceAs (Decidable (a.value < b.value))

/-- The decimal digits of an id. -/
def text (id : EntryId) : String := String.ofList (Nat.toDigits 10 id.value.toNat)

theorem lt_def {a b : EntryId} : a < b ↔ a.value.toNat < b.value.toNat := UInt64.lt_iff_toNat_lt

theorem lt_irrefl (a : EntryId) : ¬a < a := by simp [lt_def]

theorem lt_trans {a b c : EntryId} : a < b → b < c → a < c := by
  simp only [lt_def]; exact Nat.lt_trans

theorem ne_of_lt {a b : EntryId} (less : a < b) : a ≠ b := by
  rintro rfl; exact lt_irrefl a less

theorem not_lt_of_lt {a b : EntryId} (less : a < b) : ¬b < a :=
  fun more => lt_irrefl a (lt_trans less more)

/-- Two ids neither of which is less are one id. -/
theorem eq_of_not_lt {a b : EntryId} (left : ¬a < b) (right : ¬b < a) : a = b := by
  obtain ⟨x⟩ := a
  obtain ⟨y⟩ := b
  simp only [lt_def] at left right
  exact congrArg mk (UInt64.toNat_inj.1 (by omega))

end EntryId

end KeywordSearch
