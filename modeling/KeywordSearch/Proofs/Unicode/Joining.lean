import KeywordSearch.Proofs.Unicode.Decomposition

/-!
# What joins with what stands before it

Only the second characters of the listed pairs join with what stands before them, and
the Hangul letters that follow others in a syllable (`isJoiner_of_join?`).  What two
characters join to has the decomposition of the first with the second behind it
(`decomposeChar_of_join?`), as long as the first is settled: no other character is in
a composed text, and what a settled character joins to is settled again.
-/

set_option autoImplicit false

namespace KeywordSearch.Unicode

/-! ## The listed pairs -/

theorem mem_of_lookupAscending {α : Type} {entries : List (Nat × α)} {n : Nat} {value : α}
    (found : lookupAscending entries n = some value) : (n, value) ∈ entries := by
  induction entries with
  | nil => cases found
  | cons entry rest ih =>
    obtain ⟨key, held⟩ := entry
    rw [lookupAscending] at found
    split at found
    next => cases found
    next =>
      split at found
      next same =>
        cases found
        exact same ▸ List.mem_cons_self
      next => exact List.mem_cons_of_mem _ (ih found)

/-- What two characters join to is a Hangul syllable, or else they are a listed pair. -/
theorem join?_eq_some {first second c : Char} (joined : join? first second = some c) :
    (∃ n, joinHangul first.toNat second.toNat = some n ∧ c = Char.ofNat n) ∨
    ∃ row ∈ composites, ∃ n, row.1 = first.toNat ∧ (second.toNat, n) ∈ row.2 ∧
      c = Char.ofNat n := by
  rw [join?] at joined
  split at joined
  next n hangul => exact .inl ⟨n, hangul, (Option.some.inj joined).symm⟩
  next =>
    split at joined
    next => cases joined
    next =>
      split at joined
      next seconds row =>
        obtain ⟨n, found, rfl⟩ := Option.map_eq_some_iff.1 joined
        exact .inr ⟨_, mem_of_lookupAscending row, n, rfl, mem_of_lookupAscending found, rfl⟩
      next => cases joined

/-- Listed pairs of code points join as characters. -/
theorem join?_of_joinCodes {first second n : Nat} (joined : joinCodes first second = some n) :
    join? (Char.ofNat first) (Char.ofNat second) = some (Char.ofNat n) := by
  obtain ⟨seconds, row, found⟩ := Option.bind_eq_some_iff.1 joined
  rw [← lookupAscending_eq_scan] at row found
  have rowAgrees := List.all_eq_true.1 tables_agree.pairs _ (mem_of_lookupAscending row)
  rw [Bool.and_eq_true] at rowAgrees
  obtain ⟨code, pairs⟩ := rowAgrees
  have pairAgrees := List.all_eq_true.1 pairs _ (mem_of_lookupAscending found)
  simp only [Bool.and_eq_true, Bool.not_eq_true', decide_eq_false_iff_not, Nat.ble_eq] at pairAgrees
  obtain ⟨⟨codeSecond, from_marks⟩, free⟩ := pairAgrees
  have toFirst : (Char.ofNat first).toNat = first := Nat.eq_of_beq_eq_true code
  have toSecond : (Char.ofNat second).toNat = second := Nat.eq_of_beq_eq_true codeSecond
  rw [join?, toFirst, toSecond, joinHangul_of_not_isFollower free]
  simp only [if_neg (Nat.not_lt.2 from_marks), row, found, Option.map_some]

/-! ## What can join -/

/-- What joins with something before it is one of the characters that can. -/
theorem isJoiner_of_join? {first second c : Char} (joined : join? first second = some c) :
    isJoiner second.toNat = true := by
  rw [isJoiner, Bool.or_eq_true, decide_eq_true_eq]
  rcases join?_eq_some joined with ⟨n, hangul, -⟩ | ⟨row, inTable, n, -, inRow, -⟩
  · exact .inr (joinHangul_eq_some hangul).1
  · exact .inl (testBit_codesOf
      (List.mem_flatMap.2 ⟨row, inTable, List.mem_map.2 ⟨_, inRow, rfl⟩⟩))

theorem join?_of_not_isJoiner {first second : Char} (free : isJoiner second.toNat = false) :
    join? first second = none := by
  cases joined : join? first second with
  | none => rfl
  | some c =>
    rw [isJoiner_of_join? joined] at free
    cases free

/-! ## Settled characters -/

theorem isSettled_iff {c : Char} :
    isSettled c = true ↔
      ∃ head marks, decomposeChar c = head :: marks ∧ marks.foldlM join? head = some c := by
  rw [isSettled]
  cases decomposeChar c with
  | nil => simp
  | cons head marks => simp

theorem isSettled_of_decomposeChar_eq {c : Char} (plain : decomposeChar c = [c]) :
    isSettled c = true :=
  isSettled_iff.2 ⟨c, [], plain, rfl⟩

theorem foldlM_join?_of_joinCodes {head n : Nat} {marks : List Nat}
    (joined : marks.foldlM joinCodes head = some n) :
    (marks.map Char.ofNat).foldlM join? (Char.ofNat head) = some (Char.ofNat n) := by
  induction marks generalizing head with
  | nil =>
    cases joined
    rfl
  | cons mark rest ih =>
    rw [List.foldlM_cons] at joined
    obtain ⟨made, joins, later⟩ := Option.bind_eq_some_iff.1 joined
    rw [List.map_cons, List.foldlM_cons, join?_of_joinCodes joins]
    exact ih later

/-- A character is settled when its decomposition composes to it by listed pairs. -/
theorem isSettled_of_recomposes {n : Nat} (code : isCode n = true)
    (recomposed : recomposes n (decomposedCodes n) = true) : isSettled (Char.ofNat n) = true := by
  have decomposed := decomposeChar_ofNat code
  cases sequence : decomposedCodes n with
  | nil =>
    rw [sequence] at recomposed
    cases recomposed
  | cons head marks =>
    rw [sequence] at decomposed recomposed
    rw [recomposes, beq_iff_eq] at recomposed
    exact isSettled_iff.2 ⟨_, _, decomposed, foldlM_join?_of_joinCodes recomposed⟩

/-- What a settled character joins to decomposes as the character does, followed by what it
joins with. -/
theorem decomposeChar_of_join? {first second c : Char} (settled : isSettled first = true)
    (joined : join? first second = some c) :
    decomposeChar c = decomposeChar first ++ [second] := by
  rcases join?_eq_some joined with ⟨n, hangul, rfl⟩ | ⟨row, inTable, n, begins, inRow, rfl⟩
  · have syllable := (joinHangul_eq_some hangul).2
    have same := syllable.toNat_ofNat
    rw [decomposeChar_of_isSyllable (same.symm ▸ syllable), same]
    rcases hangulLetters_of_joinHangul hangul with ⟨from_lead, to_lead, letters⟩ | ⟨opened, letters⟩
    · have plain : decomposable.testBit first.toNat = false := by
        refine not_decomposable_of_hangulLetter from_lead ?_
        simp only [hangulLead, hangulLeads, hangulTail, hangulTails] at *
        omega
      rw [letters, decomposeChar_of_not_decomposable plain, List.map_cons, List.map_singleton,
        Char.ofNat_toNat, Char.ofNat_toNat]
      rfl
    · rw [letters, decomposeChar_of_isSyllable opened, List.map_append, List.map_singleton,
        Char.ofNat_toNat]
  · have live : isLive row = true := by
      have either := List.all_eq_true.1 tables_agree.live row inTable
      rwa [begins, Char.ofNat_toNat, settled, Bool.not_true, Bool.or_false] at either
    have agree := List.all_eq_true.1 (List.all_eq_true.1 tables_agree.joins row
      (List.mem_filter.2 ⟨inTable, live⟩)) _ inRow
    rw [Bool.and_eq_true] at agree
    have code : isCode row.1 = true := by
      have listed := List.all_eq_true.1 tables_agree.pairs row inTable
      exact (Bool.and_eq_true_iff.1 listed).1
    rw [decomposeChar_ofNat agree.1, eq_of_sameCodes agree.2, List.map_append,
      ← decomposeChar_ofNat code, begins, Char.ofNat_toNat, List.map_singleton, Char.ofNat_toNat]

/-- What a settled character joins to is settled. -/
theorem isSettled_of_join? {first second c : Char} (settled : isSettled first = true)
    (joined : join? first second = some c) : isSettled c = true := by
  obtain ⟨head, marks, decomposed, composed⟩ := isSettled_iff.1 settled
  refine isSettled_iff.2 ⟨head, marks ++ [second], ?_, ?_⟩
  · rw [decomposeChar_of_join? settled joined, decomposed]
    rfl
  · simp [List.foldlM_append, composed, joined]

/-! ## Letters -/

theorem combiningClass_of_testBit_letters {c : Char}
    (letter : letters.codes.testBit c.toNat = true) : combiningClass c = 0 := by
  have unlisted := testBit_of_apart tables_agree.starters letter
  rw [combiningClass]
  split
  next found =>
    rw [Chart.testBit_codes found] at unlisted
    cases unlisted
  next => rfl

/-- Letters are starters. -/
theorem combiningClass_of_isLetter {c : Char} (letter : isLetter c = true) :
    combiningClass c = 0 :=
  combiningClass_of_testBit_letters (Spans.testBit_codes letter)

/-! ## Hangul letters and syllables are letters -/

theorem isLetter_of_isSyllable {c : Char} (syllable : IsSyllable c.toNat) : isLetter c = true := by
  obtain ⟨from_first, to_last⟩ := syllable
  exact Spans.contains_of_covers (Bool.and_eq_true_iff.1 tables_agree.hangul).1 from_first
    (by omega)

theorem isLetter_of_mem_hangulLetters {n letter : Nat} (syllable : IsSyllable n)
    (member : letter ∈ hangulLetters n) : isLetter (Char.ofNat letter) = true := by
  obtain ⟨from_lead, to_tail⟩ := mem_hangulLetters syllable member
  rw [isLetter, toNat_ofNat_of_mem_hangulLetters syllable member]
  exact Spans.contains_of_covers (Bool.and_eq_true_iff.1 tables_agree.hangul).2 from_lead to_tail

end KeywordSearch.Unicode
