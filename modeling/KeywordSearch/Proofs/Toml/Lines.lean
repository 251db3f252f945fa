import KeywordSearch.Toml.Document
import Mathlib.Data.List.Basic
import Mathlib.Data.List.TakeWhile

/-!
# Documents of lines

A line may give one bare key the value of one word, with any blanks around either, and
it may end with a comment; without a key it is blank or only a comment.  A sheet is any
number of such lines, each ended in either way, the last one by the end of the text.

Lines without a key say nothing.  A sheet is read as the table of its keys and the values
of their words, in the order of the lines, if no key is repeated and every word denotes
something, and otherwise not at all (`parse_text`).
-/

set_option autoImplicit false

namespace KeywordSearch.Toml

/-! ## Parts of a line -/

/-- Spaces and tabs. -/
structure Blanks where
  text : List Char
  gap : ∀ c ∈ text, isGap c = true

/-- No blanks at all. -/
def Blanks.none : Blanks := ⟨[], nofun⟩

/-- One space. -/
def Blanks.one : Blanks := ⟨[' '], List.forall_mem_singleton.2 rfl⟩

/-- A remark behind a number sign. -/
structure Comment where
  remark : List Char
  printable : ∀ c ∈ remark, isPrintable c = true

/-- A comment as it is written. -/
def Comment.text (comment : Comment) : List Char := '#' :: comment.remark

/-- A bare key and the word of its value, with the blanks on either side of the equals
sign. -/
structure Assignment where
  key : Key
  before : Blanks
  behind : Blanks
  word : List Char
  key_ne_nil : key ≠ []
  bare : ∀ c ∈ key, isBareKeyChar c = true
  word_ne_nil : word ≠ []
  solid : ∀ c ∈ word, isWordChar c = true

namespace Assignment

variable (pair : Assignment)

/-- An assignment as it is written. -/
def text : List Char :=
  pair.key ++ (pair.before.text ++ '=' :: (pair.behind.text ++ pair.word))

/-- The member that an assignment adds to a table, if its word denotes something. -/
def member? : Option (Key × Node) := (wordValue pair.word).map fun node => (pair.key, node)

/-- Adds the member of an assignment to a table, unless its key is taken. -/
def add (members : Members) : Option Members := (wordValue pair.word).bind (members.define pair.key)

end Assignment

/-- A line of a document. -/
structure Line where
  lead : Blanks
  pair : Option Assignment
  trail : Blanks
  comment : Option Comment

namespace Line

variable (line : Line)

/-- The comment of a line, if it has one. -/
def remark : List Char := line.comment.elim [] Comment.text

/-- A line as it is written, without its end. -/
def text : List Char :=
  line.lead.text ++ (line.pair.elim [] Assignment.text ++ (line.trail.text ++ line.remark))

end Line

/-- The end of a line within a document. -/
inductive Ending where
  | feed
  | carriage

/-- The end of a line as it is written. -/
def Ending.text : Ending → List Char
  | feed => ['\n']
  | carriage => ['\r', '\n']

/-- Lines one below the other. -/
inductive Sheet where
  | last (line : Line)
  | ended (line : Line) (ending : Ending) (rest : Sheet)

namespace Sheet

/-- A sheet as it is written. -/
def text : Sheet → List Char
  | last line => line.text
  | ended line ending rest => line.text ++ (ending.text ++ rest.text)

/-- The assignments of a sheet, in the order of its lines. -/
def pairs : Sheet → List Assignment
  | last line => line.pair.toList
  | ended line _ rest => line.pair.toList ++ rest.pairs

/-- The keys of a sheet, in the order of its lines. -/
def keys (sheet : Sheet) : List Key := sheet.pairs.map Assignment.key

end Sheet

/-! ## Where a part stops -/

section

variable {p : Char → Bool} {front rest : List Char}

/-- Characters of a kind are taken up to the first of another kind. -/
theorem takeWhile_append_stop (passes : ∀ c ∈ front, p c = true)
    (stops : ∀ c ∈ rest.head?, p c = false) : (front ++ rest).takeWhile p = front := by
  rw [List.takeWhile_append_of_pos passes]
  cases rest with
  | nil => exact List.append_nil front
  | cons c rest => rw [List.takeWhile_cons_of_neg (by simp [stops c rfl]), List.append_nil]

theorem dropWhile_append_stop (passes : ∀ c ∈ front, p c = true)
    (stops : ∀ c ∈ rest.head?, p c = false) : (front ++ rest).dropWhile p = rest := by
  rw [List.dropWhile_append_of_pos passes]
  cases rest with
  | nil => rfl
  | cons c rest => rw [List.dropWhile_cons_of_neg (by simp [stops c rfl])]

end

/-- What is left of a document behind the end of a line. -/
inductive Ends : List Char → List Char → Prop
  | last : Ends [] []
  | ended (ending : Ending) (rest : List Char) : Ends (ending.text ++ rest) rest

/-- A text that begins with a comment or the end of a line, or not at all. -/
def Closes (text : List Char) : Prop := ∀ c ∈ text.head?, c = '#' ∨ c = '\n' ∨ c = '\r'

theorem isGap_cases {c : Char} (gap : isGap c = true) : c = ' ' ∨ c = '\t' := by
  simpa [isGap] using gap

/-- A kind of character without the blanks has no blank in it. -/
theorem isGap_eq_false {p : Char → Bool} (space : p ' ' = false) (tab : p '\t' = false) {c : Char}
    (passes : p c = true) : isGap c = false := by
  cases gap : isGap c with
  | false => rfl
  | true =>
    rcases isGap_cases gap with rfl | rfl
    · exact absurd passes (by simp [space])
    · exact absurd passes (by simp [tab])

theorem skipGaps_blanks (blanks : Blanks) (rest : List Char) :
    skipGaps (blanks.text ++ rest) = skipGaps rest :=
  List.dropWhile_append_of_pos blanks.gap

theorem skipGaps_append (blanks : Blanks) {rest : List Char}
    (solid : ∀ c ∈ rest.head?, isGap c = false) : skipGaps (blanks.text ++ rest) = rest :=
  dropWhile_append_stop blanks.gap solid

section

variable {text rest : List Char}

theorem Closes.not_isGap (closes : Closes text) : ∀ c ∈ text.head?, isGap c = false := by
  intro c first
  rcases closes c first with rfl | rfl | rfl <;> rfl

/-- Blanks begin with a blank, and no blanks with what is behind them. -/
theorem Blanks.head?_append (blanks : Blanks) {q : Char → Prop} (space : q ' ') (tab : q '\t')
    (behind : ∀ c ∈ text.head?, q c) : ∀ c ∈ (blanks.text ++ text).head?, q c := by
  have gap := blanks.gap
  cases spelled : blanks.text with
  | nil => exact behind
  | cons d more =>
    rintro c ⟨⟩
    rcases isGap_cases (gap d (spelled ▸ List.mem_cons_self)) with rfl | rfl
    · exact space
    · exact tab

/-- A value is followed on its line by no part of a value. -/
theorem Closes.append (closes : Closes text) (blanks : Blanks) :
    ∀ c ∈ (blanks.text ++ text).head?, isWordChar c = false ∧ c.isDigit = false := by
  refine blanks.head?_append (by decide) (by decide) fun c first => ?_
  rcases closes c first with rfl | rfl | rfl <;> decide

/-- The character behind a first blank is no digit, so that no time of day follows. -/
theorem Closes.isDigit_eq_false (closes : Closes text) (blanks : Blanks) {c : Char}
    {more : List Char} (space : blanks.text ++ text = ' ' :: c :: more) : c.isDigit = false := by
  have gap := blanks.gap
  cases spelled : blanks.text with
  | nil =>
    rw [spelled, List.nil_append] at space
    rw [space] at closes
    exact absurd (closes ' ' rfl) (by decide)
  | cons d others =>
    rw [spelled, List.cons_append] at space
    obtain ⟨-, left⟩ := List.cons.inj space
    rw [spelled] at gap
    have first : c ∈ (others ++ text).head? := by
      rw [left]
      rfl
    exact (closes.append ⟨others, (List.forall_mem_cons.1 gap).2⟩ c first).2

/-! ## Ends of lines -/

theorem Ends.head? (ends : Ends text rest) : ∀ c ∈ text.head?, c = '\n' ∨ c = '\r' := by
  cases ends with
  | last => nofun
  | ended ending rest =>
    cases ending with
    | feed => exact fun c first => .inl (Option.some.inj first).symm
    | carriage => exact fun c first => .inr (Option.some.inj first).symm

theorem Ends.closes (ends : Ends text rest) (line : Line) : Closes (line.remark ++ text) := by
  rw [Line.remark]
  cases line.comment with
  | none => exact fun c first => .inr (ends.head? c first)
  | some comment => exact fun c first => .inl (Option.some.inj first).symm

theorem skipComment_remark (ends : Ends text rest) (line : Line) :
    skipComment (line.remark ++ text) = text := by
  rw [Line.remark]
  cases line.comment with
  | none =>
    rw [Option.elim_none, List.nil_append]
    unfold skipComment
    split
    next => exact absurd (ends.head? '#' rfl) (by decide)
    next => rfl
  | some comment =>
    refine dropWhile_append_stop comment.printable fun c first => ?_
    rcases ends.head? c first with rfl | rfl <;> rfl

/-- A line is read up to its end. -/
theorem endLine_append (ends : Ends text rest) (line : Line) (blanks : Blanks) :
    endLine (blanks.text ++ (line.remark ++ text)) = some rest := by
  rw [endLine, skipGaps_append blanks (ends.closes line).not_isGap, skipComment_remark ends line]
  cases ends with
  | last => rfl
  | ended ending rest => cases ending <;> rfl

end

/-! ## Assignments -/

/-- A bare key is read up to what cannot belong to it. -/
theorem simpleKey_append {key : Key} (some? : key ≠ []) (bare : ∀ c ∈ key, isBareKeyChar c = true)
    {rest : List Char} (stops : ∀ c ∈ rest.head?, isBareKeyChar c = false) :
    simpleKey (key ++ rest) = some (key, rest) := by
  obtain ⟨c, more, rfl⟩ := List.exists_cons_of_ne_nil some?
  have first := bare c List.mem_cons_self
  unfold simpleKey
  split
  next same =>
    cases same
    exact absurd first (by decide)
  next same =>
    cases same
    exact absurd first (by decide)
  next => rw [takeWhile_append_stop bare stops, dropWhile_append_stop bare stops]

/-- A word is read up to the blanks behind it: what follows them is no time of day. -/
theorem bareValue_append {word : List Char} (solid : ∀ c ∈ word, isWordChar c = true)
    (blanks : Blanks) {rest : List Char} (closes : Closes rest) :
    bareValue (word ++ (blanks.text ++ rest)) =
      (wordValue word).map fun node => (node, blanks.text ++ rest) := by
  have ends : ∀ c ∈ (blanks.text ++ rest).head?, isWordChar c = false := fun c first =>
    (closes.append blanks c first).1
  rw [bareValue, takeWhile_append_stop solid ends, dropWhile_append_stop solid ends]
  dsimp only
  split
  next c more space =>
    have noDigit : c.isDigit = false := closes.isDigit_eq_false blanks space
    rw [if_neg (by simp [noDigit])]
  next => rfl

/-- A line that begins with a bare key is an assignment. -/
theorem statement_of_bare {c : Char} (bare : isBareKeyChar c = true) {text rest : List Char}
    {path : Path} (keyed : Toml.path (c :: text) = some (path, '=' :: rest)) :
    statement (c :: text) =
      (value deepest (skipGaps rest)).map fun (node, rest) => (.assign path node, rest) := by
  unfold statement
  split
  case h_1 same => cases same
  case h_7 => simp only [keyed]
  -- Each of the other cases begins with a character of no bare key.
  all_goals
    rename_i same
    cases same
    exact absurd bare (by decide)

namespace Assignment

variable (pair : Assignment)

/-- An assignment begins with a character of its key. -/
theorem exists_key_eq_cons : ∃ c rest, pair.key = c :: rest ∧ isBareKeyChar c = true := by
  obtain ⟨c, rest, spelled⟩ := List.exists_cons_of_ne_nil pair.key_ne_nil
  exact ⟨c, rest, spelled, pair.bare c (spelled ▸ List.mem_cons_self)⟩

theorem skipGaps_key (blanks : Blanks) (rest : List Char) :
    skipGaps (blanks.text ++ (pair.key ++ rest)) = pair.key ++ rest := by
  obtain ⟨c, more, spelled, bare⟩ := pair.exists_key_eq_cons
  refine skipGaps_append blanks fun d first => ?_
  rw [spelled] at first
  cases first
  exact isGap_eq_false (by decide) (by decide) bare

theorem path_append (rest : List Char) :
    path (pair.key ++ (pair.before.text ++ '=' :: rest)) = some (⟨[], pair.key⟩, '=' :: rest) := by
  have stops : ∀ c ∈ (pair.before.text ++ '=' :: rest).head?, isBareKeyChar c = false := by
    refine pair.before.head?_append (by decide) (by decide) ?_
    rintro c ⟨⟩
    decide
  have equals : ∀ c ∈ ('=' :: rest).head?, isGap c = false := by
    rintro c ⟨⟩
    decide
  have unled : skipGaps (pair.key ++ (pair.before.text ++ '=' :: rest)) =
      pair.key ++ (pair.before.text ++ '=' :: rest) := pair.skipGaps_key .none _
  rw [path, deepest, dottedKeys, unled, simpleKey_append pair.key_ne_nil pair.bare stops]
  simp only [skipGaps_append pair.before equals]
  rfl

/-- The value of an assignment is read up to the blanks behind its word. -/
theorem value_append (depth : Nat) (blanks : Blanks) {rest : List Char} (closes : Closes rest) :
    value depth (skipGaps (pair.behind.text ++ (pair.word ++ (blanks.text ++ rest)))) =
      (wordValue pair.word).map fun node => (node, blanks.text ++ rest) := by
  have read := bareValue_append pair.solid blanks closes
  obtain ⟨c, more, spelled⟩ := List.exists_cons_of_ne_nil pair.word_ne_nil
  have first : isWordChar c = true := pair.solid c (spelled ▸ List.mem_cons_self)
  have solid : ∀ d ∈ (pair.word ++ (blanks.text ++ rest)).head?, isGap d = false := by
    rw [spelled]
    rintro d ⟨⟩
    exact isGap_eq_false (by decide) (by decide) first
  have notQuote : ¬(c = '"' ∨ c = '\'') := by
    rintro (rfl | rfl) <;> exact absurd first (by decide)
  have notBracket : c ≠ '[' := by
    rintro rfl
    exact absurd first (by decide)
  have notBrace : c ≠ '\x7b' := by
    rintro rfl
    exact absurd first (by decide)
  rw [skipGaps_append pair.behind solid, ← read, spelled, List.cons_append, value.eq_def]
  simp only [if_neg notQuote, if_neg notBracket, if_neg notBrace]

/-- An assignment is read up to the blanks behind it. -/
theorem statement_append (blanks : Blanks) {rest : List Char} (closes : Closes rest) :
    statement (pair.text ++ (blanks.text ++ rest)) =
      (wordValue pair.word).map fun node => (.assign ⟨[], pair.key⟩ node, blanks.text ++ rest) := by
  have keyed := pair.path_append (pair.behind.text ++ (pair.word ++ (blanks.text ++ rest)))
  obtain ⟨c, more, spelled, bare⟩ := pair.exists_key_eq_cons
  have written : pair.text ++ (blanks.text ++ rest) = c :: (more ++ (pair.before.text ++
      '=' :: (pair.behind.text ++ (pair.word ++ (blanks.text ++ rest))))) := by
    simp only [text, spelled, List.append_assoc, List.cons_append]
  rw [spelled, List.cons_append, ← spelled] at keyed
  rw [written, statement_of_bare bare keyed, pair.value_append deepest blanks closes,
    Option.map_map]
  rfl

end Assignment

/-! ## Lines -/

/-- Reads a document and adds what it says to a table. -/
def gather (fuel : Nat) (text : List Char) (members : Members) : Option Members :=
  (statements fuel text).bind (build [] members)

section

variable {text rest : List Char}

/-- What a line says is added before what the rest of the document says. -/
theorem gather_succ {solid : List Char} (skipped : skipGaps text = solid) (some? : solid ≠ [])
    (fuel : Nat) (members : Members) :
    gather (fuel + 1) text members =
      (statement solid).bind fun (said, left) =>
        (endLine left).bind fun rest =>
          (statements fuel rest).bind fun others => build [] members (said :: others) := by
  rw [gather, statements, skipped]
  split
  next => exact absurd rfl some?
  next =>
    cases statement solid with
    | none => rfl
    | some taken =>
      obtain ⟨said, left⟩ := taken
      simp only [Option.bind_some]
      cases endLine left with
      | none => rfl
      | some rest => exact Option.bind_map

theorem statement_of_closes (closes : Closes text) : statement text = some (.blank, text) := by
  cases text with
  | nil => rfl
  | cons c text => rcases closes c rfl with rfl | rfl | rfl <;> rfl

/-- A line without a key says nothing. -/
theorem gather_blank {line : Line} (keyless : line.pair = none) (ends : Ends text rest)
    (some? : line.remark ++ text ≠ []) (fuel : Nat) (members : Members) :
    gather (fuel + 1) (line.text ++ text) members = gather fuel rest members := by
  have closes := ends.closes line
  have skipped : skipGaps (line.text ++ text) = line.remark ++ text := by
    simp only [Line.text, keyless, Option.elim_none, List.nil_append, List.append_assoc,
      skipGaps_blanks]
    exact skipGaps_append .none closes.not_isGap
  have ended : endLine (line.remark ++ text) = some rest := endLine_append ends line .none
  rw [gather_succ skipped some?, statement_of_closes closes]
  simp only [Option.bind_some, ended]
  rfl

/-- A line with a key adds its member. -/
theorem gather_pair {line : Line} {pair : Assignment} (keyed : line.pair = some pair)
    (ends : Ends text rest) (fuel : Nat) (members : Members) :
    gather (fuel + 1) (line.text ++ text) members =
      (pair.add members).bind (gather fuel rest) := by
  have skipped : skipGaps (line.text ++ text) =
      pair.text ++ (line.trail.text ++ (line.remark ++ text)) := by
    simp only [Line.text, keyed, Option.elim_some, List.append_assoc, Assignment.text,
      pair.skipGaps_key]
  have some? : pair.text ++ (line.trail.text ++ (line.remark ++ text)) ≠ [] := by
    simp [Assignment.text, pair.key_ne_nil]
  rw [gather_succ skipped some?, pair.statement_append line.trail (ends.closes line),
    Assignment.add]
  cases wordValue pair.word with
  | none => rfl
  | some node =>
    simp only [Option.map_some, Option.bind_some, endLine_append ends, build, within, assign]
    cases members.define pair.key node with
    | none => exact Option.bind_fun_none _
    | some members => rfl

end

/-! ## Sheets -/

namespace Sheet

/-- Adds the members of assignments to a table, one after another. -/
def addAll (pairs : List Assignment) (members : Members) : Option Members :=
  pairs.foldlM (fun members pair => pair.add members) members

theorem addAll_cons (pair : Assignment) (pairs : List Assignment) (members : Members) :
    addAll (pair :: pairs) members = (pair.add members).bind (addAll pairs) := rfl

/-- The last line is read to the end of the text. -/
theorem gather_last (line : Line) {fuel : Nat} (enough : line.text.length < fuel)
    (members : Members) : gather fuel line.text members = addAll line.pair.toList members := by
  obtain ⟨fuel, rfl⟩ := Nat.exists_eq_succ_of_ne_zero (Nat.ne_zero_of_lt enough)
  have ended (some? : line.text ≠ []) : gather fuel [] = some := by
    have positive := List.length_pos_iff.2 some?
    obtain ⟨fuel, rfl⟩ : ∃ less, fuel = less + 1 := ⟨fuel - 1, by omega⟩
    rfl
  cases keyed : line.pair with
  | some pair =>
    have some? : line.text ≠ [] := by simp [Line.text, keyed, Assignment.text]
    have read := gather_pair keyed .last fuel members
    rw [List.append_nil, ended some?, Option.bind_fun_some] at read
    rw [read, Option.toList_some, addAll_cons]
    exact (Option.bind_fun_some _).symm
  | none =>
    by_cases uncommented : line.remark = []
    · have skipped : skipGaps line.text = [] := by
        simp only [Line.text, keyed, uncommented, Option.elim_none, List.nil_append,
          skipGaps_blanks]
        rfl
      rw [gather, statements, skipped]
      rfl
    · have some? : line.text ≠ [] := by simp [Line.text, uncommented]
      have read := gather_blank keyed .last (by simpa using uncommented) fuel members
      rw [List.append_nil, ended some?] at read
      exact read

/-- A sheet is read line by line. -/
theorem gather_text (sheet : Sheet) {fuel : Nat} (enough : sheet.text.length < fuel)
    (members : Members) : gather fuel sheet.text members = addAll sheet.pairs members := by
  induction sheet generalizing fuel members with
  | last line => exact gather_last line enough members
  | ended line ending rest ih =>
    have longer : 0 < ending.text.length := by cases ending <;> decide
    obtain ⟨fuel, rfl⟩ := Nat.exists_eq_succ_of_ne_zero (Nat.ne_zero_of_lt enough)
    have enoughRest : rest.text.length < fuel := by
      simp only [text, List.length_append] at enough
      omega
    have ends := Ends.ended ending rest.text
    have others : gather fuel rest.text = addAll rest.pairs := funext (ih enoughRest)
    rw [text, pairs]
    cases keyed : line.pair with
    | some pair => rw [gather_pair keyed ends, others, Option.toList_some, List.singleton_append,
        addAll_cons]
    | none =>
      have some? : line.remark ++ (ending.text ++ rest.text) ≠ [] := by
        simp [List.length_pos_iff.1 longer]
      rw [gather_blank keyed ends some?, others, Option.toList_none, List.nil_append]

end Sheet

/-! ## Tables -/

namespace Members

theorem set_of_find?_eq_none {members : Members} {key : Key} (free : members.find? key = none)
    (node : Node) : members.set key node = members ++ [(key, node)] := by
  induction members with
  | nil => rfl
  | cons member members ih =>
    obtain ⟨name, old⟩ := member
    rw [find?] at free
    split at free
    next => cases free
    next differs => rw [set, if_neg differs, ih free, List.cons_append]

theorem find?_append (members others : Members) (key : Key) :
    find? (members ++ others) key = (members.find? key).or (find? others key) := by
  induction members with
  | nil => rfl
  | cons member members ih =>
    obtain ⟨name, node⟩ := member
    rw [List.cons_append, find?, find?]
    split
    next => rfl
    next => exact ih

/-- A member is found where it was added behind the others, and nothing else changes. -/
theorem find?_append_singleton_eq_none {members : Members} {name key : Key} {node : Node} :
    find? (members ++ [(name, node)]) key = none ↔ members.find? key = none ∧ name ≠ key := by
  rw [find?_append, Option.or_eq_none_iff, find?]
  refine and_congr_right fun _ => ?_
  split
  next same => simp [same]
  next differs => exact iff_of_true rfl differs

/-- Keys that are all different and not those of any member. -/
def Free (members : Members) (keys : List Key) : Prop :=
  keys.Nodup ∧ ∀ key ∈ keys, members.find? key = none

theorem free_nil_iff {keys : List Key} : Free [] keys ↔ keys.Nodup :=
  and_iff_left fun _ _ => rfl

/-- A key that is not taken is added before the others, which it is none of. -/
theorem free_cons_iff {members : Members} {key : Key} {keys : List Key}
    (free : members.find? key = none) (node : Node) :
    members.Free (key :: keys) ↔ Free (members ++ [(key, node)]) keys := by
  simp only [Free, List.nodup_cons, List.forall_mem_cons, find?_append_singleton_eq_none, free,
    true_and]
  constructor
  · rintro ⟨⟨fresh, distinct⟩, others⟩
    exact ⟨distinct, fun other later => ⟨others other later, fun same => fresh (same ▸ later)⟩⟩
  · rintro ⟨distinct, others⟩
    exact ⟨⟨fun repeated => (others key repeated).2 rfl, distinct⟩, fun other later =>
      (others other later).1⟩

end Members

namespace Sheet

/-- Assignments add nothing unless every key is free. -/
theorem addAll_eq_none {pairs : List Assignment} {members : Members}
    (taken : ¬members.Free (pairs.map Assignment.key)) : addAll pairs members = none := by
  induction pairs generalizing members with
  | nil => exact absurd ⟨List.nodup_nil, nofun⟩ taken
  | cons pair pairs ih =>
    rw [addAll_cons, Option.bind_eq_none_iff]
    intro after added
    obtain ⟨node, -, defined⟩ := Option.bind_eq_some_iff.1 added
    unfold Members.define at defined
    split at defined
    next => cases defined
    next free =>
      cases defined
      rw [Members.set_of_find?_eq_none free]
      exact ih fun others => taken ((Members.free_cons_iff free node).2 others)

/-- Assignments whose keys are free add their members behind the others. -/
theorem addAll_eq_map {pairs : List Assignment} {members : Members}
    (free : members.Free (pairs.map Assignment.key)) :
    addAll pairs members = (pairs.mapM Assignment.member?).map (members ++ ·) := by
  induction pairs generalizing members with
  | nil => exact congrArg some (List.append_nil members).symm
  | cons pair pairs ih =>
    have first := free.2 pair.key List.mem_cons_self
    rw [addAll_cons, List.mapM_cons, Assignment.add, Assignment.member?]
    cases wordValue pair.word with
    | none => rfl
    | some node =>
      have others := ih ((Members.free_cons_iff first node).1 free)
      simp only [Option.bind_some, Members.define, first, Members.set_of_find?_eq_none first,
        others, Option.map_some]
      cases pairs.mapM Assignment.member? with
      | none => rfl
      | some later => exact congrArg some (List.append_assoc members _ later)

end Sheet

/-- No line begins with the mark that may tell the byte order of a text. -/
theorem head?_ne_byteOrderMark (line : Line) {text rest : List Char} (ends : Ends text rest) :
    ∀ c ∈ (line.text ++ text).head?, c ≠ '\uFEFF' := by
  have closing : ∀ c ∈ (line.remark ++ text).head?, c ≠ '\uFEFF' := by
    intro c first
    rcases ends.closes line c first with rfl | rfl | rfl <;> decide
  rw [Line.text, List.append_assoc]
  refine line.lead.head?_append (by decide) (by decide) ?_
  cases line.pair with
  | none =>
    rw [Option.elim_none, List.nil_append, List.append_assoc]
    exact line.trail.head?_append (by decide) (by decide) closing
  | some pair =>
    obtain ⟨c, more, spelled, bare⟩ := pair.exists_key_eq_cons
    rw [Option.elim_some, Assignment.text, spelled]
    rintro d ⟨⟩ rfl
    exact absurd bare (by decide)

theorem skipByteOrderMark_of_head? {text : List Char} (unmarked : ∀ c ∈ text.head?, c ≠ '\uFEFF') :
    skipByteOrderMark text = text := by
  unfold skipByteOrderMark
  split
  next => exact absurd rfl (unmarked _ rfl)
  next => rfl

namespace Sheet

theorem skipByteOrderMark_text (sheet : Sheet) : skipByteOrderMark sheet.text = sheet.text := by
  apply skipByteOrderMark_of_head?
  cases sheet with
  | last line =>
    rw [text, ← List.append_nil line.text]
    exact head?_ne_byteOrderMark line .last
  | ended line ending rest => exact head?_ne_byteOrderMark line (.ended ending rest.text)

/-- **A sheet is read as the table of its keys and the values of their words**, unless a
key is repeated or a word denotes nothing. -/
theorem parse_text (sheet : Sheet) :
    parse sheet.text =
      if sheet.keys.Nodup then sheet.pairs.mapM Assignment.member? else none := by
  have read : parse sheet.text = addAll sheet.pairs [] := by
    rw [parse, skipByteOrderMark_text, ← sheet.gather_text (Nat.lt_succ_self _), gather]
    cases statements (sheet.text.length + 1) sheet.text <;> rfl
  rw [read]
  split
  next distinct =>
    rw [addAll_eq_map (Members.free_nil_iff.2 distinct)]
    exact Option.map_id'
  next repeated => exact addAll_eq_none fun free => repeated (Members.free_nil_iff.1 free)

end Sheet

end KeywordSearch.Toml
