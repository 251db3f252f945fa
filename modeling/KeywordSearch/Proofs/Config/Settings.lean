import KeywordSearch.Proofs.Config.RoundTrip
import KeywordSearch.Proofs.Toml.Lines
import KeywordSearch.Proofs.Toml.Numerals
import Mathlib.Data.List.Nodup

/-!
# Configurations from the settings that are given

A sheet gives settings, one for each of its keys: truth values and integers.  Five keys
are known and the others are passed over.  What is read is the default configuration with
the known settings put in, one after another (`override`), and it has to be valid.

A setting that does not suit its key makes the whole sheet malformed, and so does a key
that is given twice, whatever it is given.
-/

set_option autoImplicit false

namespace KeywordSearch.Config

open Toml (Assignment Members Node Sheet)

/-! ## Settings -/

/-- What a key is given: a truth value or an integer. -/
inductive Setting where
  | boolean (value : Bool)
  | integer (value : Int)

namespace Setting

/-- How a setting may be written. -/
inductive Spells : List Char → Setting → Prop
  | boolean (value : Bool) : Spells (booleanText value).toList (.boolean value)
  | integer {word : List Char} {n : Int} (spells : Toml.Spells word n) : Spells word (.integer n)

/-- A truth value, or an integer that fits 64 bits with a sign. -/
def Fits : Setting → Prop
  | boolean _ => True
  | integer n => Toml.leastInteger ≤ n ∧ n ≤ Toml.greatestInteger

instance (setting : Setting) : Decidable setting.Fits :=
  match setting with
  | .boolean _ => isTrue trivial
  | .integer n => inferInstanceAs (Decidable (Toml.leastInteger ≤ n ∧ n ≤ Toml.greatestInteger))

/-- A setting as the value of a key. -/
def node : Setting → Node
  | boolean value => .boolean value
  | integer n => .integer n

/-- The truth value of a setting that is one. -/
def flag? : Setting → Option Bool
  | boolean value => some value
  | integer _ => none

/-- The natural number of a setting that is one. -/
def count? : Setting → Option UInt64
  | boolean _ => none
  | integer n => if 0 ≤ n then some (UInt64.ofNat n.toNat) else none

variable {word : List Char} {setting : Setting}

theorem wordValue_of_fits (spells : Spells word setting) (fits : setting.Fits) :
    Toml.wordValue word = some setting.node := by
  cases spells with
  | boolean value => exact wordValue_booleanText value
  | integer spells =>
    rw [Toml.wordValue_of_spells spells, Toml.fitting]
    exact congrArg (Option.map Node.integer) (if_pos fits)

theorem wordValue_of_not_fits (spells : Spells word setting) (unfit : ¬setting.Fits) :
    Toml.wordValue word = none := by
  cases spells with
  | boolean => exact absurd trivial unfit
  | integer spells =>
    rw [Toml.wordValue_of_spells spells, Toml.fitting]
    exact congrArg (Option.map Node.integer) (if_neg unfit)

end Setting

/-! ## Sheets of settings -/

/-- Names with what they are given. -/
abbrev Given := List (String × Setting)

/-- An assignment gives a setting. -/
def GivesOne (pair : Assignment) (one : String × Setting) : Prop :=
  pair.key = one.1.toList ∧ one.2.Spells pair.word

/-- A sheet gives settings in the order of its lines. -/
def Gives (sheet : Sheet) (given : Given) : Prop := List.Forall₂ GivesOne sheet.pairs given

namespace Given

/-- The table of the settings that are given. -/
def members (given : Given) : Members := given.map fun one => (one.1.toList, one.2.node)

/-- The names of what is given. -/
def names (given : Given) : List String := given.map Prod.fst

end Given

section

variable {pairs : List Assignment} {sheet : Sheet} {given : Given}

theorem mapM_member?_of_fits (gives : List.Forall₂ GivesOne pairs given)
    (fits : ∀ one ∈ given, one.2.Fits) : pairs.mapM Assignment.member? = some given.members := by
  induction gives with
  | nil => rfl
  | cons first _ ih =>
    obtain ⟨fit, fitRest⟩ := List.forall_mem_cons.1 fits
    obtain ⟨key, spells⟩ := first
    rw [List.mapM_cons, Assignment.member?, Setting.wordValue_of_fits spells fit, ih fitRest, key]
    rfl

theorem mapM_member?_of_not_fits (gives : List.Forall₂ GivesOne pairs given)
    (unfit : ∃ one ∈ given, ¬one.2.Fits) : pairs.mapM Assignment.member? = none := by
  induction gives with
  | nil =>
    obtain ⟨_, found, -⟩ := unfit
    cases found
  | @cons pair one _ _ first _ ih =>
    rw [List.mapM_cons, Option.bind_eq_bind, Option.bind_eq_none_iff]
    intro member read
    obtain ⟨other, found, unfit⟩ := unfit
    cases found with
    | head =>
      rw [Assignment.member?, Setting.wordValue_of_not_fits first.2 unfit] at read
      cases read
    | tail _ later =>
      rw [ih ⟨other, later, unfit⟩]
      rfl

theorem parse_of_fits (gives : Gives sheet given) (distinct : sheet.keys.Nodup)
    (fits : ∀ one ∈ given, one.2.Fits) : Toml.parse sheet.text = some given.members := by
  rw [Sheet.parse_text, if_pos distinct, mapM_member?_of_fits gives fits]

theorem parse_of_not_fits (gives : Gives sheet given) (unfit : ∃ one ∈ given, ¬one.2.Fits) :
    Toml.parse sheet.text = none := by
  rw [Sheet.parse_text, mapM_member?_of_not_fits gives unfit, ite_self]

theorem map_key_eq (gives : List.Forall₂ GivesOne pairs given) :
    pairs.map Assignment.key = given.names.map String.toList := by
  induction gives with
  | nil => rfl
  | cons first _ ih => exact congrArg₂ List.cons first.1 ih

theorem Gives.nodup_names (gives : Gives sheet given) (distinct : sheet.keys.Nodup) :
    given.names.Nodup := by
  rw [Sheet.keys, map_key_eq gives] at distinct
  exact distinct.of_map String.toList

end

/-! ## What is found under a name -/

theorem find?_members (given : Given) (name : String) :
    given.members.find? name.toList = (given.lookup name).map Setting.node := by
  induction given with
  | nil => rfl
  | cons one given ih =>
    obtain ⟨first, setting⟩ := one
    rw [Given.members, List.map_cons, Members.find?, List.lookup_cons]
    by_cases same : first = name
    · simp [same]
    · have differs : (name == first) = false := by simpa using fun eq => same eq.symm
      rw [if_neg fun eq => same (String.toList_inj.1 eq), differs]
      exact ih

theorem booleanIn_members (given : Given) (name : String) (default : Bool) :
    booleanIn given.members name default =
      (given.lookup name).elim (some default) Setting.flag? := by
  rw [booleanIn, find?_members]
  cases given.lookup name with
  | none => rfl
  | some setting => cases setting <;> rfl

theorem wordIn_members (given : Given) (name : String) (default : UInt64) :
    wordIn given.members name default =
      (given.lookup name).elim (some default) Setting.count? := by
  rw [wordIn, find?_members]
  cases given.lookup name with
  | none => rfl
  | some setting => cases setting <;> rfl

/-- Of names that are all different each is found with what it is given. -/
theorem lookup_eq_some_iff {given : Given} (distinct : given.names.Nodup) {name : String}
    {setting : Setting} : given.lookup name = some setting ↔ (name, setting) ∈ given := by
  induction given with
  | nil => simp
  | cons one given ih =>
    obtain ⟨first, other⟩ := one
    obtain ⟨fresh, distinctRest⟩ := List.nodup_cons.1 distinct
    rw [List.lookup_cons, List.mem_cons]
    by_cases same : name = first
    · have absent : (name, setting) ∉ given := fun later =>
        fresh (List.mem_map.2 ⟨_, later, same⟩)
      simp [same, same ▸ absent, eq_comm]
    · have differs : (name == first) = false := by simpa using same
      rw [differs]
      simp [same, ih distinctRest]

/-! ## Overriding the defaults -/

/-- What a known key may be given. -/
inductive Kind where
  | flag
  | count

/-- The kind of a known key. -/
def kind? : String → Option Kind
  | "cache_enabled" => some .flag
  | "cache_ttl_secs" => some .count
  | "flush_cache_on_startup" => some .flag
  | "parallel_search" => some .flag
  | "parallel_rebuild" => some .flag
  | _ => none

theorem kind?_cases {name : String} {kind : Kind} (known : kind? name = some kind) :
    (name = "cache_ttl_secs" ∧ kind = .count) ∨
      (name = "cache_enabled" ∨ name = "flush_cache_on_startup" ∨ name = "parallel_search" ∨
        name = "parallel_rebuild") ∧ kind = .flag := by
  unfold kind? at known
  split at known <;> cases known <;> simp

/-- A setting of the right type for its key, which if it is an integer is not negative
and not too great for a document. -/
def Kind.Suits : Kind → Setting → Prop
  | flag, .boolean _ => True
  | count, .integer n => 0 ≤ n ∧ n ≤ Toml.greatestInteger
  | flag, .integer _ => False
  | count, .boolean _ => False

/-- A known key is given what does not suit it. -/
def Unsuited (one : String × Setting) : Prop := ∃ kind ∈ kind? one.1, ¬kind.Suits one.2

instance (kind : Kind) (setting : Setting) : Decidable (kind.Suits setting) :=
  match kind, setting with
  | .flag, .boolean _ => isTrue trivial
  | .count, .integer n => inferInstanceAs (Decidable (0 ≤ n ∧ n ≤ Toml.greatestInteger))
  | .flag, .integer _ | .count, .boolean _ => isFalse id

instance (one : String × Setting) : Decidable (Unsuited one) :=
  inferInstanceAs (Decidable (∃ kind ∈ kind? one.1, ¬kind.Suits one.2))

/-- Puts a setting into a configuration, if its key is known. -/
def override (config : Config) : String × Setting → Config
  | ("cache_enabled", .boolean value) => { config with cacheEnabled := value }
  | ("cache_ttl_secs", .integer n) => { config with cacheTtlSecs := UInt64.ofNat n.toNat }
  | ("flush_cache_on_startup", .boolean value) => { config with flushCacheOnStartup := value }
  | ("parallel_search", .boolean value) => { config with parallelSearch := value }
  | ("parallel_rebuild", .boolean value) => { config with parallelRebuild := value }
  | _ => config

/-- The default configuration with settings put in. -/
def ofGiven (given : Given) : Config := given.foldl override {}

section

variable {α : Type} {take : Setting → Option α} {name : String}

/-- A field that only one name overrides is what that name is given, or as it was. -/
theorem get_foldl_override (get : Config → α)
    (own : ∀ config setting value, take setting = some value →
      get (override config (name, setting)) = value)
    (others : ∀ config other setting, other ≠ name →
      get (override config (other, setting)) = get config)
    {given : Given} (distinct : given.names.Nodup)
    (suits : ∀ setting, given.lookup name = some setting → (take setting).isSome = true)
    (config : Config) :
    (given.lookup name).elim (some (get config)) take =
      some (get (given.foldl override config)) := by
  induction given generalizing config with
  | nil => rfl
  | cons one given ih =>
    obtain ⟨first, setting⟩ := one
    obtain ⟨fresh, distinctRest⟩ := List.nodup_cons.1 distinct
    rw [List.lookup_cons] at suits ⊢
    by_cases same : name = first
    · subst same
      rw [beq_self_eq_true] at suits ⊢
      have absent : given.lookup name = none := List.lookup_eq_none_iff.2 fun other later => by
        simpa using fun same => fresh (List.mem_map.2 ⟨other, later, same.symm⟩)
      obtain ⟨value, taken⟩ := Option.isSome_iff_exists.1 (suits setting rfl)
      have rest := ih distinctRest (fun _ found => by cases absent.symm.trans found)
        (override config (name, setting))
      rw [absent, Option.elim_none, own config setting value taken] at rest
      exact taken.trans rest
    · rw [beq_false_of_ne same] at suits ⊢
      have rest := ih distinctRest suits (override config (first, setting))
      rw [others config first setting (Ne.symm same)] at rest
      exact rest

end

/-- A configuration is read field by field. -/
theorem ofMembers_eq_some_iff {members : Members} {config : Config} :
    ofMembers members = some config ↔
      booleanIn members "cache_enabled" true = some config.cacheEnabled ∧
      wordIn members "cache_ttl_secs" 1800 = some config.cacheTtlSecs ∧
      booleanIn members "flush_cache_on_startup" false = some config.flushCacheOnStartup ∧
      booleanIn members "parallel_search" true = some config.parallelSearch ∧
      booleanIn members "parallel_rebuild" true = some config.parallelRebuild := by
  simp only [ofMembers, Option.bind_eq_bind, Option.bind_eq_some_iff, Option.some.injEq]
  constructor
  · rintro ⟨a, ha, b, hb, c, hc, d, hd, e, he, rfl⟩
    exact ⟨ha, hb, hc, hd, he⟩
  · rintro ⟨ha, hb, hc, hd, he⟩
    exact ⟨_, ha, _, hb, _, hc, _, hd, _, he, rfl⟩

section

variable {given : Given} {name : String}

/-- What suits a known key is found under it. -/
theorem suits_of_lookup {kind : Kind} (known : kind? name = some kind)
    (distinct : given.names.Nodup) (suited : ∀ one ∈ given, ¬Unsuited one) {setting : Setting}
    (found : given.lookup name = some setting) : kind.Suits setting := by
  by_contra unsuited
  exact suited _ ((lookup_eq_some_iff distinct).1 found) ⟨kind, known, unsuited⟩

/-- A truth value is read as overriding leaves it. -/
theorem booleanIn_ofGiven (get : Config → Bool) (known : kind? name = some .flag)
    (own : ∀ config value, get (override config (name, .boolean value)) = value)
    (others : ∀ config other setting, other ≠ name →
      get (override config (other, setting)) = get config)
    (distinct : given.names.Nodup) (suited : ∀ one ∈ given, ¬Unsuited one) :
    booleanIn given.members name (get {}) = some (get (ofGiven given)) := by
  rw [booleanIn_members]
  refine get_foldl_override get (fun config setting value taken => ?_) others distinct
    (fun setting found => ?_) {}
  · cases setting with
    | boolean other =>
      cases taken
      exact own config value
    | integer => cases taken
  · have suits := suits_of_lookup known distinct suited found
    cases setting with
    | boolean => rfl
    | integer => exact suits.elim

/-- The time to live is read as overriding leaves it. -/
theorem wordIn_ofGiven (distinct : given.names.Nodup) (suited : ∀ one ∈ given, ¬Unsuited one) :
    wordIn given.members "cache_ttl_secs" 1800 = some (ofGiven given).cacheTtlSecs := by
  rw [wordIn_members]
  refine get_foldl_override Config.cacheTtlSecs (fun config setting value taken => ?_)
    (fun config other setting differs => ?_) distinct (fun setting found => ?_) {}
  · cases setting with
    | boolean => cases taken
    | integer n =>
      rw [Setting.count?, Option.ite_none_right_eq_some] at taken
      exact Option.some.inj taken.2
  · unfold override
    split <;> simp_all
  · have suits := suits_of_lookup rfl distinct suited found
    cases setting with
    | boolean => exact suits.elim
    | integer n => exact congrArg Option.isSome (if_pos suits.1)

/-- Settings that suit their keys override the defaults. -/
theorem ofMembers_of_suited (distinct : given.names.Nodup)
    (suited : ∀ one ∈ given, ¬Unsuited one) : ofMembers given.members = some (ofGiven given) := by
  refine ofMembers_eq_some_iff.2
    ⟨booleanIn_ofGiven cacheEnabled rfl (fun _ _ => rfl) ?_ distinct suited,
      wordIn_ofGiven distinct suited,
      booleanIn_ofGiven flushCacheOnStartup rfl (fun _ _ => rfl) ?_ distinct suited,
      booleanIn_ofGiven parallelSearch rfl (fun _ _ => rfl) ?_ distinct suited,
      booleanIn_ofGiven parallelRebuild rfl (fun _ _ => rfl) ?_ distinct suited⟩
  all_goals
    intro config other setting differs
    unfold override
    split <;> simp_all

/-- A setting that fits but does not suit its key is not read. -/
theorem ofMembers_of_unsuited (distinct : given.names.Nodup) {one : String × Setting}
    (found : one ∈ given) (fits : one.2.Fits) (unsuited : Unsuited one) :
    ofMembers given.members = none := by
  obtain ⟨name, setting⟩ := one
  obtain ⟨kind, known, unsuited⟩ := unsuited
  have looked : given.lookup name = some setting := (lookup_eq_some_iff distinct).2 found
  have noFlag {value other : Bool} (flag : kind = .flag)
      (read : (given.lookup name).elim (some value) Setting.flag? = some other) : False := by
    subst flag
    rw [looked] at read
    cases setting with
    | boolean => exact unsuited trivial
    | integer => cases read
  have noCount {value other : UInt64} (count : kind = .count)
      (read : (given.lookup name).elim (some value) Setting.count? = some other) : False := by
    subst count
    rw [looked] at read
    cases setting with
    | boolean => cases read
    | integer n =>
      obtain ⟨natural, -⟩ := Option.ite_none_right_eq_some.1 read
      exact unsuited ⟨natural, fits.2⟩
  refine Option.eq_none_iff_forall_ne_some.2 fun config read => ?_
  obtain ⟨enabled, ttl, flush, search, rebuild⟩ := ofMembers_eq_some_iff.1 read
  rw [booleanIn_members] at enabled flush search rebuild
  rw [wordIn_members] at ttl
  rcases kind?_cases known with ⟨rfl, count⟩ | ⟨rfl | rfl | rfl | rfl, flag⟩
  · exact noCount count ttl
  · exact noFlag flag enabled
  · exact noFlag flag flush
  · exact noFlag flag search
  · exact noFlag flag rebuild

end

/-! ## Reading a sheet -/

/-- A sheet as a text. -/
def textOf (sheet : Sheet) : String := String.ofList sheet.text

/-- The settings that are given under keys that are not known fit. -/
def Given.OthersFit (given : Given) : Prop :=
  ∀ one ∈ given, kind? one.1 = none → one.2.Fits

instance (given : Given) : Decidable given.OthersFit :=
  inferInstanceAs (Decidable (∀ one ∈ given, kind? one.1 = none → one.2.Fits))

section

variable {sheet : Sheet} {given : Given}

theorem parse_of_repeated (repeated : ¬sheet.keys.Nodup) :
    parse (textOf sheet) = .error (.format malformedText) := by
  rw [parse, textOf, String.toList_ofList, decode, Sheet.parse_text, if_neg repeated]
  rfl

theorem Kind.Suits.fits {kind : Kind} {setting : Setting} (suits : kind.Suits setting) :
    setting.Fits := by
  cases setting with
  | boolean => exact trivial
  | integer n =>
    cases kind with
    | flag => exact suits.elim
    | count => exact ⟨Int.le_trans (by decide) suits.1, suits.2⟩

/-- Nothing is too great for a document but what does not suit its key. -/
theorem Given.OthersFit.fits (othersFit : given.OthersFit)
    (suited : ∀ one ∈ given, ¬Unsuited one) : ∀ one ∈ given, one.2.Fits := by
  intro one found
  cases known : kind? one.1 with
  | none => exact othersFit one found known
  | some kind =>
    have suits : kind.Suits one.2 := by
      by_contra unsuited
      exact suited one found ⟨kind, known, unsuited⟩
    exact suits.fits

theorem parse_of_suited (distinct : sheet.keys.Nodup) (gives : Gives sheet given)
    (othersFit : given.OthersFit) (suited : ∀ one ∈ given, ¬Unsuited one) :
    parse (textOf sheet) = (ofGiven given).validate := by
  rw [parse, textOf, String.toList_ofList, decode,
    parse_of_fits gives distinct (othersFit.fits suited), Option.bind_some,
    ofMembers_of_suited (gives.nodup_names distinct) suited]

theorem parse_of_unsuited (distinct : sheet.keys.Nodup) (gives : Gives sheet given)
    (unsuited : ∃ one ∈ given, Unsuited one) :
    parse (textOf sheet) = .error (.format malformedText) := by
  rw [parse, textOf, String.toList_ofList, decode]
  by_cases fits : ∀ one ∈ given, one.2.Fits
  · obtain ⟨one, found, unsuited⟩ := unsuited
    rw [parse_of_fits gives distinct fits, Option.bind_some,
      ofMembers_of_unsuited (gives.nodup_names distinct) found (fits one found) unsuited]
  · rw [parse_of_not_fits gives (by simpa using fits)]
    rfl

end

/-! ## What decides what is read -/

theorem validate_eq (config : Config) :
    config.validate =
      if config.cacheEnabled = true ∧ config.cacheTtlSecs = 0 then
        .error (.invalidConfig zeroTtlText)
      else .ok config := by
  by_cases zero : config.cacheEnabled = true ∧ config.cacheTtlSecs = 0
  · simp [validate, isValid, zero]
  · have valid : config.isValid = true := by simpa [isValid, imp_iff_not_or] using zero
    rw [if_neg zero, validate, if_pos valid]

/-- Two lists give the same settings under the keys that are known. -/
def Given.Agree (left right : Given) : Prop :=
  ∀ one, kind? one.1 ≠ none → (one ∈ left ↔ one ∈ right)

section

variable {left right : Given}

theorem Given.Agree.symm (agree : left.Agree right) : right.Agree left := fun one known =>
  (agree one known).symm

theorem Given.Agree.unsuited (agree : left.Agree right) (unsuited : ∃ one ∈ left, Unsuited one) :
    ∃ one ∈ right, Unsuited one := by
  obtain ⟨one, found, kind, known, ill⟩ := unsuited
  have some? : kind? one.1 ≠ none := by rw [known]; nofun
  exact ⟨one, (agree one some?).1 found, kind, known, ill⟩

/-- What the known keys are given decides what is read. -/
theorem ofMembers_congr (agree : left.Agree right) (distinctLeft : left.names.Nodup)
    (distinctRight : right.names.Nodup) :
    ofMembers left.members = ofMembers right.members := by
  have looked (name : String) (known : kind? name ≠ none) :
      left.lookup name = right.lookup name := by
    refine Option.ext fun setting => ?_
    rw [lookup_eq_some_iff distinctLeft, lookup_eq_some_iff distinctRight]
    exact agree (name, setting) known
  refine Option.ext fun config => ?_
  simp only [ofMembers_eq_some_iff, booleanIn_members, wordIn_members,
    looked "cache_enabled" (by decide), looked "cache_ttl_secs" (by decide),
    looked "flush_cache_on_startup" (by decide), looked "parallel_search" (by decide),
    looked "parallel_rebuild" (by decide)]

theorem Given.Agree.ofGiven_eq (agree : left.Agree right) (distinctLeft : left.names.Nodup)
    (distinctRight : right.names.Nodup) (suited : ∀ one ∈ left, ¬Unsuited one) :
    ofGiven left = ofGiven right := by
  have suitedRight : ∀ one ∈ right, ¬Unsuited one := fun one found unsuited =>
    have ⟨other, there, ill⟩ := agree.symm.unsuited ⟨one, found, unsuited⟩
    suited other there ill
  have same := ofMembers_congr agree distinctLeft distinctRight
  rw [ofMembers_of_suited distinctLeft suited, ofMembers_of_suited distinctRight suitedRight]
    at same
  exact Option.some.inj same

end

/-- Sheets that give the known keys the same are read alike, whatever else is in them. -/
theorem parse_congr {sheet other : Sheet} {given there : Given} (distinct : sheet.keys.Nodup)
    (gives : Gives sheet given) (othersFit : given.OthersFit) (distinctThere : other.keys.Nodup)
    (givesThere : Gives other there) (othersFitThere : there.OthersFit)
    (agree : given.Agree there) : parse (textOf other) = parse (textOf sheet) := by
  by_cases unsuited : ∃ one ∈ given, Unsuited one
  · rw [parse_of_unsuited distinct gives unsuited,
      parse_of_unsuited distinctThere givesThere (agree.unsuited unsuited)]
  · have suited : ∀ one ∈ given, ¬Unsuited one := by simpa using unsuited
    have suitedThere : ∀ one ∈ there, ¬Unsuited one := by
      simpa using fun unsuitedThere => unsuited (agree.symm.unsuited unsuitedThere)
    rw [parse_of_suited distinct gives othersFit suited,
      parse_of_suited distinctThere givesThere othersFitThere suitedThere,
      agree.ofGiven_eq (gives.nodup_names distinct) (givesThere.nodup_names distinctThere) suited]

/-! ## Lines that give settings -/

theorem IsBare.ne_nil {name : String} (bare : IsBare name) : name.toList ≠ [] := bare.1

theorem IsBare.isBareKeyChar {name : String} (bare : IsBare name) :
    ∀ c ∈ name.toList, Toml.isBareKeyChar c = true :=
  List.all_eq_true.1 bare.2

theorem isBare_cacheEnabled : IsBare "cache_enabled" := by decide

theorem isBare_cacheTtlSecs : IsBare "cache_ttl_secs" := by decide

/-- A line that gives one key what a word spells. -/
def settingLine (name : String) (bare : IsBare name) (word : List Char) (some? : word ≠ [])
    (solid : word.all Toml.isWordChar = true) : Toml.Line where
  lead := .none
  pair := some ⟨name.toList, .one, .one, word, bare.ne_nil, bare.isBareKeyChar, some?,
    List.all_eq_true.1 solid⟩
  trail := .none
  comment := none

/-- A line with a remark only. -/
def remarkLine (remark : String) (printable : remark.toList.all Toml.isPrintable = true) :
    Toml.Line where
  lead := .none
  pair := none
  trail := .none
  comment := some ⟨remark.toList, List.all_eq_true.1 printable⟩

/-- A time to live of zero. -/
def zeroLine : Toml.Line :=
  settingLine "cache_ttl_secs" isBare_cacheTtlSecs ['+', '0'] (by decide) (by decide)

/-- A time to live that is no natural number. -/
def negativeLine : Toml.Line :=
  settingLine "cache_ttl_secs" isBare_cacheTtlSecs ['-', '1'] (by decide) (by decide)

/-- No cache. -/
def uncachedLine : Toml.Line :=
  settingLine "cache_enabled" isBare_cacheEnabled ['f', 'a', 'l', 's', 'e'] (by decide) (by decide)

/-- A key that is not known. -/
def retriesLine : Toml.Line :=
  settingLine "retries" (by decide) ['0', 'x', '1', 'F'] (by decide) (by decide)

theorem spells_zero : Setting.Spells ['+', '0'] (.integer 0) :=
  .integer (.decimal ⟨.plus, ['0'], ['0'], .last rfl, fun _ => rfl⟩)

theorem spells_negative : Setting.Spells ['-', '1'] (.integer (-1)) :=
  .integer (.decimal ⟨.minus, ['1'], ['1'], .last rfl, nofun⟩)

theorem spells_retries : Setting.Spells ['0', 'x', '1', 'F'] (.integer 31) :=
  .integer (.based .sixteen (.next rfl (.last rfl)))

/-! ## Defaults and what overrides them -/

/-- **What is read is the default configuration overridden by what is given**, if it is
valid.  A known key that is given what does not suit it makes the sheet malformed, and
nothing else does, except a key that is repeated: that does in any case.  Where the lines
stand, what is remarked and what is given under other keys makes no difference. -/
theorem parse_overrides_defaults :
    (∀ sheet : Sheet, ¬sheet.keys.Nodup →
      parse (textOf sheet) = .error (.format malformedText)) ∧
    ∀ (sheet : Sheet) (given : Given), sheet.keys.Nodup → Gives sheet given → given.OthersFit →
      ((∃ text, parse (textOf sheet) = .error (.format text)) ↔ ∃ one ∈ given, Unsuited one) ∧
      ((∀ one ∈ given, ¬Unsuited one) →
        parse (textOf sheet) =
          if (ofGiven given).cacheEnabled = true ∧ (ofGiven given).cacheTtlSecs = 0 then
            .error (.invalidConfig zeroTtlText)
          else .ok (ofGiven given)) ∧
      ∀ (other : Sheet) (there : Given), other.keys.Nodup → Gives other there →
        there.OthersFit → given.Agree there → parse (textOf other) = parse (textOf sheet) := by
  refine ⟨fun sheet => parse_of_repeated, fun sheet given distinct gives othersFit =>
    ⟨⟨?_, ?_⟩, ?_, ?_⟩⟩
  · rintro ⟨text, malformed⟩
    by_contra unsuited
    have suited : ∀ one ∈ given, ¬Unsuited one := by simpa using unsuited
    rw [parse_of_suited distinct gives othersFit suited, validate_eq] at malformed
    split at malformed <;> cases malformed
  · exact fun unsuited => ⟨malformedText, parse_of_unsuited distinct gives unsuited⟩
  · intro suited
    rw [parse_of_suited distinct gives othersFit suited, validate_eq]
  · exact fun other there distinctThere givesThere othersFitThere agree =>
      parse_congr distinct gives othersFit distinctThere givesThere othersFitThere agree

theorem parse_overrides_defaults_sample :
    let zero : String × Setting := ("cache_ttl_secs", .integer 0)
    let uncached : String × Setting := ("cache_enabled", .boolean false)
    let retries : String × Setting := ("retries", .integer 31)
    let sheet : Sheet :=
      .ended (remarkLine "off" (by decide)) .carriage <| .ended zeroLine .feed <|
      .ended retriesLine .feed <| .last uncachedLine
    let turned : Sheet := .ended uncachedLine .feed (.last zeroLine)
    let alone : Sheet := .last zeroLine
    let negative : Sheet := .last negativeLine
    let repeated : Sheet := .ended zeroLine .feed (.last zeroLine)
    textOf sheet = "#off\r\ncache_ttl_secs = +0\nretries = 0x1F\ncache_enabled = false" ∧
      Gives sheet [zero, retries, uncached] ∧
      parse (textOf sheet) = .ok { cacheEnabled := false, cacheTtlSecs := 0 } ∧
      parse (textOf turned) = parse (textOf sheet) ∧
      parse (textOf alone) = .error (.invalidConfig zeroTtlText) ∧
      (∃ text, parse (textOf negative) = .error (.format text)) ∧
      parse (textOf repeated) = .error (.format malformedText) := by
  intro zero uncached retries sheet turned alone negative repeated
  have gives : Gives sheet [zero, retries, uncached] :=
    .cons ⟨rfl, spells_zero⟩ (.cons ⟨rfl, spells_retries⟩ (.cons ⟨rfl, .boolean false⟩ .nil))
  have givesTurned : Gives turned [uncached, zero] :=
    .cons ⟨rfl, .boolean false⟩ (.cons ⟨rfl, spells_zero⟩ .nil)
  have givesAlone : Gives alone [zero] := .cons ⟨rfl, spells_zero⟩ .nil
  have givesNegative : Gives negative [("cache_ttl_secs", .integer (-1))] :=
    .cons ⟨rfl, spells_negative⟩ .nil
  have agree : Given.Agree [zero, retries, uncached] [uncached, zero] := by
    intro one known
    have passed : one ≠ retries := by
      rintro rfl
      exact known rfl
    simp [passed, or_comm]
  have ofSheet := parse_overrides_defaults.2 sheet _ (by decide) gives (by decide)
  have ofAlone := parse_overrides_defaults.2 alone _ (by decide) givesAlone (by decide)
  have ofNegative := parse_overrides_defaults.2 negative _ (by decide) givesNegative (by decide)
  refine ⟨by decide, gives, ofSheet.2.1 (by decide),
    ofSheet.2.2 turned _ (by decide) givesTurned (by decide) agree,
    ofAlone.2.1 (by decide), ofNegative.1.2 (by decide),
    parse_overrides_defaults.1 repeated (by decide)⟩

end KeywordSearch.Config
