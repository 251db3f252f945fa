import KeywordSearch.Config.File
import KeywordSearch.Proofs.FileTree
import KeywordSearch.Proofs.Toml.PlainLines
import KeywordSearch.Proofs.Toml.Range
import Mathlib.Algebra.Group.Nat.Defs

/-!
# Configurations survive their files

A configuration is written as plain lines, one for each setting, and a document of
plain lines gives its settings back.  Writing does not ask whether a configuration
is valid, reading does: what comes back from a file is the configuration as
validating it leaves it.

Documents have room for half of the numbers that a time to live may be.  One
that is too great is refused before the file is touched, and none that comes from
a document is too great to be written again.
-/

set_option autoImplicit false

namespace KeywordSearch.Config

open Toml (PlainLine Members)

/-! ## The lines of a configuration -/

/-- A name that can stand as a key without quotes. -/
def IsBare (name : String) : Prop :=
  name.toList ≠ [] ∧ name.toList.all Toml.isBareKeyChar = true

instance (name : String) : Decidable (IsBare name) := inferInstanceAs (Decidable (_ ∧ _))

theorem wordValue_booleanText (value : Bool) :
    Toml.wordValue (booleanText value).toList = some (.boolean value) := by
  cases value <;> simp [booleanText, Toml.wordValue]

/-- The line of a setting that is on or off. -/
def booleanLine (name : String) (bare : IsBare name) (value : Bool) : PlainLine where
  key := name.toList
  word := (booleanText value).toList
  node := .boolean value
  key_ne_nil := bare.1
  bare := List.all_eq_true.1 bare.2
  solid := by cases value <;> simp [booleanText, Toml.isWordChar]
  denotes := wordValue_booleanText value

/-- The line of a setting that is a number. -/
def numberLine (name : String) (bare : IsBare name) (n : Nat) (fits : n ≤ Toml.greatestInteger) :
    PlainLine where
  key := name.toList
  word := Nat.toDigits 10 n
  node := .integer n
  key_ne_nil := bare.1
  bare := List.all_eq_true.1 bare.2
  solid c member := by simp [Toml.isWordChar, Char.isAlphanum, isDigit_of_mem_toDigits member]
  denotes := Toml.wordValue_toDigits fits

/-- The lines that a configuration is written with. -/
def lines (config : Config) (fits : config.cacheTtlSecs.toNat ≤ Toml.greatestInteger) :
    List PlainLine := [
  booleanLine "cache_enabled" (by decide) config.cacheEnabled,
  numberLine "cache_ttl_secs" (by decide) config.cacheTtlSecs.toNat fits,
  booleanLine "flush_cache_on_startup" (by decide) config.flushCacheOnStartup,
  booleanLine "parallel_search" (by decide) config.parallelSearch,
  booleanLine "parallel_rebuild" (by decide) config.parallelRebuild]

/-- A configuration is written as its lines. -/
theorem render_eq (config : Config) (fits : config.cacheTtlSecs.toNat ≤ Toml.greatestInteger) :
    ∃ text, config.render = .ok text ∧ text.toList = Toml.document (config.lines fits) := by
  refine ⟨_, if_pos fits, ?_⟩
  simp [Toml.document, lines, PlainLine.text, booleanLine, numberLine]

/-- The lines of a configuration give all of its settings. -/
theorem ofMembers_lines (config : Config)
    (fits : config.cacheTtlSecs.toNat ≤ Toml.greatestInteger) :
    ofMembers ((config.lines fits).map PlainLine.member) = some config := by
  simp [lines, PlainLine.member, booleanLine, numberLine, ofMembers, booleanIn, wordIn,
    Members.find?]

theorem decode_lines (config : Config) (fits : config.cacheTtlSecs.toNat ≤ Toml.greatestInteger) :
    decode (Toml.document (config.lines fits)) = .ok config := by
  have distinct : ((config.lines fits).map PlainLine.key).Nodup := by
    simp [lines, booleanLine, numberLine]
  rw [decode, Toml.parse_document distinct, Option.bind_some, ofMembers_lines]

/-- A configuration that fits is written, and read as it was, if it is valid. -/
theorem parse_render (config : Config)
    (fits : config.cacheTtlSecs.toNat ≤ Toml.greatestInteger) :
    ∃ text, config.render = .ok text ∧ parse text = config.validate := by
  obtain ⟨text, rendered, written⟩ := render_eq config fits
  refine ⟨text, rendered, ?_⟩
  rw [parse, written, decode_lines]

/-- What a configuration is written as is read as the configuration, if it is valid. -/
theorem parse_of_render {config : Config} {text : String} (rendered : config.render = .ok text) :
    parse text = config.validate := by
  have fits : config.cacheTtlSecs.toNat ≤ Toml.greatestInteger := by
    by_contra unfit
    rw [render, if_neg unfit] at rendered
    cases rendered
  obtain ⟨same, writes, gives⟩ := parse_render config fits
  rw [rendered] at writes
  cases writes
  exact gives

/-! ## What is read -/

theorem validate_eq_ok {config valid : Config} (validated : config.validate = .ok valid) :
    valid = config ∧ config.isValid = true := by
  unfold validate at validated
  split at validated
  next holds =>
    cases validated
    exact ⟨rfl, holds⟩
  next => cases validated

/-- A time to live that is read is small enough to be written. -/
theorem toNat_wordIn_le {members : Members} {key : String} {default n : UInt64}
    (fit : members.Fit) (usual : default.toNat ≤ Toml.greatestInteger)
    (read : wordIn members key default = some n) : n.toNat ≤ Toml.greatestInteger := by
  unfold wordIn at read
  split at read
  next =>
    cases read
    exact usual
  next value found =>
    split at read
    next natural =>
      cases read
      have bound := (fit _ _ found value rfl).2
      have smaller : (UInt64.ofNat value.toNat).toNat ≤ value.toNat := by
        rw [UInt64.toNat_ofNat']
        exact Nat.mod_le _ _
      omega
    next => cases read
  next => cases read

theorem toNat_cacheTtlSecs_le_of_decode {document : List Char} {config : Config}
    (read : decode document = .ok config) : config.cacheTtlSecs.toNat ≤ Toml.greatestInteger := by
  unfold decode at read
  split at read
  next given =>
    cases read
    obtain ⟨members, parsed, given⟩ := Option.bind_eq_some_iff.1 given
    simp only [ofMembers, Option.bind_eq_bind, Option.bind_eq_some_iff] at given
    obtain ⟨_, _, ttl, read, _, _, _, _, _, _, same⟩ := given
    cases same
    exact toNat_wordIn_le (Toml.fit_parse parsed) (by decide) read
  next => cases read

/-- What is read is valid and can be written again. -/
theorem parse_eq_ok {text : String} {config : Config} (read : parse text = .ok config) :
    config.validate = .ok config ∧ config.cacheTtlSecs.toNat ≤ Toml.greatestInteger := by
  unfold parse at read
  split at read
  next decoded given =>
    obtain ⟨rfl, _⟩ := validate_eq_ok read
    exact ⟨read, toNat_cacheTtlSecs_le_of_decode given⟩
  next => cases read

/-! ## Files -/

/-- Reading a file whose text gives a valid or an invalid configuration. -/
theorem load_of_readText {path : FilePath} {tree : FileTree} {text : String} {config : Config}
    (lies : tree.readText path = .ok text) (gives : parse text = config.validate) :
    load path tree = config.validate := by
  rw [load, lies]
  cases valid : config.isValid <;> simp [gives, validate, valid]

/-- A configuration that can be written is read from the file it was saved to. -/
theorem load_save {config : Config} (fits : config.cacheTtlSecs.toNat ≤ Toml.greatestInteger)
    {path : FilePath} {tree : FileTree} (writable : tree.Writable path) :
    ∃ after, config.save path tree = (.ok (), after) ∧ load path after = config.validate := by
  obtain ⟨text, rendered, gives⟩ := parse_render config fits
  obtain ⟨after, written, lies⟩ := FileTree.readText_write writable text
  refine ⟨after, ?_, load_of_readText lies gives⟩
  simp only [save, rendered, store, written]

/-- **A configuration survives its file.**  Saved where anything can be written,
it is read back, or refused as invalid if it is; but a time to live that no
document has room for is refused and leaves the tree as it is.  What is read from
any text is valid, and it is read back from wherever it can be written. -/
theorem saved_configurations_are_loaded :
    (∀ (config : Config) (path : FilePath) (tree : FileTree),
      (config.cacheTtlSecs.toNat ≤ 2 ^ 63 - 1 → tree.Writable path →
        ∃ after, config.save path tree = (.ok (), after) ∧
          load path after = config.validate) ∧
      (2 ^ 63 - 1 < config.cacheTtlSecs.toNat →
        config.save path tree = (.error (.format oversizedText), tree))) ∧
    ∀ (text : String) (config : Config), parse text = .ok config →
      config.validate = .ok config ∧
        ∀ (path : FilePath) (tree : FileTree), tree.Writable path →
          ∃ after, config.save path tree = (.ok (), after) ∧ load path after = .ok config := by
  refine ⟨fun config path tree => ⟨fun small writable => ?_, fun large => ?_⟩,
    fun text config read => ?_⟩
  · exact load_save (by unfold Toml.greatestInteger; omega) writable
  · have unfit : ¬config.cacheTtlSecs.toNat ≤ Toml.greatestInteger := by
      unfold Toml.greatestInteger
      omega
    simp only [save, render, if_neg unfit]
  · obtain ⟨valid, fits⟩ := parse_eq_ok read
    refine ⟨valid, fun path tree writable => ?_⟩
    rw [← valid]
    exact load_save fits writable

theorem saved_configurations_are_loaded_sample :
    let path : FilePath := ["kbsearch.toml"]
    let tree : FileTree := .directory []
    let minute : Config := { cacheTtlSecs := 60 }
    tree.Writable path ∧ parse "cache_ttl_secs = 60" = .ok minute ∧
      (∃ after, minute.save path tree = (.ok (), after) ∧ load path after = .ok minute) ∧
      (∃ after, Config.save { cacheTtlSecs := 0 } path tree = (.ok (), after) ∧
        load path after = .error (.invalidConfig zeroTtlText)) ∧
      Config.save { cacheTtlSecs := 9223372036854775808 } path tree =
        (.error (.format oversizedText), tree) := by
  intro path tree minute
  have writable : tree.Writable path := ⟨ByteArray.empty, rfl⟩
  have given : (parse "cache_ttl_secs = 60").toOption = some minute := by decide +kernel
  have read : parse "cache_ttl_secs = 60" = .ok minute := by
    cases taken : parse "cache_ttl_secs = 60" with
    | ok config =>
      rw [taken] at given
      exact congrArg Except.ok (Option.some.inj given)
    | error failure =>
      rw [taken] at given
      cases given
  obtain ⟨ofConfig, ofText⟩ := saved_configurations_are_loaded
  refine ⟨writable, read, (ofText _ _ read).2 path tree writable, ?_, ?_⟩
  · exact (ofConfig { cacheTtlSecs := 0 } path tree).1 (by decide) writable
  · exact (ofConfig { cacheTtlSecs := 9223372036854775808 } path tree).2 (by decide)

end KeywordSearch.Config
