import KeywordSearch.Proofs.Config.Settings

/-!
# The default document

The document that a new configuration file starts with is a sheet: its remarks are
comments, and its other lines give every setting the value that it has by default.  So
what is read from it is the default configuration (`parse_defaultText`).
-/

set_option autoImplicit false

namespace KeywordSearch.Config

open Toml (Sheet)

/-! ## Lines as text -/

/-- A line with nothing in it. -/
def blankLine : Toml.Line := ⟨.none, none, .none, none⟩

/-- The line of a setting that is on or off. -/
def flagLine (name : String) (bare : IsBare name) (value : Bool) : Toml.Line :=
  settingLine name bare (booleanText value).toList (by cases value <;> decide)
    (by cases value <;> decide)

section

variable (rest : Sheet)

theorem textOf_remarkLine (remark : String)
    (printable : remark.toList.all Toml.isPrintable = true) :
    textOf (.ended (remarkLine remark printable) .feed rest) =
      "#" ++ remark ++ "\n" ++ textOf rest := by
  simp [textOf, Sheet.text, remarkLine, Toml.Line.text, Toml.Line.remark, Toml.Comment.text,
    Toml.Blanks.none, Toml.Ending.text, ← String.toList_inj]

theorem textOf_settingLine (name : String) (bare : IsBare name) (word : List Char)
    (some? : word ≠ []) (solid : word.all Toml.isWordChar = true) :
    textOf (.ended (settingLine name bare word some? solid) .feed rest) =
      name ++ " = " ++ String.ofList word ++ "\n" ++ textOf rest := by
  simp [textOf, Sheet.text, settingLine, Toml.Line.text, Toml.Line.remark, Toml.Assignment.text,
    Toml.Blanks.none, Toml.Blanks.one, Toml.Ending.text, ← String.toList_inj]

theorem textOf_flagLine (name : String) (bare : IsBare name) (value : Bool) :
    textOf (.ended (flagLine name bare value) .feed rest) =
      name ++ " = " ++ booleanText value ++ "\n" ++ textOf rest := by
  rw [flagLine, textOf_settingLine, String.ofList_toList]

theorem textOf_blankLine : textOf (.ended blankLine .feed rest) = "\n" ++ textOf rest := by
  simp [textOf, Sheet.text, blankLine, Toml.Line.text, Toml.Line.remark, Toml.Blanks.none,
    Toml.Ending.text]

end

/-! ## The document -/

theorem isBare_flushCacheOnStartup : IsBare "flush_cache_on_startup" := by decide

theorem isBare_parallelSearch : IsBare "parallel_search" := by decide

theorem isBare_parallelRebuild : IsBare "parallel_rebuild" := by decide

/-- The lines of the default document. -/
def defaultSheet : Sheet :=
  .ended (remarkLine " kbsearch configuration" (by decide +kernel)) .feed <|
  .ended (remarkLine "" (by decide +kernel)) .feed <|
  .ended (remarkLine " Preview cache in front of the document store (default: true)."
    (by decide +kernel)) .feed <|
  .ended (remarkLine " When false, every preview is read from the store." (by decide +kernel))
    .feed <|
  .ended (flagLine "cache_enabled" isBare_cacheEnabled true) .feed <|
  .ended blankLine .feed <|
  .ended (remarkLine " Seconds a cached preview stays fresh (default: 1800 = 30 minutes)."
    (by decide +kernel)) .feed <|
  .ended (settingLine "cache_ttl_secs" isBare_cacheTtlSecs ['1', '8', '0', '0'] (by decide)
    (by decide)) .feed <|
  .ended blankLine .feed <|
  .ended (remarkLine " Drop all cached previews before the startup rebuild (default: false)."
    (by decide +kernel)) .feed <|
  .ended (flagLine "flush_cache_on_startup" isBare_flushCacheOnStartup false) .feed <|
  .ended blankLine .feed <|
  .ended (remarkLine " Run per-term lookups in parallel (default: true)." (by decide +kernel))
    .feed <|
  .ended (flagLine "parallel_search" isBare_parallelSearch true) .feed <|
  .ended blankLine .feed <|
  .ended (remarkLine " Replay stored entries in parallel when rebuilding the index (default: true)."
    (by decide +kernel)) .feed <|
  .ended (flagLine "parallel_rebuild" isBare_parallelRebuild true) .feed <|
  .last blankLine

theorem textOf_defaultSheet : textOf defaultSheet = defaultText := by
  have nothing : textOf (.last blankLine) = "" := rfl
  simp only [defaultSheet, textOf_remarkLine, textOf_settingLine, textOf_flagLine, textOf_blankLine,
    nothing]
  unfold defaultText
  conv_rhs => simp only [String.append_assoc]
  -- Line by line, because the whole text is too long to be compared at once.
  iterate 16 refine congrArg₂ HAppend.hAppend (by simp [booleanText]) ?_
  simp [booleanText]

/-- The default document gives the defaults. -/
theorem parse_defaultText : parse defaultText = .ok {} := by
  have gives : Gives defaultSheet [("cache_enabled", .boolean true),
      ("cache_ttl_secs", .integer 1800), ("flush_cache_on_startup", .boolean false),
      ("parallel_search", .boolean true), ("parallel_rebuild", .boolean true)] :=
    .cons ⟨rfl, .boolean true⟩ (.cons ⟨rfl, .integer (.decimal (.ofNat 1800))⟩
      (.cons ⟨rfl, .boolean false⟩ (.cons ⟨rfl, .boolean true⟩ (.cons ⟨rfl, .boolean true⟩ .nil))))
  rw [← textOf_defaultSheet, parse_of_suited (by decide) gives (by decide) (by decide)]
  rfl

end KeywordSearch.Config
