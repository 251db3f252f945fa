import KeywordSearch.Config
import KeywordSearch.Toml.Document

/-!
# The written form of a configuration

A configuration is written as a document with one line for each setting.
Reading takes the settings that a document gives and the defaults for the rest;
whatever else the document holds is passed over.  What is read has to be valid.
-/

set_option autoImplicit false

namespace KeywordSearch.Config

/-! ## Reading -/

/-- The truth value that a document gives to a key, or a default. -/
def booleanIn (members : Toml.Members) (key : String) (default : Bool) : Option Bool :=
  match members.find? key.toList with
  | none => some default
  | some (.boolean value) => some value
  | some _ => none

/-- The natural number that a document gives to a key, or a default. -/
def wordIn (members : Toml.Members) (key : String) (default : UInt64) : Option UInt64 :=
  match members.find? key.toList with
  | none => some default
  | some (.integer value) => if 0 ≤ value then some (UInt64.ofNat value.toNat) else none
  | some _ => none

/-- The settings that a document gives, with the defaults for the others. -/
def ofMembers (members : Toml.Members) : Option Config := do
  let usual : Config := {}
  some {
    cacheEnabled := ← booleanIn members "cache_enabled" usual.cacheEnabled
    cacheTtlSecs := ← wordIn members "cache_ttl_secs" usual.cacheTtlSecs
    flushCacheOnStartup := ← booleanIn members "flush_cache_on_startup" usual.flushCacheOnStartup
    parallelSearch := ← booleanIn members "parallel_search" usual.parallelSearch
    parallelRebuild := ← booleanIn members "parallel_rebuild" usual.parallelRebuild }

/-- What is said of a text that is no document or gives a setting the wrong
kind of value. -/
def malformedText : String := "not a valid configuration document"

/-- The settings of a document, valid or not. -/
def decode (document : List Char) : Except Failure Config :=
  match (Toml.parse document).bind ofMembers with
  | some config => .ok config
  | none => .error (.format malformedText)

/-- The valid configuration that a document gives. -/
def parse (document : String) : Except Failure Config :=
  match decode document.toList with
  | .ok config => config.validate
  | .error failure => .error failure

/-! ## Writing -/

/-- What is said of a number that documents have no room for. -/
def oversizedText : String := "number out of range"

/-- A truth value as it is written. -/
def booleanText (value : Bool) : String := if value then "true" else "false"

/-- A document that gives every setting, in order, unless the time to live is
greater than any integer of a document. -/
def render (config : Config) : Except Failure String :=
  if config.cacheTtlSecs.toNat ≤ Toml.greatestInteger then
    .ok ("cache_enabled = " ++ booleanText config.cacheEnabled ++ "\n"
      ++ "cache_ttl_secs = " ++ String.ofList (Nat.toDigits 10 config.cacheTtlSecs.toNat) ++ "\n"
      ++ "flush_cache_on_startup = " ++ booleanText config.flushCacheOnStartup ++ "\n"
      ++ "parallel_search = " ++ booleanText config.parallelSearch ++ "\n"
      ++ "parallel_rebuild = " ++ booleanText config.parallelRebuild ++ "\n")
  else .error (.format oversizedText)

/-- The usual name of a configuration file. -/
def fileName : String := "kbsearch.toml"

/-- The document that a new configuration file starts with: the defaults, each
with a comment. -/
def defaultText : String :=
  "# kbsearch configuration\n"
  ++ "#\n"
  ++ "# Preview cache in front of the document store (default: true).\n"
  ++ "# When false, every preview is read from the store.\n"
  ++ "cache_enabled = true\n"
  ++ "\n"
  ++ "# Seconds a cached preview stays fresh (default: 1800 = 30 minutes).\n"
  ++ "cache_ttl_secs = 1800\n"
  ++ "\n"
  ++ "# Drop all cached previews before the startup rebuild (default: false).\n"
  ++ "flush_cache_on_startup = false\n"
  ++ "\n"
  ++ "# Run per-term lookups in parallel (default: true).\n"
  ++ "parallel_search = true\n"
  ++ "\n"
  ++ "# Replay stored entries in parallel when rebuilding the index (default: true).\n"
  ++ "parallel_rebuild = true\n"

end KeywordSearch.Config
