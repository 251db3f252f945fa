import KeywordSearch.Failure

/-!
# Configuration

The settings of the search service.  Every setting has a default, and the
defaults are valid.
-/

set_option autoImplicit false

namespace KeywordSearch

/-- The settings of the search service: whether previews are cached and for how
many seconds a cached preview stays fresh, whether the cache is flushed before
the index is rebuilt, and whether searching and rebuilding may use several
threads, which changes no answer. -/
structure Config where
  cacheEnabled : Bool := true
  cacheTtlSecs : UInt64 := 1800
  flushCacheOnStartup : Bool := false
  parallelSearch : Bool := true
  parallelRebuild : Bool := true
  deriving DecidableEq, Repr

namespace Config

/-- What is said of a cache that would drop every preview at once. -/
def zeroTtlText : String := "cache_ttl_secs must be greater than 0 when cache_enabled = true"

/-- A cache that is on has to keep its previews for some time. -/
def isValid (config : Config) : Bool := !(config.cacheEnabled && config.cacheTtlSecs == 0)

/-- The configuration itself if it is valid, and what is wrong with it if not. -/
def validate (config : Config) : Except Failure Config :=
  if config.isValid then .ok config else .error (.invalidConfig zeroTtlText)

end Config

end KeywordSearch
