import KeywordSearch.Cache
import KeywordSearch.Index
import KeywordSearch.Ranking

/-!
# The search engine

The engine is the index and the cache under one configuration.  Indexing an
entry makes it found under its tokens and caches its preview; unindexing it
undoes both, leaving pruning to a separate step.
-/

set_option autoImplicit false

namespace KeywordSearch

/-- The index and the cache, with the configuration that they were made for. -/
structure Engine where
  config : Config
  index : Index
  cache : Cache

namespace Engine

/-- An engine that has seen no entry. -/
def ofConfig (config : Config) : Engine := ⟨config, Index.empty, Cache.ofConfig config⟩

/-- Indexes an entry under all its tokens and caches its preview. -/
def indexEntry (engine : Engine) (entry : Entry) : Engine :=
  { engine with
    index := engine.index.insertAll entry.tokens entry.id
    cache := engine.cache.put entry }

/-- Takes an entry out of the index, as it was indexed, and out of the cache. -/
def unindexEntry (engine : Engine) (entry : Entry) : Engine :=
  { engine with
    index := engine.index.removeAll entry.tokens entry.id
    cache := engine.cache.evict entry.id }

/-- Indexes entries one after another. -/
def indexAll (engine : Engine) (entries : List Entry) : Engine := entries.foldl indexEntry engine

/-- Prunes the index. -/
def sanitize (engine : Engine) : Engine := { engine with index := engine.index.prune }

/-- The candidates for a query, best first. -/
def candidates (engine : Engine) (query : String) : List Candidate :=
  rank ((Token.ofQuery query.toList).map engine.index.search)

end Engine

end KeywordSearch
