import KeywordSearch.Config
import KeywordSearch.Entry

/-!
# The preview cache

The cache keeps previews with the time at which each was put there.  A preview
is fresh until it has been kept for the cache's time to live; an expired one
stays in its slot, unseen, until it is replaced or dropped.  A cache that is
switched off keeps nothing.

Time is a clock of the cache that only `elapse` moves, so every other operation
happens at one moment.

The numbers of reads are exact.  A counter of 64 bits would show them as they are
until it had counted 2^64 reads of one kind, and would then begin again at 0.
-/

set_option autoImplicit false

namespace KeywordSearch

/-- A preview and the time at which it was cached. -/
structure Slot where
  preview : Preview
  cachedAt : Nat
  deriving DecidableEq, Repr

instance : Identified Slot := ⟨fun slot => slot.preview.id⟩

/-- The cached previews with the settings of the cache, its clock, and the
numbers of reads that were and were not answered from it. -/
structure Cache where
  enabled : Bool
  ttlSecs : UInt64
  now : Nat := 0
  slots : Roster Slot := Roster.empty
  hits : Nat := 0
  misses : Nat := 0
  deriving DecidableEq

namespace Cache

/-- How many ticks of the clock make a second. -/
def ticksPerSecond : Nat := 1000000000

/-- An empty cache with the settings of a configuration. -/
def ofConfig (config : Config) : Cache where
  enabled := config.cacheEnabled
  ttlSecs := config.cacheTtlSecs

/-- The time to live in ticks. -/
def ttl (cache : Cache) : Nat := cache.ttlSecs.toNat * ticksPerSecond

/-- Whether a slot has been kept for the time to live. -/
def expired (cache : Cache) (slot : Slot) : Bool := cache.ttl ≤ cache.now - slot.cachedAt

/-- The unexpired preview cached for an id. -/
def fresh? (cache : Cache) (id : EntryId) : Option Preview :=
  if cache.enabled then
    match cache.slots.find? id with
    | some slot => if cache.expired slot then none else some slot.preview
    | none => none
  else none

/-- Counts a read that the cache answers. -/
def countHit (cache : Cache) : Cache := { cache with hits := cache.hits + 1 }

/-- Counts a read that the cache does not answer. -/
def countMiss (cache : Cache) : Cache := { cache with misses := cache.misses + 1 }

/-- Keeps a preview from now on. -/
def keep (cache : Cache) (preview : Preview) : Cache :=
  { cache with slots := cache.slots.insert ⟨preview, cache.now⟩ }

/-- Caches the preview of an entry, replacing what was cached for its id. -/
def put (cache : Cache) (entry : Entry) : Cache :=
  if cache.enabled then cache.keep entry.preview else cache

/-- Completes a miss with the entry that was loaded: the preview to answer with,
and the cache afterwards.  A fresh preview that has arrived since the miss is
newer than what was loaded, so it stays and is the answer. -/
def fill (cache : Cache) (entry : Entry) : Preview × Cache :=
  match cache.fresh? entry.id with
  | some preview => (preview, cache)
  | none => (entry.preview, cache.put entry)

/-- Drops what is cached for an id. -/
def evict (cache : Cache) (id : EntryId) : Cache := { cache with slots := cache.slots.erase id }

/-- Drops what is cached for an id if it has expired. -/
def evictExpired (cache : Cache) (id : EntryId) : Cache :=
  match cache.slots.find? id with
  | some slot => if cache.expired slot then cache.evict id else cache
  | none => cache

/-- Drops everything. -/
def clear (cache : Cache) : Cache := { cache with slots := Roster.empty }

/-- Lets time pass. -/
def elapse (cache : Cache) (ticks : Nat) : Cache := { cache with now := cache.now + ticks }

/-- How many previews are kept, expired ones among them. -/
def size (cache : Cache) : Nat := cache.slots.size

/-- The time to live as it is shown: whole seconds, and nanoseconds for none. -/
def ttlText (cache : Cache) : String :=
  if cache.ttlSecs = 0 then "0ns"
  else String.ofList (Nat.toDigits 10 cache.ttlSecs.toNat) ++ "s"

/-- One line about the cache. -/
def summary (cache : Cache) : String :=
  "PreviewCache \x7b enabled: " ++ (if cache.enabled then "true" else "false")
    ++ ", ttl: " ++ cache.ttlText
    ++ ", len: " ++ String.ofList (Nat.toDigits 10 cache.size) ++ " \x7d"

end Cache

end KeywordSearch
