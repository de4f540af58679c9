/-
This file keeps values for a limited time.
-/

import DocBlocks.Json.Binary64

namespace DocBlocks

/-- A value and the time it was stored at, in milliseconds. -/
structure Cache.Entry (α : Type) where
  key : String
  value : α
  storedAt : Nat
deriving DecidableEq, Repr

/-- Entries with different keys, each of which expires when it is `ttl` milliseconds old. -/
structure Cache (α : Type) where
  ttl : Nat
  interval : Nat
  lastCleanup : Nat
  entries : List (Cache.Entry α) := []
  hits : Nat := 0
  misses : Nat := 0
deriving DecidableEq, Repr

namespace Cache

variable {α : Type}

def defaultTtl : Nat := 300000

def defaultInterval : Nat := 30000

def new (ttl interval now : Nat) : Cache α :=
  { ttl, interval, lastCleanup := now }

def Entry.isExpired (entry : Entry α) (ttl now : Nat) : Bool :=
  ttl ≤ now - entry.storedAt

def entry? (cache : Cache α) (key : String) : Option (Entry α) :=
  cache.entries.find? (·.key == key)

/-- Drops the entries whose keys satisfy a condition, and counts them. -/
def removeWhere (cache : Cache α) (condition : String → Bool) : Nat × Cache α :=
  let kept := cache.entries.filter fun entry => !condition entry.key
  (cache.entries.length - kept.length, { cache with entries := kept })

def remove (cache : Cache α) (key : String) : Option α × Cache α :=
  ((cache.entry? key).map Entry.value, (cache.removeWhere (· == key)).2)

/-- Looks a key up. An expired entry is dropped. -/
def get (cache : Cache α) (now : Nat) (key : String) : Option α × Cache α :=
  match cache.entry? key with
  | none => (none, { cache with misses := cache.misses + 1 })
  | some entry =>
    if entry.isExpired cache.ttl now then
      (none, { (cache.remove key).2 with misses := cache.misses + 1 })
    else (some entry.value, { cache with hits := cache.hits + 1 })

def set (cache : Cache α) (now : Nat) (key : String) (value : α) : Cache α :=
  let others := cache.entries.filter fun entry => entry.key != key
  { cache with entries := ⟨key, value, now⟩ :: others }

/-- Drops the expired entries, and counts them. -/
def cleanup (cache : Cache α) (now : Nat) : Nat × Cache α :=
  let kept := cache.entries.filter fun entry => !entry.isExpired cache.ttl now
  (cache.entries.length - kept.length, { cache with entries := kept, lastCleanup := now })

/-- Sweeps the cache if the last sweep is long enough ago. -/
def cleanupIfDue (cache : Cache α) (now : Nat) : Nat × Cache α :=
  if cache.interval ≤ now - cache.lastCleanup then cache.cleanup now else (0, cache)

/-- Stores a value and sweeps the cache if that is due. -/
def store (cache : Cache α) (now : Nat) (key : String) (value : α) : Cache α :=
  ((cache.set now key value).cleanupIfDue now).2

def clear (cache : Cache α) : Cache α :=
  { cache with entries := [] }

def size (cache : Cache α) : Nat :=
  cache.entries.length

/-- The share of hits among all look-ups, with six decimals. -/
def hitRate (cache : Cache α) : String :=
  let total := cache.hits + cache.misses
  let millionths :=
    if total == 0 || cache.hits == 0 then 0
    else
      let (significand, exponent) := Json.Binary64.nearest cache.hits total
      let (numerator, denominator) := Json.Binary64.ratio significand 2 exponent
      Json.Binary64.roundQuotient (numerator * 1000000) denominator
  let decimals := Nat.toDigits 10 (millionths % 1000000)
  toString (millionths / 1000000) ++ "." ++
    String.ofList (List.replicate (6 - decimals.length) '0' ++ decimals)

end Cache

end DocBlocks
