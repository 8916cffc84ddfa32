/-
  Switchyard.Cache.Basic
  ──────────────────────
  The response cache: answers by key, a switch, a time to live and counters.
  Times are seconds since an epoch and are handed in by the caller.

  An entry is expired once its age has reached the time to live; its age is
  the time passed since it was made, zero if it comes from the future.
  Expired entries go when they are looked up, or when room is needed.
-/
import Switchyard.Cache.Key
import Switchyard.Http.Response
import Switchyard.Table

namespace Switchyard

/-! ## §1. Durations and entries. -/

/-- A span of time. -/
structure Duration where
  nanoseconds : Nat
  deriving DecidableEq, Repr, Inhabited

namespace Duration

def ofMilliseconds (n : Nat) : Duration := ⟨n * 1000000⟩
def ofSeconds (n : Nat) : Duration := ⟨n * 1000000000⟩

/-- The whole seconds of a duration. -/
def seconds (d : Duration) : Nat := d.nanoseconds / 1000000000

end Duration

/-- A stored answer: everything that the handler returned, and when. -/
structure Entry where
  response : Response
  createdAt : Nat
  deriving DecidableEq, Inhabited

namespace Entry

/-- Whether the entry has reached the time to live, if there is one. -/
def isExpired (e : Entry) (ttl? : Option Nat) (now : Nat) : Bool :=
  match ttl? with
  | some ttl => ttl ≤ now - e.createdAt
  | none => false

/-- The answer again, marked as one that comes from the cache. -/
def hit (e : Entry) : Response :=
  (Response.new e.response.status e.response.body).withHeaders e.response.headers
    |>.withHeader .xCache (.ofString "HIT")

end Entry

/-! ## §2. The cache. -/

structure Cache where
  maxEntries : Nat
  /-- The file that the entries are kept in between runs. -/
  snapshotPath? : Option String
  enabled : Bool
  /-- The time to live in seconds; zero stands for no limit. -/
  ttlSeconds : Nat
  entries : Table CacheKey Entry
  hits : UInt64
  misses : UInt64
  deriving Inhabited

namespace Cache

/-- A cache without entries. -/
def new (enabled : Bool) (ttlSeconds maxEntries : Nat) (snapshotPath? : Option String) : Cache :=
  { maxEntries, snapshotPath?, enabled, ttlSeconds, entries := .empty, hits := 0, misses := 0 }

/-- The time to live, if there is a limit. -/
def ttl? (c : Cache) : Option Nat := if c.ttlSeconds = 0 then none else some c.ttlSeconds

/-- Another time to live, of which whole seconds are kept. -/
def setTtl (c : Cache) (ttl? : Option Duration) : Cache :=
  { c with ttlSeconds := (ttl?.map Duration.seconds).getD 0 }

/-- The cache without its entries. -/
def clear (c : Cache) : Cache := { c with entries := .empty }

/-- The cache switched on or off.  Switching it off drops what it holds. -/
def setEnabled (c : Cache) (enabled : Bool) : Cache :=
  let c := if c.enabled && !enabled then c.clear else c
  { c with enabled }

/-- Looks up a live entry.  An expired one is removed and counts as missing. -/
def get (c : Cache) (k : CacheKey) (now : Nat) : Option Entry × Cache :=
  if !c.enabled then (none, c)
  else match c.entries.get? k with
    | none => (none, { c with misses := c.misses + 1 })
    | some e =>
        if e.isExpired c.ttl? now then
          (none, { c with entries := c.entries.erase k, misses := c.misses + 1 })
        else (some e, { c with hits := c.hits + 1 })

/-- The cache without its expired entries. -/
def purge (c : Cache) (now : Nat) : Cache :=
  { c with entries := c.entries.filter fun _ e => !e.isExpired c.ttl? now }

/-- Stores an entry, unless the cache is off or full of other live entries. -/
def put (c : Cache) (k : CacheKey) (e : Entry) (now : Nat) : Cache :=
  if !c.enabled then c
  else if c.entries.size < c.maxEntries ∨ c.entries.contains k then
    { c with entries := c.entries.insert k e }
  else
    let c := c.purge now
    if c.entries.size < c.maxEntries then { c with entries := c.entries.insert k e } else c

/-- Removes an entry; tells whether there was one. -/
def invalidate (c : Cache) (k : CacheKey) : Bool × Cache :=
  (c.entries.contains k, { c with entries := c.entries.erase k })

/-- Removes all entries of a binding; tells how many there were. -/
def invalidateBinding (c : Cache) (binding : String) : Nat × Cache :=
  let entries := c.entries.filter fun k _ => k.binding ≠ binding
  (c.entries.size - entries.size, { c with entries })

/-- Takes over live entries, in order, as long as there is room.  Tells how
many it took. -/
def takeOver (c : Cache) (now : Nat) : List (CacheKey × Entry) → Nat × Cache
  | [] => (0, c)
  | (k, e) :: rest =>
      if e.isExpired c.ttl? now ∨ c.maxEntries ≤ c.entries.size then c.takeOver now rest
      else
        let (n, c) := { c with entries := c.entries.insert k e }.takeOver now rest
        (n + 1, c)

/-! ## §3. Counters. -/

structure Stats where
  enabled : Bool
  entries : Nat
  hits : UInt64
  misses : UInt64
  ttlSeconds : Nat
  deriving DecidableEq, Repr

def stats (c : Cache) : Stats :=
  { enabled := c.enabled, entries := c.entries.size, hits := c.hits, misses := c.misses,
    ttlSeconds := c.ttlSeconds }

end Cache

end Switchyard
