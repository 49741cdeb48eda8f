/-!
# The cache of URLs

The cache keeps the URL of a code for a while. An entry has a deadline, from which on it counts as
missing and is removed when it is looked up. An entry whose deadline would lie beyond the end of the
clock never expires.

## Main definitions

- `Instant` — a reading of the clock of the cache
- `LinkCache` — the entries
- `LinkCache.set`, `LinkCache.get`

## Main results

- `LinkCache.lookup_set`, `LinkCache.lookup_erase` — both change the entry of one code only
-/

namespace ShortLink

/-- Nanoseconds on a clock that never goes back. -/
abbrev Instant := Nat

/-- A second, in nanoseconds. -/
def Instant.second : Nat := 1000000000

/-- The end of the clock, whose seconds are a signed 64-bit number. -/
def Instant.limit : Instant := 0x8000000000000000 * Instant.second

/-- The instant that is `span` nanoseconds later, when the clock has it. -/
def Instant.after? (now : Instant) (span : Nat) : Option Instant :=
  if now + span < limit then some (now + span) else none

/-- A cached URL. -/
structure CacheEntry where
  url : String
  /-- When the entry expires; never if there is none. -/
  deadline : Option Instant
  deriving DecidableEq

/-- Whether an entry has not yet expired. -/
def CacheEntry.isLive (entry : CacheEntry) (now : Instant) : Bool := entry.deadline.all (now < ·)

/-- The entries by their codes. -/
structure LinkCache where
  entries : List (String × CacheEntry) := []
  deriving DecidableEq

namespace LinkCache

/-- The cache without the entry of a code. -/
def erase (cache : LinkCache) (code : String) : LinkCache :=
  ⟨cache.entries.filter (·.1 ≠ code)⟩

/-- The cache with a new entry for a code, which expires after `span` nanoseconds. -/
def set (cache : LinkCache) (now : Instant) (code url : String) (span : Nat) : LinkCache :=
  ⟨(code, ⟨url, now.after? span⟩) :: (cache.erase code).entries⟩

/-- The URL of a code, and the cache without its entry if that has expired. -/
def get (cache : LinkCache) (now : Instant) (code : String) : Option String × LinkCache :=
  match cache.entries.lookup code with
  | some entry => if entry.isLive now then (some entry.url, cache) else (none, cache.erase code)
  | none => (none, cache)

/-- An erased entry is not found, and every other one as before. -/
theorem lookup_erase (cache : LinkCache) (code other : String) :
    (cache.erase code).entries.lookup other
      = if other = code then none else cache.entries.lookup other := by
  unfold erase
  induction cache.entries with
  | nil => simp
  | cons entry rest ih => grind

/-- A new entry is found under its code, and every other one as before. -/
theorem lookup_set (cache : LinkCache) (now : Instant) (code url other : String) (span : Nat) :
    (cache.set now code url span).entries.lookup other
      = if other = code then some ⟨url, now.after? span⟩ else cache.entries.lookup other := by
  have h := lookup_erase cache code other
  grind [set]

end LinkCache

end ShortLink
