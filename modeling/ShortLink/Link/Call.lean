import ShortLink.Bytes
import ShortLink.Fault
import ShortLink.Link.Cache

/-!
# Calls on collaborators

The link service calls a store, a cache and a directory of tenants. Every call is recorded, and any
call may fail. A failing call has no effect.

## Main definitions

- `Call`, `CallKind` — a call, and what it is made to
- `Circumstances` — what an operation meets from outside: failing calls, clocks and chance
-/

namespace ShortLink

/-- The kinds of calls. -/
inductive CallKind where
  | storeInsert
  | storeFind
  | cacheGet
  | cacheSet
  | tenantsGet
  deriving DecidableEq, Repr

/-- A call on a collaborator. -/
inductive Call where
  | storeInsert (code url tenant : String)
  | storeFind (code : String)
  | cacheGet (code : String)
  /-- The entry is to live for some seconds. -/
  | cacheSet (code url : String) (seconds : Nat)
  | tenantsGet (tenant : String)
  deriving DecidableEq, Repr

/-- The kind of a call. -/
def Call.kind : Call → CallKind
  | storeInsert .. => .storeInsert
  | storeFind _ => .storeFind
  | cacheGet _ => .cacheGet
  | cacheSet .. => .cacheSet
  | tenantsGet _ => .tenantsGet

/-- What an operation meets from outside. -/
structure Circumstances where
  /-- The faults of the calls that fail. -/
  outage : CallKind → Option Fault := fun _ => none
  /-- Readings of the wall clock for an id, in milliseconds since the Unix epoch. -/
  readings : List UInt64 := []
  /-- When a record is written, in seconds since the Unix epoch. -/
  writtenAt : Int64 := 0
  /-- When the cache is read. -/
  cacheReadAt : Instant := 0
  /-- When the cache is written. -/
  cacheWrittenAt : Instant := 0
  /-- Fresh random bytes for a token. -/
  nonce : Bytes := []

end ShortLink
