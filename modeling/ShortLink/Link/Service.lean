import ShortLink.Link.Call
import ShortLink.Link.Directory
import ShortLink.Link.Relative
import ShortLink.Link.Store
import ShortLink.TimedId.Generator
import ShortLink.Token.Sealed
import ShortLink.Token.TenantCodec

/-!
# The link service

Links are issued and resolved in three ways. A stored link has a short code, under which its URL is
kept in a store and, for a day, in a cache. A stateless link carries its URL in the code, and a
sealed link carries it encrypted. A URL under the base of its tenant is kept relative to it, and
comes back with the base in front. The cache and the directory are conveniences: when a call on them
fails, the service goes on as if they had nothing to say. A failing store is reported.

## Main definitions

- `LinkService` — what a service makes codes and tokens with
- `LinkService.State` — what changes while a service runs
- `LinkService.create`, `LinkService.resolve` — stored links
- `LinkService.createStateless`, `LinkService.resolveStateless` — stateless links
- `LinkService.createSealed`, `LinkService.resolveSealed` — sealed links
- `LinkService.perform` — any of these operations
-/

namespace ShortLink

/-- A service that issues and resolves links. -/
structure LinkService where
  codec : TenantCodec
  sealer : TokenSealer
  /-- The compressor for texts that are put into tokens. -/
  compress : Bytes → Bytes

namespace LinkService

/-- The service of the settings. -/
def ofSettings (settings : Settings) : LinkService :=
  ⟨.ofSettings settings, .ofSettings settings, Zlib.compress⟩

/-- What changes while a service runs. -/
structure State where
  ids : TimedId.Generator
  store : LinkStore := {}
  cache : LinkCache := {}
  directory : TenantDirectory := {}

/-- The result of an operation. -/
structure Outcome where
  answer : Except Fault String
  state : State
  /-- The calls on collaborators, in order. -/
  calls : List Call

/-- How many seconds a URL stays in the cache. -/
def cacheSeconds : Nat := 24 * 60 * 60

/-! ### Calls -/

/-- The URL that the cache has for a code, and the state after the call. -/
def cached (now : Circumstances) (state : State) (code : String) : Option String × State :=
  match now.outage .cacheGet with
  | some _ => (none, state)
  | none =>
    let (url, cache) := state.cache.get now.cacheReadAt code
    (url, { state with cache })

/-- The state after a URL has been put into the cache. -/
def remember (now : Circumstances) (state : State) (code url : String) : State :=
  match now.outage .cacheSet with
  | some _ => state
  | none =>
    { state with
      cache := state.cache.set now.cacheWrittenAt code url (cacheSeconds * Instant.second) }

/-- The store with a new record. -/
def insertRecord (now : Circumstances) (store : LinkStore) (record : LinkRecord) :
    Except Fault LinkStore :=
  match now.outage .storeInsert with
  | some fault => .error fault
  | none => store.insert record

/-- The record that the store has under a code. -/
def findRecord (now : Circumstances) (store : LinkStore) (code : String) :
    Except Fault (Option LinkRecord) :=
  match now.outage .storeFind with
  | some fault => .error fault
  | none => .ok (store.find? code)

/-- The base of a tenant, and the calls that were made for it. Nobody looks up the empty tenant. -/
def base? (now : Circumstances) (directory : TenantDirectory) (tenant : String) :
    Option String × List Call :=
  if tenant.isEmpty then (none, [])
  else
    let found := match now.outage .tenantsGet with
      | some _ => none
      | none => directory.find? tenant
    ((found.map (·.baseUrl)).filter fun base => !base.isEmpty, [.tenantsGet tenant])

/-! ### Relative URLs -/

/-- A URL as it is kept for a tenant: relative to the tenant's base if it lies under it. -/
def shrink (now : Circumstances) (directory : TenantDirectory) (url tenant : String) :
    String × List Call :=
  let (base, calls) := base? now directory tenant
  ((base.bind fun base => Link.relativeTo? url base).getD url, calls)

/-- The URL that is kept for a tenant as the given text. -/
def expand (now : Circumstances) (directory : TenantDirectory) (kept tenant : String) :
    String × List Call :=
  if Link.isAbsolute kept then (kept, [])
  else
    let (base, calls) := base? now directory tenant
    (match base with
      | some base => Link.rejoin base kept
      | none => kept, calls)

/-! ### Stored links -/

/-- Issues a short code. There is no result when the readings of the clock run out before there is
an id. -/
def create (service : LinkService) (now : Circumstances) (state : State) (url tenant : String) :
    Option Outcome := do
  let (kept, lookups) := shrink now state.directory url tenant
  let (id, ids, _) ← state.ids.next? now.readings
  let state := { state with ids }
  let code := service.codec.encodeId id tenant
  let calls := lookups ++ [.storeInsert code kept tenant]
  match insertRecord now state.store { code, url := kept, tenant, createdAt := now.writtenAt } with
  | .error fault => return { answer := .error fault, state, calls }
  | .ok store =>
    return {
      answer := .ok code
      state := remember now { state with store } code url
      calls := calls ++ [.cacheSet code url cacheSeconds] }

/-- Resolves a short code from the store. -/
def resolveStored (now : Circumstances) (state : State) (code : String) : Outcome :=
  match findRecord now state.store code with
  | .error fault => { answer := .error fault, state, calls := [.storeFind code] }
  | .ok none => { answer := .error .notFound, state, calls := [.storeFind code] }
  | .ok (some record) =>
    let (url, lookups) := expand now state.directory record.url record.tenant
    { answer := .ok url
      state := remember now state code url
      calls := .storeFind code :: lookups ++ [.cacheSet code url cacheSeconds] }

/-- Resolves a short code. What the cache has counts only if it is a URL by itself. -/
def resolve (now : Circumstances) (state : State) (code : String) : Outcome :=
  match Radix62.checkShortCode code with
  | .error reason => { answer := .error (.malformed reason), state, calls := [] }
  | .ok () =>
    let (hit, state) := cached now state code
    match hit.filter Link.isAbsolute with
    | some url => { answer := .ok url, state, calls := [.cacheGet code] }
    | none =>
      let outcome := resolveStored now state code
      { outcome with calls := .cacheGet code :: outcome.calls }

/-! ### Stateless links -/

/-- Issues a code that carries the URL, relative to the base of the tenant if it is to be trimmed.
-/
def createStateless (service : LinkService) (now : Circumstances) (state : State)
    (url tenant : String) (trim : Bool) : Outcome :=
  let (kept, calls) := if trim then shrink now state.directory url tenant else (url, [])
  { answer := .ok (service.codec.encodePayload (Bytes.ofText kept) tenant service.compress)
    state, calls }

/-- The text that a code of a tenant carries. -/
def carried (service : LinkService) (code tenant : String) : Except Fault String := do
  (Radix62.checkToken code).mapError Fault.malformed
  let some text := Bytes.toText? (← service.codec.decodePayload code tenant)
    | throw .corrupted
  return text

/-- Resolves a code that carries its URL. -/
def resolveStateless (service : LinkService) (now : Circumstances) (state : State)
    (code tenant : String) : Outcome :=
  match service.carried code tenant with
  | .error fault => { answer := .error fault, state, calls := [] }
  | .ok kept =>
    let (url, calls) := expand now state.directory kept tenant
    { answer := .ok url, state, calls }

/-! ### Sealed links -/

/-- Issues a sealed token. -/
def createSealed (service : LinkService) (now : Circumstances) (url : String) : String :=
  service.sealer.create now.nonce url service.compress

/-- Resolves a sealed token. -/
def resolveSealed (service : LinkService) (token : String) : Except Fault String := do
  (Radix62.checkToken token).mapError Fault.malformed
  service.sealer.resolve token

/-! ### Operations -/

/-- The operations of a service. -/
inductive Operation where
  | create (url tenant : String)
  | resolve (code : String)
  | createStateless (url tenant : String) (trim : Bool)
  | resolveStateless (code tenant : String)
  | createSealed (url : String)
  | resolveSealed (token : String)
  deriving DecidableEq, Repr

/-- The outcome of an operation, unless it still waits for the clock. -/
def perform (service : LinkService) (now : Circumstances) (state : State) :
    Operation → Option Outcome
  | .create url tenant => service.create now state url tenant
  | .resolve code => some (resolve now state code)
  | .createStateless url tenant trim => some (service.createStateless now state url tenant trim)
  | .resolveStateless code tenant => some (service.resolveStateless now state code tenant)
  | .createSealed url =>
    some { answer := .ok (service.createSealed now url), state, calls := [] }
  | .resolveSealed token => some { answer := service.resolveSealed token, state, calls := [] }

end LinkService

end ShortLink
