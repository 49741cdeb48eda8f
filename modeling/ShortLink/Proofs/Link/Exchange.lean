import ShortLink.Proofs.Link.Step

/-!
# What comes back from calls

Every call that an operation makes is served by a collaborator, unless it fails. The calls of an
operation, served one after the other, leave store, cache and directory as the operation does. So
the list of its calls is complete, and says what came back from each of them.

## Main definitions

- `LinkService.serve` — what a call does and gives back
- `LinkService.exchanges`, `LinkService.served` — calls one after the other: what comes back from
  each, and what they leave behind
- `LinkService.callsMade` — the calls of an operation, which may still be waiting for the clock

## Main results

- `LinkService.served_calls` — what an operation leaves behind is what its calls do
-/

namespace ShortLink.LinkService

/-- What comes back from a call. -/
inductive Reply where
  | fault (fault : Fault)
  /-- A record was stored, or a URL put into the cache. -/
  | done
  | record (found : Option LinkRecord)
  | url (hit : Option String)
  | tenant (found : Option Tenant)
  deriving DecidableEq

/-- A call and what came back from it. -/
structure Exchange where
  call : Call
  reply : Reply
  deriving DecidableEq

/-- What comes back from a call, and the state after it. A call that fails does nothing. -/
def serve (now : Circumstances) (state : State) (call : Call) : Reply × State :=
  match now.outage call.kind with
  | some fault => (.fault fault, state)
  | none =>
    match call with
    | .storeInsert code url tenant =>
      match state.store.insert { code, url, tenant, createdAt := now.writtenAt } with
      | .error fault => (.fault fault, state)
      | .ok store => (.done, { state with store })
    | .storeFind code => (.record (state.store.find? code), state)
    | .cacheGet code =>
      let (hit, cache) := state.cache.get now.cacheReadAt code
      (.url hit, { state with cache })
    | .cacheSet code url seconds =>
      (.done, { state with
        cache := state.cache.set now.cacheWrittenAt code url (seconds * Instant.second) })
    | .tenantsGet tenant => (.tenant (state.directory.find? tenant), state)

/-- Calls made one after the other, each with what comes back from it. -/
def exchanges (now : Circumstances) : State → List Call → List Exchange
  | _, [] => []
  | state, call :: later =>
    ⟨call, (serve now state call).1⟩ :: exchanges now (serve now state call).2 later

/-- The state after calls made one after the other. -/
def served (now : Circumstances) (state : State) (calls : List Call) : State :=
  calls.foldl (fun state call => (serve now state call).2) state

/-- The calls that an operation has made when it ends, or so far when it still waits for the clock.
-/
def callsMade (service : LinkService) (now : Circumstances) (state : State)
    (operation : Operation) : List Call :=
  match service.perform now state operation, operation with
  | some outcome, _ => outcome.calls
  | none, .create url tenant => (shrink now state.directory url tenant).2
  | none, _ => []

variable {service : LinkService} {now : Circumstances} {state : State} {outcome : Outcome}
  {directory : TenantDirectory} {operation : Operation} {code url kept tenant : String} {calls later : List Call}

theorem callsMade_of_some (h : service.perform now state operation = some outcome) :
    service.callsMade now state operation = outcome.calls := by
  simp only [callsMade, h]

theorem callsMade_of_none (h : service.perform now state (.create url tenant) = none) :
    service.callsMade now state (.create url tenant)
      = (shrink now state.directory url tenant).2 := by
  simp only [callsMade, h]

theorem exchanges_append :
    exchanges now state (calls ++ later)
      = exchanges now state calls ++ exchanges now (served now state calls) later := by
  induction calls generalizing state with
  | nil => rfl
  | cons call rest ih => exact congrArg _ ih

theorem served_append :
    served now state (calls ++ later) = served now (served now state calls) later :=
  List.foldl_append

/-! ### One call -/

theorem serve_of_outage (call : Call) {fault : Fault} (h : now.outage call.kind = some fault) :
    serve now state call = (.fault fault, state) := by
  simp only [serve, h]

theorem serve_storeInsert_of_error {fault : Fault}
    (h : insertRecord now state.store (newRecord now directory code url tenant) = .error fault) :
    serve now state (.storeInsert code (newRecord now directory code url tenant).url tenant)
      = (.fault fault, state) := by
  cases houtage : now.outage .storeInsert with
  | some fault' =>
    rw [insertRecord, houtage] at h
    rw [serve_of_outage _ houtage, Except.error.inj h]
  | none =>
    rw [insertRecord, houtage] at h
    replace h : state.store.insert { code, url := _, tenant, createdAt := _ } = .error fault := h
    simp only [serve, Call.kind, houtage, newRecord_url, h]

theorem serve_storeInsert_of_ok {store : LinkStore}
    (h : insertRecord now state.store (newRecord now directory code url tenant) = .ok store) :
    serve now state (.storeInsert code (newRecord now directory code url tenant).url tenant)
      = (.done, { state with store }) := by
  cases houtage : now.outage .storeInsert with
  | some fault =>
    rw [insertRecord, houtage] at h
    cases h
  | none =>
    rw [insertRecord, houtage] at h
    replace h : state.store.insert { code, url := _, tenant, createdAt := _ } = .ok store := h
    simp only [serve, Call.kind, houtage, newRecord_url, h]

theorem serve_storeFind (h : now.outage .storeFind = none) :
    serve now state (.storeFind code) = (.record (state.store.find? code), state) := by
  simp only [serve, Call.kind, h]

theorem serve_cacheGet : (serve now state (.cacheGet code)).2 = (cached now state code).2 := by
  cases h : now.outage .cacheGet with
  | some fault => rw [serve_of_outage _ h, cached, h]
  | none => simp only [serve, Call.kind, cached, h]

theorem serve_cacheGet_eq_url_iff :
    (serve now state (.cacheGet code)).1 = .url (some url) ↔
      (cached now state code).1 = some url := by
  cases h : now.outage .cacheGet with
  | some fault =>
    rw [serve_of_outage _ h, cached, h]
    exact iff_of_false (by rintro ⟨⟩) (by rintro ⟨⟩)
  | none => simp only [serve, Call.kind, cached, h, Reply.url.injEq]

theorem serve_cacheSet :
    (serve now state (.cacheSet code url cacheSeconds)).2 = remember now state code url := by
  cases h : now.outage .cacheSet with
  | some fault => rw [serve_of_outage _ h, remember, h]
  | none => simp only [serve, Call.kind, remember, h]

theorem serve_tenantsGet : (serve now state (.tenantsGet tenant)).2 = state := by
  cases h : now.outage .tenantsGet with
  | some fault => rw [serve_of_outage _ h]
  | none => simp only [serve, Call.kind, h]

/-! ### The calls of an operation -/

/-- Looking for a base changes nothing. -/
theorem served_base? (directory : TenantDirectory) :
    served now state (base? now directory tenant).2 = state := by
  unfold base?
  split
  · rfl
  · exact serve_tenantsGet

theorem expand_calls (now : Circumstances) (directory : TenantDirectory) (kept tenant : String) :
    (expand now directory kept tenant).2 = [] ∨
      (expand now directory kept tenant).2 = (base? now directory tenant).2 := by
  unfold expand
  split
  · exact Or.inl rfl
  · exact Or.inr rfl

theorem served_expand (directory : TenantDirectory) :
    served now state (expand now directory kept tenant).2 = state := by
  rcases expand_calls now directory kept tenant with hnone | hbase
  · rw [hnone]
    rfl
  · rw [hbase, served_base?]

theorem remember_ids (state : State) (ids : TimedId.Generator) :
    remember now { state with ids } code url = { remember now state code url with ids } := by
  unfold remember
  split
  · rfl
  · rfl

theorem served_create (h : service.create now state url tenant = some outcome) :
    ∃ ids, outcome.state = { served now state outcome.calls with ids } := by
  obtain ⟨id, ids, -, -, h⟩ := create_cases h
  let code := service.codec.encodeId id tenant
  let insert := Call.storeInsert code (newRecord now state.directory code url tenant).url tenant
  have hlookups : served now state (shrink now state.directory url tenant).2 = state :=
    served_base? state.directory
  rcases h with ⟨fault, herror, rfl⟩ | ⟨store, hok, rfl⟩
  · have hserved : served now state ((shrink now state.directory url tenant).2 ++ [insert])
        = state := by
      rw [served_append, hlookups]
      show (serve now state insert).2 = state
      rw [serve_storeInsert_of_error herror]
    refine ⟨ids, ?_⟩
    rw [hserved]
  · have hserved : served now state ((shrink now state.directory url tenant).2 ++ [insert] ++
        [.cacheSet code url cacheSeconds]) = remember now { state with store } code url := by
      rw [served_append, served_append, hlookups]
      show (serve now (serve now state insert).2 _).2 = _
      rw [serve_storeInsert_of_ok hok, serve_cacheSet]
    refine ⟨ids, ?_⟩
    rw [hserved]
    exact remember_ids { state with store } ids

theorem served_resolveStored (now : Circumstances) (state : State) (code : String) :
    served now state (resolveStored now state code).calls = (resolveStored now state code).state := by
  rcases resolveStored_cases now state code with
    ⟨fault, houtage, heq⟩ | ⟨houtage, -, heq⟩ | ⟨record, houtage, -, heq⟩
  · rw [heq]
    show (serve now state _).2 = state
    rw [serve_of_outage _ houtage]
  · rw [heq]
    show (serve now state _).2 = state
    rw [serve_storeFind houtage]
  · rw [heq]
    show served now (serve now state _).2 (_ ++ [_]) = _
    rw [serve_storeFind houtage, served_append, served_expand]
    exact serve_cacheSet

theorem served_resolve (now : Circumstances) (state : State) (code : String) :
    served now state (resolve now state code).calls = (resolve now state code).state := by
  rcases resolve_cases now state code with
    ⟨reason, -, heq⟩ | ⟨url, -, -, -, heq⟩ | ⟨-, -, heq⟩
  · rw [heq]
    rfl
  · rw [heq]
    exact serve_cacheGet
  · rw [heq]
    show served now (serve now state _).2 _ = _
    rw [serve_cacheGet, served_resolveStored]

theorem served_createStateless (trim : Bool) :
    served now state (service.createStateless now state url tenant trim).calls
      = (service.createStateless now state url tenant trim).state := by
  cases trim with
  | false => rfl
  | true => exact served_base? state.directory

theorem served_resolveStateless :
    served now state (service.resolveStateless now state code tenant).calls
      = (service.resolveStateless now state code tenant).state := by
  unfold resolveStateless
  split
  · rfl
  · exact served_expand state.directory

/-- What an operation leaves behind is what its calls do, but for the ids that it takes. -/
theorem served_calls (h : service.perform now state operation = some outcome) :
    ∃ ids, outcome.state = { served now state outcome.calls with ids } := by
  cases operation with
  | create url tenant => exact served_create h
  | resolve code =>
    obtain rfl := Option.some.inj h
    rw [served_resolve]
    exact ⟨_, rfl⟩
  | createStateless url tenant trim =>
    obtain rfl := Option.some.inj h
    rw [served_createStateless]
    exact ⟨_, rfl⟩
  | resolveStateless code tenant =>
    obtain rfl := Option.some.inj h
    rw [served_resolveStateless]
    exact ⟨_, rfl⟩
  | createSealed url =>
    obtain rfl := Option.some.inj h
    exact ⟨state.ids, rfl⟩
  | resolveSealed token =>
    obtain rfl := Option.some.inj h
    exact ⟨state.ids, rfl⟩

end ShortLink.LinkService
