import ShortLink.Proofs.Link.Step

/-!
# Runs of the service

A run is a list of operations, each performed in the state that the one before it left behind. What
an operation does to store, cache and directory is one of three things: it takes cached entries away
at most, it stores a link and caches its URL, or it caches the URL of a stored link.

## Main definitions

- `LinkService.Event` — an operation that was performed
- `LinkService.Run` — operations performed one after the other

## Main results

- `LinkService.resolve_state_cases` — what resolving a code does to the state
- `LinkService.perform_cases` — what an operation does to the state
- `LinkService.Run.preserves` — what every event keeps, a run keeps
- `LinkService.Run.directory_eq` — the directory stays the same
-/

namespace ShortLink.LinkService

/-- An operation that was performed, with what it met from outside and what came of it. -/
structure Event where
  now : Circumstances
  operation : Operation
  outcome : Outcome

/-- Operations performed one after the other lead from one state to another. -/
inductive Run (service : LinkService) : State → List Event → State → Prop where
  | nil (state : State) : Run service state [] state
  | cons {state final : State} {event : Event} {later : List Event} :
      service.perform event.now state event.operation = some event.outcome →
      Run service event.outcome.state later final → Run service state (event :: later) final

variable {service : LinkService} {now : Circumstances} {state final : State}
  {operation : Operation} {outcome : Outcome} {events later : List Event}

/-- No entry is new in a cache, but for those that have a code and a URL. -/
def NoneNewBut (before after : LinkCache) (code url : String) : Prop :=
  ∀ other entry, after.entries.lookup other = some entry →
    (other = code ∧ entry.url = url) ∨ before.entries.lookup other = some entry

/-- Resolving a code takes cached entries away at most, or caches the URL of the link stored under it. -/
theorem resolve_state_cases (now : Circumstances) (state : State) (code : String) :
    ∃ cache, (resolve now state code).state = { state with cache } ∧
      ((∀ other entry, cache.entries.lookup other = some entry →
          state.cache.entries.lookup other = some entry) ∨
        ∃ record, state.store.find? code = some record ∧
          NoneNewBut state.cache cache code
            (expand now state.directory record.url record.tenant).1) := by
  obtain ⟨cache, hstate, hold, -⟩ := cached_cases now state code
  rcases resolve_cases now state code with
    ⟨reason, -, hmalformed⟩ | ⟨url, -, -, -, hhit⟩ | ⟨-, -, hmiss⟩
  · rw [hmalformed]
    exact ⟨state.cache, rfl, Or.inl fun _ _ h => h⟩
  · rw [hhit]
    exact ⟨cache, hstate, Or.inl hold⟩
  · rw [hmiss, hstate]
    rcases resolveStored_cases now { state with cache } code with
      ⟨fault, -, hfault⟩ | ⟨-, -, hmissing⟩ | ⟨record, -, hrecord, hfound⟩
    · rw [hfault]
      exact ⟨cache, rfl, Or.inl hold⟩
    · rw [hmissing]
      exact ⟨cache, rfl, Or.inl hold⟩
    · obtain ⟨cache', hstate', hnew⟩ := remember_cases now { state with cache } code
        (expand now state.directory record.url record.tenant).1
      rw [hfound]
      refine ⟨cache', hstate', Or.inr ⟨record, hrecord, ?_⟩⟩
      intro other entry hentry
      exact (hnew other entry hentry).imp_right (hold other entry)

theorem resolveStateless_state (now : Circumstances) (state : State) (code tenant : String) :
    (service.resolveStateless now state code tenant).state = state := by
  unfold resolveStateless
  split
  · rfl
  · rfl

/-- An operation takes cached entries away at most, or stores a link and caches its URL, or caches
the URL of a stored link. -/
theorem perform_cases (h : service.perform now state operation = some outcome) :
    (∃ ids cache, outcome.state = { state with ids, cache } ∧
      ∀ other entry, cache.entries.lookup other = some entry →
        state.cache.entries.lookup other = some entry) ∨
    (∃ url tenant code ids store cache, operation = .create url tenant ∧
      outcome.answer = .ok code ∧
      state.store.insert (newRecord now state.directory code url tenant) = .ok store ∧
      outcome.state = { state with ids, store, cache } ∧
      NoneNewBut state.cache cache code url) ∨
    ∃ code record cache, operation = .resolve code ∧ state.store.find? code = some record ∧
      outcome.state = { state with cache } ∧
      NoneNewBut state.cache cache code
        (expand now state.directory record.url record.tenant).1 := by
  cases operation with
  | create url tenant =>
    obtain ⟨id, ids, -, -, h⟩ := create_cases h
    rcases h with ⟨fault, -, rfl⟩ | ⟨store, hinsert, rfl⟩
    · exact Or.inl ⟨ids, state.cache, rfl, fun _ _ h => h⟩
    · obtain ⟨cache, hstate, hnew⟩ := remember_cases now { state with ids, store }
        (service.codec.encodeId id tenant) url
      exact Or.inr (Or.inl ⟨url, tenant, service.codec.encodeId id tenant, ids, store, cache, rfl,
        rfl, insertRecord_eq_ok hinsert, hstate, hnew⟩)
  | resolve code =>
    obtain rfl := Option.some.inj h
    obtain ⟨cache, hstate, hold | ⟨record, hrecord, hnew⟩⟩ := resolve_state_cases now state code
    · exact Or.inl ⟨state.ids, cache, hstate, hold⟩
    · exact Or.inr (Or.inr ⟨code, record, cache, rfl, hrecord, hstate, hnew⟩)
  | createStateless url tenant trim =>
    obtain rfl := Option.some.inj h
    exact Or.inl ⟨state.ids, state.cache, rfl, fun _ _ h => h⟩
  | resolveStateless code tenant =>
    obtain rfl := Option.some.inj h
    exact Or.inl ⟨state.ids, state.cache, service.resolveStateless_state now state code tenant,
      fun _ _ h => h⟩
  | createSealed url =>
    obtain rfl := Option.some.inj h
    exact Or.inl ⟨state.ids, state.cache, rfl, fun _ _ h => h⟩
  | resolveSealed token =>
    obtain rfl := Option.some.inj h
    exact Or.inl ⟨state.ids, state.cache, rfl, fun _ _ h => h⟩

theorem directory_perform (h : service.perform now state operation = some outcome) :
    outcome.state.directory = state.directory := by
  rcases perform_cases h with ⟨_, _, hstate, -⟩ | ⟨_, _, _, _, _, _, -, -, -, hstate, -⟩ |
    ⟨_, _, _, -, -, hstate, -⟩
  · rw [hstate]
  · rw [hstate]
  · rw [hstate]

theorem directory_create {url tenant : String}
    (h : service.create now state url tenant = some outcome) :
    outcome.state.directory = state.directory := by
  have hperform : service.perform now state (.create url tenant) = some outcome := h
  exact directory_perform hperform

namespace Run

/-- What every event of a run keeps, the run keeps. -/
theorem preserves (Inv : State → Prop) (hrun : service.Run state events final)
    (hstep : ∀ event ∈ events, ∀ before,
      service.perform event.now before event.operation = some event.outcome →
        Inv before → Inv event.outcome.state) (h : Inv state) : Inv final := by
  induction hrun with
  | nil => exact h
  | cons hperform hlater ih =>
    rw [List.forall_mem_cons] at hstep
    exact ih hstep.2 (hstep.1 _ hperform h)

/-- A run can be cut in two. -/
theorem append_iff :
    service.Run state (events ++ later) final ↔
      ∃ middle, service.Run state events middle ∧ service.Run middle later final := by
  constructor
  · intro h
    induction events generalizing state with
    | nil => exact ⟨state, .nil state, h⟩
    | cons event rest ih =>
      cases h with
      | cons hperform hlater =>
        obtain ⟨middle, hrest, hend⟩ := ih hlater
        exact ⟨middle, .cons hperform hrest, hend⟩
  · rintro ⟨middle, hfirst, hend⟩
    induction hfirst with
    | nil => exact hend
    | cons hperform hlater ih => exact .cons hperform (ih hend)

/-- A run cut at one of its events. -/
theorem exists_of_append_cons {event : Event}
    (hrun : service.Run state (events ++ event :: later) final) :
    ∃ before, service.Run state events before ∧
      service.perform event.now before event.operation = some event.outcome ∧
      service.Run event.outcome.state later final := by
  obtain ⟨before, hevents, hrest⟩ := append_iff.mp hrun
  cases hrest with
  | cons hperform hlater => exact ⟨before, hevents, hperform, hlater⟩

theorem directory_eq (hrun : service.Run state events final) :
    final.directory = state.directory :=
  hrun.preserves (fun s => s.directory = state.directory)
    (fun _ _ _ hperform h => (directory_perform hperform).trans h) rfl

end Run

end ShortLink.LinkService
