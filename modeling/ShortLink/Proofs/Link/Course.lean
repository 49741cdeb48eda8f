import ShortLink.Proofs.Link.Transparency

/-!
# Store and cache hold what was issued

A course is a list of operations, each performed in the state that the one before it left behind,
except that tenants may have been put into the directory in between. Whatever calls fail, the store
holds one record for each link that was issued, as it was issued, and the cache knows no other codes.

## Main definitions

- `LinkService.Step`, `LinkService.Course` — operations performed while the directory changes
- `LinkService.Step.record?` — the record of a link that was issued
- `LinkService.Step.Framed` — what an operation leaves alone
- `LinkService.Holds` — store and cache agree with the links that were issued

## Main results

- `LinkService.Step.framed_and_records_eq` — what an operation leaves alone, and adds to the store
- `LinkService.Course.records_eq`, `LinkService.Course.cachedStored` — what a course does to both
- `LinkService.holds_after_every_step` — all of it together, for courses that begin with nothing stored
-/

namespace ShortLink.LinkService

/-- An operation that was performed, with the state that it found. -/
structure Step extends Event where
  before : State

/-- Operations performed one after the other, while the directory may change from outside. -/
inductive Course (service : LinkService) : State → List Step → State → Prop where
  | nil (state : State) : Course service state [] state
  | cons {state final : State} {step : Step} {later : List Step} :
      step.before = { state with directory := step.before.directory } →
      service.perform step.now step.before step.operation = some step.outcome →
      Course service step.outcome.state later final → Course service state (step :: later) final

/-- The record of a link that was issued. -/
def Step.record? (step : Step) : Option LinkRecord :=
  match step.operation, step.outcome.answer with
  | .create url tenant, .ok code =>
    some (newRecord step.now step.before.directory code url tenant)
  | _, _ => none

/-- An operation changes no more than it is for: a link that is refused uses up an id, a code that is
resolved may change the cache, and stateless and sealed links change nothing. -/
def Step.Framed (step : Step) : Prop :=
  match step.operation, step.outcome.answer with
  | .create _ _, .ok _ =>
    ∃ ids store cache, step.outcome.state = { step.before with ids, store, cache }
  | .create _ _, .error _ => ∃ ids, step.outcome.state = { step.before with ids }
  | .resolve _, _ => ∃ cache, step.outcome.state = { step.before with cache }
  | _, _ => step.outcome.state = step.before

/-- The store holds the records of the links that were issued, and the cache no other codes. -/
structure Holds (steps : List Step) (state : State) : Prop where
  records : state.store.records = (steps.filterMap Step.record?).reverse
  cached : CachedStored state

variable {service : LinkService} {start state final : State} {step : Step}
  {earlier later steps : List Step}

theorem records_insert {store after : LinkStore} {record : LinkRecord}
    (h : store.insert record = .ok after) : after.records = record :: store.records := by
  unfold LinkStore.insert at h
  split at h
  · cases h
  · cases h
    rfl

namespace Step

/-- What an operation does: a link is issued and its record stored, or the store stays as it is. -/
theorem framed_and_records_eq
    (h : service.perform step.now step.before step.operation = some step.outcome) :
    step.Framed ∧
      step.outcome.state.store.records = step.record?.toList ++ step.before.store.records := by
  obtain ⟨⟨now, operation, outcome⟩, before⟩ := step
  unfold Framed record?
  dsimp only at h ⊢
  cases operation with
  | create url tenant =>
    obtain ⟨id, ids, -, -, hcases⟩ := create_cases h
    rcases hcases with ⟨fault, -, rfl⟩ | ⟨store, hinsert, rfl⟩
    · exact ⟨⟨ids, rfl⟩, rfl⟩
    · have hrecords := records_insert (insertRecord_eq_ok hinsert)
      obtain ⟨cache, hstate, -⟩ := remember_cases now { before with ids, store }
        (service.codec.encodeId id tenant) url
      dsimp only
      rw [hstate]
      exact ⟨⟨ids, store, cache, rfl⟩, hrecords⟩
  | resolve code =>
    obtain rfl := Option.some.inj h
    obtain ⟨cache, hstate, -⟩ := resolve_state_cases now before code
    dsimp only
    rw [hstate]
    exact ⟨⟨cache, rfl⟩, rfl⟩
  | createStateless url tenant trim =>
    obtain rfl := Option.some.inj h
    exact ⟨rfl, rfl⟩
  | resolveStateless code tenant =>
    obtain rfl := Option.some.inj h
    dsimp only
    rw [resolveStateless_state]
    exact ⟨rfl, rfl⟩
  | createSealed url =>
    obtain rfl := Option.some.inj h
    exact ⟨rfl, rfl⟩
  | resolveSealed token =>
    obtain rfl := Option.some.inj h
    exact ⟨rfl, rfl⟩

end Step

namespace Course

theorem records_eq (h : service.Course start steps final) :
    final.store.records = (steps.filterMap Step.record?).reverse ++ start.store.records := by
  induction h with
  | nil => rfl
  | @cons state final step later hbefore hperform hlater ih =>
    have hstore : step.before.store = state.store := by rw [hbefore]
    rw [ih, (Step.framed_and_records_eq hperform).2, hstore]
    cases hrecord : step.record? with
    | none => simp [hrecord]
    | some record => simp [hrecord]

theorem cachedStored (h : service.Course start steps final) (hstart : CachedStored start) :
    CachedStored final := by
  induction h with
  | nil => exact hstart
  | cons hbefore hperform hlater ih =>
    refine ih (CachedStored.perform ?_ hperform)
    rw [hbefore]
    exact hstart

theorem framed (h : service.Course start steps final) : ∀ step ∈ steps, step.Framed := by
  induction h with
  | nil => simp
  | cons hbefore hperform hlater ih =>
    exact List.forall_mem_cons.mpr ⟨(Step.framed_and_records_eq hperform).1, ih⟩

/-- A course can be cut in two. -/
theorem exists_of_append (h : service.Course start (earlier ++ later) final) :
    ∃ middle, service.Course start earlier middle ∧ service.Course middle later final := by
  induction earlier generalizing start with
  | nil => exact ⟨start, .nil start, h⟩
  | cons step rest ih =>
    cases h with
    | cons hbefore hperform hlater =>
      obtain ⟨middle, hrest, hend⟩ := ih hlater
      exact ⟨middle, .cons hbefore hperform hrest, hend⟩

theorem holds (h : service.Course start steps final) (hstore : start.store = {})
    (hcache : start.cache = {}) : Holds steps final where
  records := by rw [h.records_eq, hstore, List.append_nil]
  cached := h.cachedStored (.of_empty hcache)

end Course

/-- With nothing stored and nothing cached at first, after every step the store holds one record for
each link that was issued up to there, under its code and as it was issued, and the cache knows no
other codes. What comes later only adds to the store, and no operation changes more than it is for.
Any call may fail at any step, and the directory may change between two steps. -/
theorem holds_after_every_step (hstore : start.store = {}) (hcache : start.cache = {})
    (hcourse : service.Course start steps final) :
    (∀ earlier later, steps = earlier ++ later → ∃ state, service.Course start earlier state ∧
      Holds earlier state ∧ service.Course state later final ∧
      final.store.records = (later.filterMap Step.record?).reverse ++ state.store.records) ∧
    ∀ step ∈ steps, step.Framed := by
  refine ⟨?_, hcourse.framed⟩
  rintro earlier later rfl
  obtain ⟨state, hearlier, hlater⟩ := hcourse.exists_of_append
  exact ⟨state, hearlier, hearlier.holds hstore hcache, hlater, hlater.records_eq⟩

/-- A link is refused by a store that is down, the same link is issued when the store is up again, and
then it is resolved while the cache is down: one record is stored, that of the second attempt. -/
theorem holds_after_every_step_outages :
    let service := LinkService.ofSettings TokenSealer.sample
    let start : State := { ids := ⟨⟨5, by decide⟩, 0⟩ }
    let url := "https://example.com/a"
    ∃ (refused issued resolved : Step) (final : State),
      service.Course start [refused, issued, resolved] final ∧
      refused.outcome.answer = .error (.store "store.insert down") ∧
      issued.outcome.answer = .ok "5AxghdOKIrB" ∧ resolved.outcome.answer = .ok url ∧
      final.store.records = [⟨"5AxghdOKIrB", url, "", 1700000000⟩] := by
  intro service start url
  let down : Circumstances := {
    outage := fun kind => if kind = .storeInsert then some (.store "store.insert down") else none
    readings := [TimedId.epoch + 1000] }
  let now : Circumstances := { readings := [TimedId.epoch + 1000], writtenAt := 1700000000 }
  let uncached : Circumstances := {
    outage := fun kind => if kind = .cacheGet then some (.store "cache.get down") else none }
  have hsome : (service.create down start url "").isSome := by decide +kernel
  have hanswers : ∀ first ∈ service.create down start url "",
      first.answer = .error (.store "store.insert down") ∧
      (service.create now first.state url "").isSome ∧
      ∀ second ∈ service.create now first.state url "", second.answer = .ok "5AxghdOKIrB" ∧
        (resolve uncached second.state "5AxghdOKIrB").answer = .ok url := by
    decide +kernel
  obtain ⟨first, hfirst⟩ := Option.isSome_iff_exists.mp hsome
  obtain ⟨hrefused, hsome, hanswers⟩ := hanswers first hfirst
  obtain ⟨second, hsecond⟩ := Option.isSome_iff_exists.mp hsome
  obtain ⟨hissued, hresolved⟩ := hanswers second hsecond
  let refused : Step := ⟨⟨down, .create url "", first⟩, start⟩
  let issued : Step := ⟨⟨now, .create url "", second⟩, first.state⟩
  let resolved : Step := ⟨⟨uncached, .resolve "5AxghdOKIrB",
    resolve uncached second.state "5AxghdOKIrB"⟩, second.state⟩
  have hcourse : service.Course start [refused, issued, resolved] resolved.outcome.state :=
    .cons rfl hfirst (.cons rfl hsecond (.cons rfl rfl (.nil _)))
  refine ⟨refused, issued, resolved, resolved.outcome.state, hcourse, hrefused, hissued, hresolved,
    ?_⟩
  have hafter := (holds_after_every_step rfl rfl hcourse).1 _ [] (List.append_nil _).symm
  obtain ⟨state, -, hholds, hend, -⟩ := hafter
  cases hend
  rw [hholds.records]
  have hrefused : refused.record? = none := by simp [refused, Step.record?, hrefused]
  have hissued : issued.record? = some ⟨"5AxghdOKIrB", url, "", 1700000000⟩ := by
    simp [issued, Step.record?, hissued, newRecord, shrink, base?, now]
  have hresolved : resolved.record? = none := rfl
  simp [hrefused, hissued, hresolved]

end ShortLink.LinkService
