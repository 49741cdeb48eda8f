import ShortLink.Proofs.Link.Run
import ShortLink.Proofs.Token.Id
import ShortLink.Proofs.Token.Sealed

/-!
# Cached and stored answers are the same

A link is answered from the cache, which has its whole URL, or from the store, which may have it
relative to the base of its tenant. Both give the URL that the link was issued for. No code is cached
without a record, so an entry from before a link was issued cannot answer for it; from then on the
record of the link stays as it is, and whatever is cached for its code is its URL.

## Main definitions

- `LinkService.CachedStored` — every cached code has a record
- `LinkService.Serves` — a code stands for a URL in store and cache

## Main results

- `LinkService.create_recorded`, `LinkService.perform_recorded`, `LinkService.resolve_recorded` — the
  record of a code: how it comes about, that it stays, and how it answers
- `LinkService.Run.cachedStored`, `LinkService.Run.serves` — runs keep both
- `LinkService.Serves.resolve` — how a code that stands for a URL is resolved
- `LinkService.resolve_created` — an issued link gives its URL back
-/

namespace ShortLink.LinkService

open TenantCodec (checkShortCode_encodeId)

variable {service : LinkService} {now : Circumstances} {state final : State}
  {operation : Operation} {outcome : Outcome} {events : List Event} {record : LinkRecord}
  {code url tenant : String}

/-- Every cached code has a record. -/
def CachedStored (state : State) : Prop :=
  ∀ code entry, state.cache.entries.lookup code = some entry → state.store.find? code ≠ none

/-- A code stands for a URL: its record does, and so does its entry in the cache, if there is one. -/
structure Serves (code url : String) (state : State) : Prop where
  stored : ∃ record, state.store.find? code = some record ∧
    meaning state.directory record.url record.tenant = url
  cached : ∀ entry, state.cache.entries.lookup code = some entry → entry.url = url

theorem CachedStored.of_empty (h : state.cache = {}) : CachedStored state := by
  intro code entry hentry
  rw [h] at hentry
  cases hentry

theorem find?_eq_none_of_insert {store after : LinkStore} {record : LinkRecord}
    (h : store.insert record = .ok after) : store.find? record.code = none :=
  LinkStore.exists_insert_iff.mp ⟨after, h⟩

theorem CachedStored.perform (h : CachedStored state)
    (hperform : service.perform now state operation = some outcome) :
    CachedStored outcome.state := by
  intro other entry
  rcases perform_cases hperform with ⟨ids, cache, hstate, hold⟩ |
    ⟨url, tenant, code, ids, store, cache, -, -, hinsert, hstate, hnew⟩ |
    ⟨code, record, cache, -, hrecord, hstate, hnew⟩
  · rw [hstate]
    exact fun hentry => h other entry (hold other entry hentry)
  · rw [hstate]
    intro hentry
    show store.find? other ≠ none
    rw [LinkStore.find?_insert hinsert]
    rcases hnew other entry hentry with ⟨rfl, -⟩ | hentry
    · rw [if_pos newRecord_code]
      exact Option.some_ne_none _
    · split
      · exact Option.some_ne_none _
      · exact h other entry hentry
  · rw [hstate]
    intro hentry
    show state.store.find? other ≠ none
    rcases hnew other entry hentry with ⟨rfl, -⟩ | hentry
    · rw [hrecord]
      exact Option.some_ne_none _
    · exact h other entry hentry

theorem Run.cachedStored (hrun : service.Run state events final) (h : CachedStored state) :
    CachedStored final :=
  hrun.preserves CachedStored (fun _ _ _ hperform h => h.perform hperform) h

/-- A record stays as it is, and what is newly cached for its code is what it expands to. -/
theorem perform_recorded (hrecord : state.store.find? code = some record)
    (hperform : service.perform now state operation = some outcome) :
    outcome.state.store.find? code = some record ∧
      ∀ entry, outcome.state.cache.entries.lookup code = some entry →
        (operation = .resolve code ∧
          entry.url = (expand now state.directory record.url record.tenant).1) ∨
        state.cache.entries.lookup code = some entry := by
  rcases perform_cases hperform with ⟨ids, cache, hstate, hold⟩ |
    ⟨url', tenant, code', ids, store, cache, -, -, hinsert, hstate, hnew⟩ |
    ⟨code', record', cache, hresolve, hrecord', hstate, hnew⟩
  · rw [hstate]
    exact ⟨hrecord, fun entry hentry => Or.inr (hold code entry hentry)⟩
  · -- A link that is issued has another code: under this one the store would refuse it.
    have hother : code' ≠ code := by
      rintro rfl
      have hfree := find?_eq_none_of_insert hinsert
      rw [newRecord_code, hrecord] at hfree
      cases hfree
    rw [hstate]
    constructor
    · show store.find? code = some record
      rw [LinkStore.find?_insert hinsert, newRecord_code, if_neg hother]
      exact hrecord
    · intro entry hentry
      rcases hnew code entry hentry with ⟨hcode, -⟩ | hentry
      · exact absurd hcode.symm hother
      · exact Or.inr hentry
  · rw [hstate]
    refine ⟨hrecord, ?_⟩
    intro entry hentry
    rcases hnew code entry hentry with ⟨rfl, hurl⟩ | hentry
    · rw [hrecord', Option.some.injEq] at hrecord
      rw [hrecord] at hurl
      exact Or.inl ⟨hresolve, hurl⟩
    · exact Or.inr hentry

/-- A link that was issued has its record, and only its URL is cached for its code. -/
theorem create_recorded (h : CachedStored state)
    (hcreate : service.create now state url tenant = some outcome)
    (hissued : outcome.answer = .ok code) :
    Radix62.checkShortCode code = .ok () ∧
      outcome.state.store.find? code = some (newRecord now state.directory code url tenant) ∧
      ∀ entry, outcome.state.cache.entries.lookup code = some entry → entry.url = url := by
  obtain ⟨id, ids, later, -, hcases⟩ := create_cases hcreate
  rcases hcases with ⟨fault, -, rfl⟩ | ⟨store, hinsert, rfl⟩
  · cases hissued
  · obtain rfl := Except.ok.inj hissued
    have hinsert := insertRecord_eq_ok hinsert
    obtain ⟨cache, hstate, hnew⟩ := remember_cases now { state with ids, store }
      (service.codec.encodeId id tenant) url
    dsimp only
    rw [hstate]
    refine ⟨checkShortCode_encodeId service.codec id tenant, ?_, ?_⟩
    · show store.find? (service.codec.encodeId id tenant) = _
      rw [LinkStore.find?_insert hinsert, if_pos newRecord_code]
    · intro entry hentry
      rcases hnew _ entry hentry with ⟨-, hurl⟩ | hentry
      · exact hurl
      · -- There is no entry from before, for the store had no such code.
        exact absurd (find?_eq_none_of_insert hinsert) (h _ entry hentry)

/-- A code that has a record is answered from the cache or from the record, unless the store fails. -/
theorem resolve_recorded (now : Circumstances) (hrecord : state.store.find? code = some record)
    (hcode : Radix62.checkShortCode code = .ok ()) :
    (∃ entry, state.cache.entries.lookup code = some entry ∧ Link.isAbsolute entry.url = true ∧
      (resolve now state code).answer = .ok entry.url) ∨
    (∃ fault, now.outage .storeFind = some fault ∧
      Call.storeFind code ∈ (resolve now state code).calls ∧
      (resolve now state code).answer = .error fault) ∨
    (resolve now state code).answer
      = .ok (expand now state.directory record.url record.tenant).1 := by
  obtain ⟨cache, hstate, -, hhit⟩ := cached_cases now state code
  rcases resolve_cases now state code with ⟨reason, hmalformed, -⟩ |
    ⟨url, -, hurl, habsolute, heq⟩ | ⟨-, -, heq⟩
  · rw [hcode] at hmalformed
    cases hmalformed
  · obtain ⟨entry, hentry, rfl⟩ := hhit url hurl
    exact Or.inl ⟨entry, hentry, habsolute, by rw [heq]⟩
  · rw [hstate] at heq
    rw [heq]
    rcases resolveStored_cases now { state with cache } code with
      ⟨fault, hfault, hstored⟩ | ⟨-, hmissing, -⟩ | ⟨record', -, hrecord', hstored⟩
    · exact Or.inr (Or.inl ⟨fault, hfault, by simp [hstored], by rw [hstored]⟩)
    · rw [show state.store.find? code = none from hmissing] at hrecord
      cases hrecord
    · rw [show state.store.find? code = some record' from hrecord', Option.some.injEq] at hrecord
      exact Or.inr (Or.inr (by rw [hstored, hrecord]))

/-- Whatever is done next, a code goes on to stand for its URL, unless it is resolved while the
directory does not answer. -/
theorem Serves.perform (h : Serves code url state)
    (hperform : service.perform now state operation = some outcome)
    (hdirectory : ∀ code, operation = .resolve code → now.outage .tenantsGet = none) :
    Serves code url outcome.state := by
  obtain ⟨⟨record, hrecord, hmeaning⟩, hcached⟩ := h
  obtain ⟨hrecord', hnew⟩ := perform_recorded hrecord hperform
  refine ⟨⟨record, hrecord', ?_⟩, ?_⟩
  · rw [directory_perform hperform, hmeaning]
  · intro entry hentry
    rcases hnew entry hentry with ⟨hresolve, hurl⟩ | hentry
    · -- What is cached for the code is what its record stands for.
      rw [hurl, expand_eq_meaning (hdirectory code hresolve), hmeaning]
    · exact hcached entry hentry

theorem Run.serves (hrun : service.Run state events final) (h : Serves code url state)
    (hdirectory : ∀ event ∈ events, ∀ code, event.operation = .resolve code →
      event.now.outage .tenantsGet = none) : Serves code url final :=
  hrun.preserves (Serves code url)
    (fun event hevent _ hperform h => h.perform hperform (hdirectory event hevent)) h

/-- A code that was issued for a faithful URL stands for it. -/
theorem Serves.create (h : CachedStored state) (hfaithful : Faithful state.directory url tenant)
    (hcreate : service.create now state url tenant = some outcome)
    (hissued : outcome.answer = .ok code) : Serves code url outcome.state := by
  obtain ⟨-, hrecord, hcached⟩ := create_recorded h hcreate hissued
  refine ⟨⟨_, hrecord, ?_⟩, hcached⟩
  rw [newRecord_url, newRecord_tenant, directory_create hcreate]
  exact meaning_shrink hfaithful

/-- A well-formed code that stands for a URL gives it, unless the store has to be asked and fails. -/
theorem Serves.resolve (h : Serves code url state)
    (hcode : Radix62.checkShortCode code = .ok ()) (hdirectory : now.outage .tenantsGet = none)
    (hstore : Call.storeFind code ∈ (resolve now state code).calls →
      now.outage .storeFind = none) : (resolve now state code).answer = .ok url := by
  obtain ⟨⟨record, hrecord, hmeaning⟩, hcached⟩ := h
  rcases resolve_recorded now hrecord hcode with
    ⟨entry, hentry, -, hanswer⟩ | ⟨fault, hfault, hcall, -⟩ | hanswer
  · rw [hanswer, hcached entry hentry]
  · -- The store was asked, so it did not fail.
    rw [hstore hcall] at hfault
    cases hfault
  · rw [hanswer, expand_eq_meaning hdirectory, hmeaning]

/-- A link that was issued for a faithful URL gives the URL back whenever it is resolved later in the
run, from the cache or from the store. The run begins with an empty cache and any generator, store
and directory. Any call may fail, but for the directory while a code is resolved, and the store while
it has to find the link; and the clocks decide which entries have expired. -/
theorem resolve_created {start : State} (hcache : start.cache = {})
    {before between after : List Event} {created resolved : Event}
    (hrun : service.Run start (before ++ created :: (between ++ resolved :: after)) final)
    (hdirectory : ∀ event ∈ before ++ created :: (between ++ resolved :: after), ∀ code,
      event.operation = .resolve code → event.now.outage .tenantsGet = none)
    (hcreate : created.operation = .create url tenant) (hissued : created.outcome.answer = .ok code)
    (hfaithful : Faithful start.directory url tenant)
    (hresolve : resolved.operation = .resolve code)
    (hfound : Call.storeFind code ∈ resolved.outcome.calls →
      resolved.now.outage .storeFind = none) :
    resolved.outcome.answer = .ok url := by
  obtain ⟨state, hbefore, hperform, hrun⟩ := hrun.exists_of_append_cons
  obtain ⟨later, hbetween, hanswer, -⟩ := hrun.exists_of_append_cons
  rw [hcreate] at hperform
  rw [hresolve] at hanswer
  have hstored : CachedStored state := hbefore.cachedStored (.of_empty hcache)
  rw [← hbefore.directory_eq] at hfaithful
  have hcreated := Serves.create hstored hfaithful hperform hissued
  have hserves := hbetween.serves hcreated fun event hevent =>
    hdirectory event (by simp [hevent])
  have hcode := (create_recorded hstored hperform hissued).1
  obtain heq : resolve resolved.now later code = resolved.outcome := Option.some.inj hanswer
  rw [← heq] at hfound ⊢
  exact hserves.resolve hcode (hdirectory resolved (by simp) code hresolve) hfound

/-- A link under the base of its tenant, resolved an hour after its entry in the cache has expired: the
store answers, and the base comes back in front. -/
theorem resolve_created_expired :
    let service := LinkService.ofSettings TokenSealer.sample
    let directory := TenantDirectory.put {} ⟨"acme", "Acme", "https://acme.test/app/", true⟩
    let start : State := { ids := ⟨⟨5, by decide⟩, 0⟩, directory }
    let url := "https://acme.test/app/reports/q3?format=pdf"
    let now : Circumstances := { readings := [TimedId.epoch + 1000] }
    let later : Circumstances := { cacheReadAt := 25 * 60 * 60 * Instant.second }
    ∃ issued, service.create now start url "acme" = some issued ∧
      issued.answer = .ok "e6TvDk6xzzL" ∧
      .storeFind "e6TvDk6xzzL" ∈ (resolve later issued.state "e6TvDk6xzzL").calls ∧
      (resolve later issued.state "e6TvDk6xzzL").answer = .ok url := by
  intro service directory start url now later
  have hsome : (service.create now start url "acme").isSome := by decide +kernel
  obtain ⟨issued, hissued⟩ := Option.isSome_iff_exists.mp hsome
  have hanswer : issued.answer = .ok "e6TvDk6xzzL" := by
    have hmap : (service.create now start url "acme").map (·.answer) = some (.ok "e6TvDk6xzzL") := by
      decide +kernel
    rw [hissued] at hmap
    exact Option.some.inj hmap
  have hcalls : .storeFind "e6TvDk6xzzL" ∈ (resolve later issued.state "e6TvDk6xzzL").calls := by
    have hmap : ∀ outcome ∈ service.create now start url "acme",
        .storeFind "e6TvDk6xzzL" ∈ (resolve later outcome.state "e6TvDk6xzzL").calls := by
      decide +kernel
    exact hmap issued hissued
  let created : Event := ⟨now, .create url "acme", issued⟩
  let resolved : Event := ⟨later, .resolve "e6TvDk6xzzL", resolve later issued.state "e6TvDk6xzzL"⟩
  have hrun : service.Run start ([] ++ created :: ([] ++ resolved :: []))
      resolved.outcome.state :=
    .cons hissued (.cons rfl (.nil _))
  have hfaithful : Faithful start.directory url "acme" := by
    right
    refine ⟨by decide +kernel, ?_⟩
    intro found relative hfound hrelative
    obtain rfl := Option.some.inj hfound
    have hrejoin : ∀ relative ∈ Link.relativeTo? url "https://acme.test/app/",
        Link.rejoin "https://acme.test/app/" relative = url := by
      decide +kernel
    exact hrejoin relative hrelative
  refine ⟨issued, hissued, hanswer, hcalls, ?_⟩
  refine resolve_created rfl hrun ?_ rfl hanswer hfaithful rfl fun _ => rfl
  intro event hevent code _
  simp only [List.nil_append, List.mem_cons, List.not_mem_nil, or_false] at hevent
  rcases hevent with rfl | rfl
  · rfl
  · rfl

end ShortLink.LinkService
