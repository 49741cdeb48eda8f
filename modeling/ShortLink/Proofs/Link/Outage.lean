import ShortLink.Proofs.Link.Transparency

/-!
# Links while calls fail

Whatever calls fail, the record of a link stays, and no URL is cached for it that it does not stand
for: what a relative record comes to while the directory fails is relative itself, and the cache has
no say with that. So a link leads to its URL, or to nowhere while the store fails. There is one
exception: a record that is relative comes out as it is while the directory fails.

## Main definitions

- `LinkService.Recorded` — a code has a record, and the cache goes along with it

## Main results

- `LinkService.expand_cases` — what a kept text expands to when the directory may fail
- `LinkService.Recorded.perform` — operations keep a code recorded
- `LinkService.Run.answer_cases` — how an issued code is answered later
- `LinkService.resolve_despite_outages` — an absolute URL comes back, but for the exception
- `LinkService.resolve_relative_of_outage` — the exception is met
-/

namespace ShortLink.LinkService

/-- A code has a record, and a cached URL of the code that counts is what the record stands for. -/
structure Recorded (code : String) (record : LinkRecord) (state : State) : Prop where
  stored : state.store.find? code = some record
  cached : ∀ entry, state.cache.entries.lookup code = some entry →
    Link.isAbsolute entry.url = true →
      entry.url = meaning state.directory record.url record.tenant

variable {service : LinkService} {now : Circumstances} {state final : State}
  {operation : Operation} {outcome : Outcome} {events : List Event} {record : LinkRecord}
  {code url tenant : String}

/-- A kept text expands to what it stands for, or is left as it is while the directory fails. -/
theorem expand_cases (now : Circumstances) (directory : TenantDirectory) (kept tenant : String) :
    (expand now directory kept tenant).1 = meaning directory kept tenant ∨
      (∃ fault, now.outage .tenantsGet = some fault) ∧ Link.isAbsolute kept = false ∧
        (expand now directory kept tenant).1 = kept := by
  cases houtage : now.outage .tenantsGet with
  | none => exact Or.inl (expand_eq_meaning houtage)
  | some fault =>
    cases habsolute : Link.isAbsolute kept with
    | true => exact Or.inl (by rw [expand_of_isAbsolute habsolute, meaning_of_isAbsolute habsolute])
    | false =>
      rcases base?_cases now directory tenant with hnone | hsame
      · refine Or.inr ⟨⟨fault, rfl⟩, rfl, ?_⟩
        rw [expand_of_relative habsolute, hnone, Option.map_none, Option.getD_none]
      · left
        rw [meaning, expand_of_relative habsolute, expand_of_relative habsolute, hsame, baseOf?]

namespace Recorded

theorem perform (h : Recorded code record state)
    (hperform : service.perform now state operation = some outcome) :
    Recorded code record outcome.state := by
  obtain ⟨hrecord, hnew⟩ := perform_recorded h.stored hperform
  refine ⟨hrecord, ?_⟩
  intro entry hentry habsolute
  -- The directory is the same, so the record stands for the same URL as before.
  rw [directory_perform hperform]
  rcases hnew entry hentry with ⟨-, hurl⟩ | hentry
  · rcases expand_cases now state.directory record.url record.tenant with
      hmeaning | ⟨-, hrelative, hkept⟩
    · rw [hurl, hmeaning]
    · -- The text is left relative, and the cache has no say with it.
      rw [hurl, hkept, hrelative] at habsolute
      cases habsolute
  · exact h.cached entry hentry habsolute

theorem create (h : CachedStored state)
    (hmeaning : Link.isAbsolute url = true →
      meaning state.directory (shrink now state.directory url tenant).1 tenant = url)
    (hcreate : service.create now state url tenant = some outcome)
    (hissued : outcome.answer = .ok code) :
    Recorded code (newRecord now state.directory code url tenant) outcome.state := by
  obtain ⟨-, hrecord, hcached⟩ := create_recorded h hcreate hissued
  refine ⟨hrecord, ?_⟩
  intro entry hentry habsolute
  rw [hcached entry hentry] at habsolute ⊢
  rw [directory_create hcreate, newRecord_url, newRecord_tenant, hmeaning habsolute]

theorem resolve (h : Recorded code record state) (now : Circumstances)
    (hcode : Radix62.checkShortCode code = .ok ()) :
    (resolve now state code).answer = .ok (meaning state.directory record.url record.tenant) ∨
    (∃ fault, now.outage .storeFind = some fault ∧
      (resolve now state code).answer = .error fault) ∨
    (∃ fault, now.outage .tenantsGet = some fault) ∧ Link.isAbsolute record.url = false ∧
      (resolve now state code).answer = .ok record.url := by
  rcases resolve_recorded now h.stored hcode with
    ⟨entry, hentry, habsolute, hanswer⟩ | ⟨fault, hfault, -, hanswer⟩ | hanswer
  · exact Or.inl (by rw [hanswer, h.cached entry hentry habsolute])
  · exact Or.inr (Or.inl ⟨fault, hfault, hanswer⟩)
  · rcases expand_cases now state.directory record.url record.tenant with
      hmeaning | ⟨houtage, hrelative, hkept⟩
    · exact Or.inl (by rw [hanswer, hmeaning])
    · exact Or.inr (Or.inr ⟨houtage, hrelative, by rw [hanswer, hkept]⟩)

end Recorded

/-- How the code of a link is answered later in the run: with what its record stands for, or with the
fault of the store, or with the text of the record while the directory fails. -/
theorem Run.answer_cases {start : State} (hcache : start.cache = {})
    {before between after : List Event} {created resolved : Event}
    (hrun : service.Run start (before ++ created :: (between ++ resolved :: after)) final)
    (hcreate : created.operation = .create url tenant) (hissued : created.outcome.answer = .ok code)
    (hresolve : resolved.operation = .resolve code)
    (hmeaning : Link.isAbsolute url = true → meaning start.directory
      (shrink created.now start.directory url tenant).1 tenant = url) :
    let kept := (shrink created.now start.directory url tenant).1
    resolved.outcome.answer = .ok (meaning start.directory kept tenant) ∨
    (∃ fault, resolved.now.outage .storeFind = some fault ∧
      resolved.outcome.answer = .error fault) ∨
    (∃ fault, resolved.now.outage .tenantsGet = some fault) ∧ Link.isAbsolute kept = false ∧
      resolved.outcome.answer = .ok kept := by
  obtain ⟨state, hbefore, hperform, hrun⟩ := hrun.exists_of_append_cons
  obtain ⟨later, hbetween, hanswer, -⟩ := hrun.exists_of_append_cons
  rw [hcreate] at hperform
  rw [hresolve] at hanswer
  rw [← hbefore.directory_eq] at hmeaning ⊢
  have hstored : CachedStored state := hbefore.cachedStored (.of_empty hcache)
  have hcode := (create_recorded hstored hperform hissued).1
  have hcreated := Recorded.create hstored hmeaning hperform hissued
  have hlater := hbetween.preserves (Recorded code _)
    (fun _ _ _ hperform h => h.perform hperform) hcreated
  have hdirectory : later.directory = state.directory := by
    rw [hbetween.directory_eq, directory_create hperform]
  obtain heq : LinkService.resolve resolved.now later code = resolved.outcome :=
    Option.some.inj hanswer
  have hcases := hlater.resolve resolved.now hcode
  rwa [heq, hdirectory] at hcases

/-- A link that was issued for an absolute URL which comes back from the way in which it is kept gives
the URL, or the fault of the store, whatever calls fail and whenever they do. Only when the directory
fails while the code is resolved, a URL that was shortened may come out short. The run begins with an
empty cache and any generator, store and directory. -/
theorem resolve_despite_outages {start : State} (hcache : start.cache = {})
    {before between after : List Event} {created resolved : Event}
    (hrun : service.Run start (before ++ created :: (between ++ resolved :: after)) final)
    (hcreate : created.operation = .create url tenant) (hissued : created.outcome.answer = .ok code)
    (habsolute : Link.isAbsolute url = true) (hfaithful : Faithful start.directory url tenant)
    (hresolve : resolved.operation = .resolve code) :
    resolved.outcome.answer = .ok url ∨
    (∃ fault, resolved.now.outage .storeFind = some fault ∧
      resolved.outcome.answer = .error fault) ∨
    ∃ fault base relative, resolved.now.outage .tenantsGet = some fault ∧
      baseOf? start.directory tenant = some base ∧ Link.relativeTo? url base = some relative ∧
      resolved.outcome.answer = .ok relative := by
  have hmeaning : meaning start.directory (shrink created.now start.directory url tenant).1 tenant
      = url := meaning_shrink hfaithful
  rcases hrun.answer_cases hcache hcreate hissued hresolve (fun _ => hmeaning) with
    hanswer | hfault | ⟨⟨fault, houtage⟩, hrelative, hanswer⟩
  · exact Or.inl (by rw [hanswer, hmeaning])
  · exact Or.inr (Or.inl hfault)
  · rcases shrink_cases created.now start.directory url tenant with
      hkept | ⟨base, relative, hbase, hshort, hkept⟩
    · -- A URL that is kept as it is does not need the directory.
      rw [hkept, habsolute] at hrelative
      cases hrelative
    · rw [hkept] at hanswer
      exact Or.inr (Or.inr ⟨fault, base, relative, houtage, hbase, hshort, hanswer⟩)

/-- A tenant with a base, and a generator that has issued nothing. -/
def acmeState : State where
  ids := ⟨⟨5, by decide⟩, 0⟩
  directory := .put {} ⟨"acme", "Acme", "https://acme.test/app/", true⟩

/-- What can be issued can be issued and then resolved. -/
theorem exists_run {start : State} (later : Circumstances)
    (hissued : (service.create now start url tenant).map (·.answer) = some (.ok code)) :
    ∃ (created resolved : Event) (final : State),
      service.Run start ([] ++ created :: ([] ++ resolved :: [])) final ∧
      created.now = now ∧ created.operation = .create url tenant ∧
      created.outcome.answer = .ok code ∧ resolved.now = later ∧
      resolved.operation = .resolve code := by
  obtain ⟨issued, hcreate, hanswer⟩ := Option.map_eq_some_iff.mp hissued
  let created : Event := ⟨now, .create url tenant, issued⟩
  let resolved : Event := ⟨later, .resolve code, resolve later issued.state code⟩
  exact ⟨created, resolved, resolved.outcome.state, .cons hcreate (.cons rfl (.nil _)), rfl, rfl,
    hanswer, rfl, rfl⟩

theorem create_page :
    ((ofSettings TokenSealer.sample).create { readings := [TimedId.epoch + 1000] } acmeState
      "https://acme.test/app/docs" "acme").map (·.answer) = some (.ok "e6TvDk6xzzL") := by
  decide +kernel

theorem faithful_page : Faithful acmeState.directory "https://acme.test/app/docs" "acme" := by
  right
  refine ⟨by decide +kernel, ?_⟩
  intro found relative hfound hrelative
  obtain rfl := Option.some.inj hfound
  have hrejoin : ∀ relative ∈ Link.relativeTo? "https://acme.test/app/docs" "https://acme.test/app/",
      Link.rejoin "https://acme.test/app/" relative = "https://acme.test/app/docs" := by
    decide +kernel
  exact hrejoin relative hrelative

/-- With the cache down, the page is found all the same. -/
theorem resolve_despite_outages_page :
    ∃ (created resolved : Event) (final : State),
      (ofSettings TokenSealer.sample).Run acmeState ([] ++ created :: ([] ++ resolved :: [])) final ∧
      created.outcome.answer = .ok "e6TvDk6xzzL" ∧ resolved.operation = .resolve "e6TvDk6xzzL" ∧
      resolved.now.outage .cacheGet ≠ none ∧
      resolved.outcome.answer = .ok "https://acme.test/app/docs" := by
  let uncached : Circumstances := {
    outage := fun kind => if kind = .cacheGet then some (.store "cache.get down") else none }
  obtain ⟨created, resolved, final, hrun, -, hcreate, hissued, hnow, hresolve⟩ :=
    exists_run uncached create_page
  refine ⟨created, resolved, final, hrun, hissued, hresolve, by simp [hnow, uncached], ?_⟩
  rcases resolve_despite_outages rfl hrun hcreate hissued (by decide +kernel) faithful_page
    hresolve with hanswer | ⟨fault, hfault, -⟩ | ⟨fault, base, relative, hfault, -⟩
  · exact hanswer
  · simp [hnow, uncached] at hfault
  · simp [hnow, uncached] at hfault

/-- With the cache and the directory down, the page comes out without its base. -/
theorem resolve_relative_of_outage :
    ¬∀ (service : LinkService) (start final : State) (url tenant code : String)
      (before between after : List Event) (created resolved : Event),
      start.store = {} → start.cache = {} →
      service.Run start (before ++ created :: (between ++ resolved :: after)) final →
      created.operation = .create url tenant → created.outcome.answer = .ok code →
      Link.isAbsolute url = true → Faithful start.directory url tenant →
      resolved.operation = .resolve code →
      resolved.outcome.answer = .ok url ∨ ∃ fault, resolved.outcome.answer = .error fault := by
  intro h
  let alone : Circumstances := {
    outage := fun kind =>
      if kind = .cacheGet then some (.store "cache.get down")
      else if kind = .tenantsGet then some (.store "tenants.get down") else none }
  have hmisled : ∀ issued ∈ (ofSettings TokenSealer.sample).create
      { readings := [TimedId.epoch + 1000] } acmeState "https://acme.test/app/docs" "acme",
      (resolve alone issued.state "e6TvDk6xzzL").answer = .ok "/docs" := by
    decide +kernel
  obtain ⟨created, resolved, final, hrun, hnow, hcreate, hissued, hlater, hresolve⟩ :=
    exists_run alone create_page
  have hanswer := h _ _ _ _ _ _ _ _ _ _ _ rfl rfl hrun hcreate hissued (by decide +kernel)
    faithful_page hresolve
  cases hrun with
  | cons hperform hrun =>
    cases hrun with
    | cons hperform' =>
      rw [hcreate, hnow] at hperform
      rw [hresolve, hlater] at hperform'
      obtain heq := Option.some.inj hperform'
      rw [← heq, hmisled created.outcome hperform] at hanswer
      rcases hanswer with hanswer | ⟨fault, hanswer⟩
      · exact absurd hanswer (by decide)
      · cases hanswer

end ShortLink.LinkService
