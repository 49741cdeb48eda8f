import ShortLink.Link.Service
import ShortLink.Proofs.Link.Relative

/-!
# What an operation of the service does

Each operation is taken apart once: which answers it can give, and what it leaves behind. Looking a
code up in the cache can only take entries away, and putting a URL into the cache changes the entry
of its own code only. A text that is kept for a tenant means a URL, the one that it expands to when
the directory answers.

## Main definitions

- `LinkService.baseOf?` — the base of a tenant in the directory
- `LinkService.meaning` — the URL that a kept text stands for
- `LinkService.Faithful` — URLs that come back from the way in which they are kept

## Main results

- `LinkService.meaning_shrink` — what is kept of a faithful URL stands for it
- `LinkService.create_cases` — what issuing a code does
- `LinkService.resolve_cases`, `LinkService.resolveStored_cases` — what resolving a code does
-/

namespace ShortLink.LinkService

variable {now : Circumstances} {directory : TenantDirectory} {state : State}
  {code other url kept tenant : String}

/-! ### Kept texts -/

/-- The base of a tenant in the directory, when it is asked and answers. -/
def baseOf? (directory : TenantDirectory) (tenant : String) : Option String :=
  (base? {} directory tenant).1

/-- The URL that a kept text of a tenant stands for. -/
def meaning (directory : TenantDirectory) (kept tenant : String) : String :=
  (expand {} directory kept tenant).1

/-- A URL comes back from the way in which it is kept: the tenant has no base, or the URL is
absolute and, if it can be shortened at all, is put together again from the base. -/
def Faithful (directory : TenantDirectory) (url tenant : String) : Prop :=
  (tenant = "" ∨ directory.find? tenant = none ∨
    ∃ found, directory.find? tenant = some found ∧ found.baseUrl = "") ∨
  (Link.isAbsolute url ∧ ∀ found relative, directory.find? tenant = some found →
    Link.relativeTo? url found.baseUrl = some relative →
    Link.rejoin found.baseUrl relative = url)

theorem base?_eq_baseOf? (h : now.outage .tenantsGet = none) :
    (base? now directory tenant).1 = baseOf? directory tenant := by
  rw [baseOf?, base?, base?, h]

theorem expand_of_isAbsolute (h : Link.isAbsolute kept = true) :
    (expand now directory kept tenant).1 = kept := by
  rw [expand, if_pos h]

theorem expand_of_relative (h : Link.isAbsolute kept = false) :
    (expand now directory kept tenant).1
      = ((base? now directory tenant).1.map fun base => Link.rejoin base kept).getD kept := by
  rw [expand, if_neg (by simp [h])]
  obtain ⟨base, calls⟩ := base? now directory tenant
  cases base with
  | none => rfl
  | some base => rfl

theorem expand_eq_meaning (h : now.outage .tenantsGet = none) :
    (expand now directory kept tenant).1 = meaning directory kept tenant := by
  cases habsolute : Link.isAbsolute kept with
  | true => rw [meaning, expand_of_isAbsolute habsolute, expand_of_isAbsolute habsolute]
  | false =>
    rw [meaning, expand_of_relative habsolute, expand_of_relative habsolute, base?_eq_baseOf? h,
      baseOf?]

/-- When the directory does not answer there is no base. -/
theorem base?_cases (now : Circumstances) (directory : TenantDirectory) (tenant : String) :
    (base? now directory tenant).1 = none ∨
      (base? now directory tenant).1 = baseOf? directory tenant := by
  cases h : now.outage .tenantsGet with
  | none => exact Or.inr (base?_eq_baseOf? h)
  | some fault =>
    left
    unfold base?
    split
    · rfl
    · rw [h]
      rfl

theorem baseOf?_eq_some {base : String} (h : baseOf? directory tenant = some base) :
    tenant ≠ "" ∧ base ≠ "" ∧ ∃ found, directory.find? tenant = some found ∧
      found.baseUrl = base := by
  unfold baseOf? base? at h
  split at h
  next => cases h
  next hnamed =>
    obtain ⟨hmap, hbase⟩ := Option.filter_eq_some_iff.mp h
    obtain ⟨found, hfound, rfl⟩ := Option.map_eq_some_iff.mp hmap
    refine ⟨?_, ?_, found, hfound, rfl⟩
    · rintro rfl
      exact hnamed rfl
    · intro hempty
      rw [hempty] at hbase
      exact absurd hbase (by decide)

theorem meaning_of_isAbsolute (h : Link.isAbsolute kept = true) :
    meaning directory kept tenant = kept :=
  expand_of_isAbsolute h

theorem meaning_of_base {base : String} (habsolute : Link.isAbsolute kept = false)
    (hbase : baseOf? directory tenant = some base) :
    meaning directory kept tenant = Link.rejoin base kept := by
  rw [meaning, expand_of_relative habsolute, ← baseOf?, hbase, Option.map_some, Option.getD_some]

theorem meaning_of_no_base (hbase : baseOf? directory tenant = none) :
    meaning directory kept tenant = kept := by
  cases habsolute : Link.isAbsolute kept with
  | true => exact expand_of_isAbsolute habsolute
  | false => rw [meaning, expand_of_relative habsolute, ← baseOf?, hbase, Option.map_none,
      Option.getD_none]

/-- A URL is kept as it is, or relative to the base of its tenant. -/
theorem shrink_cases (now : Circumstances) (directory : TenantDirectory) (url tenant : String) :
    (shrink now directory url tenant).1 = url ∨
      ∃ base relative, baseOf? directory tenant = some base ∧
        Link.relativeTo? url base = some relative ∧
        (shrink now directory url tenant).1 = relative := by
  show ((base? now directory tenant).1.bind fun base => Link.relativeTo? url base).getD url = url ∨
    ∃ base relative, baseOf? directory tenant = some base ∧
      Link.relativeTo? url base = some relative ∧
      ((base? now directory tenant).1.bind fun base => Link.relativeTo? url base).getD url = relative
  rcases base?_cases now directory tenant with hnone | hsame
  · rw [hnone]
    exact Or.inl rfl
  · rw [hsame]
    cases hbase : baseOf? directory tenant with
    | none => exact Or.inl rfl
    | some base =>
      rw [Option.bind_some]
      cases hrelative : Link.relativeTo? url base with
      | none => exact Or.inl rfl
      | some relative => exact Or.inr ⟨base, relative, rfl, hrelative, rfl⟩

/-- What is kept of a faithful URL stands for it, whether the directory answered or not. -/
theorem meaning_shrink (h : Faithful directory url tenant) :
    meaning directory (shrink now directory url tenant).1 tenant = url := by
  have hbased : ∀ base, baseOf? directory tenant = some base →
      Link.isAbsolute url ∧ ∀ relative, Link.relativeTo? url base = some relative →
        Link.rejoin base relative = url := by
    intro base hbase
    obtain ⟨hnamed, hnonempty, found, hfound, rfl⟩ := baseOf?_eq_some hbase
    rcases h with (rfl | hunknown | ⟨found', hfound', hempty⟩) | ⟨habsolute, hrejoin⟩
    · exact absurd rfl hnamed
    · rw [hunknown] at hfound
      cases hfound
    · rw [hfound, Option.some.injEq] at hfound'
      exact absurd (hfound' ▸ hempty) hnonempty
    · exact ⟨habsolute, fun relative => hrejoin found relative hfound⟩
  rcases shrink_cases now directory url tenant with hkept | ⟨base, relative, hbase, hrelative, hkept⟩
  · rw [hkept]
    cases hbase : baseOf? directory tenant with
    | none => exact meaning_of_no_base hbase
    | some base => exact meaning_of_isAbsolute (hbased base hbase).1
  · rw [hkept, meaning_of_base (Link.isAbsolute_of_relativeTo? hrelative) hbase]
    exact (hbased base hbase).2 relative hrelative

/-! ### The cache -/

/-- A look-up in the cache leaves everything but the cache alone, takes entries away at most, and
finds what was there. -/
theorem cached_cases (now : Circumstances) (state : State) (code : String) :
    ∃ cache, (cached now state code).2 = { state with cache } ∧
      (∀ other entry, cache.entries.lookup other = some entry →
        state.cache.entries.lookup other = some entry) ∧
      ∀ url, (cached now state code).1 = some url →
        ∃ entry, state.cache.entries.lookup code = some entry ∧ entry.url = url := by
  cases houtage : now.outage .cacheGet with
  | some fault =>
    refine ⟨state.cache, ?_, fun _ _ h => h, ?_⟩
    · rw [cached, houtage]
    · intro url hurl
      rw [cached, houtage] at hurl
      cases hurl
  | none =>
    have hcached : cached now state code = ((state.cache.get now.cacheReadAt code).1,
        { state with cache := (state.cache.get now.cacheReadAt code).2 }) := by
      rw [cached, houtage]
    rw [hcached]
    refine ⟨_, rfl, ?_, ?_⟩
    · intro other entry hentry
      unfold LinkCache.get at hentry
      split at hentry
      next =>
        split at hentry
        · exact hentry
        · rw [LinkCache.lookup_erase] at hentry
          split at hentry
          · cases hentry
          · exact hentry
      next => exact hentry
    · intro url hurl
      unfold LinkCache.get at hurl
      split at hurl
      next entry hentry =>
        split at hurl
        · exact ⟨entry, hentry, Option.some.inj hurl⟩
        · cases hurl
      next => cases hurl

/-- Putting a URL into the cache leaves everything but the cache alone, and the entries of other
codes. -/
theorem remember_cases (now : Circumstances) (state : State) (code url : String) :
    ∃ cache, remember now state code url = { state with cache } ∧
      ∀ other entry, cache.entries.lookup other = some entry →
        (other = code ∧ entry.url = url) ∨ state.cache.entries.lookup other = some entry := by
  cases houtage : now.outage .cacheSet with
  | some fault =>
    refine ⟨state.cache, ?_, fun _ _ h => Or.inr h⟩
    rw [remember, houtage]
  | none =>
    refine ⟨_, by rw [remember, houtage], ?_⟩
    intro other entry hentry
    rw [LinkCache.lookup_set] at hentry
    split at hentry
    next hcode =>
      obtain rfl := Option.some.inj hentry
      exact Or.inl ⟨hcode, rfl⟩
    next => exact Or.inr hentry

/-! ### Stored links -/

/-- The record that is written for a code. -/
def newRecord (now : Circumstances) (directory : TenantDirectory) (code url tenant : String) :
    LinkRecord :=
  { code, url := (shrink now directory url tenant).1, tenant, createdAt := now.writtenAt }

@[simp] theorem newRecord_code : (newRecord now directory code url tenant).code = code := rfl

@[simp] theorem newRecord_url :
    (newRecord now directory code url tenant).url = (shrink now directory url tenant).1 := rfl

@[simp] theorem newRecord_tenant : (newRecord now directory code url tenant).tenant = tenant := rfl

/-- Issuing a code takes an id. Then the record is refused and nothing else happens, or it is stored
and the URL put into the cache. -/
theorem create_cases {service : LinkService} {outcome : Outcome}
    (h : service.create now state url tenant = some outcome) :
    ∃ id ids later, state.ids.next? now.readings = some (id, ids, later) ∧
      let code := service.codec.encodeId id tenant
      let record := newRecord now state.directory code url tenant
      let calls := (shrink now state.directory url tenant).2 ++ [.storeInsert code record.url tenant]
      ((∃ fault, insertRecord now state.store record = .error fault ∧
          outcome = { answer := .error fault, state := { state with ids }, calls }) ∨
        ∃ store, insertRecord now state.store record = .ok store ∧
          outcome = {
            answer := .ok code
            state := remember now { state with ids, store } code url
            calls := calls ++ [.cacheSet code url cacheSeconds] }) := by
  obtain ⟨⟨id, ids, later⟩, hnext, h⟩ := Option.bind_eq_some_iff.mp h
  refine ⟨id, ids, later, hnext, ?_⟩
  intro code record calls
  dsimp only at h
  split at h
  next fault hinsert => exact Or.inl ⟨fault, hinsert, (Option.some.inj h).symm⟩
  next store hinsert => exact Or.inr ⟨store, hinsert, (Option.some.inj h).symm⟩

theorem insertRecord_eq_ok {store after : LinkStore} {record : LinkRecord}
    (h : insertRecord now store record = .ok after) : store.insert record = .ok after := by
  unfold insertRecord at h
  split at h
  · cases h
  · exact h

/-- A code that is resolved from the store is missing, fails to be looked up, or has a record, whose
URL is put into the cache. -/
theorem resolveStored_cases (now : Circumstances) (state : State) (code : String) :
    (∃ fault, now.outage .storeFind = some fault ∧
      resolveStored now state code
        = { answer := .error fault, state, calls := [.storeFind code] }) ∨
    (now.outage .storeFind = none ∧ state.store.find? code = none ∧
      resolveStored now state code
        = { answer := .error .notFound, state, calls := [.storeFind code] }) ∨
    ∃ record, now.outage .storeFind = none ∧ state.store.find? code = some record ∧
      let expanded := expand now state.directory record.url record.tenant
      resolveStored now state code = {
        answer := .ok expanded.1
        state := remember now state code expanded.1
        calls := .storeFind code :: expanded.2 ++ [.cacheSet code expanded.1 cacheSeconds] } := by
  unfold resolveStored findRecord
  cases now.outage .storeFind with
  | some fault => exact Or.inl ⟨fault, rfl, rfl⟩
  | none =>
    cases state.store.find? code with
    | none => exact Or.inr (Or.inl ⟨rfl, rfl, rfl⟩)
    | some record => exact Or.inr (Or.inr ⟨record, rfl, rfl, rfl⟩)

/-- A code is malformed, has an absolute URL in the cache, or is resolved from the store. -/
theorem resolve_cases (now : Circumstances) (state : State) (code : String) :
    (∃ reason, Radix62.checkShortCode code = .error reason ∧
      resolve now state code = { answer := .error (.malformed reason), state, calls := [] }) ∨
    (∃ url, Radix62.checkShortCode code = .ok () ∧ (cached now state code).1 = some url ∧
      Link.isAbsolute url = true ∧
      resolve now state code
        = { answer := .ok url, state := (cached now state code).2, calls := [.cacheGet code] }) ∨
    (Radix62.checkShortCode code = .ok () ∧
      (∀ url, (cached now state code).1 = some url → Link.isAbsolute url = false) ∧
      resolve now state code
        = { resolveStored now (cached now state code).2 code with
            calls := .cacheGet code :: (resolveStored now (cached now state code).2 code).calls }) := by
  unfold resolve
  cases Radix62.checkShortCode code with
  | error reason => exact Or.inl ⟨reason, rfl, rfl⟩
  | ok =>
    cases hhit : (cached now state code).1.filter Link.isAbsolute with
    | none =>
      refine Or.inr (Or.inr ⟨rfl, fun url hurl => ?_, by simp only [hhit]⟩)
      simpa using Option.filter_eq_none_iff.mp hhit url hurl
    | some url =>
      obtain ⟨hurl, habsolute⟩ := Option.filter_eq_some_iff.mp hhit
      exact Or.inr (Or.inl ⟨url, rfl, hurl, habsolute, by simp only [hhit]⟩)

end ShortLink.LinkService
