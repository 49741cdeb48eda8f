import ShortLink.Proofs.Link.Outage
import ShortLink.Proofs.Token.Payload

/-!
# URLs that lie elsewhere

A URL that does not lie under the base of its tenant is kept as it is. That it was is not recorded:
when it is resolved, a kept text counts as a URL if it begins with `http://` or `https://`, and has
the base put in front otherwise. So among the URLs of other schemes, and those whose scheme is in
upper case, only those come back whose tenant has no base.

## Main definitions

- `LinkService.IsForeign` — a URL that does not lie under the base of its tenant

## Main results

- `Url.head_ne_slash` — no URL begins with a slash
- `LinkService.carried_encodePayload` — a text within the limits comes back from its token
- `LinkService.IsForeign.meaning_eq_iff` — which foreign URLs stand for themselves
- `LinkService.resolve_foreign` — how foreign URLs come back, stateless and stored
- `LinkService.resolve_foreign_ne` — one that does not
-/

namespace ShortLink

namespace Url

theorem clean_slash (more : List Char) : ∃ rest, clean ('/' :: more) = '/' :: rest := by
  have hfront : ∃ rest, (('/' :: more).reverse.dropWhile (· ≤ ' ')).reverse = '/' :: rest := by
    rw [List.reverse_cons, List.dropWhile_append]
    split
    · exact ⟨[], rfl⟩
    · exact ⟨(more.reverse.dropWhile (· ≤ ' ')).reverse, by simp⟩
  obtain ⟨rest, hrest⟩ := hfront
  -- A slash is neither a blank around the text nor a line end in it.
  refine ⟨rest.filter fun c => c ≠ '\t' ∧ c ≠ '\n' ∧ c ≠ '\r', ?_⟩
  have hstart : ('/' :: more).dropWhile (· ≤ ' ') = '/' :: more := rfl
  rw [clean, hstart, hrest]
  rfl

/-- No URL begins with a slash: its scheme begins with a letter. -/
theorem head_ne_slash {text : String} (h : (ofText? text).isSome) :
    text.toList.head? ≠ some '/' := by
  intro hslash
  obtain ⟨more, hmore⟩ := List.head?_eq_some_iff.mp hslash
  obtain ⟨rest, hrest⟩ := clean_slash more
  have hscheme : splitScheme? ('/' :: rest) = none := rfl
  rw [ofText?, hmore, hrest, hscheme] at h
  cases h

end Url

namespace Link

/-- Put behind a base, a text that does not begin with a slash grows. -/
theorem rejoin_ne_self (base : String) {text : String} (h : text.toList.head? ≠ some '/') :
    rejoin base text ≠ text := by
  intro heq
  have hkeep : trimSlashesLeft text.toList = text.toList := by
    cases htext : text.toList with
    | nil => rfl
    | cons c rest =>
      rw [htext] at h
      exact List.dropWhile_cons_of_neg (by simpa using h)
  have hlength := congrArg (List.length ∘ String.toList) heq
  simp only [Function.comp_apply, toList_rejoin, hkeep, List.length_append, List.length_cons]
    at hlength
  omega

end Link

namespace LinkService

/-- A URL that does not lie under the base of its tenant, if the tenant has one. -/
structure IsForeign (directory : TenantDirectory) (url tenant : String) : Prop where
  isUrl : (Url.ofText? url).isSome
  elsewhere : ∀ base, baseOf? directory tenant = some base → Link.relativeTo? url base = none

variable {service : LinkService} {directory : TenantDirectory} {state start : State} {url tenant : String}

namespace IsForeign

theorem shrink_eq (h : IsForeign directory url tenant) (now : Circumstances) :
    (shrink now directory url tenant).1 = url := by
  rcases shrink_cases now directory url tenant with hkept | ⟨base, relative, hbase, hrelative, -⟩
  · exact hkept
  · rw [h.elsewhere base hbase] at hrelative
    cases hrelative

/-- A foreign URL stands for itself when it counts as a URL or there is no base to put in front. -/
theorem meaning_eq_iff (h : IsForeign directory url tenant) :
    meaning directory url tenant = url ↔
      Link.isAbsolute url = true ∨ baseOf? directory tenant = none := by
  constructor
  · intro hmeaning
    cases habsolute : Link.isAbsolute url with
    | true => exact Or.inl rfl
    | false =>
      cases hbase : baseOf? directory tenant with
      | none => exact Or.inr rfl
      | some base =>
        rw [meaning_of_base habsolute hbase] at hmeaning
        exact absurd hmeaning (Link.rejoin_ne_self base (Url.head_ne_slash h.isUrl))
  · rintro (habsolute | hbase)
    · exact meaning_of_isAbsolute habsolute
    · exact meaning_of_no_base hbase

end IsForeign

/-- A text that is neither too long for a token nor too long to be inflated comes back from its token.
-/
theorem carried_encodePayload (service : LinkService) {text : String} (tenant : String)
    (hcompress : Zlib.Lossless service.compress)
    (hfits : TenantCodec.scrambledSize (service.compress (Bytes.ofText text)) ≤ Envelope.maxContents)
    (hsize : (Bytes.ofText text).length ≤ Zlib.maxInflated) :
    service.carried (service.codec.encodePayload (Bytes.ofText text) tenant service.compress) tenant
      = .ok text := by
  let token := service.codec.encodePayload (Bytes.ofText text) tenant service.compress
  have hshort : ¬Radix62.maxToken < token.length := by
    rw [TenantCodec.maxToken_lt_length_encodePayload_iff]
    exact Nat.not_lt.mpr hfits
  have hcheck : Radix62.checkToken token = .ok () := by
    rw [show token = Envelope.close _ from rfl, Envelope.checkToken_close]
    exact if_neg hshort
  have hpayload : service.codec.decodePayload token tenant = .ok (Bytes.ofText text) := by
    rw [TenantCodec.decodePayload_of_fits _ _ hcompress (Nat.not_lt.mpr hfits), if_pos hsize]
  show service.carried token tenant = _
  rw [carried, hcheck, hpayload]
  simp only [Except.mapError, bind, Except.bind, Bytes.toText?_ofText]
  rfl

/-- The token of a foreign URL gives what the URL stands for, whether it was to be trimmed or not. -/
theorem IsForeign.resolveStateless (h : IsForeign start.directory url tenant)
    (service : LinkService) (now later : Circumstances) (trim : Bool)
    (hsame : state.directory = start.directory) (hdirectory : later.outage .tenantsGet = none)
    (hcompress : Zlib.Lossless service.compress)
    (hfits : TenantCodec.scrambledSize (service.compress (Bytes.ofText url)) ≤ Envelope.maxContents)
    (hsize : (Bytes.ofText url).length ≤ Zlib.maxInflated) :
    ∃ token, (service.createStateless now start url tenant trim).answer = .ok token ∧
      (service.resolveStateless later state token tenant).answer
        = .ok (meaning start.directory url tenant) := by
  refine ⟨service.codec.encodePayload (Bytes.ofText url) tenant service.compress, ?_, ?_⟩
  · cases trim with
    | false => rfl
    | true =>
      show Except.ok (service.codec.encodePayload
        (Bytes.ofText (shrink now start.directory url tenant).1) tenant service.compress) = _
      rw [h.shrink_eq]
  · rw [LinkService.resolveStateless, carried_encodePayload service tenant hcompress hfits hsize]
    show Except.ok (expand later state.directory url tenant).1 = _
    rw [hsame, expand_eq_meaning hdirectory]

/-- The code of a foreign URL gives what the URL stands for, from the cache or from the store. -/
theorem IsForeign.resolve {final : State} {code : String} (h : IsForeign start.directory url tenant)
    (hcache : start.cache = {}) {before between after : List Event} {created resolved : Event}
    (hrun : service.Run start (before ++ created :: (between ++ resolved :: after)) final)
    (hcreate : created.operation = .create url tenant) (hissued : created.outcome.answer = .ok code)
    (hresolve : resolved.operation = .resolve code)
    (hstore : resolved.now.outage .storeFind = none)
    (hdirectory : resolved.now.outage .tenantsGet = none) :
    resolved.outcome.answer = .ok (meaning start.directory url tenant) := by
  -- What `shrink` keeps is the URL, so all that is left is what `expand` makes of it.
  have hkept : (shrink created.now start.directory url tenant).1 = url := h.shrink_eq created.now
  have hcases := hrun.answer_cases hcache hcreate hissued hresolve fun habsolute => by
    rw [hkept, meaning_of_isAbsolute habsolute]
  rw [hkept] at hcases
  rcases hcases with hanswer | ⟨fault, hfault, -⟩ | ⟨⟨fault, hfault⟩, -, -⟩
  · exact hanswer
  · rw [hstore] at hfault
    cases hfault
  · rw [hdirectory] at hfault
    cases hfault

/-- A foreign URL within the limits comes back from its token, and any foreign URL from its code, as
what it stands for: itself if it begins with `http://` or `https://` or its tenant has no base, and
something else otherwise. The compressor of tokens has to be lossless, and directory and store have
to answer while the URL is resolved. -/
theorem resolve_foreign (service : LinkService) (hforeign : IsForeign start.directory url tenant) :
    (Zlib.Lossless service.compress → ∀ (now later : Circumstances) (state : State) (trim : Bool),
      state.directory = start.directory → later.outage .tenantsGet = none →
      TenantCodec.scrambledSize (service.compress (Bytes.ofText url)) ≤ Envelope.maxContents →
      (Bytes.ofText url).length ≤ Zlib.maxInflated →
      ∃ token, (service.createStateless now start url tenant trim).answer = .ok token ∧
        (service.resolveStateless later state token tenant).answer
          = .ok (meaning start.directory url tenant)) ∧
    (∀ (final : State) (code : String) (before between after : List Event)
      (created resolved : Event), start.cache = {} →
      service.Run start (before ++ created :: (between ++ resolved :: after)) final →
      created.operation = .create url tenant → created.outcome.answer = .ok code →
      resolved.operation = .resolve code → resolved.now.outage .storeFind = none →
      resolved.now.outage .tenantsGet = none →
      resolved.outcome.answer = .ok (meaning start.directory url tenant)) ∧
    (meaning start.directory url tenant = url ↔
      Link.isAbsolute url = true ∨ baseOf? start.directory tenant = none) := by
  refine ⟨?_, ?_, hforeign.meaning_eq_iff⟩
  · intro hcompress now later state trim hsame hdirectory hfits hsize
    exact hforeign.resolveStateless service now later trim hsame hdirectory hcompress hfits hsize
  · intro final code before between after created resolved hcache hrun hcreate hissued hresolve
      hstore hdirectory
    exact hforeign.resolve hcache hrun hcreate hissued hresolve hstore hdirectory

theorem isForeign_acme (hurl : (Url.ofText? url).isSome)
    (helsewhere : Link.relativeTo? url "https://acme.test/app/" = none) :
    IsForeign acmeState.directory url "acme" := by
  refine ⟨hurl, ?_⟩
  intro base hbase
  obtain rfl := Option.some.inj hbase
  exact helsewhere

/-- A page of another site comes back for a tenant with a base, from its token and from its code. -/
theorem resolve_foreign_page :
    let service := ofSettings TokenSealer.sample
    let url := "https://elsewhere.test/x"
    Zlib.Lossless service.compress ∧ IsForeign acmeState.directory url "acme" ∧
    (∃ token, (service.createStateless {} acmeState url "acme" true).answer = .ok token ∧
      (service.resolveStateless {} acmeState token "acme").answer = .ok url) ∧
    ∃ (created resolved : Event) (final : State),
      service.Run acmeState ([] ++ created :: ([] ++ resolved :: [])) final ∧
      created.outcome.answer = .ok "e6TvDk6xzzL" ∧ resolved.operation = .resolve "e6TvDk6xzzL" ∧
      resolved.outcome.answer = .ok url := by
  intro service url
  have hforeign : IsForeign acmeState.directory url "acme" :=
    isForeign_acme (by decide +kernel) (by decide +kernel)
  obtain ⟨hstateless, hstored, hmeaning⟩ := resolve_foreign service hforeign
  have hself := hmeaning.mpr (Or.inl (by decide +kernel))
  rw [hself] at hstateless hstored
  have hissued : (service.create { readings := [TimedId.epoch + 1000] } acmeState url "acme").map
      (·.answer) = some (.ok "e6TvDk6xzzL") := by
    decide +kernel
  obtain ⟨created, resolved, final, hrun, -, hcreate, hanswer, hnow, hresolve⟩ :=
    exists_run {} hissued
  refine ⟨Zlib.lossless_compress, hforeign,
    hstateless Zlib.lossless_compress {} {} acmeState true rfl rfl (by decide +kernel) (by decide +kernel),
    created, resolved, final, hrun, hanswer, hresolve, ?_⟩
  exact hstored final _ [] [] [] created resolved rfl hrun hcreate hanswer hresolve
    (by rw [hnow]) (by rw [hnow])

/-- A mail address has the base of the tenant put in front. -/
theorem resolve_foreign_ne :
    ¬∀ (service : LinkService) (state : State) (now later : Circumstances)
      (url tenant token : String) (trim : Bool), Zlib.Lossless service.compress →
      IsForeign state.directory url tenant →
      (now.outage = fun _ => none) → (later.outage = fun _ => none) →
      TenantCodec.scrambledSize (service.compress (Bytes.ofText url)) ≤ Envelope.maxContents →
      (Bytes.ofText url).length ≤ Zlib.maxInflated →
      (service.createStateless now state url tenant trim).answer = .ok token →
      (service.resolveStateless later state token tenant).answer = .ok url := by
  intro h
  let service := ofSettings TokenSealer.sample
  let url := "mailto:team@example.com"
  have hforeign : IsForeign acmeState.directory url "acme" :=
    isForeign_acme (by decide +kernel) (by decide +kernel)
  have hcompress : Zlib.Lossless service.compress := Zlib.lossless_compress
  have hfits : TenantCodec.scrambledSize (service.compress (Bytes.ofText url))
      ≤ Envelope.maxContents := by decide +kernel
  have hsize : (Bytes.ofText url).length ≤ Zlib.maxInflated := by decide +kernel
  obtain ⟨token, hcreate, hresolve⟩ :=
    hforeign.resolveStateless service {} {} true rfl rfl hcompress hfits hsize
  have hsame := h service acmeState {} {} url "acme" token true hcompress hforeign rfl rfl hfits
    hsize hcreate
  rw [hsame, Except.ok.injEq] at hresolve
  rcases hforeign.meaning_eq_iff.mp hresolve.symm with habsolute | hbase
  · exact absurd habsolute (by decide +kernel)
  · cases hbase

end LinkService

end ShortLink
