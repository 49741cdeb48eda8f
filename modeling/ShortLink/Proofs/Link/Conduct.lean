import ShortLink.Proofs.Link.Exchange
import ShortLink.Proofs.Token.Verdict

/-!
# How the service treats its collaborators

An operation calls its collaborators in one of a few ways, which depend on what comes back from the
calls. Nobody is called for a malformed code or token, and for sealed links. Stateless links ask the
directory for a base at most. A URL is cached by the last call, once the store has a record of the
link, and no other call follows when the cache has an absolute URL. No operation makes two calls of
one kind.

## Main definitions

- `LinkService.Conduct` — the calls of an operation, by its answer and by what comes back from them
- `LinkService.Disciplined` — the rules that they keep

## Main results

- `LinkService.conduct_callsMade` — which calls the operations make
- `LinkService.calls_disciplined` — the calls of every operation keep the rules, and do all that the
  operation does to store, cache and directory
-/

namespace ShortLink.LinkService

open Radix62 (Accepted Refused)

variable {service : LinkService} {now : Circumstances} {state : State} {operation : Operation}
  {answer : Option (Except Fault String)} {trace asked : List Exchange} {reason : Malformed}
  {code url tenant : String}

/-! ### Courses of calls -/

/-- The calls for the base of a tenant: none, or one for a tenant with a name. -/
inductive AsksBase (tenant : String) : List Exchange → Prop where
  | nobody : AsksBase tenant []
  | directory {reply : Reply} (h : tenant ≠ "") : AsksBase tenant [⟨.tenantsGet tenant, reply⟩]

/-- What comes back from the cache when it is of no use. -/
def IsMiss (reply : Reply) : Prop := ∀ url, reply = .url (some url) → Link.isAbsolute url = false

theorem IsMiss.ne {reply : Reply} (h : IsMiss reply) (habsolute : Link.isAbsolute url = true) :
    reply ≠ .url (some url) := by
  intro hreply
  rw [h url hreply] at habsolute
  cases habsolute

/-- The calls of an operation, and its answer when it has ended. -/
inductive Conduct : Operation → Option (Except Fault String) → List Exchange → Prop where
  | waits {url tenant : String} {asked : List Exchange} (hasked : AsksBase tenant asked) :
      Conduct (.create url tenant) none asked
  | refuses {url tenant code kept : String} {asked : List Exchange} {fault : Fault}
      (hasked : AsksBase tenant asked) :
      Conduct (.create url tenant) (some (.error fault))
        (asked ++ [⟨.storeInsert code kept tenant, .fault fault⟩])
  | issues {url tenant code kept : String} {asked : List Exchange} {seconds : Nat} {reply : Reply}
      (hasked : AsksBase tenant asked) :
      Conduct (.create url tenant) (some (.ok code))
        (asked ++ [⟨.storeInsert code kept tenant, .done⟩, ⟨.cacheSet code url seconds, reply⟩])
  | malformed {code : String} {reason : Malformed} (hcode : Refused 200 code reason) :
      Conduct (.resolve code) (some (.error (.malformed reason))) []
  | hits {code url : String} (hcode : Accepted 200 code) (hurl : Link.isAbsolute url = true) :
      Conduct (.resolve code) (some (.ok url)) [⟨.cacheGet code, .url (some url)⟩]
  | fails {code : String} {reply : Reply} {fault : Fault} (hcode : Accepted 200 code)
      (hreply : IsMiss reply) :
      Conduct (.resolve code) (some (.error fault))
        [⟨.cacheGet code, reply⟩, ⟨.storeFind code, .fault fault⟩]
  | misses {code : String} {reply : Reply} (hcode : Accepted 200 code) (hreply : IsMiss reply) :
      Conduct (.resolve code) (some (.error .notFound))
        [⟨.cacheGet code, reply⟩, ⟨.storeFind code, .record none⟩]
  | finds {code url : String} {reply written : Reply} {record : LinkRecord} {asked : List Exchange}
      {seconds : Nat} (hcode : Accepted 200 code) (hreply : IsMiss reply)
      (hasked : AsksBase record.tenant asked) :
      Conduct (.resolve code) (some (.ok url))
        ([⟨.cacheGet code, reply⟩, ⟨.storeFind code, .record (some record)⟩] ++ asked ++
          [⟨.cacheSet code url seconds, written⟩])
  | carries {url tenant token : String} {trim : Bool} {asked : List Exchange}
      (hasked : AsksBase tenant asked) :
      Conduct (.createStateless url tenant trim) (some (.ok token)) asked
  | rejects {token tenant : String} {reason : Malformed} (htoken : Envelope.Verdict token reason) :
      Conduct (.resolveStateless token tenant) (some (.error (.malformed reason))) []
  | corrupted {token tenant : String} (htoken : Envelope.Sound token) :
      Conduct (.resolveStateless token tenant) (some (.error .corrupted)) []
  | expands {token tenant url : String} {asked : List Exchange} (htoken : Envelope.Sound token)
      (hasked : AsksBase tenant asked) :
      Conduct (.resolveStateless token tenant) (some (.ok url)) asked
  | seals {url token : String} : Conduct (.createSealed url) (some (.ok token)) []
  | unseals {token : String} {answer : Except Fault String} :
      Conduct (.resolveSealed token) (some answer) []

theorem asksBase_base? (now : Circumstances) (state : State) (directory : TenantDirectory)
    (tenant : String) : AsksBase tenant (exchanges now state (base? now directory tenant).2) := by
  unfold base?
  split
  next => exact .nobody
  next hnamed =>
    refine .directory ?_
    rintro rfl
    exact hnamed rfl

theorem asksBase_expand (now : Circumstances) (state : State) (directory : TenantDirectory)
    (kept tenant : String) :
    AsksBase tenant (exchanges now state (expand now directory kept tenant).2) := by
  rcases expand_calls now directory kept tenant with hnone | hbase
  · rw [hnone]
    exact .nobody
  · rw [hbase]
    exact asksBase_base? now state directory tenant

theorem conduct_create {outcome : Outcome} (h : service.create now state url tenant = some outcome) :
    Conduct (.create url tenant) (some outcome.answer) (exchanges now state outcome.calls) := by
  obtain ⟨id, ids, -, -, h⟩ := create_cases h
  have hlookups : served now state (shrink now state.directory url tenant).2 = state :=
    served_base? state.directory
  have hasked : AsksBase tenant (exchanges now state (shrink now state.directory url tenant).2) :=
    asksBase_base? now state state.directory tenant
  rcases h with ⟨fault, herror, rfl⟩ | ⟨store, hok, rfl⟩
  · dsimp only
    rw [exchanges_append, hlookups, exchanges, serve_storeInsert_of_error herror]
    exact .refuses hasked
  · dsimp only
    rw [List.append_assoc, exchanges_append, hlookups, List.singleton_append, exchanges,
      serve_storeInsert_of_ok hok]
    exact .issues hasked

theorem conduct_resolve (now : Circumstances) (state : State) (code : String) :
    Conduct (.resolve code) (some (resolve now state code).answer)
      (exchanges now state (resolve now state code).calls) := by
  rcases resolve_cases now state code with
    ⟨reason, hcheck, heq⟩ | ⟨url, hcheck, hurl, habsolute, heq⟩ | ⟨hcheck, hmiss, heq⟩
  · rw [heq]
    exact .malformed (Radix62.check_eq_error_iff.mp hcheck)
  · rw [heq]
    dsimp only [exchanges]
    rw [serve_cacheGet_eq_url_iff.mpr hurl]
    exact .hits (Radix62.check_eq_ok_iff.mp hcheck) habsolute
  · have hcode : Accepted 200 code := Radix62.check_eq_ok_iff.mp hcheck
    have hreply : IsMiss (serve now state (.cacheGet code)).1 := fun url hurl =>
      hmiss url (serve_cacheGet_eq_url_iff.mp hurl)
    rw [heq]
    dsimp only [exchanges]
    rw [serve_cacheGet]
    rcases resolveStored_cases now (cached now state code).2 code with
      ⟨fault, houtage, hstored⟩ | ⟨houtage, hrecord, hstored⟩ | ⟨record, houtage, hrecord, hstored⟩
    · rw [hstored]
      dsimp only [exchanges]
      rw [serve_of_outage (.storeFind code) houtage]
      exact .fails hcode hreply
    · rw [hstored]
      dsimp only [exchanges]
      rw [serve_storeFind houtage, hrecord]
      exact .misses hcode hreply
    · rw [hstored]
      dsimp only [exchanges, List.cons_append]
      rw [serve_storeFind houtage, hrecord, exchanges_append]
      exact .finds hcode hreply (asksBase_expand _ _ _ _ _)

/-- A token is malformed, holds nothing that is a text, or carries a text. -/
theorem carried_cases (service : LinkService) (token tenant : String) :
    (∃ reason, Envelope.Verdict token reason ∧
      service.carried token tenant = .error (.malformed reason)) ∨
    (Envelope.Sound token ∧ service.carried token tenant = .error .corrupted) ∨
    ∃ kept, Envelope.Sound token ∧ service.carried token tenant = .ok kept := by
  rcases Envelope.verdict_or_sound token with ⟨reason, hverdict⟩ | hsound
  · have hcontents := Envelope.contents_of_verdict hverdict
    refine Or.inl ⟨reason, hverdict, ?_⟩
    rw [carried]
    cases hcheck : Radix62.checkToken token with
    | error reason' =>
      rw [Envelope.contents, hcheck] at hcontents
      obtain rfl := Except.error.inj hcontents
      rfl
    | ok =>
      rw [TenantCodec.decodePayload_of_error hcontents]
      rfl
  · have hcheck : Radix62.checkToken token = .ok () := Radix62.check_of_accepted hsound.accepted
    right
    rw [carried, hcheck]
    rcases Envelope.decodePayload_of_sound hsound service.codec tenant with ⟨data, hdata⟩ | hdata
    · rw [hdata]
      cases htext : Bytes.toText? data with
      | none =>
        refine Or.inl ⟨hsound, ?_⟩
        simp only [Except.mapError, bind, Except.bind, htext]
        rfl
      | some kept =>
        refine Or.inr ⟨kept, hsound, ?_⟩
        simp only [Except.mapError, bind, Except.bind, htext]
        rfl
    · rw [hdata]
      exact Or.inl ⟨hsound, rfl⟩

theorem conduct_resolveStateless (now : Circumstances) (state : State) (token tenant : String) :
    Conduct (.resolveStateless token tenant)
      (some (service.resolveStateless now state token tenant).answer)
      (exchanges now state (service.resolveStateless now state token tenant).calls) := by
  rw [resolveStateless]
  rcases carried_cases service token tenant with
    ⟨reason, hverdict, heq⟩ | ⟨hsound, heq⟩ | ⟨kept, hsound, heq⟩
  · rw [heq]
    exact .rejects hverdict
  · rw [heq]
    exact .corrupted hsound
  · rw [heq]
    exact .expands hsound (asksBase_expand now state state.directory kept tenant)

theorem conduct_createStateless (now : Circumstances) (state : State) (url tenant : String)
    (trim : Bool) :
    Conduct (.createStateless url tenant trim)
      (some (service.createStateless now state url tenant trim).answer)
      (exchanges now state (service.createStateless now state url tenant trim).calls) := by
  refine .carries ?_
  cases trim with
  | false => exact .nobody
  | true => exact asksBase_base? now state state.directory tenant

/-- Which calls an operation makes, whatever comes back. -/
theorem conduct_callsMade (service : LinkService) (now : Circumstances) (state : State)
    (operation : Operation) :
    Conduct operation ((service.perform now state operation).map (·.answer))
      (exchanges now state (service.callsMade now state operation)) := by
  cases operation with
  | create url tenant =>
    cases h : service.perform now state (.create url tenant) with
    | none =>
      rw [callsMade_of_none h]
      exact .waits (asksBase_base? now state state.directory tenant)
    | some outcome =>
      rw [callsMade_of_some h]
      exact conduct_create h
  | resolve code => exact conduct_resolve now state code
  | createStateless url tenant trim => exact conduct_createStateless now state url tenant trim
  | resolveStateless token tenant => exact conduct_resolveStateless now state token tenant
  | createSealed url => exact .seals
  | resolveSealed token => exact .unseals

/-- With the cache down, a relative link is put together from the store and the directory. -/
example :
    let now : Circumstances := {
      outage := fun kind => if kind = .cacheGet then some (.store "cache.get down") else none }
    let record : LinkRecord := ⟨"b7", "/docs", "acme", 0⟩
    let acme : Tenant := ⟨"acme", "Acme", "https://acme.test/app/", true⟩
    let state : State := {
      ids := ⟨⟨5, by decide⟩, 0⟩, store := ⟨[record], by simp⟩, directory := .put {} acme }
    exchanges now state (resolve now state "b7").calls =
      [⟨.cacheGet "b7", .fault (.store "cache.get down")⟩,
        ⟨.storeFind "b7", .record (some record)⟩,
        ⟨.tenantsGet "acme", .tenant (some acme)⟩,
        ⟨.cacheSet "b7" "https://acme.test/app/docs" 86400, .done⟩] := by
  decide +kernel

/-! ### Rules for calls -/

/-- Whether an operation is on sealed links. -/
def Operation.isSealed : Operation → Bool
  | .createSealed _ | .resolveSealed _ => true
  | _ => false

/-- Whether an operation is on links that carry their URL. -/
def Operation.isStateless : Operation → Bool
  | .createStateless .. | .resolveStateless .. => true
  | _ => false

/-- The code or token that an operation is to resolve is malformed. -/
inductive Rejected : Operation → Malformed → Prop where
  | code {code : String} {reason : Malformed} (h : Refused 200 code reason) :
      Rejected (.resolve code) reason
  | token {token tenant : String} {reason : Malformed} (h : Envelope.Verdict token reason) :
      Rejected (.resolveStateless token tenant) reason

/-- What warrants that a URL is cached under a code: the store has just taken in the link that is
issued for the URL, or has given the record of the link that is resolved to it. -/
inductive Warranted (before : List Exchange) (code url : String) :
    Operation → Option (Except Fault String) → Prop where
  | issued {tenant kept : String} (h : ⟨.storeInsert code kept tenant, .done⟩ ∈ before) :
      Warranted before code url (.create url tenant) (some (.ok code))
  | found {record : LinkRecord} (h : ⟨.storeFind code, .record (some record)⟩ ∈ before) :
      Warranted before code url (.resolve code) (some (.ok url))

/-- The rules for the calls of an operation, which has given an answer if it has ended. -/
structure Disciplined (operation : Operation) (answer : Option (Except Fault String))
    (trace : List Exchange) : Prop where
  /-- A malformed code or token is refused without a call. -/
  refused : ∀ reason, Rejected operation reason →
    answer = some (.error (.malformed reason)) ∧ trace = []
  /-- An answer that something is malformed comes without a call, or from a collaborator. -/
  malformed : ∀ reason, answer = some (.error (.malformed reason)) →
    trace = [] ∨ ∃ call, ⟨call, .fault (.malformed reason)⟩ ∈ trace
  /-- For sealed links nobody is called. -/
  silent : operation.isSealed = true → trace = []
  /-- No two calls are of one kind. -/
  once : (trace.map (·.call.kind)).Nodup
  /-- Nobody looks up the empty tenant. -/
  named : ∀ reply, ⟨.tenantsGet "", reply⟩ ∉ trace
  /-- For links that carry their URL only the directory is called. -/
  stateless : operation.isStateless = true → ∀ exchange ∈ trace, exchange.call.kind = .tenantsGet
  /-- A URL is cached by the last call, and with a warrant. -/
  cached : ∀ code url seconds reply, ⟨.cacheSet code url seconds, reply⟩ ∈ trace →
    ∃ before, trace = before ++ [⟨.cacheSet code url seconds, reply⟩] ∧
      Warranted before code url operation answer
  /-- When the cache has an absolute URL, nobody else is called. -/
  hit : ∀ code url, ⟨.cacheGet code, .url (some url)⟩ ∈ trace → Link.isAbsolute url = true →
    trace = [⟨.cacheGet code, .url (some url)⟩]

theorem AsksBase.kind_eq (h : AsksBase tenant asked) :
    ∀ exchange ∈ asked, exchange.call.kind = .tenantsGet := by
  cases h with
  | nobody => simp
  | directory => simp [Call.kind]

theorem AsksBase.named (h : AsksBase tenant asked) (reply : Reply) :
    ⟨.tenantsGet "", reply⟩ ∉ asked := by
  cases h with
  | nobody => simp
  | directory h => simp [h.symm]

namespace Conduct

theorem refused (h : Conduct operation answer trace) (hrejected : Rejected operation reason) :
    answer = some (.error (.malformed reason)) ∧ trace = [] := by
  cases hrejected with
  | code hrefused =>
    cases h with
    | malformed hcode => exact ⟨by rw [hcode.eq hrefused], rfl⟩
    | hits hcode | fails hcode | misses hcode | finds hcode => exact absurd hrefused hcode.not_refused
  | token hverdict =>
    cases h with
    | rejects htoken => exact ⟨by rw [htoken.eq hverdict], rfl⟩
    | corrupted htoken | expands htoken => exact absurd ⟨_, hverdict⟩ htoken.not_verdict

theorem malformed_cases (h : Conduct operation answer trace)
    (hanswer : answer = some (.error (.malformed reason))) :
    trace = [] ∨ ∃ call, ⟨call, .fault (.malformed reason)⟩ ∈ trace := by
  cases h with
  | malformed | rejects | unseals => exact Or.inl rfl
  | refuses =>
    obtain rfl : _ = Fault.malformed reason := by simpa using hanswer
    exact Or.inr ⟨_, List.mem_append_right _ List.mem_cons_self⟩
  | fails =>
    obtain rfl : _ = Fault.malformed reason := by simpa using hanswer
    exact Or.inr ⟨_, List.mem_cons_of_mem _ List.mem_cons_self⟩
  | _ => simp at hanswer

theorem silent (h : Conduct operation answer trace) (hsealed : operation.isSealed = true) :
    trace = [] := by
  cases h with
  | seals | unseals => rfl
  | _ => cases hsealed

theorem once (h : Conduct operation answer trace) : (trace.map (·.call.kind)).Nodup := by
  cases h with
  | waits hasked | refuses hasked | issues hasked | finds _ _ hasked | carries hasked
  | expands _ hasked =>
    cases hasked with
    | nobody => simp [Call.kind]
    | directory => simp [Call.kind]
  | _ => simp [Call.kind]

theorem named (h : Conduct operation answer trace) (reply : Reply) :
    ⟨.tenantsGet "", reply⟩ ∉ trace := by
  cases h with
  | waits hasked | refuses hasked | issues hasked | finds _ _ hasked | carries hasked
  | expands _ hasked => simp [hasked.named]
  | _ => simp

theorem stateless (h : Conduct operation answer trace) (hstateless : operation.isStateless = true) :
    ∀ exchange ∈ trace, exchange.call.kind = .tenantsGet := by
  cases h with
  | carries hasked | expands _ hasked => exact hasked.kind_eq
  | rejects | corrupted => simp
  | _ => cases hstateless

theorem cached (h : Conduct operation answer trace) {seconds : Nat} {reply : Reply}
    (hset : ⟨.cacheSet code url seconds, reply⟩ ∈ trace) :
    ∃ before, trace = before ++ [⟨.cacheSet code url seconds, reply⟩] ∧
      Warranted before code url operation answer := by
  cases h with
  | issues hasked =>
    rcases List.mem_append.mp hset with hin | hin
    · cases hasked.kind_eq _ hin
    · obtain ⟨⟨rfl, rfl, rfl⟩, rfl⟩ : (_ ∧ _ ∧ _) ∧ _ := by simpa using hin
      exact ⟨_ ++ [_], List.append_cons _ _ _,
        .issued (List.mem_append_right _ List.mem_cons_self)⟩
  | finds _ _ hasked =>
    rcases List.mem_append.mp hset with hin | hin
    · rcases List.mem_append.mp hin with hin | hin
      · simp at hin
      · cases hasked.kind_eq _ hin
    · obtain ⟨⟨rfl, rfl, rfl⟩, rfl⟩ : (_ ∧ _ ∧ _) ∧ _ := by simpa using hin
      exact ⟨_, rfl, .found (List.mem_append_left _ (List.mem_cons_of_mem _ List.mem_cons_self))⟩
  | waits hasked | carries hasked | expands _ hasked => cases hasked.kind_eq _ hset
  | refuses hasked =>
    rcases List.mem_append.mp hset with hin | hin
    · cases hasked.kind_eq _ hin
    · simp at hin
  | _ => simp at hset

theorem hit (h : Conduct operation answer trace)
    (hget : ⟨.cacheGet code, .url (some url)⟩ ∈ trace) (habsolute : Link.isAbsolute url = true) :
    trace = [⟨.cacheGet code, .url (some url)⟩] := by
  cases h with
  | hits =>
    obtain ⟨rfl, rfl⟩ : _ ∧ _ := by simpa using hget
    rfl
  | fails _ hreply | misses _ hreply =>
    obtain ⟨-, hreply'⟩ : _ ∧ _ := by simpa using hget
    exact absurd hreply'.symm (hreply.ne habsolute)
  | finds _ hreply hasked =>
    rcases List.mem_append.mp hget with hin | hin
    · rcases List.mem_append.mp hin with hin | hin
      · obtain ⟨-, hreply'⟩ : _ ∧ _ := by simpa using hin
        exact absurd hreply'.symm (hreply.ne habsolute)
      · cases hasked.kind_eq _ hin
    · simp at hin
  | waits hasked | carries hasked | expands _ hasked => cases hasked.kind_eq _ hget
  | refuses hasked | issues hasked =>
    rcases List.mem_append.mp hget with hin | hin
    · cases hasked.kind_eq _ hin
    · simp at hin
  | _ => simp at hget

end Conduct

/-- Whatever the state of the collaborators, and whatever calls fail, the calls of an operation keep
the rules. They are also all that it does: what it leaves behind in store, cache and directory is
what its calls do there, each failing call doing nothing. -/
theorem calls_disciplined (service : LinkService) (now : Circumstances) (state : State)
    (operation : Operation) :
    Disciplined operation ((service.perform now state operation).map (·.answer))
      (exchanges now state (service.callsMade now state operation)) ∧
    ∀ outcome ∈ service.perform now state operation,
      outcome.calls = service.callsMade now state operation ∧
      ∃ ids, outcome.state = { served now state outcome.calls with ids } := by
  have hconduct := conduct_callsMade service now state operation
  refine ⟨?_, fun outcome houtcome => ⟨(callsMade_of_some houtcome).symm, served_calls houtcome⟩⟩
  exact {
    refused := fun _ => hconduct.refused
    malformed := fun _ => hconduct.malformed_cases
    silent := hconduct.silent
    once := hconduct.once
    named := hconduct.named
    stateless := hconduct.stateless
    cached := fun _ _ _ _ => hconduct.cached
    hit := fun _ _ => hconduct.hit }

end ShortLink.LinkService
