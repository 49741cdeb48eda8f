import Mathlib.Data.List.Induction
import ShortLink.Link.Cache

/-!
# What the cache answers

The cache removes an entry when a look-up finds it expired, so looking up changes it. As long as its
clock does not go back this does not show: an entry that has expired stays expired, and a later write
puts a new one in its place. So the cache answers as if nothing were ever removed, from the last write
of a code alone.

## Main definitions

- `LinkCache.Access`, `LinkCache.after` — calls on a cache, and the cache after them
- `LinkCache.writtenBy` — the cache after the same calls, from which nothing is removed
- `LinkCache.LastWritten` — the last write of a code, as long as it has not expired
- `LinkCache.AgreeFrom` — caches that give the same answers from an instant on

## Main results

- `LinkCache.AgreeFrom.sweep`, `LinkCache.AgreeFrom.apply` — a removal changes no answer, and no call
  makes caches that agree differ
- `LinkCache.agreeFrom_writtenBy` — a run with removals agrees with the one without
- `LinkCache.get_after` — an answer as a function of the calls before it
-/

namespace ShortLink

variable {cache other : LinkCache} {entry : CacheEntry} {now start «until» : Instant}
  {code url : String} {span : Nat}

/-- An entry that has expired stays expired. -/
theorem CacheEntry.isLive_of_le (hle : start ≤ now) (h : entry.isLive now = true) :
    entry.isLive start = true := by
  obtain ⟨url, deadline⟩ := entry
  cases deadline with
  | none => rfl
  | some deadline =>
    have hlive : now < deadline := of_decide_eq_true h
    exact decide_eq_true (Nat.lt_of_le_of_lt hle hlive)

/-- A new entry lives until its span is over, and for ever when the clock has no such instant. -/
theorem CacheEntry.isLive_after?_iff :
    CacheEntry.isLive ⟨url, start.after? span⟩ now = true ↔
      Instant.limit ≤ start + span ∨ now < start + span := by
  unfold Instant.after? isLive
  split
  · next hrepresentable =>
    rw [Option.all_some, decide_eq_true_eq]
    exact (or_iff_right (Nat.not_le.mpr hrepresentable)).symm
  · next hlimit => exact iff_of_true rfl (Or.inl (Nat.not_lt.mp hlimit))

namespace LinkCache

/-- The URL of a code whose entry has not expired. -/
def read (cache : LinkCache) (now : Instant) (code : String) : Option String :=
  ((cache.entries.lookup code).filter (·.isLive now)).map (·.url)

/-- The cache without the entry of a code if that has expired. -/
def sweep (cache : LinkCache) (now : Instant) (code : String) : LinkCache :=
  match cache.entries.lookup code with
  | some entry => if entry.isLive now then cache else cache.erase code
  | none => cache

/-- A call on a cache, with the reading of its clock. -/
inductive Access where
  | set (now : Instant) (code url : String) (span : Nat)
  | get (now : Instant) (code : String)
  deriving DecidableEq

/-- When a call is made. -/
def Access.instant : Access → Instant
  | set now _ _ _ => now
  | get now _ => now

/-- The code for which a call writes an entry. -/
def Access.written? : Access → Option String
  | set _ code _ _ => some code
  | get _ _ => none

/-- The cache after a call. -/
def apply (cache : LinkCache) : Access → LinkCache
  | .set now code url span => cache.set now code url span
  | .get now code => (cache.get now code).2

/-- The cache after calls. -/
def after (cache : LinkCache) (history : List Access) : LinkCache := history.foldl apply cache

/-- The cache after a call that removes nothing. -/
def write (cache : LinkCache) : Access → LinkCache
  | .set now code url span => cache.set now code url span
  | .get _ _ => cache

/-- The cache after calls that remove nothing. -/
def writtenBy (cache : LinkCache) (history : List Access) : LinkCache := history.foldl write cache

/-- The last write of a code put a URL into the cache that has not expired. -/
def LastWritten (history : List Access) (now : Instant) (code url : String) : Prop :=
  ∃ earlier start span later, history = earlier ++ .set start code url span :: later ∧
    (∀ access ∈ later, access.written? ≠ some code) ∧
    (Instant.limit ≤ start + span ∨ now < start + span)

/-- Two caches give the same answers from an instant on. -/
def AgreeFrom (start : Instant) (cache other : LinkCache) : Prop :=
  ∀ now, start ≤ now → ∀ code, cache.read now code = other.read now code

/-! ### Reading and sweeping -/

/-- A look-up reads the cache, and sweeps it. -/
theorem get_eq (cache : LinkCache) (now : Instant) (code : String) :
    cache.get now code = (cache.read now code, cache.sweep now code) := by
  unfold get read sweep
  cases cache.entries.lookup code with
  | none => rfl
  | some entry => cases hlive : entry.isLive now <;> simp [Option.filter_some, hlive]

theorem read_set (start now : Instant) (code other url : String) (span : Nat) :
    (cache.set start code url span).read now other =
      if other = code then
        if Instant.limit ≤ start + span ∨ now < start + span then some url else none
      else cache.read now other := by
  rw [read, lookup_set]
  split
  · have hlive : CacheEntry.isLive ⟨url, start.after? span⟩ now = true ↔
        Instant.limit ≤ start + span ∨ now < start + span := CacheEntry.isLive_after?_iff
    simp only [← hlive, Option.filter_some]
    split <;> rfl
  · rfl

/-- A sweep takes nothing away that could be read later. -/
theorem read_sweep (hle : start ≤ now) (code other : String) :
    (cache.sweep start code).read now other = cache.read now other := by
  unfold sweep
  split
  next entry hentry =>
    split
    next => rfl
    next hexpired =>
      have hstays : ¬entry.isLive now = true := mt (CacheEntry.isLive_of_le hle) hexpired
      rw [read, read, lookup_erase]
      split
      next hcode => rw [hcode, hentry, Option.filter_some, if_neg hstays]; rfl
      next => rfl
  next => rfl

/-! ### Agreement from an instant on -/

namespace AgreeFrom

theorem refl (start : Instant) (cache : LinkCache) : AgreeFrom start cache cache :=
  fun _ _ _ => rfl

theorem trans {third : LinkCache} (h : AgreeFrom start cache other)
    (hthird : AgreeFrom start other third) : AgreeFrom start cache third :=
  fun now hle code => (h now hle code).trans (hthird now hle code)

theorem mono {later : Instant} (h : AgreeFrom start cache other) (hle : start ≤ later) :
    AgreeFrom later cache other :=
  fun now hlater => h now (Nat.le_trans hle hlater)

/-- A sweep changes no answer from its instant on. -/
theorem sweep (cache : LinkCache) (start : Instant) (code : String) :
    AgreeFrom start (cache.sweep start code) cache :=
  fun _ hle other => read_sweep hle code other

/-- What is written into caches that agree can be read from both. -/
theorem write (h : AgreeFrom start cache other) (access : Access) :
    AgreeFrom start (cache.write access) (other.write access) := by
  cases access with
  | set instant code url span =>
    intro now hle another
    rw [LinkCache.write, LinkCache.write, read_set, read_set, h now hle another]
  | get instant code => exact h

/-- A call does what it writes, as far as answers after it go. -/
theorem apply_write (cache : LinkCache) (access : Access) :
    AgreeFrom access.instant (cache.apply access) (cache.write access) := by
  cases access with
  | set instant code url span => exact refl instant _
  | get instant code =>
    show AgreeFrom instant (cache.get instant code).2 cache
    rw [get_eq]
    exact sweep cache instant code

/-- Calls until an instant make caches that agree from then on no different. -/
theorem after_writtenBy {history : List Access} (h : AgreeFrom start cache other)
    (hhistory : ∀ access ∈ history, access.instant ≤ start) :
    AgreeFrom start (cache.after history) (other.writtenBy history) := by
  induction history generalizing cache other with
  | nil => exact h
  | cons access later ih =>
    rw [List.forall_mem_cons] at hhistory
    have hstep : AgreeFrom start (cache.apply access) (cache.write access) :=
      (apply_write cache access).mono hhistory.1
    exact ih (hstep.trans (h.write access)) hhistory.2

end AgreeFrom

/-! ### The last write -/

theorem writtenBy_append (cache : LinkCache) (earlier later : List Access) :
    cache.writtenBy (earlier ++ later) = (cache.writtenBy earlier).writtenBy later :=
  List.foldl_append

theorem lastWritten_nil : ¬LastWritten [] now code url := by
  rintro ⟨earlier, start, span, later, h, -⟩
  cases earlier <;> cases h

/-- One more call is the last write of a code, or leaves the last write of the code as it is. -/
theorem lastWritten_concat_iff {history : List Access} {access : Access} :
    LastWritten (history ++ [access]) now code url ↔
      (∃ start span, access = .set start code url span ∧
        (Instant.limit ≤ start + span ∨ now < start + span)) ∨
      (access.written? ≠ some code ∧ LastWritten history now code url) := by
  constructor
  · rintro ⟨earlier, start, span, later, hsplit, hlater, hlives⟩
    rcases List.eq_nil_or_concat later with rfl | ⟨rest, last, rfl⟩
    · obtain ⟨-, hlast⟩ := List.append_inj' hsplit rfl
      exact Or.inl ⟨start, span, List.singleton_inj.mp hlast, hlives⟩
    · rw [List.concat_eq_append] at hlater hsplit
      rw [← List.cons_append, ← List.append_assoc] at hsplit
      obtain ⟨hhistory, hlast⟩ := List.append_inj' hsplit rfl
      obtain rfl := List.singleton_inj.mp hlast
      rw [List.forall_mem_append, List.forall_mem_singleton] at hlater
      exact Or.inr ⟨hlater.2, earlier, start, span, rest, hhistory, hlater.1, hlives⟩
  · rintro (⟨start, span, rfl, hlives⟩ | ⟨hkept, earlier, start, span, later, rfl, hlater, hlives⟩)
    · exact ⟨history, start, span, [], rfl, List.forall_mem_nil _, hlives⟩
    · refine ⟨earlier, start, span, later ++ [access], ?_, ?_, hlives⟩
      · rw [List.append_assoc, List.cons_append]
      · rw [List.forall_mem_append, List.forall_mem_singleton]
        exact ⟨hlater, hkept⟩

/-- Without removals the entry of a code is what was written last for it. -/
theorem read_writtenBy_iff {history : List Access} :
    (writtenBy {} history).read now code = some url ↔ LastWritten history now code url := by
  induction history using List.reverseRecOn with
  | nil => exact iff_of_false (fun h => nomatch h) lastWritten_nil
  | append_singleton history access ih =>
    rw [writtenBy_append, lastWritten_concat_iff, ← ih]
    show ((writtenBy {} history).write access).read now code = some url ↔ _
    cases access with
    | set start other text span =>
      rw [write, read_set]
      by_cases hcode : code = other
      · subst hcode
        by_cases hlives : Instant.limit ≤ start + span ∨ now < start + span <;>
          simp [Access.written?, hlives]
      · simp [Access.written?, hcode, Ne.symm hcode]
    | get start other => simp [write, Access.written?]

/-! ### Runs -/

/-- The cache answers a look-up with the URL that was written last for the code, unless that has
expired by then, and with nothing otherwise. Entries that have expired are removed by look-ups, but
the answer is the one without any removal, and one more removal of what has expired, at whatever
point and for whatever instant up to the look-up, does not change it either. -/
theorem get_after {history : List Access}
    (hascending : (history.map Access.instant ++ [now]).Pairwise (· ≤ ·)) (code : String) :
    (∀ url, ((after {} history).get now code).1 = some url ↔ LastWritten history now code url) ∧
    ((after {} history).get now code).1 = ((writtenBy {} history).get now code).1 ∧
    (∀ earlier later start other, history = earlier ++ later → start ≤ now →
      ((((after {} earlier).sweep start other).after later).get now code).1
        = ((after {} history).get now code).1) := by
  have hpast : ∀ access ∈ history, access.instant ≤ now := by
    intro access haccess
    exact (List.pairwise_append.mp hascending).2.2 _ (List.mem_map_of_mem haccess) now
      (List.mem_singleton_self now)
  have hagree : AgreeFrom now (after {} history) (writtenBy {} history) :=
    (AgreeFrom.refl now {}).after_writtenBy hpast
  simp only [get_eq]
  refine ⟨fun url => ?_, hagree now (Nat.le_refl now) code, ?_⟩
  · rw [hagree now (Nat.le_refl now) code, read_writtenBy_iff]
  · rintro earlier later start other rfl hstart
    have hearlier : AgreeFrom now (after {} earlier) (writtenBy {} earlier) :=
      (AgreeFrom.refl now {}).after_writtenBy fun access haccess =>
        hpast access (List.mem_append_left later haccess)
    have hswept : AgreeFrom now ((after {} earlier).sweep start other) (writtenBy {} earlier) :=
      ((AgreeFrom.sweep (after {} earlier) start other).mono hstart).trans hearlier
    have hboth : AgreeFrom now (((after {} earlier).sweep start other).after later)
        (writtenBy {} (earlier ++ later)) := by
      rw [writtenBy_append]
      exact hswept.after_writtenBy fun access haccess =>
        hpast access (List.mem_append_right earlier haccess)
    rw [hboth now (Nat.le_refl now) code, hagree now (Nat.le_refl now) code]

/-- An entry that expired and was looked up, a newer one in its place, and one without a deadline. -/
theorem get_after_refreshed :
    let history : List Access := [.set 0 "k" "old" 0, .get 1 "k", .set 5 "k" "new" 60,
      .set 6 "m" "kept" Instant.limit, .get 7 "k"]
    ((after {} history).get 64 "k").1 = some "new" ∧
      ((after {} history).get 64 "m").1 = some "kept" := by
  intro history
  have hascending : (history.map Access.instant ++ [64]).Pairwise (· ≤ ·) := by decide
  constructor
  · refine ((get_after hascending "k").1 "new").mpr ?_
    exact ⟨[.set 0 "k" "old" 0, .get 1 "k"], 5, 60, [.set 6 "m" "kept" Instant.limit, .get 7 "k"],
      rfl, by decide, Or.inr (by decide)⟩
  · refine ((get_after hascending "m").1 "kept").mpr ?_
    exact ⟨[.set 0 "k" "old" 0, .get 1 "k", .set 5 "k" "new" 60], 6, Instant.limit, [.get 7 "k"],
      rfl, by decide, Or.inl (by decide)⟩

end LinkCache

end ShortLink
