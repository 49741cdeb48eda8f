import ShortLink.Proofs.TimedId.ClosedForm
import ShortLink.Proofs.TimedId.SteadyClock

/-!
# Ids that outgrow their layout

A reading of the clock is reduced to the 41 bits of a timestamp. The millisecond that an id borrows
behind a clock that has stepped back is not, and the one after the last of 41 bits needs 42. There is
no other way for an id to pass 59 bits. Once one has done so all later ones do, so whether the ids of
a run keep to the layout is settled by the last of them.

## Main definitions

- `TimedId.Generator.Attempt.Overflows` — a reading at which a timestamp of 42 bits is borrowed

## Main results

- `TimedId.Generator.state_lt_clockWords_iff` — an attempt leaves the layout only by overflow
- `TimedId.Generator.issues_fit_iff` — a run keeps to the layout when no attempt overflows
- `TimedId.Generator.ids_fit_layout_iff` — which runs keep to it, by their readings
-/

namespace ShortLink.TimedId

/-- An id keeps to its 59 bits when its timestamp keeps to 41. -/
theorem timestamp_lt_iff (id : UInt64) :
    (parts id).timestamp.toNat < 2 ^ 41 ↔ id.toNat < 2 ^ 59 := by
  rw [(toNat_parts id).1]
  omega

namespace Generator

variable {generator after : Generator} {clock id : UInt64} {readings : List UInt64} {issue : Issue}
  {k : Nat}

/-- The ids of the last millisecond that has 41 bits are used up, and the clock shows an earlier
one. -/
def Attempt.Overflows (attempt : Attempt) : Prop :=
  attempt.generator.BorrowsAt attempt.clock ∧
    (attempt.generator.state >>> 8).toNat = 2 ^ 41 - 1

/-- The words that a clock leads to by itself are those whose ids keep to the layout. -/
theorem lastId_lt_iff (h : generator.state.toNat < safeWords) :
    generator.lastId.toNat < 2 ^ 59 ↔ generator.state.toNat < clockWords := by
  have hword := word_of_parts h
  have hsequence := (parts generator.lastId).sequence.toNat_lt
  rw [← timestamp_lt_iff, clockWords]
  omega

/-- Behind the clock the word stays among those of the clock, and ahead of it the next one is still
one of them unless it starts a millisecond of 42 bits. -/
theorem state_lt_clockWords_iff (hstate : generator.state.toNat < clockWords)
    (h : generator.attempt clock = some (id, after)) :
    after.state.toNat < clockWords ↔ ¬Attempt.Overflows ⟨generator, clock⟩ := by
  have hclock := millis_lt clock
  unfold clockWords at hstate ⊢
  obtain ⟨-, -, hword⟩ := attempt_eq_some (by omega) h
  have hwaits : ¬generator.WaitsAt clock := by
    rw [← attempt_eq_none_iff, h]
    exact Option.some_ne_none _
  rw [waitsAt_iff] at hwaits
  rw [toNat_elapsed] at hword
  simp only [Attempt.Overflows, borrowsAt_iff, toNat_shiftRight_eight]
  omega

/-- The id of an attempt keeps to the layout unless a timestamp of 42 bits is borrowed for it. -/
theorem id_lt_iff (hstate : generator.state.toNat < clockWords)
    (h : generator.attempt clock = some (id, after)) :
    id.toNat < 2 ^ 59 ↔ ¬Attempt.Overflows ⟨generator, clock⟩ := by
  obtain ⟨-, rfl, -, hbound⟩ := attempt_eq_some_of_lt (m := 0) hstate (by decide) h
  rw [← state_lt_clockWords_iff hstate h, lastId_lt_iff (lt_safeWords hbound (by decide))]

/-- The ids of a run keep to the layout when no attempt overflows. -/
theorem issues_fit_iff (hstate : generator.state.toNat < clockWords) :
    (∀ issue ∈ generator.issues readings, issue.id.toNat < 2 ^ 59) ↔
      ∀ attempt ∈ generator.attempts readings, ¬attempt.Overflows := by
  induction readings generalizing generator with
  | nil => exact iff_of_true (fun _ h => nomatch h) (fun _ h => nomatch h)
  | cons clock later ih =>
    cases hattempt : generator.attempt clock with
    | none =>
      have hkept : ¬Attempt.Overflows ⟨generator, clock⟩ := by
        rintro ⟨hborrows, -⟩
        rw [attempt_of_borrowsAt hborrows] at hattempt
        cases hattempt
      rw [issues_cons_none hattempt, attempts_cons_none hattempt, List.forall_mem_cons, ih hstate]
      exact (and_iff_right hkept).symm
    | some answer =>
      obtain ⟨id, after⟩ := answer
      rw [issues_cons_some hattempt, attempts_cons_some hattempt, List.forall_mem_cons,
        List.forall_mem_cons, id_lt_iff hstate hattempt]
      -- Only an id within the layout leaves a word to which the rest of the run applies.
      exact and_congr_right fun hkept => ih ((state_lt_clockWords_iff hstate hattempt).mpr hkept)

/-! ### By the readings -/

/-- An id of a run keeps to the layout when the number that its fields make up does. -/
theorem id_lt_iff_of_issues {node : NodeId} (hk : k + 1 < 2 ^ 53)
    (h : ((fresh node).issues readings)[k]? = some issue) :
    issue.id.toNat < 2 ^ 59 ↔ k + 1 < 2 ^ 49 ∧ ∀ j < k + 1,
      256 * nowAt ((fresh node).issues readings) j + (k - j) < 2 ^ 49 := by
  obtain ⟨-, hid, -, hbound⟩ := getElem?_issues (toNat_state_fresh_lt node) (by omega) h
  rw [hid, lastId_lt_iff (lt_safeWords hbound (by omega)), state_eq_of_issues (by omega) h,
    clockWords, max_lt_iff, Finset.sup_lt_iff (by decide)]
  simp only [Finset.mem_range]

theorem forall_issued_lt_iff {node : NodeId} {calls : Nat} {issued : List (UInt64 × Generator)}
    (hcalls : calls < 2 ^ 53) (h : (fresh node).issued? readings calls = some issued) :
    (∀ issue ∈ issued, issue.1.toNat < 2 ^ 59) ↔ calls < 2 ^ 49 ∧ ∀ j < calls,
      256 * nowAt ((fresh node).issues readings) j + (calls - 1 - j) < 2 ^ 49 := by
  rw [issued?_eq] at h
  split at h
  next hlength =>
    obtain rfl := Option.some.inj h
    have hissue : ∀ k < calls, ∃ issue, ((fresh node).issues readings)[k]? = some issue := by
      intro k hk
      exact ⟨_, List.getElem?_eq_getElem (Nat.lt_of_lt_of_le hk hlength)⟩
    constructor
    · intro hfits
      cases calls with
      | zero => exact ⟨by decide, fun j hj => absurd hj (Nat.not_lt_zero j)⟩
      | succ k =>
        obtain ⟨issue, hlast⟩ := hissue k (Nat.lt_succ_self k)
        refine (id_lt_iff_of_issues hcalls hlast).mp (hfits (issue.id, issue.after) ?_)
        refine List.mem_map_of_mem (List.mem_of_getElem? (i := k) ?_)
        rw [List.getElem?_take_of_lt (Nat.lt_succ_self k), hlast]
    · rintro ⟨hfew, hnow⟩ issue hissue
      obtain ⟨issue, hmem, rfl⟩ := List.mem_map.mp hissue
      obtain ⟨k, hk⟩ := List.getElem?_of_mem hmem
      rw [List.getElem?_take] at hk
      split at hk
      next hlt =>
        -- An earlier id is below what the last one has to be below.
        refine (id_lt_iff_of_issues (by omega) hk).mpr ⟨by omega, fun j hj => ?_⟩
        have hlast := hnow j (by omega)
        omega
      next => cases hk
  next => cases h

/-- The ids of a generator keep to the 59 bits of their layout, and their timestamps to 41, except
where the clock steps back behind the last millisecond of 41 bits and its ids run out. For a number
of calls this is settled by the readings of the clock at which the ids were issued. It never happens
under a clock that does not step back and shows nothing past the 41 bits. -/
theorem ids_fit_layout_iff (node : NodeId) (readings : List UInt64) :
    ((∀ issue ∈ (fresh node).issues readings, issue.id.toNat < 2 ^ 59) ↔
      ∀ attempt ∈ (fresh node).attempts readings, ¬attempt.Overflows) ∧
    (∀ issue ∈ (fresh node).issues readings,
      (parts issue.id).timestamp.toNat < 2 ^ 41 ↔ issue.id.toNat < 2 ^ 59) ∧
    (∀ calls issued, calls < 2 ^ 53 → (fresh node).issued? readings calls = some issued →
      ((∀ issue ∈ issued, issue.1.toNat < 2 ^ 59) ↔ calls < 2 ^ 49 ∧ ∀ j < calls,
        256 * nowAt ((fresh node).issues readings) j + (calls - 1 - j) < 2 ^ 49)) ∧
    (IsSteady readings →
      ∀ issue ∈ (fresh node).issues readings, issue.id.toNat < 2 ^ 59) := by
  have hruns : (∀ issue ∈ (fresh node).issues readings, issue.id.toNat < 2 ^ 59) ↔
      ∀ attempt ∈ (fresh node).attempts readings, ¬attempt.Overflows :=
    issues_fit_iff (toNat_state_fresh_lt node)
  refine ⟨hruns, fun issue _ => timestamp_lt_iff issue.id,
    fun calls issued hcalls h => forall_issued_lt_iff hcalls h, fun hsteady => hruns.mpr ?_⟩
  rintro attempt hattempt ⟨hborrows, -⟩
  have hreached := (hsteady.leads node).reached_of_mem_attempts attempt hattempt
  obtain ⟨-, hbehind⟩ := borrowsAt_iff.mp hborrows
  omega

/-- The last millisecond of 41 bits, and a clock that steps back behind it for two more ids. -/
theorem ids_fit_layout_iff_at_horizon :
    let readings := [epoch + 0x1ffffffffff, epoch + 1000, epoch + 1000]
    let issued := ((fresh ⟨5, by decide⟩).issued? readings 3).getD []
    (fresh ⟨5, by decide⟩).issued? readings 3 = some issued ∧
      issued.map (fun issue => parts issue.1)
        = [⟨0x1ffffffffff, 5, 0⟩, ⟨0x1ffffffffff, 5, 1⟩, ⟨0x1ffffffffff, 5, 2⟩] ∧
      ∀ issue ∈ issued, issue.1.toNat < 2 ^ 59 := by
  intro readings issued
  have hissued : (fresh ⟨5, by decide⟩).issued? readings 3 = some issued := by decide +kernel
  obtain ⟨-, -, hcalls, -⟩ := ids_fit_layout_iff ⟨5, by decide⟩ readings
  exact ⟨hissued, by decide +kernel, (hcalls 3 issued (by decide) hissued).mpr (by decide +kernel)⟩

/-- The same clock for 256 more ids. The last of them needs 60 bits, 42 of them for its
timestamp. -/
theorem id_outgrows_layout :
    let readings := (epoch + 0x1ffffffffff) :: List.replicate 256 (epoch + 1000)
    let issued := ((fresh ⟨5, by decide⟩).issued? readings 257).getD []
    (fresh ⟨5, by decide⟩).issued? readings 257 = some issued ∧
      (issued[256]?.map fun issue => parts issue.1) = some ⟨0x20000000000, 5, 0⟩ ∧
      ¬∀ issue ∈ issued, issue.1.toNat < 2 ^ 59 := by
  decide +kernel

end Generator

end ShortLink.TimedId
