import ShortLink.Proofs.TimedId.Attempts

/-!
# Ids under a steady clock

As long as the clock never steps back and shows no more than 41 bits hold, a generator is never ahead
of it. Then every id carries the millisecond in which it was issued, and the ids of a millisecond are
numbered without a gap. In the first one they begin with one, for a generator starts as if it had
issued the very first id.

## Main definitions

- `TimedId.Generator.Leads` — the clock is at least at the last timestamp, and never steps back
- `TimedId.Generator.sequencesAt` — the sequence numbers of the ids with a timestamp

## Main results

- `TimedId.Generator.Leads.of_attempt` — the clock stays at the last timestamp or ahead
- `TimedId.Generator.timestamps_of_steady_clock` — timestamps and sequence numbers of a run
-/

namespace ShortLink.TimedId.Generator

variable {generator after : Generator} {clock id : UInt64} {readings later : List UInt64}

/-- The readings to come never step back, not even behind the last timestamp. -/
structure Leads (readings : List UInt64) (generator : Generator) : Prop where
  ascending : readings.Pairwise fun earlier later => millis earlier ≤ millis later
  reached : ∀ clock ∈ readings, generator.state.toNat / 2 ^ 8 ≤ millis clock

/-- An id takes the millisecond that the clock shows, and the next number in it. -/
theorem attempt_of_reached (hreached : generator.state.toNat / 2 ^ 8 ≤ millis clock)
    (h : generator.attempt clock = some (id, after)) :
    id = after.lastId ∧ after.state.toNat / 2 ^ 8 = millis clock ∧
      after.state.toNat % 2 ^ 8 =
        if millis clock = generator.state.toNat / 2 ^ 8 then generator.state.toNat % 2 ^ 8 + 1
        else 0 := by
  have hclock := millis_lt clock
  obtain ⟨-, hid, hword⟩ := attempt_eq_some (by omega) h
  rw [toNat_elapsed] at hword
  have hroom : millis clock = generator.state.toNat / 2 ^ 8 → generator.state.toNat % 2 ^ 8 ≠ 255 := by
    intro hsame hfull
    rw [attempt_eq_none_iff.mpr (waitsAt_iff.mpr ⟨hfull, hsame⟩)] at h
    cases h
  refine ⟨hid, ?_, ?_⟩
  · omega
  · split <;> omega

theorem Leads.tail (h : Leads (clock :: later) generator) : Leads later generator where
  ascending := h.ascending.of_cons
  reached := fun next hnext => h.reached next (List.mem_cons_of_mem clock hnext)

/-- The clock stays ahead, because an id takes the millisecond that it shows. -/
theorem Leads.of_attempt (h : Leads (clock :: later) generator)
    (hattempt : generator.attempt clock = some (id, after)) : Leads later after where
  ascending := h.ascending.of_cons
  reached := by
    intro next hnext
    rw [(attempt_of_reached (h.reached clock List.mem_cons_self) hattempt).2.1]
    exact List.rel_of_pairwise_cons h.ascending hnext

theorem Leads.settle (h : Leads (clock :: later) generator) :
    Leads later (generator.settle clock) := by
  rw [Generator.settle]
  split
  · next hattempt => exact h.of_attempt hattempt
  · exact h.tail

/-- No attempt finds the clock behind the last timestamp. -/
theorem Leads.reached_of_mem_attempts (h : Leads readings generator) :
    ∀ attempt ∈ generator.attempts readings,
      attempt.generator.state.toNat / 2 ^ 8 ≤ millis attempt.clock := by
  induction readings generalizing generator with
  | nil =>
    intro attempt hattempt
    cases hattempt
  | cons clock later ih =>
    rw [attempts, List.forall_mem_cons]
    exact ⟨h.reached clock List.mem_cons_self, ih h.settle⟩

/-- Fields of an id that was issued under such a clock. -/
theorem parts_of_reached (hreached : generator.state.toNat / 2 ^ 8 ≤ millis clock)
    (h : generator.attempt clock = some (id, after)) :
    (parts id).timestamp.toNat = millis clock ∧
      (parts id).sequence.toNat = after.state.toNat % 2 ^ 8 := by
  have hclock := millis_lt clock
  obtain ⟨rfl, htime, -⟩ := attempt_of_reached hreached h
  have hnode := after.node.toNat_lt
  obtain ⟨htimestamp, -, hsequence⟩ := toNat_parts after.lastId
  rw [toNat_lastId (by omega)] at htimestamp hsequence
  omega

/-- The millisecond of an id is the one of its reading. -/
theorem Leads.timestamp_of_mem_issues (h : Leads readings generator) :
    ∀ issue ∈ generator.issues readings,
      issue.clock ∈ readings ∧ (parts issue.id).timestamp.toNat = millis issue.clock := by
  induction readings generalizing generator with
  | nil =>
    intro issue hissue
    cases hissue
  | cons clock later ih =>
    cases hattempt : generator.attempt clock with
    | none =>
      rw [issues_cons_none hattempt]
      intro issue hissue
      obtain ⟨hmem, htime⟩ := ih h.tail issue hissue
      exact ⟨List.mem_cons_of_mem clock hmem, htime⟩
    | some answer =>
      obtain ⟨id, after⟩ := answer
      rw [issues_cons_some hattempt, List.forall_mem_cons]
      refine ⟨⟨List.mem_cons_self,
        (parts_of_reached (h.reached clock List.mem_cons_self) hattempt).1⟩, ?_⟩
      intro issue hissue
      obtain ⟨hmem, htime⟩ := ih (h.of_attempt hattempt) issue hissue
      exact ⟨List.mem_cons_of_mem clock hmem, htime⟩

/-! ### Numbers in a millisecond -/

/-- The sequence numbers of the ids with a timestamp, in the order of their issue. -/
def sequencesAt (issues : List Issue) (timestamp : Nat) : List Nat :=
  (issues.filter fun issue => (parts issue.id).timestamp.toNat = timestamp).map
    fun issue => (parts issue.id).sequence.toNat

theorem sequencesAt_cons (issue : Issue) (later : List Issue) (timestamp : Nat) :
    sequencesAt (issue :: later) timestamp =
      if (parts issue.id).timestamp.toNat = timestamp then
        (parts issue.id).sequence.toNat :: sequencesAt later timestamp
      else sequencesAt later timestamp := by
  rw [sequencesAt, List.filter_cons]
  simp only [decide_eq_true_eq]
  split
  · rfl
  · rfl

/-- A millisecond that is over gets no more ids. -/
theorem Leads.sequencesAt_eq_nil (h : Leads readings generator) {timestamp : Nat}
    (hover : timestamp < generator.state.toNat / 2 ^ 8) :
    sequencesAt (generator.issues readings) timestamp = [] := by
  rw [sequencesAt, List.map_eq_nil_iff, List.filter_eq_nil_iff]
  intro issue hissue
  obtain ⟨hmem, htime⟩ := h.timestamp_of_mem_issues issue hissue
  have hreached := h.reached issue.clock hmem
  rw [decide_eq_true_eq, htime]
  omega

/-- The number that the next id in a millisecond gets. -/
def nextSequence (generator : Generator) (timestamp : Nat) : Nat :=
  if timestamp = generator.state.toNat / 2 ^ 8 then generator.state.toNat % 2 ^ 8 + 1 else 0

/-- In each millisecond, the ids to come go on from the last number without a gap. -/
theorem Leads.sequencesAt_eq (h : Leads readings generator) (timestamp : Nat) :
    ∃ n, sequencesAt (generator.issues readings) timestamp =
        List.range' (generator.nextSequence timestamp) n ∧
      generator.nextSequence timestamp + n ≤ 256 := by
  induction readings generalizing generator with
  | nil =>
    refine ⟨0, rfl, ?_⟩
    rw [nextSequence]
    split <;> omega
  | cons clock later ih =>
    cases hattempt : generator.attempt clock with
    | none =>
      rw [issues_cons_none hattempt]
      exact ih h.tail
    | some answer =>
      obtain ⟨id, after⟩ := answer
      have hreached := h.reached clock List.mem_cons_self
      obtain ⟨-, hafter, hnumber⟩ := attempt_of_reached hreached hattempt
      obtain ⟨htime, hsequence⟩ := parts_of_reached hreached hattempt
      obtain ⟨n, hlater, hroom⟩ := ih (h.of_attempt hattempt)
      rw [issues_cons_some hattempt, sequencesAt_cons, htime, hsequence]
      rw [nextSequence, hafter] at hlater hroom
      rw [nextSequence]
      split
      next hnow =>
        -- The new id is the next one of its millisecond.
        subst hnow
        rw [if_pos rfl] at hlater hroom
        rw [hlater, ← hnumber, ← List.range'_succ]
        exact ⟨n + 1, rfl, by omega⟩
      next hother =>
        rw [if_neg (Ne.symm hother)] at hlater hroom
        split
        next hlast =>
          -- The last millisecond is over.
          refine ⟨0, (h.of_attempt hattempt).sequencesAt_eq_nil (by omega), by omega⟩
        next => exact ⟨n, hlater, hroom⟩

/-! ### Runs from the start -/

/-- The clock never steps back and shows nothing past the 41 bits of a timestamp. -/
structure IsSteady (readings : List UInt64) : Prop where
  ascending : readings.Pairwise (· ≤ ·)
  in_range : ∀ clock ∈ readings, clock.toNat < epoch.toNat + 2 ^ 41

theorem IsSteady.millis_eq (h : IsSteady readings) (hclock : clock ∈ readings) :
    millis clock = clock.toNat - epoch.toNat := by
  have hrange := h.in_range clock hclock
  rw [millis, Nat.mod_eq_of_lt]
  omega

theorem IsSteady.leads (h : IsSteady readings) (node : NodeId) : Leads readings (fresh node) where
  ascending := by
    refine h.ascending.imp_of_mem fun {earlier later} hearlier hlater hle => ?_
    rw [h.millis_eq hearlier, h.millis_eq hlater]
    exact Nat.sub_le_sub_right (UInt64.le_iff_toNat_le.mp hle) _
  reached := by
    intro clock _
    rw [toNat_state_fresh]
    exact Nat.zero_le _

/-- Under a steady clock every id carries the millisecond, counted from the epoch and none before it,
that the clock showed when it was issued. No millisecond is borrowed. The ids of one millisecond are
numbered in their order without a gap, from one on in the first millisecond and from zero on in the
others, and there are 256 numbers at most. -/
theorem timestamps_of_steady_clock (node : NodeId) (h : IsSteady readings) :
    (∀ issue ∈ (fresh node).issues readings,
      (parts issue.id).timestamp.toNat = issue.clock.toNat - epoch.toNat) ∧
    (∀ attempt ∈ (fresh node).attempts readings, ¬attempt.generator.BorrowsAt attempt.clock) ∧
    (∀ timestamp, ∃ n,
      sequencesAt ((fresh node).issues readings) timestamp =
        List.range' (if timestamp = 0 then 1 else 0) n ∧
      (if timestamp = 0 then 1 else 0) + n ≤ 256) := by
  have hleads := h.leads node
  refine ⟨?_, ?_, ?_⟩
  · intro issue hissue
    obtain ⟨hmem, htime⟩ := hleads.timestamp_of_mem_issues issue hissue
    rw [htime, h.millis_eq hmem]
  · intro attempt hattempt hborrows
    have hreached := hleads.reached_of_mem_attempts attempt hattempt
    obtain ⟨-, hbehind⟩ := borrowsAt_iff.mp hborrows
    omega
  · intro timestamp
    have hnext : (fresh node).nextSequence timestamp = if timestamp = 0 then 1 else 0 := by
      rw [nextSequence, toNat_state_fresh, Nat.zero_div, Nat.zero_mod, Nat.zero_add]
    rw [← hnext]
    exact hleads.sequencesAt_eq timestamp

/-- A clock that starts before the epoch and shows each reading twice. -/
theorem timestamps_of_steady_clock_from_epoch :
    let node : NodeId := ⟨3, by decide⟩
    let readings := [0, epoch, epoch + 1, epoch + 1, epoch + 5]
    ((fresh node).issues readings).map (fun issue => parts issue.id)
      = [⟨0, 3, 1⟩, ⟨0, 3, 2⟩, ⟨1, 3, 0⟩, ⟨1, 3, 1⟩, ⟨5, 3, 0⟩] ∧
    ∀ attempt ∈ (fresh node).attempts readings, ¬attempt.generator.BorrowsAt attempt.clock := by
  intro node readings
  have hrange : (readings.all fun clock => clock.toNat < epoch.toNat + 2 ^ 41) = true := by decide
  have hsteady : IsSteady readings :=
    ⟨by decide, fun clock hclock => of_decide_eq_true (List.all_eq_true.mp hrange clock hclock)⟩
  exact ⟨by decide +kernel, (timestamps_of_steady_clock node hsteady).2.1⟩

end ShortLink.TimedId.Generator
