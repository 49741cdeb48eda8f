import ShortLink.Proofs.TimedId.Fleet
import ShortLink.Proofs.TimedId.Waiting

/-!
# Attempts one after the other

A generator that is asked for one id after the other reads its clock once in each attempt, and an
attempt without an id leaves it as it was. So the readings in their order decide which attempts there
are, and calls get the ids of the successful ones, in the same order.

## Main definitions

- `TimedId.Generator.fresh` — a generator at first
- `TimedId.Generator.Attempt` — a generator at a reading of its clock
- `TimedId.Generator.attempts`, `TimedId.Generator.issues` — the attempts at successive readings, and
  the ids they give
- `TimedId.Generator.BorrowsAt` — a reading at which a millisecond is used before the clock shows it

## Main results

- `TimedId.Generator.issued?_eq` — calls get the ids of the successful attempts
- `TimedId.Generator.attempt_of_borrowsAt` — the id of a borrowed millisecond
-/

namespace ShortLink.TimedId

/-- Milliseconds since `epoch` at a reading of the clock, none when it stands before it, modulo
2⁴¹. -/
def millis (clock : UInt64) : Nat := (clock.toNat - epoch.toNat) % 2 ^ 41

theorem toNat_elapsed (clock : UInt64) : (elapsed clock).toNat = millis clock := by
  have hmask : ∀ w : UInt64, (w &&& 0x1ffffffffff).toNat = w.toNat % 2 ^ 41 := by
    intro w
    rw [UInt64.toNat_and]
    exact Nat.and_two_pow_sub_one_eq_mod w.toNat 41
  rw [elapsed, millis, hmask]
  split
  · next hbefore =>
    rw [UInt64.lt_iff_toNat_lt] at hbefore
    rw [Nat.sub_eq_zero_of_le (Nat.le_of_lt hbefore)]
    rfl
  · next hafter =>
    rw [UInt64.toNat_sub_of_le _ _ (UInt64.not_lt.mp hafter)]

theorem millis_lt (clock : UInt64) : millis clock < 2 ^ 41 := Nat.mod_lt _ (by decide)

namespace Generator

/-- A generator that has issued no id. -/
def fresh (node : NodeId) : Generator := ⟨node, 0⟩

/-- A generator at a reading of its clock. -/
structure Attempt where
  generator : Generator
  clock : UInt64

/-- An id, with the reading of the clock at which it was issued and the generator after it. -/
structure Issue where
  clock : UInt64
  id : UInt64
  after : Generator

/-- What comes of an attempt, if it gives an id. -/
def Attempt.issue? (attempt : Attempt) : Option Issue :=
  (attempt.generator.attempt attempt.clock).map fun (id, after) => ⟨attempt.clock, id, after⟩

/-- The generator after an attempt, which is the same one when there was no id. -/
def settle (generator : Generator) (clock : UInt64) : Generator :=
  match generator.attempt clock with
  | some (_, after) => after
  | none => generator

/-- The attempts at successive readings of the clock. -/
def attempts (generator : Generator) : List UInt64 → List Attempt
  | [] => []
  | clock :: later => ⟨generator, clock⟩ :: attempts (generator.settle clock) later

/-- The ids issued at successive readings of the clock. -/
def issues (generator : Generator) (readings : List UInt64) : List Issue :=
  (generator.attempts readings).filterMap Attempt.issue?

variable {generator after : Generator} {clock id : UInt64} {readings later : List UInt64}

theorem toNat_state_fresh (node : NodeId) : (fresh node).state.toNat = 0 := rfl

theorem issues_nil (generator : Generator) : generator.issues [] = [] := rfl

theorem attempts_cons_none (h : generator.attempt clock = none) :
    generator.attempts (clock :: later) = ⟨generator, clock⟩ :: generator.attempts later := by
  rw [attempts, settle, h]

theorem attempts_cons_some (h : generator.attempt clock = some (id, after)) :
    generator.attempts (clock :: later) = ⟨generator, clock⟩ :: after.attempts later := by
  rw [attempts, settle, h]

theorem issues_cons_none (h : generator.attempt clock = none) :
    generator.issues (clock :: later) = generator.issues later := by
  rw [issues, attempts_cons_none h, List.filterMap_cons_none]
  · rfl
  · rw [Attempt.issue?, h]
    rfl

theorem issues_cons_some (h : generator.attempt clock = some (id, after)) :
    generator.issues (clock :: later) = ⟨clock, id, after⟩ :: after.issues later := by
  rw [issues, attempts_cons_some h, List.filterMap_cons_some]
  · rfl
  · rw [Attempt.issue?, h]
    rfl

/-! ### Calls -/

theorem next?_cons_none (h : generator.attempt clock = none) :
    generator.next? (clock :: later) = generator.next? later := by
  rw [next?, h]

theorem issued?_cons_none (h : generator.attempt clock = none) (calls : Nat) :
    generator.issued? (clock :: later) calls = generator.issued? later calls := by
  cases calls with
  | zero => rfl
  | succ calls => rw [issued?, issued?, next?_cons_none h]

theorem issued?_cons_some (h : generator.attempt clock = some (id, after)) (calls : Nat) :
    generator.issued? (clock :: later) (calls + 1) =
      (after.issued? later calls).map ((id, after) :: ·) := by
  rw [issued?, next?, h, Option.map_eq_bind]
  rfl

/-- Calls get the ids of the successful attempts, in order, as long as there are enough of them. -/
theorem issued?_eq (generator : Generator) (readings : List UInt64) (calls : Nat) :
    generator.issued? readings calls =
      if calls ≤ (generator.issues readings).length then
        some (((generator.issues readings).take calls).map fun issue => (issue.id, issue.after))
      else none := by
  induction readings generalizing generator calls with
  | nil =>
    cases calls with
    | zero => rfl
    | succ calls => rfl
  | cons clock later ih =>
    cases hattempt : generator.attempt clock with
    | none => rw [issued?_cons_none hattempt, issues_cons_none hattempt, ih]
    | some issue =>
      obtain ⟨id, after⟩ := issue
      cases calls with
      | zero => rfl
      | succ calls =>
        rw [issued?_cons_some hattempt, issues_cons_some hattempt, ih, List.length_cons,
          List.take_succ_cons, List.map_cons]
        simp only [Nat.add_le_add_iff_right]
        split
        · rfl
        · rfl

/-! ### Borrowed milliseconds -/

/-- The 256 ids of the last millisecond are used up, and the clock shows an earlier one. -/
def BorrowsAt (generator : Generator) (clock : UInt64) : Prop :=
  generator.state &&& maxSequence = maxSequence ∧ elapsed clock < generator.state >>> 8

/-- A borrowed millisecond is the one after the last. -/
theorem attempt_of_borrowsAt (h : generator.BorrowsAt clock) :
    generator.attempt clock = some (compose (generator.state >>> 8 + 1) generator.node 0,
      { generator with state := (generator.state >>> 8 + 1) <<< 8 }) := by
  obtain ⟨hfull, hbehind⟩ := h
  have hahead : ¬generator.state >>> 8 < elapsed clock := UInt64.not_lt.mpr (UInt64.le_of_lt hbehind)
  have hroom : ¬maxSequence < maxSequence := UInt64.lt_irrefl _
  rw [attempt, successor?]
  simp only [hfull, if_neg hahead, if_neg hroom, if_pos hbehind, Option.map_some, UInt64.or_zero]

theorem borrowsAt_iff :
    generator.BorrowsAt clock ↔ generator.state.toNat % 2 ^ 8 = 255 ∧
      millis clock < generator.state.toNat / 2 ^ 8 := by
  rw [BorrowsAt, ← UInt64.toNat_inj, toNat_and_maxSequence, toNat_maxSequence,
    UInt64.lt_iff_toNat_lt, toNat_elapsed, toNat_shiftRight_eight]

theorem waitsAt_iff :
    generator.WaitsAt clock ↔ generator.state.toNat % 2 ^ 8 = 255 ∧
      millis clock = generator.state.toNat / 2 ^ 8 := by
  rw [WaitsAt, ← UInt64.toNat_inj, toNat_and_maxSequence, toNat_maxSequence,
    ← UInt64.toNat_inj (a := elapsed clock), toNat_elapsed, toNat_shiftRight_eight]

end Generator

end ShortLink.TimedId
