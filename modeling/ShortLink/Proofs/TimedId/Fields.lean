import ShortLink.Proofs.Bytes.Word
import ShortLink.TimedId.Generator

/-!
# Fields of words as numbers

Fields that are shifted to their places and joined add up as long as each one keeps to its width, and
the parts of an id are its quotients and remainders. The word of a generator counts the ids that were
possible so far: an attempt adds one to it, or takes it to the first id of the millisecond shown by
the clock if that is further.

## Main definitions

- `TimedId.Generator.lastId` — the id that belongs to the word of a generator

## Main results

- `TimedId.Generator.toNat_successor?` — what follows a word, as a number
- `TimedId.Generator.attempt_eq_some` — the word, node and id after a successful attempt
- `TimedId.Generator.parts_lastId`, `TimedId.Generator.lastId_lt_lastId` — the id of a generator
  shows its word and node, and grows with the word
-/

namespace ShortLink.TimedId

theorem toNat_elapsed_lt (clock : UInt64) : (elapsed clock).toNat < 2 ^ 41 := by
  rw [elapsed, UInt64.toNat_and]
  exact Nat.lt_of_le_of_lt Nat.and_le_right (by decide)

theorem NodeId.toNat_lt (node : NodeId) : node.val.toNat < 2 ^ 10 := by
  have h : node.val.toNat ≤ 1023 := UInt16.le_iff_toNat_le.mp node.val_le
  omega

theorem toNat_maxSequence : maxSequence.toNat = 255 := rfl

theorem toNat_and_maxSequence (w : UInt64) : (w &&& maxSequence).toNat = w.toNat % 2 ^ 8 := by
  rw [UInt64.toNat_and]
  exact Nat.and_two_pow_sub_one_eq_mod w.toNat 8

theorem toNat_shiftRight_eight (w : UInt64) : (w >>> 8).toNat = w.toNat / 2 ^ 8 := by
  rw [UInt64.toNat_shiftRight]
  exact Nat.shiftRight_eq_div_pow _ _

theorem toNat_compose {timestamp sequence : UInt64} (node : NodeId)
    (htime : timestamp.toNat < 2 ^ 46) (hsequence : sequence.toNat < 2 ^ 8) :
    (compose timestamp node sequence).toNat
      = timestamp.toNat * 2 ^ 18 + node.val.toNat * 2 ^ 8 + sequence.toNat := by
  have hnode := node.toNat_lt
  have hlow : (node.val.toUInt64 <<< 8 ||| sequence).toNat
      = node.val.toNat * 2 ^ 8 + sequence.toNat := by
    rw [toNat_shiftLeft_or 8 rfl (by decide) _ hsequence, UInt16.toNat_toUInt64]
    rw [UInt16.toNat_toUInt64]
    omega
  rw [compose, UInt64.or_assoc, toNat_shiftLeft_or 18 rfl (by decide) (by omega) (by omega), hlow,
    Nat.add_assoc]

/-- The parts of an id are its quotients and remainders. -/
theorem toNat_parts (id : UInt64) :
    (parts id).timestamp.toNat = id.toNat / 2 ^ 18 ∧
      (parts id).node.toNat = id.toNat / 2 ^ 8 % 2 ^ 10 ∧
      (parts id).sequence.toNat = id.toNat % 2 ^ 8 := by
  refine ⟨?_, ?_, ?_⟩
  · show (id >>> 18).toNat = _
    rw [UInt64.toNat_shiftRight]
    exact Nat.shiftRight_eq_div_pow _ _
  · show (id >>> 8 &&& maxNode.toUInt64).toUInt16.toNat = _
    have hmask : (id >>> 8).toNat &&& (maxNode.toUInt64).toNat = (id >>> 8).toNat % 2 ^ 10 :=
      Nat.and_two_pow_sub_one_eq_mod _ 10
    rw [UInt64.toNat_toUInt16, UInt64.toNat_and, hmask, toNat_shiftRight_eight]
    omega
  · show (id &&& maxSequence).toUInt8.toNat = _
    rw [UInt64.toNat_toUInt8, toNat_and_maxSequence]
    omega

namespace Generator

/-- The id that belongs to the word of a generator. -/
def lastId (generator : Generator) : UInt64 :=
  compose (generator.state >>> 8) generator.node (generator.state &&& maxSequence)

theorem toNat_lastId {generator : Generator} (h : generator.state.toNat < 2 ^ 54) :
    generator.lastId.toNat = generator.state.toNat / 2 ^ 8 * 2 ^ 18
      + generator.node.val.toNat * 2 ^ 8 + generator.state.toNat % 2 ^ 8 := by
  have htime := toNat_shiftRight_eight generator.state
  have hsequence := toNat_and_maxSequence generator.state
  rw [lastId, toNat_compose _ (by omega) (by omega), htime, hsequence]

/-- The parts of the id of a generator are its node and the fields of its word. -/
theorem parts_lastId {generator : Generator} (h : generator.state.toNat < 2 ^ 54) :
    parts generator.lastId = ⟨generator.state >>> 8, generator.node.val,
      (generator.state &&& maxSequence).toUInt8⟩ := by
  obtain ⟨htime, hnode, hsequence⟩ := toNat_parts generator.lastId
  have hid := toNat_lastId h
  have hbound := generator.node.toNat_lt
  rw [hid] at htime hnode hsequence
  rw [Parts.mk.injEq]
  refine ⟨UInt64.toNat_inj.mp ?_, UInt16.toNat_inj.mp ?_, UInt8.toNat_inj.mp ?_⟩
  · rw [htime, toNat_shiftRight_eight]
    omega
  · rw [hnode]
    omega
  · rw [hsequence, UInt64.toNat_toUInt8, toNat_and_maxSequence]
    omega

theorem lastId_lt_lastId {earlier later : Generator} (hnode : later.node = earlier.node)
    (hlt : earlier.state.toNat < later.state.toNat) (hlater : later.state.toNat < 2 ^ 54) :
    earlier.lastId < later.lastId := by
  have hbound := earlier.node.toNat_lt
  rw [UInt64.lt_iff_toNat_lt, toNat_lastId (by omega), toNat_lastId hlater, hnode]
  omega

/-- What follows a word is one more, or the first word of the millisecond that the clock shows. -/
theorem toNat_successor? {state now timestamp sequence : UInt64} (hstate : state.toNat + 1 < 2 ^ 64)
    (h : successor? state now = some (timestamp, sequence)) :
    sequence.toNat < 2 ^ 8 ∧
      timestamp.toNat * 2 ^ 8 + sequence.toNat = max (state.toNat + 1) (now.toNat * 2 ^ 8) := by
  have hlast := toNat_shiftRight_eight state
  have hcount := toNat_and_maxSequence state
  have hmax := toNat_maxSequence
  simp only [successor?, UInt64.lt_iff_toNat_lt] at h
  split at h
  next hahead =>
    -- The clock has moved on.
    obtain ⟨rfl, rfl⟩ := Prod.mk.inj (Option.some.inj h)
    rw [UInt64.toNat_zero]
    omega
  next hahead =>
    split at h
    next hroom =>
      -- The millisecond of the last id has room for one more.
      obtain ⟨rfl, rfl⟩ := Prod.mk.inj (Option.some.inj h)
      rw [UInt64.toNat_add, UInt64.toNat_one]
      omega
    next hroom =>
      split at h
      next hbehind =>
        -- The clock has stepped back, and the next millisecond is used in advance.
        obtain ⟨rfl, rfl⟩ := Prod.mk.inj (Option.some.inj h)
        rw [UInt64.toNat_add, UInt64.toNat_one, UInt64.toNat_zero]
        omega
      next => cases h

/-- A successful attempt takes the word to what follows, and returns the id of the new word. -/
theorem attempt_eq_some {generator after : Generator} {clock id : UInt64}
    (hstate : generator.state.toNat + 1 < 2 ^ 64)
    (h : generator.attempt clock = some (id, after)) :
    after.node = generator.node ∧ id = after.lastId ∧
      after.state.toNat = max (generator.state.toNat + 1) ((elapsed clock).toNat * 2 ^ 8) := by
  obtain ⟨⟨timestamp, sequence⟩, hnext, hpair⟩ := Option.map_eq_some_iff.mp h
  obtain ⟨rfl, rfl⟩ := Prod.mk.inj hpair
  obtain ⟨hsequence, hword⟩ := toNat_successor? hstate hnext
  have helapsed := toNat_elapsed_lt clock
  have hstored : (timestamp <<< 8 ||| sequence).toNat
      = timestamp.toNat * 2 ^ 8 + sequence.toNat :=
    toNat_shiftLeft_or 8 rfl (by decide) (by omega) hsequence
  have htime : (timestamp <<< 8 ||| sequence) >>> 8 = timestamp := by
    apply UInt64.toNat_inj.mp
    rw [toNat_shiftRight_eight, hstored]
    omega
  have hcount : (timestamp <<< 8 ||| sequence) &&& maxSequence = sequence := by
    apply UInt64.toNat_inj.mp
    rw [toNat_and_maxSequence, hstored]
    omega
  refine ⟨rfl, ?_, hstored.trans hword⟩
  rw [lastId, htime, hcount]

end Generator

end ShortLink.TimedId
