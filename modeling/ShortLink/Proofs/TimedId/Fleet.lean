import Mathlib.Logic.Function.Basic
import ShortLink.Proofs.TimedId.Fields

/-!
# Ids of a fleet

Generators on different nodes never issue the same id, and each one issues its ids in ascending
order, whatever their clocks show. A clock that stands still, steps back or starts anew after its 41
bits can only make the word of a generator grow by one at a time. From a word below `2 ^ 49`, which
is what a clock can show, fewer than `2 ^ 53` ids keep the word below `2 ^ 54`, and up to there the
fields of an id do not run into each other.

## Main definitions

- `TimedId.Generator.issued?` — the ids of successive calls

## Main results

- `TimedId.Generator.mem_issued?` — what a run keeps of each generator in it
- `TimedId.fleet_ids_unique` — ids ascend, show where they come from, and are never equal
-/

namespace ShortLink.TimedId

namespace Generator

/-- The ids of successive calls, each with the generator after it. There are none when the readings
of the clock run out before the last call is answered. -/
def issued? (generator : Generator) (readings : List UInt64) :
    Nat → Option (List (UInt64 × Generator))
  | 0 => some []
  | calls + 1 => do
    let (id, after, later) ← generator.next? readings
    let rest ← issued? after later calls
    return (id, after) :: rest

/-- The largest word that a clock by itself leads to is below this one. -/
def clockWords : Nat := 2 ^ 49

/-- Below this word the fields of an id do not overlap. -/
def safeWords : Nat := 2 ^ 54

/-- Fewer than `2 ^ 53` ids lead from the one to the other at most. -/
theorem lt_safeWords {word m : Nat} (h : word < clockWords + m) (hm : m ≤ 2 ^ 53) :
    word < safeWords := by
  unfold clockWords at h
  unfold safeWords
  omega

variable {generator after : Generator} {readings later : List UInt64} {id : UInt64}
  {issued : List (UInt64 × Generator)}

/-- A call is answered by a successful attempt. -/
theorem exists_attempt_of_next? (h : generator.next? readings = some (id, after, later)) :
    ∃ clock, generator.attempt clock = some (id, after) := by
  induction readings with
  | nil => cases h
  | cons clock rest ih =>
    rw [next?] at h
    cases hattempt : generator.attempt clock with
    | none =>
      rw [hattempt] at h
      exact ih h
    | some issue =>
      rw [hattempt] at h
      obtain ⟨rfl, rfl, -⟩ := Option.some.inj h
      exact ⟨clock, hattempt⟩

/-- One attempt makes the word grow, and by one at most where no clock leads. -/
theorem attempt_eq_some_of_lt {m : Nat} {clock : UInt64}
    (hm : generator.state.toNat < clockWords + m) (hroom : m < 2 ^ 53)
    (h : generator.attempt clock = some (id, after)) :
    after.node = generator.node ∧ id = after.lastId ∧
      after.state.toNat = max (generator.state.toNat + 1) ((elapsed clock).toNat * 2 ^ 8) ∧
      after.state.toNat < clockWords + (m + 1) := by
  unfold clockWords at hm ⊢
  have hclock := toNat_elapsed_lt clock
  obtain ⟨hnode, hid, hword⟩ := attempt_eq_some (by omega) h
  exact ⟨hnode, hid, hword, by omega⟩

theorem next?_eq_some {m : Nat} (hm : generator.state.toNat < clockWords + m)
    (hroom : m < 2 ^ 53) (h : generator.next? readings = some (id, after, later)) :
    after.node = generator.node ∧ id = after.lastId ∧
      generator.state.toNat < after.state.toNat ∧ after.state.toNat < clockWords + (m + 1) := by
  obtain ⟨clock, hattempt⟩ := exists_attempt_of_next? h
  obtain ⟨hnode, hid, hword, hbound⟩ := attempt_eq_some_of_lt hm hroom hattempt
  exact ⟨hnode, hid, by omega, hbound⟩

theorem issued?_succ {calls : Nat} (h : generator.issued? readings (calls + 1) = some issued) :
    ∃ id after later rest, generator.next? readings = some (id, after, later) ∧
      issued? after later calls = some rest ∧ issued = (id, after) :: rest := by
  rw [issued?] at h
  obtain ⟨⟨id, after, later⟩, hnext, h⟩ := Option.bind_eq_some_iff.mp h
  obtain ⟨rest, hrest, h⟩ := Option.bind_eq_some_iff.mp h
  exact ⟨id, after, later, rest, hnext, hrest, (Option.some.inj h).symm⟩

/-- In a run every generator has the node and a larger word than the one that the run began with,
the word stays in the safe range, and the id is the one that belongs to the word. -/
theorem mem_issued? {calls m : Nat} (hm : generator.state.toNat < clockWords + m)
    (hroom : m + calls ≤ 2 ^ 53) (h : generator.issued? readings calls = some issued) :
    ∀ issue ∈ issued, issue.2.node = generator.node ∧ issue.1 = issue.2.lastId ∧
      generator.state.toNat < issue.2.state.toNat ∧ issue.2.state.toNat < safeWords := by
  induction calls generalizing generator readings issued m with
  | zero =>
    obtain rfl := Option.some.inj h
    intro issue hissue
    cases hissue
  | succ calls ih =>
    obtain ⟨id, after, later, rest, hnext, hrest, rfl⟩ := issued?_succ h
    obtain ⟨hnode, hid, hgrows, hbound⟩ := next?_eq_some hm (by omega) hnext
    intro issue hissue
    rcases List.mem_cons.mp hissue with rfl | hlater
    · exact ⟨hnode, hid, hgrows, lt_safeWords hbound (by omega)⟩
    · obtain ⟨hnode', hid', hgrows', hsafe⟩ := ih hbound (by omega) hrest issue hlater
      exact ⟨hnode'.trans hnode, hid', Nat.lt_trans hgrows hgrows', hsafe⟩

/-- The words of a run ascend. -/
theorem pairwise_issued? {calls m : Nat} (hm : generator.state.toNat < clockWords + m)
    (hroom : m + calls ≤ 2 ^ 53) (h : generator.issued? readings calls = some issued) :
    issued.Pairwise fun a b => a.2.state.toNat < b.2.state.toNat := by
  induction calls generalizing generator readings issued m with
  | zero =>
    obtain rfl := Option.some.inj h
    exact List.Pairwise.nil
  | succ calls ih =>
    obtain ⟨id, after, later, rest, hnext, hrest, rfl⟩ := issued?_succ h
    obtain ⟨-, -, -, hbound⟩ := next?_eq_some hm (by omega) hnext
    refine List.pairwise_cons.mpr ⟨?_, ih hbound (by omega) hrest⟩
    intro issue hissue
    exact (mem_issued? hbound (by omega) hrest issue hissue).2.2.1

end Generator

open Generator

/-- Generators on different nodes, each with a word of zero at first and fewer than `2 ^ 53` ids,
issue ascending ids that show the node and the fields of the word, and no id twice in the whole
fleet. The readings of the clocks are arbitrary. -/
theorem fleet_ids_unique {ι : Type*} {node : ι → NodeId} (hnode : Function.Injective node)
    {readings : ι → List UInt64} {calls : ι → Nat} (hcalls : ∀ i, calls i < 2 ^ 53)
    {issued : ι → List (UInt64 × Generator)}
    (hissued : ∀ i, issued? ⟨node i, 0⟩ (readings i) (calls i) = some (issued i)) :
    (∀ i, (issued i).Pairwise fun earlier later => earlier.1 < later.1) ∧
    (∀ i, ∀ issue ∈ issued i, parts issue.1 = ⟨issue.2.state >>> 8, (node i).val,
      (issue.2.state &&& maxSequence).toUInt8⟩) ∧
    (∀ (i j : ι) (a b : Nat) (earlier later : UInt64 × Generator),
      (issued i)[a]? = some earlier → (issued j)[b]? = some later → earlier.1 = later.1 →
        i = j ∧ a = b) := by
  have hstart : ∀ i, (⟨node i, 0⟩ : Generator).state.toNat < clockWords + 0 := by
    intro i
    show 0 < 2 ^ 49
    decide
  have hroom : ∀ i, 0 + calls i ≤ 2 ^ 53 := by
    intro i
    have := hcalls i
    omega
  have hmem := fun i => mem_issued? (hstart i) (hroom i) (hissued i)
  have hparts : ∀ i, ∀ issue ∈ issued i, parts issue.1 = ⟨issue.2.state >>> 8, (node i).val,
      (issue.2.state &&& maxSequence).toUInt8⟩ := by
    intro i issue hissue
    obtain ⟨hof, hid, -, hsafe⟩ := hmem i issue hissue
    rw [hid, parts_lastId hsafe, hof]
  have hascend : ∀ i, (issued i).Pairwise fun earlier later => earlier.1 < later.1 := by
    intro i
    refine (pairwise_issued? (hstart i) (hroom i) (hissued i)).imp_of_mem ?_
    intro earlier later hearlier hlater hlt
    obtain ⟨hof, hid, -, -⟩ := hmem i earlier hearlier
    obtain ⟨hof', hid', -, hsafe⟩ := hmem i later hlater
    rw [hid, hid']
    exact lastId_lt_lastId (hof'.trans hof.symm) hlt hsafe
  refine ⟨hascend, hparts, ?_⟩
  intro i j a b earlier later hearlier hlater heq
  -- Equal ids show the same node, so they come from one generator.
  have hsame : node i = node j := by
    have hval := hparts i earlier (List.mem_of_getElem? hearlier)
    rw [heq, hparts j later (List.mem_of_getElem? hlater), Parts.mk.injEq] at hval
    obtain ⟨-, hval, -⟩ := hval
    cases hi : node i
    cases hj : node j
    rw [hi, hj] at hval
    cases hval
    rfl
  obtain rfl := hnode hsame
  refine ⟨rfl, ?_⟩
  -- Its ids ascend, so equal ones stand at the same place.
  obtain ⟨ha, rfl⟩ := List.getElem?_eq_some_iff.mp hearlier
  obtain ⟨hb, rfl⟩ := List.getElem?_eq_some_iff.mp hlater
  have hpair := List.pairwise_iff_getElem.mp (hascend i)
  rcases Nat.lt_trichotomy a b with hlt | hab | hlt
  · exact absurd heq (UInt64.ne_of_lt (hpair a b ha hb hlt))
  · exact hab
  · exact absurd heq.symm (UInt64.ne_of_lt (hpair b a hb ha hlt))

/-- Two nodes whose clocks step back to before the epoch after the first id. Both use up a
millisecond and go on with the next one, and still share no id. -/
theorem fleet_ids_unique_regressed :
    let node : Bool → NodeId := fun second => if second then ⟨2, by decide⟩ else ⟨1, by decide⟩
    let readings := (epoch + 10) :: List.replicate 257 0
    let issued := fun second => (issued? ⟨node second, 0⟩ readings 258).getD []
    (∀ second, issued? ⟨node second, 0⟩ readings 258 = some (issued second)) ∧
    (∀ second, (issued second).Pairwise fun earlier later => earlier.1 < later.1) ∧
    ((issued true)[257]?.map fun issue => parts issue.1) = some ⟨11, 2, 1⟩ ∧
    ∀ earlier ∈ issued false, ∀ later ∈ issued true, earlier.1 ≠ later.1 := by
  intro node readings issued
  have hnode : Function.Injective node := by
    intro a b
    revert a b
    decide
  have hissued : ∀ second, issued? ⟨node second, 0⟩ readings 258 = some (issued second) := by
    decide +kernel
  obtain ⟨hascend, -, hunique⟩ := fleet_ids_unique hnode (fun _ => by decide) hissued
  refine ⟨hissued, hascend, by decide +kernel, ?_⟩
  intro earlier hearlier later hlater heq
  obtain ⟨a, ha⟩ := List.getElem?_of_mem hearlier
  obtain ⟨b, hb⟩ := List.getElem?_of_mem hlater
  exact Bool.false_ne_true (hunique false true a b earlier later ha hb heq).1

end ShortLink.TimedId
