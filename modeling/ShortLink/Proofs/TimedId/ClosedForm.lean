import Mathlib.Order.Lattice.Nat
import ShortLink.Proofs.TimedId.Attempts

/-!
# How far ids run ahead of the clock

Timestamp and sequence number of an id make up one number, and this number is a maximum: an id is at
least one above the last one, and at least the first of the millisecond that the clock shows. So an
id is ahead of the clock only by the number of ids issued since the clock showed its greatest value.

## Main definitions

- `TimedId.Generator.wordAfter` — the word after ids at given readings of the clock

## Main results

- `TimedId.Generator.wordAfter_eq` — the word as a maximum over the readings
- `TimedId.Generator.getElem?_issues` — the word that belongs to an id of a run
- `TimedId.Generator.issued_closed_form` — the fields of every id of a run
-/

namespace ShortLink.TimedId.Generator

variable {generator after : Generator} {readings : List UInt64} {issue : Issue} {k m : Nat}

/-- The word after ids at readings of the clock that show `nows`, one id at each. -/
def wordAfter (word : Nat) (nows : List Nat) : Nat :=
  nows.foldl (fun word now => max (word + 1) (now * 2 ^ 8)) word

theorem wordAfter_nil (word : Nat) : wordAfter word [] = word := rfl

theorem wordAfter_cons (word now : Nat) (later : List Nat) :
    wordAfter word (now :: later) = wordAfter (max (word + 1) (now * 2 ^ 8)) later := rfl

/-- Each reading leads to a word of its own, to which later ids add one each. -/
theorem wordAfter_le_iff {word bound : Nat} {nows : List Nat} :
    wordAfter word nows ≤ bound ↔ word + nows.length ≤ bound ∧
      ∀ j < nows.length, 256 * nows.getD j 0 + (nows.length - 1 - j) ≤ bound := by
  induction nows generalizing word with
  | nil => simp [wordAfter]
  | cons now later ih =>
    have hplace : ∀ j, later.length + 1 - 1 - (j + 1) = later.length - 1 - j := by omega
    rw [wordAfter_cons, ih, List.length_cons, Nat.forall_lt_succ_left, ← and_assoc]
    simp only [List.getD_cons_zero, List.getD_cons_succ, hplace]
    refine and_congr_left fun _ => ?_
    omega

theorem wordAfter_eq (word : Nat) (nows : List Nat) :
    wordAfter word nows = max (word + nows.length)
      ((Finset.range nows.length).sup fun j => 256 * nows.getD j 0 + (nows.length - 1 - j)) := by
  refine eq_of_forall_ge_iff fun bound => ?_
  rw [wordAfter_le_iff, max_le_iff, Finset.sup_le_iff]
  simp only [Finset.mem_range]

/-! ### Ids of a run -/

/-- The word of each id in a run comes from the readings at which ids were issued so far. -/
theorem getElem?_issues (hm : generator.state.toNat < clockWords + m) (hroom : m + k < 2 ^ 53)
    (h : (generator.issues readings)[k]? = some issue) :
    issue.after.node = generator.node ∧ issue.id = issue.after.lastId ∧
      issue.after.state.toNat = wordAfter generator.state.toNat
        (((generator.issues readings).take (k + 1)).map fun issue => millis issue.clock) ∧
      issue.after.state.toNat < clockWords + (m + k + 1) := by
  -- The words before this one only add up, so `m` counts the ids issued so far.
  induction readings generalizing generator k m with
  | nil => simp [issues_nil] at h
  | cons clock later ih =>
    cases hattempt : generator.attempt clock with
    | none =>
      rw [issues_cons_none hattempt] at h ⊢
      exact ih hm hroom h
    | some answer =>
      obtain ⟨id, after⟩ := answer
      obtain ⟨hnode, hid, hword, hbound⟩ := attempt_eq_some_of_lt hm (by omega) hattempt
      rw [toNat_elapsed] at hword
      rw [issues_cons_some hattempt] at h ⊢
      cases k with
      | zero =>
        obtain rfl := Option.some.inj h
        refine ⟨hnode, hid, ?_, by rwa [Nat.add_zero]⟩
        rw [hword, List.take_succ_cons, List.take_zero, List.map_singleton, wordAfter_cons,
          wordAfter_nil]
      | succ k =>
        rw [List.getElem?_cons_succ] at h
        obtain ⟨hnode', hid', hword', hbound'⟩ := ih hbound (by omega) h
        refine ⟨hnode'.trans hnode, hid', ?_, by omega⟩
        rw [hword', hword, List.take_succ_cons, List.map_cons, wordAfter_cons]

/-- Timestamp and sequence number of an id make up the word that it belongs to. -/
theorem word_of_parts (h : generator.state.toNat < safeWords) :
    256 * (parts generator.lastId).timestamp.toNat + (parts generator.lastId).sequence.toNat =
      generator.state.toNat := by
  have hnode := generator.node.toNat_lt
  obtain ⟨htime, -, hsequence⟩ := toNat_parts generator.lastId
  rw [htime, hsequence, toNat_lastId h]
  omega

/-- Milliseconds that the clock showed when the id with `j` ids before it was issued. -/
def nowAt (issues : List Issue) (j : Nat) : Nat :=
  (issues.map fun issue => millis issue.clock).getD j 0

theorem nowAt_cons_zero (issue : Issue) (later : List Issue) :
    nowAt (issue :: later) 0 = millis issue.clock := by
  rw [nowAt, List.map_cons, List.getD_cons_zero]

theorem nowAt_cons_succ (issue : Issue) (later : List Issue) (j : Nat) :
    nowAt (issue :: later) (j + 1) = nowAt later j := by
  rw [nowAt, List.map_cons, List.getD_cons_succ, nowAt]

theorem toNat_state_fresh_lt (node : NodeId) : (fresh node).state.toNat < clockWords + 0 := by
  rw [toNat_state_fresh, clockWords]
  decide

/-- The word of an id, when the generator starts anew. -/
theorem state_eq_of_issues {node : NodeId} (hk : k < 2 ^ 53)
    (h : ((fresh node).issues readings)[k]? = some issue) :
    issue.after.state.toNat = max (k + 1) ((Finset.range (k + 1)).sup fun j =>
      256 * nowAt ((fresh node).issues readings) j + (k - j)) := by
  obtain ⟨-, -, hword, -⟩ := getElem?_issues (toNat_state_fresh_lt node) (by omega) h
  obtain ⟨hlt, -⟩ := List.getElem?_eq_some_iff.mp h
  have hlength : ((((fresh node).issues readings).take (k + 1)).map
      fun issue => millis issue.clock).length = k + 1 := by
    rw [List.length_map, List.length_take]
    exact Nat.min_eq_left hlt
  rw [hword, wordAfter_eq, hlength, toNat_state_fresh, Nat.zero_add, Nat.add_sub_cancel]
  congr 1
  refine Finset.sup_congr rfl fun j hj => ?_
  rw [nowAt, List.map_take, List.getD_eq_getElem?_getD,
    List.getElem?_take_of_lt (Finset.mem_range.mp hj), ← List.getD_eq_getElem?_getD]

/-! ### Ahead of the clock -/

/-- While the clock shows the epoch, ids of the first millisecond are all there is. -/
theorem state_le_of_millis_eq_zero (hstate : generator.state.toNat ≤ 255)
    (hzero : ∀ j ≤ k, nowAt (generator.issues readings) j = 0)
    (h : (generator.issues readings)[k]? = some issue) : issue.after.state.toNat ≤ 255 := by
  induction readings generalizing generator k with
  | nil => simp [issues_nil] at h
  | cons clock later ih =>
    cases hattempt : generator.attempt clock with
    | none =>
      rw [issues_cons_none hattempt] at h hzero
      exact ih hstate hzero h
    | some answer =>
      obtain ⟨id, after⟩ := answer
      rw [issues_cons_some hattempt] at h hzero
      have hnow := hzero 0 (Nat.zero_le k)
      rw [nowAt_cons_zero] at hnow
      have hroom : generator.state.toNat ≠ 255 := by
        intro hfull
        have hwaits : generator.WaitsAt clock := by
          rw [waitsAt_iff, hfull, hnow]
          decide
        rw [attempt_eq_none_iff.mpr hwaits] at hattempt
        cases hattempt
      obtain ⟨-, -, hword⟩ := attempt_eq_some (by omega) hattempt
      rw [toNat_elapsed, hnow] at hword
      have hafter : after.state.toNat ≤ 255 := by omega
      cases k with
      | zero =>
        obtain rfl := Option.some.inj h
        exact hafter
      | succ k =>
        rw [List.getElem?_cons_succ] at h
        refine ih hafter (fun j hj => ?_) h
        have hlater := hzero (j + 1) (Nat.succ_le_succ hj)
        rwa [nowAt_cons_succ] at hlater

/-- An id is ahead of the greatest reading by one millisecond for 256 ids before it at most. -/
theorem timestamp_le {node : NodeId} (hk : k < 2 ^ 53)
    (h : ((fresh node).issues readings)[k]? = some issue) :
    issue.after.state.toNat / 256 ≤
      (Finset.range (k + 1)).sup (nowAt ((fresh node).issues readings)) + k / 256 := by
  have hword := state_eq_of_issues hk h
  generalize hgreatest : (Finset.range (k + 1)).sup
    (nowAt ((fresh node).issues readings)) = greatest
  have hnow : ∀ j ≤ k, nowAt ((fresh node).issues readings) j ≤ greatest := by
    intro j hj
    rw [← hgreatest]
    exact Finset.le_sup (Finset.mem_range.mpr (Nat.lt_succ_of_le hj))
  rcases Nat.eq_zero_or_pos greatest with hzero | hpositive
  · -- No reading is past the epoch, so the ids stay in its millisecond.
    have hstate := state_le_of_millis_eq_zero (Nat.zero_le _)
      (fun j hj => Nat.le_zero.mp (hzero ▸ hnow j hj)) h
    omega
  · have hsup : ((Finset.range (k + 1)).sup fun j =>
        256 * nowAt ((fresh node).issues readings) j + (k - j))
          ≤ 256 * greatest + k := by
      refine Finset.sup_le fun j hj => ?_
      have := hnow j (Nat.le_of_lt_succ (Finset.mem_range.mp hj))
      omega
    omega

/-- A generator that starts anew answers its calls with the ids of the successful attempts. Timestamp
and sequence number of the id with `k` ids before it make up the greatest of `k + 1` and, for each id
up to it, the millisecond that the clock showed then and the ids since. So the timestamp is ahead of
the greatest of these milliseconds by one for 256 ids at most. At whatever state, an attempt gives no
id exactly when the clock shows the last millisecond and the sequence of it is used up. It changes
nothing then, and it always gives an id when the clock shows an earlier millisecond. -/
theorem issued_closed_form (node : NodeId) (readings : List UInt64) :
    (∀ calls, (fresh node).issued? readings calls =
      if calls ≤ ((fresh node).issues readings).length then
        some ((((fresh node).issues readings).take calls).map fun issue => (issue.id, issue.after))
      else none) ∧
    (∀ k issue, k + 1 < 2 ^ 53 → ((fresh node).issues readings)[k]? = some issue →
      256 * (parts issue.id).timestamp.toNat + (parts issue.id).sequence.toNat =
        max (k + 1) ((Finset.range (k + 1)).sup fun j =>
          256 * nowAt ((fresh node).issues readings) j + (k - j)) ∧
      (parts issue.id).timestamp.toNat ≤
        (Finset.range (k + 1)).sup (nowAt ((fresh node).issues readings)) + k / 256) ∧
    (∀ (generator : Generator) (clock : UInt64) (later : List UInt64),
      (generator.attempt clock = none ↔
        millis clock = (generator.state >>> 8).toNat ∧
          (generator.state &&& maxSequence).toNat = 255) ∧
      (generator.attempt clock = none →
        generator.next? (clock :: later) = generator.next? later) ∧
      (millis clock < (generator.state >>> 8).toNat → (generator.attempt clock).isSome)) := by
  refine ⟨issued?_eq (fresh node) readings, fun k issue hk h => ?_, fun generator clock later => ?_⟩
  · obtain ⟨-, hid, -, hbound⟩ := getElem?_issues (toNat_state_fresh_lt node) (by omega) h
    have hword := word_of_parts (lt_safeWords hbound (by omega))
    rw [← hid] at hword
    refine ⟨hword.trans (state_eq_of_issues (by omega) h), ?_⟩
    have hahead := timestamp_le (by omega) h
    have hsequence := (parts issue.id).sequence.toNat_lt
    omega
  · have hwaits : generator.attempt clock = none ↔ millis clock = (generator.state >>> 8).toNat ∧
        (generator.state &&& maxSequence).toNat = 255 := by
      rw [attempt_eq_none_iff, waitsAt_iff, toNat_shiftRight_eight, toNat_and_maxSequence]
      exact and_comm
    refine ⟨hwaits, next?_cons_none, fun hbehind => ?_⟩
    rw [Option.isSome_iff_ne_none, Ne, hwaits]
    omega

/-- A clock that steps back to before the epoch after the first id. The last of 258 ids is in the
millisecond after the one that the clock showed then. -/
theorem issued_closed_form_regressed :
    let node : NodeId := ⟨2, by decide⟩
    let issues := (fresh node).issues ((epoch + 10) :: List.replicate 257 0)
    ∃ issue, issues[257]? = some issue ∧
      256 * (parts issue.id).timestamp.toNat + (parts issue.id).sequence.toNat = 256 * 11 + 1 ∧
      (fresh node).attempt 0 ≠ none := by
  intro node issues
  obtain ⟨-, hform, hattempt⟩ := issued_closed_form node ((epoch + 10) :: List.replicate 257 0)
  cases hissue : issues[257]? with
  | none =>
    have hlast : issues[257]?.isSome := by decide +kernel
    rw [hissue] at hlast
    cases hlast
  | some issue =>
    refine ⟨issue, rfl, (hform 257 issue (by decide) hissue).1.trans (by decide +kernel), ?_⟩
    rw [Ne, (hattempt (fresh node) 0 []).1]
    decide

end ShortLink.TimedId.Generator
