import Mathlib.Data.List.Nodup
import ShortLink.Proofs.Feistel.Column

/-!
# Two keys on one byte string

The round function of the byte-string network only adds. When two bytes of the keys differ in the top
bit, the difference between the two encryptions of a column is therefore the same for all columns: it
depends on the number of rounds alone, and is gone after every third round. When their lowest
difference is another bit, that bit becomes the top one once everything is shifted up, which the
rounds do not notice.

So different keys never encrypt all columns of a byte string alike unless three divides the number of
rounds, and if it does, keys that differ in top bits only always do. Keys that differ below encrypt the
columns of some byte strings alike and of others not, at least for the numbers of rounds in use.

## Main definitions

- `Feistel.topDifference` — the difference that the top bit of the key makes
- `Feistel.AgreeBelowTop` — keys that differ in the top bits of their bytes at most

## Main results

- `Feistel.encrypt_xor_topBit` — what the top bit of the key does to a column
- `Feistel.not_columnsAlike` — different keys show when three does not divide the number of rounds
- `Feistel.columnsAlike_of_agreeBelowTop` — top bits do not show when it does
- `Feistel.forall_columnsAlike_iff` — which keys are the same key for all byte strings
-/

namespace ShortLink.Feistel

variable {a b x : UInt8} {constants : List UInt8} {block : Block UInt8}

/-! ### The top bit -/

/-- The highest bit of a byte. -/
def topBit : UInt8 := 0x80

theorem add_topBit (x : UInt8) : x + topBit = x ^^^ topBit := by
  have h : ∀ n : Fin 256, UInt8.ofFin n + topBit = UInt8.ofFin n ^^^ topBit := by
    decide +kernel
  exact h x.toFin

/-- Turning the top bit of an operand turns the top bit of the sum. -/
theorem xor_topBit_add (x y : UInt8) : (x ^^^ topBit) + y = (x + y) ^^^ topBit := by
  rw [← add_topBit, ← add_topBit, UInt8.add_assoc, UInt8.add_comm topBit, UInt8.add_assoc]

instance : XorOp (Block UInt8) := ⟨fun x y => ⟨x.left ^^^ y.left, x.right ^^^ y.right⟩⟩

theorem Block.xor_eq_self_iff {x y : Block UInt8} : x ^^^ y = x ↔ y = ⟨0, 0⟩ := by
  have hbyte : ∀ {a b : UInt8}, a ^^^ b = a ↔ b = 0 := by
    intro a b
    have h := UInt8.xor_right_inj (a := b) (b := 0) a
    rwa [UInt8.xor_zero] at h
  rw [Block.ext_iff, Block.ext_iff]
  exact and_congr hbyte hbyte

/-- The difference between two encryptions of a column when the bytes of the key differ in the top
bit: none, the right half, the left half, and so on. -/
def topDifference : Nat → Block UInt8
  | 0 => ⟨0, 0⟩
  | 1 => ⟨0, topBit⟩
  | 2 => ⟨topBit, 0⟩
  | rounds + 3 => topDifference rounds

theorem topDifference_eq_zero_iff : ∀ {rounds : Nat}, topDifference rounds = ⟨0, 0⟩ ↔ 3 ∣ rounds
  | 0 => by decide
  | 1 => by decide
  | 2 => by decide
  | rounds + 3 => by
    rw [topDifference, topDifference_eq_zero_iff]
    omega

/-- A round takes the difference one step further: where the halves differ and the byte of the key
does, two turned bits cancel. -/
theorem round_xor_topDifference (b constant : UInt8) (block : Block UInt8) : ∀ rounds,
    (block ^^^ topDifference rounds).round (fun x => x + (b ^^^ topBit) + constant) =
      block.round (fun x => x + b + constant) ^^^ topDifference (rounds + 1) := by
  have hkey : ∀ x, x + (b ^^^ topBit) + constant = (x + b + constant) ^^^ topBit := by
    intro x
    rw [UInt8.add_comm x, xor_topBit_add, xor_topBit_add, UInt8.add_comm b]
  have hhalf : ∀ x, (x ^^^ topBit) + (b ^^^ topBit) + constant = x + b + constant := by
    intro x
    rw [hkey, xor_topBit_add, xor_topBit_add, UInt8.xor_assoc, UInt8.xor_self, UInt8.xor_zero]
  intro rounds
  induction rounds using topDifference.induct with
  | case1 =>
    ext1
    · rfl
    · show (block.left ^^^ 0) ^^^ ((block.right ^^^ 0) + (b ^^^ topBit) + constant) =
        block.left ^^^ (block.right + b + constant) ^^^ topBit
      rw [UInt8.xor_zero, UInt8.xor_zero, hkey, UInt8.xor_assoc]
  | case2 =>
    ext1
    · rfl
    · show (block.left ^^^ 0) ^^^ ((block.right ^^^ topBit) + (b ^^^ topBit) + constant) =
        block.left ^^^ (block.right + b + constant) ^^^ 0
      rw [UInt8.xor_zero, UInt8.xor_zero, hhalf]
  | case3 =>
    ext1
    · rfl
    · show (block.left ^^^ topBit) ^^^ ((block.right ^^^ 0) + (b ^^^ topBit) + constant) =
        block.left ^^^ (block.right + b + constant) ^^^ 0
      rw [UInt8.xor_zero, UInt8.xor_zero, hkey, UInt8.xor_assoc, UInt8.xor_comm topBit,
        UInt8.xor_assoc _ topBit, UInt8.xor_self, UInt8.xor_zero]
  | case4 rounds ih => exact ih

/-- Blocks that differ as after some rounds differ as after all the rounds when the rest of them is
done with bytes of the key that differ in the top bit. -/
theorem encrypt_xor_topDifference (b : UInt8) (constants : List UInt8) (rounds : Nat)
    (block : Block UInt8) :
    (block ^^^ topDifference rounds).encrypt (columnSchedule (b ^^^ topBit) constants) =
      block.encrypt (columnSchedule b constants) ^^^ topDifference (rounds + constants.length) := by
  induction constants generalizing rounds block with
  | nil => rfl
  | cons constant later ih =>
    show ((block ^^^ topDifference rounds).round _).encrypt (columnSchedule (b ^^^ topBit) later) = _
    rw [round_xor_topDifference, ih, List.length_cons, Nat.add_right_comm]
    rfl

/-- What the top bit of the key does to a column: the same whatever the column is. -/
theorem encrypt_xor_topBit (b : UInt8) (constants : List UInt8) (block : Block UInt8) :
    block.encrypt (columnSchedule (b ^^^ topBit) constants) =
      block.encrypt (columnSchedule b constants) ^^^ topDifference constants.length := by
  have hzero : block ^^^ topDifference 0 = block := Block.xor_eq_self_iff.mpr rfl
  have h := encrypt_xor_topDifference b constants 0 block
  rwa [hzero, Nat.zero_add] at h

/-! ### Lower bits -/

/-- Both halves of a column shifted up. -/
def Block.shiftUp (s : UInt8) (block : Block UInt8) : Block UInt8 :=
  ⟨block.left <<< s, block.right <<< s⟩

theorem add_shiftLeft (x y s : UInt8) : (x + y) <<< s = x <<< s + y <<< s := by
  apply UInt8.toBitVec_inj.mp
  simp only [UInt8.toBitVec_shiftLeft, UInt8.toBitVec_add]
  exact BitVec.shiftLeft_add_distrib

/-- Rounds of a column that is shifted up are rounds shifted up. -/
theorem shiftUp_encrypt (s b : UInt8) (constants : List UInt8) (block : Block UInt8) :
    (block.encrypt (columnSchedule b constants)).shiftUp s =
      (block.shiftUp s).encrypt (columnSchedule (b <<< s) (constants.map (· <<< s))) := by
  induction constants generalizing block with
  | nil => rfl
  | cons constant later ih =>
    have hround : (block.round fun x => x + b + constant).shiftUp s =
        (block.shiftUp s).round fun x => x + b <<< s + constant <<< s := by
      ext1
      · rfl
      · show (block.left ^^^ (block.right + b + constant)) <<< s = _
        rw [UInt8.shiftLeft_xor, add_shiftLeft, add_shiftLeft]
        rfl
    show ((block.round fun x => x + b + constant).encrypt (columnSchedule b later)).shiftUp s = _
    rw [ih, hround]
    rfl

/-- Some shift makes the lowest bit of a byte the top one. -/
theorem exists_shiftLeft_eq_topBit (h : x ≠ 0) : ∃ s, x <<< s = topBit := by
  have hall : ∀ n : Fin 256, UInt8.ofFin n = 0 ∨
      ∃ s : Fin 8, UInt8.ofFin n <<< UInt8.ofNat s = topBit := by
    decide +kernel
  rcases hall x.toFin with hzero | ⟨s, hs⟩
  · exact absurd hzero h
  · exact ⟨_, hs⟩

/-- The bits of a byte below the top one, shifted up by one. -/
def belowTop (b : UInt8) : UInt8 := b <<< 1

theorem belowTop_eq_iff : belowTop a = belowTop b ↔ b = a ∨ b = a ^^^ topBit := by
  have hall : ∀ n : Fin 256, UInt8.ofFin n <<< 1 = 0 ↔
      UInt8.ofFin n = 0 ∨ UInt8.ofFin n = topBit := by
    decide +kernel
  have h : (a ^^^ b) <<< 1 = 0 ↔ a ^^^ b = 0 ∨ a ^^^ b = topBit := hall (a ^^^ b).toFin
  have hxor : a ^^^ b = topBit ↔ b = a ^^^ topBit := by
    rw [← UInt8.xor_right_inj a, ← UInt8.xor_assoc, UInt8.xor_self, UInt8.zero_xor]
  rw [UInt8.shiftLeft_xor, UInt8.xor_eq_zero_iff, UInt8.xor_eq_zero_iff, hxor] at h
  rw [belowTop, belowTop, h, eq_comm]

/-- Bytes of the key that differ never encrypt a column alike when three does not divide the number
of rounds. -/
theorem encrypt_ne (hkeys : a ≠ b) (hrounds : ¬ 3 ∣ constants.length) :
    block.encrypt (columnSchedule a constants) ≠ block.encrypt (columnSchedule b constants) := by
  intro heq
  -- Above the lowest bit in which they differ the carries differ too, so the rest is shifted out.
  obtain ⟨s, hs⟩ := exists_shiftLeft_eq_topBit (mt UInt8.xor_eq_zero_iff.mp hkeys)
  have hb : b <<< s = a <<< s ^^^ topBit := by
    rw [← hs, UInt8.shiftLeft_xor, ← UInt8.xor_assoc, UInt8.xor_self, UInt8.zero_xor]
  have hshift := congrArg (Block.shiftUp s) heq
  rw [shiftUp_encrypt, shiftUp_encrypt, hb, encrypt_xor_topBit, List.length_map] at hshift
  exact hrounds (topDifference_eq_zero_iff.mp (Block.xor_eq_self_iff.mp hshift.symm))

/-- Bytes of the key that differ in the top bit encrypt each column alike when three divides the
number of rounds. -/
theorem encrypt_eq (hkeys : belowTop a = belowTop b) (hrounds : 3 ∣ constants.length) :
    block.encrypt (columnSchedule a constants) = block.encrypt (columnSchedule b constants) := by
  rcases belowTop_eq_iff.mp hkeys with rfl | rfl
  · rfl
  · rw [encrypt_xor_topBit, eq_comm, Block.xor_eq_self_iff]
    exact topDifference_eq_zero_iff.mpr hrounds

/-! ### Telling lower bits apart -/

/-- Two columns that tell bytes of the key apart below the top bit, for all numbers of rounds in use
that three divides. -/
def probes : List (Block UInt8) := [⟨63, 0⟩, ⟨0, 2⟩]

/-- The encrypted probes. -/
def fingerprint (rounds byte : UInt8) : Bytes :=
  probes.flatMap fun probe =>
    let image := probe.encrypt (columnSchedule byte (roundNumbers rounds))
    [image.left, image.right]

theorem nodup_fingerprint : ∀ rounds ∈ [3, 6, 9],
    ((List.range 128).map fun n => (fingerprint rounds (UInt8.ofNat n)).toNat).Nodup := by
  decide +kernel

theorem fingerprint_congr {rounds : UInt8}
    (h : ∀ probe ∈ probes, probe.encrypt (columnSchedule a (roundNumbers rounds)) =
      probe.encrypt (columnSchedule b (roundNumbers rounds))) :
    fingerprint rounds a = fingerprint rounds b := by
  unfold fingerprint
  rw [List.flatMap_def, List.flatMap_def]
  congr 1
  refine List.map_congr_left fun probe hprobe => ?_
  rw [h probe hprobe]

/-- Bytes of the key that encrypt the probes alike differ in the top bit at most. -/
theorem belowTop_eq_of_probes {rounds : UInt8} (hrounds : rounds ∈ [3, 6, 9])
    (hdvd : 3 ∣ (roundNumbers rounds).length)
    (h : ∀ probe ∈ probes, probe.encrypt (columnSchedule a (roundNumbers rounds)) =
      probe.encrypt (columnSchedule b (roundNumbers rounds))) : belowTop a = belowTop b := by
  -- Without their top bits both bytes are among those that the probes tell apart.
  have hlow : ∀ n : Fin 256,
      belowTop (UInt8.ofNat (n.val % 128)) = belowTop (UInt8.ofFin n) := by
    decide +kernel
  have ha : belowTop (UInt8.ofNat (a.toNat % 128)) = belowTop a := hlow a.toFin
  have hb : belowTop (UInt8.ofNat (b.toNat % 128)) = belowTop b := hlow b.toFin
  have hsame : fingerprint rounds (UInt8.ofNat (a.toNat % 128)) =
      fingerprint rounds (UInt8.ofNat (b.toNat % 128)) := by
    refine fingerprint_congr fun probe hprobe => ?_
    rw [encrypt_eq ha hdvd, encrypt_eq hb hdvd]
    exact h probe hprobe
  have hmod : a.toNat % 128 = b.toNat % 128 :=
    List.inj_on_of_nodup_map (nodup_fingerprint rounds hrounds)
      (List.mem_range.mpr (Nat.mod_lt _ (by decide)))
      (List.mem_range.mpr (Nat.mod_lt _ (by decide))) (congrArg Bytes.toNat hsame)
  rw [← ha, hmod, hb]

/-! ### Byte strings -/

/-- Two keys differ in the top bits of their bytes at most. -/
def AgreeBelowTop (key key' : Bytes) : Prop := key.map belowTop = key'.map belowTop

instance (key key' : Bytes) : Decidable (AgreeBelowTop key key') :=
  inferInstanceAs (Decidable (_ = _))

variable {key key' data : Bytes} {rounds : UInt8} {j : Nat}

theorem belowTop_keyByte (key : Bytes) (j : Nat) :
    belowTop (keyByte key j) = keyByte (key.map belowTop) j := by
  rw [keyByte, keyByte, List.length_map]
  exact (List.getD_map key 0 belowTop).symm

/-- Keys that differ in top bits only encrypt all columns alike when three divides the number of
rounds. -/
theorem columnsAlike_of_agreeBelowTop (hkeys : AgreeBelowTop key key')
    (hrounds : 3 ∣ rounds.toNat) (data : Bytes) : ColumnsAlike data key key' rounds := by
  intro j _
  apply encrypt_eq
  · rw [belowTop_keyByte, belowTop_keyByte, hkeys]
  · rwa [length_roundNumbers]

/-- Different keys never encrypt all columns alike when three does not divide the number of rounds and
every byte of the keys is used. -/
theorem not_columnsAlike (hkeys : key ≠ key') (hlength : key.length = key'.length)
    (hrounds : ¬ 3 ∣ rounds.toNat) (hused : key.length ≤ (padEven data).length / 2) :
    ¬ColumnsAlike data key key' rounds := by
  intro halike
  refine hkeys (List.ext_getElem hlength ?_)
  intro j hj hj'
  by_contra hne
  have hcolumn := halike j (Nat.lt_of_lt_of_le hj hused)
  rw [keyByte_of_lt hj, keyByte_of_lt hj'] at hcolumn
  exact encrypt_ne hne (by rwa [length_roundNumbers]) hcolumn

/-- The byte string of `n` columns that are all the same. -/
def ofColumn (n : Nat) (column : Block UInt8) : Bytes :=
  joinBytes ⟨List.replicate n column.left, List.replicate n column.right⟩

theorem replicate_within (n : Nat) (column : Block UInt8) :
    (⟨List.replicate n column.left, List.replicate n column.right⟩ : Block Bytes).Within
      fun half => half.length = n :=
  ⟨List.length_replicate, List.length_replicate⟩

theorem column_splitBytes_ofColumn {n : Nat} (hj : j < n) (column : Block UInt8) :
    (splitBytes (ofColumn n column)).column j = column := by
  rw [ofColumn, splitBytes_joinBytes (replicate_within n column)]
  ext1
  · exact List.getD_replicate _ hj
  · exact List.getD_replicate _ hj

theorem length_padEven_ofColumn (n : Nat) (column : Block UInt8) :
    (padEven (ofColumn n column)).length / 2 = n := by
  have hlength : (ofColumn n column).length = n + n := length_joinBytes (replicate_within n column)
  rw [padEven_eq_self (by omega), hlength]
  omega

/-- Different keys encrypt the columns of all byte strings alike exactly when they differ in top bits
only and three divides the number of rounds. -/
theorem forall_columnsAlike_iff (hkeys : key ≠ key') (hlength : key.length = key'.length)
    (hpos : 1 ≤ rounds.toNat) (hmax : rounds.toNat ≤ 10) :
    (∀ data, ColumnsAlike data key key' rounds) ↔ 3 ∣ rounds.toNat ∧ AgreeBelowTop key key' := by
  constructor
  · intro h
    have hdvd : 3 ∣ rounds.toNat := by
      by_contra hrounds
      refine not_columnsAlike hkeys hlength hrounds ?_ (h (ofColumn key.length ⟨0, 0⟩))
      exact Nat.le_of_eq (length_padEven_ofColumn key.length ⟨0, 0⟩).symm
    have hrounds : rounds ∈ [3, 6, 9] := by
      have hcases : rounds.toNat = 3 ∨ rounds.toNat = 6 ∨ rounds.toNat = 9 := by omega
      rcases hcases with h | h | h
      · simp [UInt8.toNat_inj.mp (h.trans (by decide : 3 = (3 : UInt8).toNat))]
      · simp [UInt8.toNat_inj.mp (h.trans (by decide : 6 = (6 : UInt8).toNat))]
      · simp [UInt8.toNat_inj.mp (h.trans (by decide : 9 = (9 : UInt8).toNat))]
    refine ⟨hdvd, List.ext_getElem ?_ ?_⟩
    · rw [List.length_map, List.length_map, hlength]
    · intro j hj hj'
      rw [List.length_map] at hj hj'
      rw [List.getElem_map, List.getElem_map]
      refine belowTop_eq_of_probes hrounds (by rwa [length_roundNumbers]) ?_
      intro probe _
      have hcolumn := h (ofColumn key.length probe) j (by rwa [length_padEven_ofColumn])
      rwa [column_splitBytes_ofColumn hj, keyByte_of_lt hj, keyByte_of_lt hj'] at hcolumn
  · rintro ⟨hdvd, hbelow⟩ data
    exact columnsAlike_of_agreeBelowTop hbelow hdvd data

end ShortLink.Feistel
