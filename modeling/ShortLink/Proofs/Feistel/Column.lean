import Mathlib.Data.List.GetD
import ShortLink.Proofs.Feistel.Inverse

/-!
# The byte-string permutation by columns

Bytes at the same place of both halves are a column. Each round of the byte-string network is a round
of each column by itself, so the columns go through networks of their own: column `j` sees one byte of
the key and the numbers of the rounds, and nothing of the other columns.

## Main definitions

- `Feistel.Block.column` — the bytes at one place of both halves
- `Feistel.columnSchedule` — the round functions of a column
- `Feistel.keyByte` — the byte of the key that a column sees
- `Feistel.ColumnsAlike` — two keys encrypt every column of a byte string alike

## Main results

- `Feistel.column_encrypt` — a column of the encrypted halves is the encrypted column
- `Feistel.scrambleBytes_eq_iff` — two keys scramble a byte string alike when they do its columns
- `Feistel.unscrambleBytes_scrambleBytes_eq_iff` — only then it comes back under the other key
-/

namespace ShortLink.Feistel

variable {key key' : Bytes} {rounds : UInt8} {n j : Nat} {data : Bytes}

/-- The bytes at one place of both halves. -/
def Block.column (block : Block Bytes) (j : Nat) : Block UInt8 :=
  ⟨block.left.getD j 0, block.right.getD j 0⟩

/-- The round functions of a column that sees `byte` of the key, when `constants` are added in the
rounds. -/
def columnSchedule (byte : UInt8) (constants : List UInt8) : List (UInt8 → UInt8) :=
  constants.map fun constant b => b + byte + constant

/-- What is added in each of some rounds: its number. -/
def roundNumbers (rounds : UInt8) : List UInt8 := (List.range rounds.toNat).map Nat.toUInt8

/-- The byte of the key that column `j` sees; none of an empty key. -/
def keyByte (key : Bytes) (j : Nat) : UInt8 := key.getD (j % key.length) 0

/-- Two keys encrypt every column of a byte string alike. -/
def ColumnsAlike (data key key' : Bytes) (rounds : UInt8) : Prop :=
  ∀ j < (padEven data).length / 2,
    ((splitBytes data).column j).encrypt (columnSchedule (keyByte key j) (roundNumbers rounds)) =
      ((splitBytes data).column j).encrypt (columnSchedule (keyByte key' j) (roundNumbers rounds))

instance (data key key' : Bytes) (rounds : UInt8) : Decidable (ColumnsAlike data key key' rounds) :=
  inferInstanceAs (Decidable (∀ j < (padEven data).length / 2, _ = _))

theorem length_roundNumbers (rounds : UInt8) : (roundNumbers rounds).length = rounds.toNat := by
  rw [roundNumbers, List.length_map, List.length_range]

theorem keyByte_of_lt (h : j < key.length) : keyByte key j = key[j] := by
  rw [keyByte, Nat.mod_eq_of_lt h, List.getD_eq_getElem _ _ h]

theorem streamSchedule_eq (key : Bytes) (rounds : UInt8) :
    streamSchedule key rounds = (roundNumbers rounds).map (shift key.toArray) := by
  rw [streamSchedule, roundNumbers, List.map_map]
  rfl

theorem getD_shift {half : Bytes} (hj : j < half.length) (constant : UInt8) :
    (shift key.toArray constant half).getD j 0 = half.getD j 0 + keyByte key j + constant := by
  rw [shift, List.getD_eq_getElem _ _ (by rwa [List.length_mapIdx]), List.getElem_mapIdx,
    List.getD_eq_getElem _ _ hj, keyByte]
  simp

theorem getD_xor {a b : Bytes} (ha : j < a.length) (hb : j < b.length) :
    (a ^^^ b).getD j 0 = a.getD j 0 ^^^ b.getD j 0 := by
  have hab : j < (Bytes.xor a b).length := by
    rw [Bytes.length_xor]
    omega
  show (Bytes.xor a b).getD j 0 = _
  rw [List.getD_eq_getElem _ _ hab, List.getD_eq_getElem _ _ ha, List.getD_eq_getElem _ _ hb]
  exact List.getElem_zipWith

/-- A round of the halves is a round of each column. -/
theorem column_round {block : Block Bytes} (h : block.Within fun half => half.length = n)
    (hj : j < n) (constant : UInt8) :
    (block.round (shift key.toArray constant)).column j =
      (block.column j).round fun b => b + keyByte key j + constant := by
  have hleft : j < block.left.length := h.1 ▸ hj
  have hright : j < block.right.length := h.2 ▸ hj
  have hshift : j < (shift key.toArray constant block.right).length := by
    rwa [shift, List.length_mapIdx]
  ext1
  · rfl
  · show (block.left ^^^ shift key.toArray constant block.right).getD j 0 = _
    rw [getD_xor hleft hshift, getD_shift hright]
    rfl

theorem column_foldl {block : Block Bytes} (h : block.Within fun half => half.length = n)
    (hj : j < n) (constants : List UInt8) :
    (block.encrypt (constants.map (shift key.toArray))).column j =
      (block.column j).encrypt (columnSchedule (keyByte key j) constants) := by
  -- Later rounds start from another block, of halves of the same length.
  induction constants generalizing block with
  | nil => rfl
  | cons constant later ih =>
    have hround : (block.round (shift key.toArray constant)).Within fun half => half.length = n :=
      h.round (cancels_length n) fun half hhalf => List.length_mapIdx.trans hhalf
    show ((block.round (shift key.toArray constant)).encrypt
      (later.map (shift key.toArray))).column j = _
    rw [ih hround, column_round h hj]
    rfl

/-- A column of the encrypted halves is the encrypted column. -/
theorem column_encrypt {block : Block Bytes} (h : block.Within fun half => half.length = n)
    (hj : j < n) :
    (block.encrypt (streamSchedule key rounds)).column j =
      (block.column j).encrypt (columnSchedule (keyByte key j) (roundNumbers rounds)) := by
  rw [streamSchedule_eq, column_foldl h hj]

/-- Halves of one length are the same when their columns are. -/
theorem Block.ext_column {a b : Block Bytes} (ha : a.Within fun half => half.length = n)
    (hb : b.Within fun half => half.length = n) (h : ∀ j < n, a.column j = b.column j) : a = b := by
  have hbytes : ∀ {x y : Bytes}, x.length = n → y.length = n →
      (∀ j < n, x.getD j 0 = y.getD j 0) → x = y := by
    intro x y hx hy hxy
    refine List.ext_getElem (hx.trans hy.symm) fun j hj hj' => ?_
    have := hxy j (hx ▸ hj)
    rwa [List.getD_eq_getElem _ _ hj, List.getD_eq_getElem _ _ hj'] at this
  ext1
  · exact hbytes ha.1 hb.1 fun j hj => congrArg Block.left (h j hj)
  · exact hbytes ha.2 hb.2 fun j hj => congrArg Block.right (h j hj)

/-- Two keys scramble a byte string alike exactly when they encrypt each of its columns alike. -/
theorem scrambleBytes_eq_iff :
    scrambleBytes data key rounds = scrambleBytes data key' rounds ↔
      ColumnsAlike data key key' rounds := by
  have hsplit := splitBytes_within data
  have hours := encrypt_splitBytes_within data key rounds
  have htheirs := encrypt_splitBytes_within data key' rounds
  constructor
  · intro h j hj
    have hblock := congrArg splitBytes h
    rw [scrambleBytes, scrambleBytes, splitBytes_joinBytes hours, splitBytes_joinBytes htheirs]
      at hblock
    rw [← column_encrypt hsplit hj, hblock, column_encrypt hsplit hj]
  · intro h
    rw [scrambleBytes, scrambleBytes]
    congr 1
    refine Block.ext_column hours htheirs fun j hj => ?_
    rw [column_encrypt hsplit hj, h j hj, column_encrypt hsplit hj]

/-- A byte string comes back under another key exactly when both keys encrypt its columns alike. -/
theorem unscrambleBytes_scrambleBytes_eq_iff :
    unscrambleBytes (scrambleBytes data key rounds) key' rounds = padEven data ↔
      ColumnsAlike data key key' rounds := by
  rw [← scrambleBytes_eq_iff]
  constructor
  · intro h
    -- Scrambled again under the other key, it gives what was scrambled under the first.
    have heven : (scrambleBytes data key rounds).length % 2 = 0 := by
      rw [length_scrambleBytes]
      omega
    calc scrambleBytes data key rounds
        = padEven (scrambleBytes data key rounds) := (padEven_eq_self heven).symm
      _ = scrambleBytes (padEven data) key' rounds := by rw [← h, scrambleBytes_unscrambleBytes]
      _ = scrambleBytes data key' rounds := by
        rw [scrambleBytes, splitBytes_padEven, scrambleBytes]
  · intro h
    rw [h, unscrambleBytes_scrambleBytes]

end ShortLink.Feistel
