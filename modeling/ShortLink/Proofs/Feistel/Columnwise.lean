import ShortLink.Proofs.Feistel.Column
import ShortLink.Proofs.Feistel.Workers

/-!
# Byte strings are scrambled column by column

A byte string of `2 * n` bytes has `n` columns: bytes `j` and `n + j`. Rounds are done on whole
halves, but each column goes through a network of two bytes by itself, which sees one byte of the
key. So a byte reaches no other column than its own. Within a round the places of a half may be
reached in any order, and the half may be cut into slices that are mixed in one by one.

## Main definitions

- `Feistel.pairAt` — the bytes of a column
- `Feistel.scramblePair` — the network of two bytes that a column goes through

## Main results

- `Feistel.pairAt_scrambleBytesBy` — what becomes of a column
- `Feistel.combine_slices` — a half cut into slices
- `Feistel.scrambleBytesBy_columnwise` — the permutation of byte strings, column by column
-/

namespace ShortLink.Feistel

variable {workers : Workers} {key data half mixed : Bytes} {rounds : UInt8} {n j : Nat}

/-! ### Columns -/

/-- Bytes `j` and `n + j` of a byte string. -/
def pairAt (data : Bytes) (n j : Nat) : UInt8 × UInt8 := (data.getD j 0, data.getD (n + j) 0)

/-- Round `i` of two bytes, when the key adds `byte`. -/
def pairRound (byte : UInt8) (pair : UInt8 × UInt8) (i : Nat) : UInt8 × UInt8 :=
  (pair.2, pair.1 ^^^ (pair.2 + byte + i.toUInt8))

/-- Scrambles two bytes, when the key adds `byte` in each round. -/
def scramblePair (byte rounds : UInt8) (pair : UInt8 × UInt8) : UInt8 × UInt8 :=
  (List.range rounds.toNat).foldl (pairRound byte) pair

theorem encrypt_columnSchedule (byte : UInt8) (numbers : List Nat) (block : Block UInt8) :
    block.encrypt (columnSchedule byte (numbers.map Nat.toUInt8)) =
      let pair := numbers.foldl (pairRound byte) (block.left, block.right)
      ⟨pair.1, pair.2⟩ := by
  -- Later rounds start from another block.
  induction numbers generalizing block with
  | nil => rfl
  | cons i later ih => exact ih (block.round fun b => b + byte + i.toUInt8)

theorem pairAt_joinBytes {block : Block Bytes} (h : block.Within fun half => half.length = n)
    (hj : j < n) : pairAt (joinBytes block) n j = ((block.column j).left, (block.column j).right) := by
  have hleft : j < block.left.length := h.1 ▸ hj
  have hright : block.left.length ≤ n + j := h.1 ▸ Nat.le_add_right n j
  rw [pairAt, joinBytes, List.getD_append _ _ _ _ hleft, List.getD_append_right _ _ _ _ hright, h.1,
    Nat.add_sub_cancel_left]
  rfl

theorem column_splitBytes (hdata : data.length = 2 * n) (hj : j < n) :
    (splitBytes data).column j = ⟨(pairAt data n j).1, (pairAt data n j).2⟩ := by
  have hpad : padEven data = data := padEven_of_mem_columnStrings hdata
  have hsplit := splitBytes_within data
  rw [hpad, hdata, Nat.mul_div_cancel_left n Nat.two_pos] at hsplit
  rw [← hpad, ← joinBytes_splitBytes, splitBytes_joinBytes hsplit, pairAt_joinBytes hsplit hj]

/-- A column of a scrambled byte string is the scrambled column. -/
theorem pairAt_scrambleBytesBy (workers : Workers) (key : Bytes) (rounds : UInt8)
    (hdata : data.length = 2 * n) (hj : j < n) :
    pairAt (scrambleBytesBy workers data key rounds) n j =
      scramblePair (keyByte key j) rounds (pairAt data n j) := by
  have hhalf : (padEven data).length / 2 = n := by
    rw [padEven_of_mem_columnStrings hdata, hdata, Nat.mul_div_cancel_left n Nat.two_pos]
  have hsplit := splitBytes_within data
  have hencrypted := encrypt_splitBytes_within data key rounds
  rw [hhalf] at hsplit hencrypted
  rw [scrambleBytesBy_eq, scrambleBytes, pairAt_joinBytes hencrypted hj, column_encrypt hsplit hj,
    column_splitBytes hdata hj, roundNumbers, encrypt_columnSchedule]
  rfl

/-! ### Parts of a round -/

/-- Chunks of places may be reached one after the other. -/
theorem foldl_mixInto (mixed : Bytes) (chunks : List (List Nat)) (half : Bytes) :
    chunks.foldl (fun bytes places => mixInto mixed places bytes) half =
      mixInto mixed chunks.flatten half := by
  rw [mixInto, List.foldl_flatten]
  rfl

theorem length_slices {slices : List (Bytes × Bytes)}
    (h : ∀ slice ∈ slices, slice.1.length = slice.2.length) :
    (slices.flatMap (·.1)).length = (slices.flatMap (·.2)).length := by
  rw [List.length_flatMap, List.length_flatMap, List.map_congr_left h]

/-- Slices of a half may be combined one by one. -/
theorem combine_slices (round : Nat) {slices : List (Bytes × Bytes)}
    (h : ∀ slice ∈ slices, slice.1.length = slice.2.length) :
    combine workers round (slices.flatMap (·.1)) (slices.flatMap (·.2)) =
      slices.flatMap fun slice => combine workers round slice.1 slice.2 := by
  rw [combine_eq round (length_slices h)]
  induction slices with
  | nil => rfl
  | cons slice later ih =>
    rw [List.forall_mem_cons] at h
    rw [List.flatMap_cons, List.flatMap_cons, List.flatMap_cons, combine_eq round h.1, ← ih h.2]
    exact List.zipWith_append h.1

/-- In a byte string of `2 * n` bytes, bytes `j` and `n + j` are scrambled as a pair, with the number
of the round and one byte of the key added in each round. No other byte has a part in them. Within a
round a half may be combined place by place in any order, by chunks of places in any order, and by
slices, as by any workers. -/
theorem scrambleBytesBy_columnwise (workers : Workers) (key : Bytes) (rounds : UInt8)
    (hdata : data.length = 2 * n) :
    (scrambleBytesBy workers data key rounds).length = 2 * n ∧
    (∀ j < n, pairAt (scrambleBytesBy workers data key rounds) n j =
      scramblePair (keyByte key j) rounds (pairAt data n j)) ∧
    (∀ other : Bytes, other.length = 2 * n → ∀ j < n, pairAt other n j = pairAt data n j →
      pairAt (scrambleBytesBy workers other key rounds) n j =
        pairAt (scrambleBytesBy workers data key rounds) n j) ∧
    ∀ (round : Nat) (half mixed : Bytes), half.length = mixed.length →
      (∀ places : List Nat, places.Perm (List.range half.length) →
        mixInto mixed places half = combine workers round half mixed) ∧
      (∀ chunks : List (List Nat), chunks.flatten.Perm (List.range half.length) →
        chunks.foldl (fun bytes places => mixInto mixed places bytes) half =
          combine workers round half mixed) ∧
      ∀ slices : List (Bytes × Bytes), (∀ slice ∈ slices, slice.1.length = slice.2.length) →
        half = slices.flatMap (·.1) → mixed = slices.flatMap (·.2) →
          (slices.flatMap fun slice => combine workers round slice.1 slice.2) =
            combine workers round half mixed := by
  refine ⟨mapsTo_scrambleBytesBy workers key rounds n hdata,
    fun j hj => pairAt_scrambleBytesBy workers key rounds hdata hj, ?_, ?_⟩
  · intro other hother j hj hsame
    rw [pairAt_scrambleBytesBy workers key rounds hother hj, hsame,
      pairAt_scrambleBytesBy workers key rounds hdata hj]
  · intro round half mixed hlength
    have hplaces : ∀ places : List Nat, places.Perm (List.range half.length) →
        mixInto mixed places half = combine workers round half mixed := by
      intro places hperm
      rw [mixInto_eq hperm hlength, combine_eq round hlength]
    refine ⟨hplaces, ?_, ?_⟩
    · intro chunks hperm
      rw [foldl_mixInto, hplaces _ hperm]
    · rintro slices hslices rfl rfl
      exact (combine_slices round hslices).symm

/-- Two columns under a key of two bytes. -/
theorem scrambleBytesBy_columnwise_two_columns :
    ([1, 2, 3, 4] : Bytes).length = 2 * 2 ∧
    pairAt (scrambleBytesBy default [1, 2, 3, 4] [7, 9] 2) 2 1 = scramblePair 9 2 (2, 4) ∧
    scramblePair 9 2 (2, 4) = (15, 29) := by
  have hlength : ([1, 2, 3, 4] : Bytes).length = 2 * 2 := by decide
  exact ⟨hlength, (scrambleBytesBy_columnwise default [7, 9] 2 hlength).2.1 1 (by decide),
    by decide⟩

end ShortLink.Feistel
