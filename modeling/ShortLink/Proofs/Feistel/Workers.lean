import Mathlib.Data.List.GetD
import Mathlib.Data.Set.Function
import ShortLink.Feistel.Workers
import ShortLink.Proofs.Feistel.Inverse

/-!
# Workers permute byte strings

What is mixed in at one place touches no other place, so the order in which workers reach the places
of a half does not show: a round among workers is a round of the network. So the byte-string
permutation and its inverse undo each other, whoever combines the halves on either way.

## Main results

- `Feistel.getElem?_mixInto` — each place holds what was mixed in there, in whatever order
- `Feistel.combine_eq` — halves of one length are combined by a bytewise exclusive or
- `Feistel.scrambleBytesBy_eq`, `Feistel.unscrambleBytesBy_eq` — workers do what the network does
- `Feistel.scrambleBytesBy_permutes` — byte strings are padded and permuted, and come back
-/

namespace ShortLink.Feistel

variable {workers : Workers} {key mixed half : Bytes} {block : Block Bytes} {n : Nat}

/-- Where something was mixed in, it shows, and nowhere else. -/
theorem getElem?_mixInto {places : List Nat} (h : places.Nodup) (half : Bytes) (j : Nat) :
    (mixInto mixed places half)[j]? =
      if j ∈ places then half[j]?.map (· ^^^ mixed.getD j 0) else half[j]? := by
  -- Later places are another half's, which differs from this one at the first place only.
  induction places generalizing half with
  | nil => rfl
  | cons place later ih =>
    rw [List.nodup_cons] at h
    show (mixInto mixed later (half.modify place (· ^^^ mixed.getD place 0)))[j]? = _
    rw [ih h.2, List.getElem?_modify]
    by_cases hj : place = j
    · subst hj
      rw [if_neg h.1, if_pos List.mem_cons_self]
      simp
    · simp [hj, Ne.symm hj]

/-- When every place is reached once, everything is mixed in. -/
theorem mixInto_eq {places : List Nat} (hplaces : places.Perm (List.range half.length))
    (hlength : half.length = mixed.length) : mixInto mixed places half = half ^^^ mixed := by
  have hnodup : places.Nodup := hplaces.nodup_iff.mpr List.nodup_range
  refine List.ext_getElem? fun j => ?_
  have hreached : j ∈ places ↔ j < half.length := by rw [hplaces.mem_iff, List.mem_range]
  show _ = (half.zipWith (· ^^^ ·) mixed)[j]?
  rw [getElem?_mixInto hnodup, List.getElem?_zipWith]
  by_cases hj : j < half.length
  · have hmixed : j < mixed.length := hlength ▸ hj
    rw [if_pos (hreached.mpr hj), List.getD_eq_getElem _ _ hmixed, List.getElem?_eq_getElem hj,
      List.getElem?_eq_getElem hmixed]
    rfl
  · rw [if_neg (mt hreached.mp hj), List.getElem?_eq_none (Nat.not_lt.mp hj)]

theorem combine_eq (round : Nat) (hlength : half.length = mixed.length) :
    combine workers round half mixed = half ^^^ mixed := by
  rw [combine]
  split
  · exact mixInto_eq (workers.perm_range round half.length) hlength
  · exact mixInto_eq (.refl _) hlength

theorem length_shift (round : UInt8) (half : Bytes) :
    (shift key.toArray round half).length = half.length := List.length_mapIdx

/-! ### Rounds -/

theorem roundBy_eq (h : block.Within fun half => half.length = n) (i : Nat) :
    roundBy workers key block i = block.round (shift key.toArray i.toUInt8) := by
  rw [roundBy, combine_eq, Block.round]
  rw [length_shift, h.1, h.2]

theorem unroundBy_eq (h : block.Within fun half => half.length = n) (i : Nat) :
    unroundBy workers key i block = block.unround (shift key.toArray i.toUInt8) := by
  rw [unroundBy, combine_eq, Block.unround]
  rw [length_shift, h.1, h.2]

theorem foldl_roundBy (h : block.Within fun half => half.length = n) (numbers : List Nat) :
    numbers.foldl (roundBy workers key) block =
      block.encrypt (numbers.map fun i => shift key.toArray i.toUInt8) := by
  induction numbers generalizing block with
  | nil => rfl
  | cons i later ih =>
    have hround : (block.round (shift key.toArray i.toUInt8)).Within fun half => half.length = n :=
      h.round (cancels_length n) fun half hhalf => (length_shift i.toUInt8 half).trans hhalf
    rw [List.foldl_cons, roundBy_eq h, ih hround]
    rfl

theorem foldr_unroundBy (h : block.Within fun half => half.length = n) (numbers : List Nat) :
    numbers.foldr (unroundBy workers key) block =
      block.decrypt (numbers.map fun i => shift key.toArray i.toUInt8) := by
  induction numbers with
  | nil => rfl
  | cons i later ih =>
    have hlater : (block.decrypt (later.map fun i => shift key.toArray i.toUInt8)).Within
        fun half => half.length = n := by
      refine h.decrypt (cancels_length n) ?_
      intro f hf half hhalf
      obtain ⟨j, -, rfl⟩ := List.mem_map.mp hf
      exact (length_shift j.toUInt8 half).trans hhalf
    rw [List.foldr_cons, ih, unroundBy_eq hlater]
    rfl

/-- Workers scramble a byte string as the network does. -/
theorem scrambleBytesBy_eq (workers : Workers) (data key : Bytes) (rounds : UInt8) :
    scrambleBytesBy workers data key rounds = scrambleBytes data key rounds := by
  rw [scrambleBytesBy]
  split
  · next hempty =>
    obtain rfl := List.isEmpty_iff.mp hempty
    exact (List.eq_nil_of_length_eq_zero (length_scrambleBytes [] key rounds)).symm
  · rw [foldl_roundBy (splitBytes_within data)]
    rfl

theorem unscrambleBytesBy_eq (workers : Workers) (data key : Bytes) (rounds : UInt8) :
    unscrambleBytesBy workers data key rounds = unscrambleBytes data key rounds := by
  rw [unscrambleBytesBy]
  split
  · next hempty =>
    obtain rfl := List.isEmpty_iff.mp hempty
    exact (List.eq_nil_of_length_eq_zero (length_unscrambleBytes [] key rounds)).symm
  · rw [foldr_unroundBy (splitBytes_within data)]
    rfl

/-! ### Byte strings of even length -/

/-- The byte strings of `n` columns. -/
def columnStrings (n : Nat) : Set Bytes := {data | data.length = 2 * n}

theorem padEven_of_mem_columnStrings {data : Bytes} (h : data ∈ columnStrings n) :
    padEven data = data := by
  refine padEven_eq_self ?_
  have hlength : data.length = 2 * n := h
  omega

theorem mapsTo_scrambleBytesBy (workers : Workers) (key : Bytes) (rounds : UInt8) (n : Nat) :
    Set.MapsTo (fun data => scrambleBytesBy workers data key rounds) (columnStrings n)
      (columnStrings n) := by
  intro data hdata
  have hlength : data.length = 2 * n := hdata
  show (scrambleBytesBy workers data key rounds).length = 2 * n
  rw [scrambleBytesBy_eq, length_scrambleBytes]
  omega

theorem mapsTo_unscrambleBytesBy (workers : Workers) (key : Bytes) (rounds : UInt8) (n : Nat) :
    Set.MapsTo (fun data => unscrambleBytesBy workers data key rounds) (columnStrings n)
      (columnStrings n) := by
  intro data hdata
  have hlength : data.length = 2 * n := hdata
  show (unscrambleBytesBy workers data key rounds).length = 2 * n
  rw [unscrambleBytesBy_eq, length_unscrambleBytes]
  omega

/-- Whatever workers scramble and whatever workers unscramble, a byte string comes back both ways,
padded to even length, and has that length in between. On the byte strings of an even length both
are permutations, inverse to each other. Which workers there are does not show, nor whether there
are any. -/
theorem scrambleBytesBy_permutes (ours theirs : Workers) (key : Bytes) (rounds : UInt8) :
    (∀ data,
      unscrambleBytesBy theirs (scrambleBytesBy ours data key rounds) key rounds = padEven data ∧
      scrambleBytesBy ours (unscrambleBytesBy theirs data key rounds) key rounds = padEven data ∧
      (scrambleBytesBy ours data key rounds).length = (padEven data).length ∧
      (unscrambleBytesBy theirs data key rounds).length = (padEven data).length) ∧
    (∀ n,
      Set.BijOn (fun data => scrambleBytesBy ours data key rounds) (columnStrings n) (columnStrings n) ∧
      Set.BijOn (fun data => unscrambleBytesBy theirs data key rounds) (columnStrings n) (columnStrings n) ∧
      Set.InvOn (fun data => unscrambleBytesBy theirs data key rounds)
        (fun data => scrambleBytesBy ours data key rounds) (columnStrings n) (columnStrings n)) ∧
    (∀ data,
      scrambleBytesBy ours data key rounds = scrambleBytes data key rounds ∧
      unscrambleBytesBy theirs data key rounds = unscrambleBytes data key rounds) := by
  have hback : ∀ data,
      unscrambleBytesBy theirs (scrambleBytesBy ours data key rounds) key rounds = padEven data := by
    intro data
    rw [unscrambleBytesBy_eq, scrambleBytesBy_eq, unscrambleBytes_scrambleBytes]
  have hforth : ∀ data,
      scrambleBytesBy ours (unscrambleBytesBy theirs data key rounds) key rounds = padEven data := by
    intro data
    rw [unscrambleBytesBy_eq, scrambleBytesBy_eq, scrambleBytes_unscrambleBytes]
  have hinverse : ∀ n, Set.InvOn (fun data => unscrambleBytesBy theirs data key rounds)
      (fun data => scrambleBytesBy ours data key rounds) (columnStrings n) (columnStrings n) := fun n =>
    ⟨fun data hdata => (hback data).trans (padEven_of_mem_columnStrings hdata),
      fun data hdata => (hforth data).trans (padEven_of_mem_columnStrings hdata)⟩
  refine ⟨fun data => ⟨hback data, hforth data, ?_, ?_⟩, fun n => ⟨?_, ?_, hinverse n⟩,
    fun data => ⟨scrambleBytesBy_eq ours data key rounds,
      unscrambleBytesBy_eq theirs data key rounds⟩⟩
  · rw [scrambleBytesBy_eq, length_scrambleBytes, length_padEven]
  · rw [unscrambleBytesBy_eq, length_unscrambleBytes, length_padEven]
  · exact (hinverse n).bijOn (mapsTo_scrambleBytesBy ours key rounds n)
      (mapsTo_unscrambleBytesBy theirs key rounds n)
  · exact (hinverse n).symm.bijOn (mapsTo_unscrambleBytesBy theirs key rounds n)
      (mapsTo_scrambleBytesBy ours key rounds n)

end ShortLink.Feistel
