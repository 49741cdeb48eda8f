import Mathlib.Tactic.ByContra
import ShortLink.Proofs.Feistel.Word
import ShortLink.Settings.KeyRing

/-!
# Two keys on one word

The round function of words is injective in the round key. So when two keys have made the same of a
word, the next round tells them apart in the right half, and the round after it in the left half. It
takes a third round for the difference to vanish again, and it does vanish for some words and keys,
with every number of rounds from three on.

## Main definitions

- `Feistel.MeetInThree` — what it takes for two keys to scramble a word alike in three rounds
- `Feistel.Isolates` — no word comes back under another key
- `Feistel.meetings` — words that two keys scramble alike

## Main results

- `Feistel.mix_injective` — round keys that differ show in every half
- `Feistel.scramble_succ_ne`, `Feistel.scramble_add_two_ne` — keys that agree on a word differ on it
  for the next two numbers of rounds
- `Feistel.scramble_three_eq_iff` — these are the words that two keys scramble alike in three rounds
- `Feistel.isolates_iff` — words are isolated by one or two rounds, and by no more
-/

namespace ShortLink.Feistel

variable {id : UInt64} {key key' roundKey roundKey' : UInt32} {rounds : UInt8}

/-! ### One round -/

theorem rotateLeft7_injective : Function.Injective rotateLeft7 := by
  intro v w h
  have hturned := congrArg UInt32.toNat h
  have hv := v.toNat_lt
  have hw := w.toNat_lt
  rw [toNat_rotateLeft7, toNat_rotateLeft7] at hturned
  apply UInt32.toNat_inj.mp
  omega

/-- The multiplier is odd, so it has an inverse modulo 2³². -/
theorem mul_goldenMultiplier_injective : Function.Injective (· * goldenMultiplier) := by
  intro v w h
  have hinverse : goldenMultiplier * 0x144cbc89 = 1 := by decide
  have hback : v * goldenMultiplier * 0x144cbc89 = w * goldenMultiplier * 0x144cbc89 :=
    congrArg (· * 0x144cbc89) h
  rwa [UInt32.mul_assoc, UInt32.mul_assoc, hinverse, UInt32.mul_one, UInt32.mul_one] at hback

/-- The round function tells sums of half and round key apart. -/
theorem mix_eq_iff {half half' : UInt32} :
    mix roundKey half = mix roundKey' half' ↔ half + roundKey = half' + roundKey' := by
  constructor
  · intro h
    exact rotateLeft7_injective (mul_goldenMultiplier_injective h)
  · intro h
    rw [mix, mix, h]

theorem mix_injective (half : UInt32) : Function.Injective fun roundKey => mix roundKey half := by
  intro v w h
  exact UInt32.add_right_inj half |>.mp (mix_eq_iff.mp h)

theorem mix_ne (hkeys : key ≠ key') (i half : UInt32) : mix (key + i) half ≠ mix (key' + i) half := by
  intro h
  exact hkeys ((UInt32.add_left_inj i).mp (mix_injective half h))

/-- A round under different round keys shows in the right half of a block. -/
theorem right_round_ne {f g : UInt32 → UInt32} (hfg : ∀ half, f half ≠ g half)
    (block : Block UInt32) : (block.round f).right ≠ (block.round g).right := by
  intro h
  exact hfg block.right ((UInt32.xor_right_inj block.left).mp h)

/-! ### Numbers of rounds -/

theorem toNat_succ (h : rounds.toNat + 1 < 256) : (rounds + 1).toNat = rounds.toNat + 1 := by
  rw [UInt8.toNat_add]
  exact Nat.mod_eq_of_lt h

theorem wordSchedule_succ (key : UInt32) (h : rounds.toNat + 1 < 256) :
    wordSchedule key (rounds + 1) = wordSchedule key rounds ++ [mix (key + rounds.toNat.toUInt32)] := by
  rw [wordSchedule, toNat_succ h, List.range_succ, List.map_append]
  rfl

/-- What is left of a word after some rounds, as a block. -/
def scrambled (id : UInt64) (key : UInt32) (rounds : UInt8) : Block UInt32 :=
  (splitWord id).encrypt (wordSchedule key rounds)

theorem scramble_eq_iff :
    scramble id key rounds = scramble id key' rounds ↔
      scrambled id key rounds = scrambled id key' rounds := by
  constructor
  · intro h
    have hblocks := congrArg splitWord h
    rwa [scramble, scramble, splitWord_joinWord, splitWord_joinWord] at hblocks
  · intro h
    exact congrArg joinWord h

theorem scrambled_succ (id : UInt64) (key : UInt32) (h : rounds.toNat + 1 < 256) :
    scrambled id key (rounds + 1) =
      (scrambled id key rounds).round (mix (key + rounds.toNat.toUInt32)) := by
  rw [scrambled, wordSchedule_succ key h, Block.encrypt, List.foldl_append]
  rfl

/-- Where two keys agree, one more round shows in the right half. -/
theorem right_scrambled_succ_ne (hkeys : key ≠ key') (hrounds : rounds.toNat + 1 < 256)
    (h : scrambled id key rounds = scrambled id key' rounds) :
    (scrambled id key (rounds + 1)).right ≠ (scrambled id key' (rounds + 1)).right := by
  rw [scrambled_succ id key hrounds, scrambled_succ id key' hrounds, h]
  exact right_round_ne (mix_ne hkeys _) _

/-- Keys that agree on a word differ on it for the next number of rounds. -/
theorem scramble_succ_ne (hkeys : key ≠ key') (hrounds : rounds.toNat + 1 < 256)
    (h : scramble id key rounds = scramble id key' rounds) :
    scramble id key (rounds + 1) ≠ scramble id key' (rounds + 1) := by
  intro hnext
  exact right_scrambled_succ_ne hkeys hrounds (scramble_eq_iff.mp h)
    (congrArg Block.right (scramble_eq_iff.mp hnext))

/-- They differ on it for the number after that as well, for the right half becomes the left one. -/
theorem scramble_add_two_ne (hkeys : key ≠ key') (hrounds : rounds.toNat + 2 < 256)
    (h : scramble id key rounds = scramble id key' rounds) :
    scramble id key (rounds + 2) ≠ scramble id key' (rounds + 2) := by
  have hnext : (rounds + 1).toNat + 1 < 256 := by
    rw [toNat_succ (by omega)]
    exact hrounds
  have htwo : rounds + 2 = rounds + 1 + 1 := (UInt8.add_assoc rounds 1 1).symm
  have hright := right_scrambled_succ_ne hkeys (by omega) (scramble_eq_iff.mp h)
  rw [htwo]
  intro hagree
  have hblocks := scramble_eq_iff.mp hagree
  rw [scrambled_succ id key hnext, scrambled_succ id key' hnext] at hblocks
  exact hright (congrArg Block.left hblocks)

/-- A word comes back under another key when both keys scramble it alike. -/
theorem unscramble_scramble_eq_iff :
    unscramble (scramble id key rounds) key' rounds = id ↔
      scramble id key rounds = scramble id key' rounds := by
  constructor
  · intro h
    rw [← scramble_unscramble (scramble id key rounds) key' rounds, h]
  · intro h
    rw [h, unscramble_scramble]

/-! ### Three rounds -/

theorem xor_eq_xor_iff {a b c d : UInt32} : a ^^^ c = b ^^^ d ↔ a ^^^ b = c ^^^ d := by
  rw [← UInt32.xor_left_inj c, UInt32.xor_assoc, UInt32.xor_self, UInt32.xor_zero,
    ← UInt32.xor_right_inj b, UInt32.xor_comm b a, UInt32.xor_assoc b, ← UInt32.xor_assoc b b,
    UInt32.xor_self, UInt32.zero_xor, UInt32.xor_comm d c]

/-- The half of a word that the first round makes. -/
def firstHalf (id : UInt64) (key : UInt32) : UInt32 :=
  (splitWord id).left ^^^ mix key (splitWord id).right

/-- The half of a word that the second round makes. -/
def secondHalf (id : UInt64) (key : UInt32) : UInt32 :=
  (splitWord id).right ^^^ mix (key + 1) (firstHalf id key)

/-- What it takes for two keys to scramble a word alike in three rounds: the first round leaves halves
that differ as the keys do, the other way round, and the last one takes back how they differ bit by
bit. -/
structure MeetInThree (id : UInt64) (key key' : UInt32) : Prop where
  sums_eq : firstHalf id key + key = firstHalf id key' + key'
  xors_eq : firstHalf id key ^^^ firstHalf id key' =
    mix (key + 2) (secondHalf id key) ^^^ mix (key' + 2) (secondHalf id key)

theorem scrambled_three (id : UInt64) (key : UInt32) :
    scrambled id key 3 =
      ⟨secondHalf id key, firstHalf id key ^^^ mix (key + 2) (secondHalf id key)⟩ := by
  show (((splitWord id).round (mix (key + 0))).round (mix (key + 1))).round (mix (key + 2)) = _
  rw [UInt32.add_zero]
  rfl

theorem secondHalf_eq_iff :
    secondHalf id key = secondHalf id key' ↔ firstHalf id key + key = firstHalf id key' + key' := by
  rw [secondHalf, secondHalf, UInt32.xor_right_inj, mix_eq_iff, ← UInt32.add_assoc,
    ← UInt32.add_assoc, UInt32.add_left_inj]

theorem scramble_three_eq_iff :
    scramble id key 3 = scramble id key' 3 ↔ MeetInThree id key key' := by
  rw [scramble_eq_iff, scrambled_three, scrambled_three, Block.mk.injEq, secondHalf_eq_iff]
  constructor
  · rintro ⟨hsums, hright⟩
    rw [← secondHalf_eq_iff.mpr hsums, xor_eq_xor_iff] at hright
    exact ⟨hsums, hright⟩
  · rintro ⟨hsums, hxors⟩
    refine ⟨hsums, ?_⟩
    rw [← secondHalf_eq_iff.mpr hsums, xor_eq_xor_iff]
    exact hxors

/-! ### Up to ten rounds -/

/-- No word comes back under another key. -/
def Isolates (rounds : UInt8) : Prop :=
  ∀ (id : UInt64) (key key' : UInt32), key ≠ key' →
    unscramble (scramble id key rounds) key' rounds ≠ id

/-- A word that two keys scramble alike in some number of rounds. -/
structure Meeting where
  rounds : UInt8
  id : UInt64
  key : UInt32
  key' : UInt32

/-- Words that two keys scramble alike, one for each number of rounds from three to ten. -/
def meetings : List Meeting :=
  [⟨3, 22342106341179392, 777, 46065874⟩,
    ⟨4, 0, 718233, 15564185⟩,
    ⟨5, 0, 3288359882, 3358823906⟩,
    ⟨6, 3, 535399460, 4081219720⟩,
    ⟨7, 2, 448570961, 748945382⟩,
    ⟨8, 0, 134956284, 166151420⟩,
    ⟨9, 9, 2044060297, 4148678130⟩,
    ⟨10, 1, 1520829213, 3369727861⟩]

theorem scramble_eq_of_mem_meetings : ∀ m ∈ meetings,
    m.key ≠ m.key' ∧ scramble m.id m.key m.rounds = scramble m.id m.key' m.rounds := by
  decide +kernel

theorem not_isolates_of_mem_meetings {m : Meeting} (hm : m ∈ meetings) : ¬Isolates m.rounds := by
  intro hisolates
  obtain ⟨hkeys, hsame⟩ := scramble_eq_of_mem_meetings m hm
  exact hisolates m.id m.key m.key' hkeys (unscramble_scramble_eq_iff.mpr hsame)

/-- Before the first round all keys agree on a word, so after one or two rounds no two do. -/
theorem isolates_of_le_two (hone : 1 ≤ rounds) (htwo : rounds ≤ 2) : Isolates rounds := by
  intro id key key' hkeys hback
  have hnone : ∀ key, wordSchedule key 0 = [] := fun _ => rfl
  have hstart : scramble id key 0 = scramble id key' 0 := by
    rw [scramble, scramble, hnone, hnone]
  have hsame := unscramble_scramble_eq_iff.mp hback
  have hcases : rounds = 1 ∨ rounds = 2 := by
    rw [UInt8.le_iff_toNat_le] at hone htwo
    rw [← UInt8.toNat_inj, ← UInt8.toNat_inj]
    change 1 ≤ rounds.toNat at hone
    change rounds.toNat ≤ 2 at htwo
    change rounds.toNat = 1 ∨ rounds.toNat = 2
    omega
  rcases hcases with rfl | rfl
  · exact scramble_succ_ne hkeys (by decide) hstart hsame
  · exact scramble_add_two_ne hkeys (by decide) hstart hsame

/-- Words are isolated by one or two rounds, and by no more. -/
theorem isolates_iff (rounds : Rounds) : Isolates rounds.val ↔ rounds.val ≤ 2 := by
  constructor
  · intro hisolates
    by_contra htwo
    have hlow : 3 ≤ rounds.val.toNat := by
      rw [UInt8.not_le, UInt8.lt_iff_toNat_lt] at htwo
      exact htwo
    have hhigh : rounds.val.toNat ≤ 10 := UInt8.le_iff_toNat_le.mp rounds.le_ten
    have hlisted : ∀ n < 11, 3 ≤ n → ∃ m ∈ meetings, m.rounds.toNat = n := by decide
    obtain ⟨m, hm, hrounds⟩ := hlisted _ (Nat.lt_succ_of_le hhigh) hlow
    rw [UInt8.toNat_inj] at hrounds
    exact not_isolates_of_mem_meetings hm (hrounds ▸ hisolates)
  · exact isolates_of_le_two rounds.one_le

end ShortLink.Feistel
