import Mathlib.Logic.Function.Defs
import ShortLink.Feistel.Word
import ShortLink.Proofs.Bytes.Word
import ShortLink.Proofs.Feistel.Inverse

/-!
# The 64-bit permutation is undone

On words the exclusive or always undoes itself, so the inverse rounds undo the network, and two
words are never scrambled to the same one under one key. The round functions are arithmetic modulo
2³², in the key and the number of the round as well as in the half.

## Main definitions

- `Feistel.mixNumber` — the round function on numbers

## Main results

- `Feistel.toNat_mix` — the round function on words is the one on numbers

- `Feistel.unscramble_scramble`, `Feistel.scramble_unscramble` — a word comes back under its key, both
  ways
- `Feistel.scramble_injective` — one key never scrambles two words to one
- `Feistel.scramble_permutes` — under each key, for each number of rounds, words are permuted
-/

namespace ShortLink.Feistel

theorem cancels_word : Cancels fun _ : UInt32 => True where
  xor_mem _ _ := trivial
  xor_xor {a b} _ _ := by
    rw [UInt32.xor_assoc, UInt32.xor_self, UInt32.xor_zero]

theorem toNat_joinWord (block : Block UInt32) :
    (joinWord block).toNat = block.left.toNat * 2 ^ 32 + block.right.toNat := by
  have hleft := block.left.toNat_lt
  have hright := block.right.toNat_lt
  rw [joinWord, toNat_shiftLeft_or 32 rfl (by decide), UInt32.toNat_toUInt64,
    UInt32.toNat_toUInt64]
  · rw [UInt32.toNat_toUInt64]
    omega
  · rwa [UInt32.toNat_toUInt64]

theorem toNat_splitWord (w : UInt64) :
    (splitWord w).left.toNat = w.toNat / 2 ^ 32 ∧ (splitWord w).right.toNat = w.toNat % 2 ^ 32 := by
  have hw := w.toNat_lt
  constructor
  · show (w >>> 32).toUInt32.toNat = _
    have hshift : (w >>> 32).toNat = w.toNat / 2 ^ 32 := by
      rw [UInt64.toNat_shiftRight]
      exact Nat.shiftRight_eq_div_pow _ _
    rw [UInt64.toNat_toUInt32, hshift]
    omega
  · exact UInt64.toNat_toUInt32 w

theorem splitWord_joinWord (block : Block UInt32) : splitWord (joinWord block) = block := by
  obtain ⟨hhigh, hlow⟩ := toNat_splitWord (joinWord block)
  have hleft := block.left.toNat_lt
  have hright := block.right.toNat_lt
  rw [toNat_joinWord] at hhigh hlow
  ext1
  · apply UInt32.toNat_inj.mp
    omega
  · apply UInt32.toNat_inj.mp
    omega

theorem joinWord_splitWord (w : UInt64) : joinWord (splitWord w) = w := by
  obtain ⟨hhigh, hlow⟩ := toNat_splitWord w
  apply UInt64.toNat_inj.mp
  rw [toNat_joinWord, hhigh, hlow]
  omega

theorem unscramble_scramble (id : UInt64) (key : UInt32) (rounds : UInt8) :
    unscramble (scramble id key rounds) key rounds = id := by
  rw [unscramble, scramble, splitWord_joinWord,
    Block.decrypt_encrypt cancels_word (fun _ _ _ _ => trivial) ⟨trivial, trivial⟩,
    joinWord_splitWord]

theorem scramble_unscramble (code : UInt64) (key : UInt32) (rounds : UInt8) :
    scramble (unscramble code key rounds) key rounds = code := by
  rw [unscramble, scramble, splitWord_joinWord,
    Block.encrypt_decrypt cancels_word (fun _ _ _ _ => trivial) ⟨trivial, trivial⟩,
    joinWord_splitWord]

theorem scramble_injective (key : UInt32) (rounds : UInt8) :
    Function.Injective fun id => scramble id key rounds := by
  intro a b h
  have hback : unscramble (scramble a key rounds) key rounds
      = unscramble (scramble b key rounds) key rounds := congrArg (unscramble · key rounds) h
  rwa [unscramble_scramble, unscramble_scramble] at hback

/-! ### Arithmetic of the rounds -/

/-- The round function on numbers, with every sum and product taken modulo 2³². -/
def mixNumber (roundKey half : Nat) : Nat :=
  let sum := (half + roundKey) % 2 ^ 32
  (sum % 2 ^ 25 * 2 ^ 7 + sum / 2 ^ 25) * 0x9e3779b9 % 2 ^ 32

/-- Turning a word moves its high bits below the low ones. -/
theorem toNat_rotateLeft7 (w : UInt32) :
    (rotateLeft7 w).toNat = w.toNat % 2 ^ 25 * 2 ^ 7 + w.toNat / 2 ^ 25 := by
  have hw := w.toNat_lt
  have hhigh : (w <<< 7).toNat = (w.toNat % 2 ^ 25) <<< 7 := by
    rw [UInt32.toNat_shiftLeft]
    show w.toNat <<< 7 % 2 ^ 32 = _
    rw [Nat.shiftLeft_eq, Nat.shiftLeft_eq]
    omega
  have hlow : (w >>> 25).toNat = w.toNat / 2 ^ 25 := by
    rw [UInt32.toNat_shiftRight]
    exact Nat.shiftRight_eq_div_pow _ _
  rw [rotateLeft7, UInt32.toNat_or, hhigh, hlow, ← Nat.shiftLeft_add_eq_or_of_lt (by omega),
    Nat.shiftLeft_eq]

theorem toNat_mix (roundKey half : UInt32) :
    (mix roundKey half).toNat = mixNumber roundKey.toNat half.toNat := by
  rw [mix, UInt32.toNat_mul, toNat_rotateLeft7, UInt32.toNat_add]
  rfl

/-- The key of a round, which wraps like every sum. -/
theorem toNat_roundKey (key : UInt32) (i : Nat) :
    (key + i.toUInt32).toNat = (key.toNat + i) % 2 ^ 32 := by
  rw [UInt32.toNat_add, UInt32.toNat_ofNat', Nat.add_mod_mod]

/-- Under each key, for each number of rounds, scrambling permutes the words, and unscrambling is
its inverse from both sides. The rounds are those of `mixNumber` under the round keys, which wrap
like every sum. -/
theorem scramble_permutes (key : UInt32) (rounds : UInt8) :
    (∀ id, unscramble (scramble id key rounds) key rounds = id) ∧
    (∀ code, scramble (unscramble code key rounds) key rounds = code) ∧
    (Function.Bijective fun id => scramble id key rounds) ∧
    (wordSchedule key rounds).map (fun f half => (f half).toNat) =
      (List.range rounds.toNat).map fun i half =>
        mixNumber ((key.toNat + i) % 2 ^ 32) half.toNat := by
  refine ⟨fun id => unscramble_scramble id key rounds, fun code => scramble_unscramble code key rounds,
    ⟨scramble_injective key rounds, ?_⟩, ?_⟩
  · intro code
    exact ⟨unscramble code key rounds, scramble_unscramble code key rounds⟩
  · rw [wordSchedule, List.map_map]
    refine List.map_congr_left fun i _ => ?_
    funext half
    rw [Function.comp_apply, toNat_mix, toNat_roundKey]

end ShortLink.Feistel
