import ShortLink.Feistel.Network

/-!
# The 64-bit permutation

Generated ids are hidden behind a Feistel network on the two 32-bit halves of a 64-bit word.
Round `i` uses the round key `key + i`, and every sum and product wraps at 32 bits. The network
stops casual enumeration of ids; it is no cipher.

## Main definitions

- `Feistel.mix` — the round function
- `Feistel.scramble`, `Feistel.unscramble` — the permutation of 64-bit words and its inverse
-/

namespace ShortLink.Feistel

/-- The word turned left by seven bits. -/
def rotateLeft7 (w : UInt32) : UInt32 := w <<< 7 ||| w >>> 25

/-- 2³² divided by the golden ratio, the multiplier of the round function. -/
def goldenMultiplier : UInt32 := 0x9e3779b9

/-- The round function: add the round key, turn, multiply. -/
def mix (roundKey half : UInt32) : UInt32 := rotateLeft7 (half + roundKey) * goldenMultiplier

/-- The round functions for `rounds` rounds under `key`. -/
def wordSchedule (key : UInt32) (rounds : UInt8) : List (UInt32 → UInt32) :=
  (List.range rounds.toNat).map fun i => mix (key + i.toUInt32)

/-- The high and the low half of a word. -/
def splitWord (w : UInt64) : Block UInt32 := ⟨(w >>> 32).toUInt32, w.toUInt32⟩

/-- The word with the given halves. -/
def joinWord (block : Block UInt32) : UInt64 := block.left.toUInt64 <<< 32 ||| block.right.toUInt64

/-- Permutes a 64-bit word. -/
def scramble (id : UInt64) (key : UInt32) (rounds : UInt8) : UInt64 :=
  joinWord ((splitWord id).encrypt (wordSchedule key rounds))

/-- Inverse of `scramble` under the same key and number of rounds. -/
def unscramble (code : UInt64) (key : UInt32) (rounds : UInt8) : UInt64 :=
  joinWord ((splitWord code).decrypt (wordSchedule key rounds))

end ShortLink.Feistel
