import ShortLink.Bytes
import ShortLink.Feistel.Network

/-!
# The byte-string permutation

Payloads of any length are hidden behind a Feistel network on the two halves of a byte string.
The round function adds the key, repeated along the half, and the number of the round to each
byte. A string of odd length gets one zero byte at its end first, so results have even length; a
zero byte that was there before cannot be told from the added one on the way back.

## Main definitions

- `Feistel.padEven` — a byte string of even length
- `Feistel.shift` — the round function
- `Feistel.scrambleBytes`, `Feistel.unscrambleBytes` — the permutation of byte strings of even
  length and its inverse
-/

namespace ShortLink.Feistel

instance : XorOp Bytes := ⟨Bytes.xor⟩

/-- The byte string with one zero byte added at its end when its length is odd. -/
def padEven (data : Bytes) : Bytes := if data.length % 2 = 0 then data else data ++ [0]

/-- The round function: byte `j` grows by byte `j` of the repeated key and by the number of the
round. An empty key adds nothing. -/
def shift (key : Array UInt8) (round : UInt8) (half : Bytes) : Bytes :=
  half.mapIdx fun j b => b + key.getD (j % key.size) 0 + round

/-- The round functions for `rounds` rounds under `key`. -/
def streamSchedule (key : Bytes) (rounds : UInt8) : List (Bytes → Bytes) :=
  (List.range rounds.toNat).map fun i => shift key.toArray i.toUInt8

/-- The two halves of a byte string, padded to even length. -/
def splitBytes (data : Bytes) : Block Bytes :=
  let padded := padEven data
  ⟨padded.take (padded.length / 2), padded.drop (padded.length / 2)⟩

/-- The byte string with the given halves. -/
def joinBytes (block : Block Bytes) : Bytes := block.left ++ block.right

/-- Permutes a byte string. -/
def scrambleBytes (data key : Bytes) (rounds : UInt8) : Bytes :=
  joinBytes ((splitBytes data).encrypt (streamSchedule key rounds))

/-- Inverse of `scrambleBytes` under the same key and number of rounds. -/
def unscrambleBytes (data key : Bytes) (rounds : UInt8) : Bytes :=
  joinBytes ((splitBytes data).decrypt (streamSchedule key rounds))

end ShortLink.Feistel
