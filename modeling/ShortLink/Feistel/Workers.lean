import ShortLink.Feistel.Stream

/-!
# The byte-string permutation among workers

Long halves are shared out among workers, which mix one half into the other place by place. A round
ends when every place has been reached, and each place is reached once; in which order, is up to the
workers. Shorter halves are mixed in place by place from the first to the last.

## Main definitions

- `Feistel.Workers` — in which order workers reach the places of a half
- `Feistel.combine` — one half mixed into the other, by hand or among workers
- `Feistel.scrambleBytesBy`, `Feistel.unscrambleBytesBy` — the permutation of byte strings and its
  inverse, with the halves combined so
-/

namespace ShortLink.Feistel

/-- Length of a half from which it is shared out among workers. -/
def parallelThreshold : Nat := 16 * 1024

/-- For each round, and a half of each length, the order in which workers reach its places. No place
is left out, and none is reached twice. -/
structure Workers where
  order : Nat → Nat → List Nat
  perm_range : ∀ round length, (order round length).Perm (List.range length)

/-- A single worker, which goes from the first place to the last. -/
instance : Inhabited Workers := ⟨⟨fun _ length => List.range length, fun _ _ => .refl _⟩⟩

/-- A half after `mixed` has been mixed in at some places, one after the other. -/
def mixInto (mixed : Bytes) (places : List Nat) (half : Bytes) : Bytes :=
  places.foldl (fun bytes j => bytes.modify j (· ^^^ mixed.getD j 0)) half

/-- A half with `mixed` mixed in, among workers when it is long enough. -/
def combine (workers : Workers) (round : Nat) (half mixed : Bytes) : Bytes :=
  if parallelThreshold ≤ half.length then mixInto mixed (workers.order round half.length) half
  else mixInto mixed (List.range half.length) half

/-- Round `i` under `key`. -/
def roundBy (workers : Workers) (key : Bytes) (block : Block Bytes) (i : Nat) : Block Bytes :=
  ⟨block.right, combine workers i block.left (shift key.toArray i.toUInt8 block.right)⟩

/-- The inverse of round `i` under `key`. -/
def unroundBy (workers : Workers) (key : Bytes) (i : Nat) (block : Block Bytes) : Block Bytes :=
  ⟨combine workers i block.right (shift key.toArray i.toUInt8 block.left), block.left⟩

/-- Permutes a byte string, with the halves combined by workers. -/
def scrambleBytesBy (workers : Workers) (data key : Bytes) (rounds : UInt8) : Bytes :=
  if data.isEmpty then []
  else joinBytes ((List.range rounds.toNat).foldl (roundBy workers key) (splitBytes data))

/-- Inverse of `scrambleBytesBy` under the same key and number of rounds, with any workers. -/
def unscrambleBytesBy (workers : Workers) (data key : Bytes) (rounds : UInt8) : Bytes :=
  if data.isEmpty then []
  else joinBytes ((List.range rounds.toNat).foldr (unroundBy workers key) (splitBytes data))

end ShortLink.Feistel
