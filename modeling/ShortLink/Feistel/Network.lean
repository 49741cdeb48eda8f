/-!
# Feistel networks

A Feistel network turns any function on half blocks into a permutation of whole blocks: each
round swaps the halves and mixes one into the other with an exclusive or, so the same function
undoes it.

## Main definitions

- `Feistel.Block` — two halves
- `Feistel.Block.round`, `Feistel.Block.unround` — one round and its inverse
- `Feistel.Block.encrypt`, `Feistel.Block.decrypt` — a list of rounds, first to last and back
-/

namespace ShortLink.Feistel

/-- A block of two halves. -/
@[ext]
structure Block (α : Type) where
  left : α
  right : α
  deriving DecidableEq, Repr

namespace Block

variable {α : Type} [XorOp α]

/-- One round: the halves change places, and the image of the right half is mixed into the left
one. -/
def round (f : α → α) (block : Block α) : Block α :=
  ⟨block.right, block.left ^^^ f block.right⟩

/-- The inverse of a round. -/
def unround (f : α → α) (block : Block α) : Block α :=
  ⟨block.right ^^^ f block.left, block.left⟩

/-- The rounds of `schedule`, first to last. -/
def encrypt (schedule : List (α → α)) (block : Block α) : Block α :=
  schedule.foldl (fun b f => b.round f) block

/-- The inverse rounds of `schedule`, last to first. -/
def decrypt (schedule : List (α → α)) (block : Block α) : Block α :=
  schedule.foldr (fun f b => b.unround f) block

end Block

end ShortLink.Feistel
