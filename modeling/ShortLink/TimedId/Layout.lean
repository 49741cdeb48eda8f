/-!
# Time-ordered ids

An id is a 64-bit word with, from its most significant bit on, 41 bits of milliseconds since the
first instant of 2023 (UTC), 10 bits of node id and 8 bits of sequence number.

## Main definitions

- `TimedId.epoch` — the instant from which timestamps count
- `TimedId.NodeId` — the id of a node
- `TimedId.compose` — the id with the given fields
- `TimedId.Parts`, `TimedId.parts` — the fields of an id
-/

namespace ShortLink.TimedId

/-- The first instant of 2023, in milliseconds since the Unix epoch. -/
def epoch : UInt64 := 1672531200000

/-- Largest node id. -/
def maxNode : UInt16 := 1023

/-- Largest sequence number. -/
def maxSequence : UInt64 := 255

/-- The id of a node. -/
structure NodeId where
  val : UInt16
  val_le : val ≤ maxNode
  deriving DecidableEq

/-- The node with the given number, when it is in range. -/
def NodeId.ofWord? (n : UInt16) : Option NodeId :=
  if h : n ≤ maxNode then some ⟨n, h⟩ else none

instance : Inhabited NodeId := ⟨⟨0, by decide⟩⟩

/-- The id with the given timestamp, node and sequence number. -/
def compose (timestamp : UInt64) (node : NodeId) (sequence : UInt64) : UInt64 :=
  timestamp <<< 18 ||| node.val.toUInt64 <<< 8 ||| sequence

/-- The fields of an id. -/
structure Parts where
  /-- Milliseconds since `epoch`. -/
  timestamp : UInt64
  node : UInt16
  sequence : UInt8
  deriving DecidableEq, Repr

/-- The fields packed into an id. -/
def parts (id : UInt64) : Parts :=
  ⟨id >>> 18, (id >>> 8 &&& maxNode.toUInt64).toUInt16, (id &&& maxSequence).toUInt8⟩

/-- Milliseconds since `epoch` at a reading of the clock, reduced to the 41 bits of the field; the
epoch itself when the clock stands before it. -/
def elapsed (clock : UInt64) : UInt64 :=
  (if clock < epoch then 0 else clock - epoch) &&& 0x1ffffffffff

end ShortLink.TimedId
