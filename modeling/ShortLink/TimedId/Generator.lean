import ShortLink.TimedId.Layout

/-!
# The id generator

A generator remembers the timestamp and the sequence number of its last id. Within one millisecond
the sequence counts up; 256 ids exhaust it, and the next id waits for the clock. A clock that has
stepped back is not waited for: ids go on with the last timestamp and then with the ones after it.

## Main definitions

- `TimedId.Generator` — a node and the word that holds its last timestamp and sequence
- `TimedId.Generator.attempt` — one attempt at one reading of the clock
- `TimedId.Generator.next?` — attempts at successive readings until one succeeds
-/

namespace ShortLink.TimedId

/-- A generator of ids for one node. -/
structure Generator where
  node : NodeId
  /-- The last timestamp, shifted left by eight bits, and the last sequence number. -/
  state : UInt64 := 0
  deriving DecidableEq

namespace Generator

/-- The timestamp and the sequence number that follow `state` when `now` milliseconds have
elapsed, or nothing when the millisecond is exhausted and the clock has not moved on. -/
def successor? (state now : UInt64) : Option (UInt64 × UInt64) :=
  let last := state >>> 8
  let sequence := state &&& maxSequence
  if last < now then some (now, 0)
  else if sequence < maxSequence then some (last, sequence + 1)
  else if now < last then some (last + 1, 0)
  else none

/-- One attempt at a reading of the clock: the id and the generator after it, or nothing when the
caller has to wait. -/
def attempt (generator : Generator) (clock : UInt64) : Option (UInt64 × Generator) :=
  (successor? generator.state (elapsed clock)).map fun (timestamp, sequence) =>
    (compose timestamp generator.node sequence,
      { generator with state := timestamp <<< 8 ||| sequence })

/-- The id of the first successful attempt at successive readings of the clock, the generator after
it, and the readings left. -/
def next? (generator : Generator) : List UInt64 → Option (UInt64 × Generator × List UInt64)
  | [] => none
  | clock :: later =>
    match generator.attempt clock with
    | some (id, after) => some (id, after, later)
    | none => next? generator later

end Generator

end ShortLink.TimedId
