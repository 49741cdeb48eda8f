import ShortLink.Deflate.Copy

/-!
# Finding repetitions

A byte string is turned into literals and copies, from left to right: wherever enough bytes repeat
what stands up to 32 KiB before, the longest repetition that is found becomes a copy. How many bytes
are enough is left open, since a short copy may take more room than its literals.

## Main definitions

- `Deflate.commonLength` — how far two positions agree
- `Deflate.MatchTable` — the positions seen so far, by the bytes that stand there
- `Deflate.literals`, `Deflate.findItems` — the items of a byte string, without and with copies
-/

namespace ShortLink.Deflate

/-- How many bytes from two positions on agree, at most `n`. -/
def commonLength (data : Array UInt8) (i j : Nat) : Nat → Nat
  | 0 => 0
  | n + 1 =>
    if data.getD i 0 == data.getD j 0 then commonLength data (i + 1) (j + 1) n + 1 else 0

/-- Length of the shortest copy. -/
def minCopy : Nat := 3

/-- Length of the longest copy. -/
def maxCopy : Nat := 258

/-- Largest distance of a copy. -/
def maxDistance : Nat := 32768

/-- The positions seen so far, newest first, in buckets by the bytes that stand there. -/
abbrev MatchTable := Array (List Nat)

namespace MatchTable

/-- Number of buckets. -/
def buckets : Nat := 8192

/-- How many positions of a bucket are remembered. -/
def depth : Nat := 48

/-- How many bytes are looked at to choose a bucket. A position is remembered once for each width,
so that a long repetition is found even where its first few bytes are frequent. -/
def widths : List Nat := [minCopy, 8, 24]

/-- The bucket of the given number of bytes at a position. -/
def bucket (data : Array UInt8) (position width : Nat) : Nat :=
  (List.range width).foldl
    (fun key i => (key * 31 + (data.getD (position + i) 0).toNat) % buckets) width

/-- The positions in the buckets of a position. -/
def lookUp (data : Array UInt8) (table : MatchTable) (position : Nat) : List Nat :=
  widths.flatMap fun width => table.getD (bucket data position width) []

/-- The table with one more position. -/
def remember (data : Array UInt8) (table : MatchTable) (position : Nat) : MatchTable :=
  widths.foldl
    (fun table width => table.modify (bucket data position width) fun positions =>
      position :: positions.take (depth - 1))
    table

end MatchTable

/-- Length and distance of the longest copy at a position among those that begin at the given
earlier positions, `(0, 0)` when there is none. -/
def longestCopy (data : Array UInt8) (earlier : List Nat) (position : Nat) : Nat × Nat :=
  let longest := min maxCopy (data.size - position)
  earlier.foldl
    (fun best start =>
      let improves := best.1 < longest
        && data.getD (start + best.1) 0 == data.getD (position + best.1) 0
      let length := if improves then commonLength data start position longest else 0
      if best.1 < length ∧ position - start ≤ maxDistance then (length, position - start)
      else best)
    (0, 0)

/-- The items of the bytes from a position on, put behind `items`. A copy has at least `shortest`
bytes, and never fewer than three; it gives way to a literal when a longer one begins right behind
that. -/
def findItemsFrom (shortest : Nat) (data : Array UInt8) (table : MatchTable) (items : Array Item)
    (position : Nat) : Array Item :=
  if _h : position < data.size then
    let next := MatchTable.remember data table position
    let (length, distance) := longestCopy data (MatchTable.lookUp data table position) position
    let (later, _) := longestCopy data (MatchTable.lookUp data next (position + 1)) (position + 1)
    if _hl : max minCopy shortest ≤ length ∧ later ≤ length then
      let table := (List.range (length - 1)).foldl
        (fun table i => MatchTable.remember data table (position + 1 + i)) next
      findItemsFrom shortest data table (items.push (.copy length distance)) (position + length)
    else
      findItemsFrom shortest data next (items.push (.literal (data.getD position 0))) (position + 1)
  else items
termination_by data.size - position
decreasing_by
  · unfold minCopy at _hl; omega
  · omega

/-- The bytes of a byte string as literals. -/
def literals (data : Bytes) : List Item := data.map .literal

/-- The items of a byte string with copies of at least `shortest` bytes, without an end of block. -/
def findItems (shortest : Nat) (data : Bytes) : List Item :=
  let start := Array.replicate MatchTable.buckets []
  (findItemsFrom shortest data.toArray start #[] 0).toList

end ShortLink.Deflate
