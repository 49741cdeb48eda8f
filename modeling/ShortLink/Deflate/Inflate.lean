import ShortLink.Deflate.Copy

/-!
# Reading deflate streams

A stream is a sequence of blocks, the last of which says so. A block is stored as it is, or coded
with the fixed codes, or coded with codes of its own. A bound on the output keeps a small stream
from inflating without limit.

## Main definitions

- `Deflate.readItems` — the items of a coded block
- `Deflate.readCodes` — the codes that a block brings along
- `Deflate.readBlock`, `Deflate.readBlocks` — one block, and all of them
-/

namespace ShortLink.Deflate

/-- The output with the items of a coded block behind it, and the bits after the block. The output
has at most `limit` bytes. -/
def readItems (limit : Nat) (literals distances : CodeTree) (out : Array UInt8) (bits : Bits) :
    Option (Array UInt8 × Bits) :=
  match _h : readItem literals distances bits with
  | none => none
  | some (.endOfBlock, rest) => some (out, rest)
  | some (.literal b, rest) =>
    if out.size < limit then readItems limit literals distances (out.push b) rest else none
  | some (.copy length distance, rest) =>
    if out.size + length ≤ limit then
      readItems limit literals distances (copyBack distance length out) rest
    else none
termination_by bits.length
decreasing_by all_goals exact length_readItem _h

/-- The order in which the codeword lengths of the code for codeword lengths are given. -/
def lengthOrder : List Nat :=
  [16, 17, 18, 0, 8, 7, 9, 6, 10, 5, 11, 4, 12, 3, 13, 2, 14, 1, 15]

/-- The next `n` numbers of three bits each, and the bits after them. -/
def readTriples : Nat → Bits → Option (List Nat × Bits)
  | 0, bits => some ([], bits)
  | n + 1, bits => do
    let (value, bits) ← Bits.readNat 3 bits
    let (values, bits) ← readTriples n bits
    return (value :: values, bits)

/-- The codeword lengths of the code for codeword lengths, in the order of its symbols, from the
first ones in the order of transmission. -/
def arrangeLengths (given : List Nat) : List Nat :=
  ((lengthOrder.zip given).foldl (fun (all : Array Nat) (symbol, length) =>
    all.setIfInBounds symbol length) (Array.replicate 19 0)).toList

/-- What a symbol of the code for codeword lengths stands for: a length, how often it is repeated,
and the bits after it. -/
def readRun (before : Option Nat) (symbol : Nat) (bits : Bits) : Option (Nat × Nat × Bits) :=
  if symbol < 16 then some (symbol, 1, bits)
  else if symbol = 16 then do
    let length ← before
    let (count, bits) ← Bits.readNat 2 bits
    return (length, count + 3, bits)
  else if symbol = 17 then (Bits.readNat 3 bits).map fun (count, rest) => (0, count + 3, rest)
  else (Bits.readNat 7 bits).map fun (count, rest) => (0, count + 11, rest)

theorem length_readRun {before : Option Nat} {symbol length count : Nat} {bits rest : Bits}
    (h : readRun before symbol bits = some (length, count, rest)) :
    rest.length ≤ bits.length := by
  unfold readRun at h
  repeat' split at h
  · simp_all
  · simp only [Option.bind_eq_bind, Option.bind_eq_some_iff, Option.pure_def, Option.some.injEq,
      Prod.exists, Prod.mk.injEq] at h
    obtain ⟨_, _, _, b, hb, _, _, rfl⟩ := h
    have := Bits.length_readNat hb
    omega
  all_goals
    rw [Option.map_eq_some_iff] at h
    obtain ⟨⟨v, r⟩, hr, heq⟩ := h
    cases heq
    have := Bits.length_readNat hr
    omega

/-- The codeword lengths read so far, in reverse, with `total` lengths in all, and the bits after
them. -/
def readLengths (code : CodeTree) (total : Nat) (lengths : List Nat) (bits : Bits) :
    Option (List Nat × Bits) :=
  if lengths.length = total then some (lengths.reverse, bits)
  else
    match _h : code.readSymbol bits with
    | none => none
    | some (symbol, rest) =>
      match _hr : readRun lengths.head? symbol rest with
      | none => none
      | some (length, count, rest) =>
        if lengths.length + count ≤ total then
          readLengths code total (List.replicate count length ++ lengths) rest
        else none
termination_by bits.length
decreasing_by exact Nat.lt_of_le_of_lt (length_readRun _hr) (CodeTree.length_readSymbol _h)

/-- The codes that a block brings along, for literals and for distances, and the bits after them. -/
def readCodes (bits : Bits) : Option (CodeTree × CodeTree × Bits) := do
  let (literalCount, bits) ← Bits.readNat 5 bits
  let (distanceCount, bits) ← Bits.readNat 5 bits
  let (lengthCount, bits) ← Bits.readNat 4 bits
  let literalCount := literalCount + 257
  let distanceCount := distanceCount + 1
  if 286 < literalCount ∨ 30 < distanceCount then none
  let (given, bits) ← readTriples (lengthCount + 4) bits
  let code ← CodeTree.ofLengths? false (arrangeLengths given)
  let (lengths, bits) ← readLengths code (literalCount + distanceCount) [] bits
  let literals ← CodeTree.ofLengths? true (lengths.take literalCount)
  let distances ← CodeTree.ofLengths? true (lengths.drop literalCount)
  return (literals, distances, bits)

/-- The output with a stored block behind it, and the bits after the block. -/
def readStored (limit : Nat) (out : Array UInt8) (bits : Bits) : Option (Array UInt8 × Bits) := do
  let (size, bits) ← Bits.readNat 16 bits.align
  let (complement, bits) ← Bits.readNat 16 bits
  if size + complement = 65535 ∧ out.size + size ≤ limit then Bits.readBytes out size bits
  else none

/-- The tree of the fixed code for literals and lengths. -/
def fixedLiterals : CodeTree := .ofCodewords (codewords literalLengths).toList

/-- The tree of the fixed code for distances. -/
def fixedDistances : CodeTree := .ofCodewords (codewords distanceLengths).toList

/-- The output with the contents of a block of the given kind behind it, and the bits after the
block. -/
def readContents (limit kind : Nat) (out : Array UInt8) (bits : Bits) :
    Option (Array UInt8 × Bits) :=
  match kind with
  | 0 => readStored limit out bits
  | 1 => readItems limit fixedLiterals fixedDistances out bits
  | 2 => do
    let (literals, distances, bits) ← readCodes bits
    readItems limit literals distances out bits
  | _ => none

/-- Whether the next block is the last one, the output with its contents behind it, and the bits
after it. -/
def readBlock (limit : Nat) (out : Array UInt8) (bits : Bits) :
    Option (Bool × Array UInt8 × Bits) := do
  let (last, bits) ← Bits.readNat 1 bits
  let (kind, bits) ← Bits.readNat 2 bits
  let (out, bits) ← readContents limit kind out bits
  return (last == 1, out, bits)

theorem length_readItems {limit : Nat} {literals distances : CodeTree} {out result : Array UInt8}
    {bits rest : Bits} (h : readItems limit literals distances out bits = some (result, rest)) :
    rest.length < bits.length := by
  fun_induction readItems limit literals distances out bits with
  | case1 => simp at h
  | case2 out bits r hr =>
    cases h
    exact length_readItem hr
  | case3 out bits b r hr _ ih => exact Nat.lt_trans (ih h) (length_readItem hr)
  | case4 => simp at h
  | case5 out bits length distance r hr _ ih => exact Nat.lt_trans (ih h) (length_readItem hr)
  | case6 => simp at h

theorem length_readTriples {n : Nat} {bits rest : Bits} {values : List Nat}
    (h : readTriples n bits = some (values, rest)) : rest.length ≤ bits.length := by
  induction n generalizing bits values with
  | zero => simp_all [readTriples]
  | succ n ih =>
    simp only [readTriples, Option.bind_eq_bind, Option.bind_eq_some_iff, Option.pure_def,
      Option.some.injEq, Prod.exists, Prod.mk.injEq] at h
    obtain ⟨_, b1, h1, _, b2, h2, _, rfl⟩ := h
    have := Bits.length_readNat h1
    have := ih h2
    omega

theorem length_readLengths {code : CodeTree} {total : Nat} {lengths result : List Nat}
    {bits rest : Bits} (h : readLengths code total lengths bits = some (result, rest)) :
    rest.length ≤ bits.length := by
  fun_induction readLengths code total lengths bits with
  | case1 => simp_all
  | case2 => simp at h
  | case3 => simp at h
  | case4 lengths bits _ symbol r hs length count r' hr _ ih =>
    have := ih h
    have := length_readRun hr
    have := CodeTree.length_readSymbol hs
    omega
  | case5 => simp at h

theorem length_readCodes {literals distances : CodeTree} {bits rest : Bits}
    (h : readCodes bits = some (literals, distances, rest)) : rest.length ≤ bits.length := by
  unfold readCodes at h
  simp only [Option.bind_eq_bind, Option.bind_eq_some_iff, Option.pure_def, Prod.exists] at h
  obtain ⟨_, b1, h1, _, b2, h2, _, b3, h3, h⟩ := h
  split at h
  · simp at h
  · simp only [Option.bind_eq_some_iff, Option.some.injEq, Prod.exists, Prod.mk.injEq] at h
    obtain ⟨_, b4, h4, _, _, _, b5, h5, _, _, _, _, _, _, rfl⟩ := h
    have := Bits.length_readNat h1
    have := Bits.length_readNat h2
    have := Bits.length_readNat h3
    have := length_readTriples h4
    have := length_readLengths h5
    omega

theorem length_readStored {limit : Nat} {out result : Array UInt8} {bits rest : Bits}
    (h : readStored limit out bits = some (result, rest)) : rest.length ≤ bits.length := by
  unfold readStored at h
  simp only [Option.bind_eq_bind, Option.bind_eq_some_iff, Prod.exists] at h
  obtain ⟨_, b1, h1, _, b2, h2, h⟩ := h
  split at h
  · have := Bits.length_readNat h1
    have := Bits.length_readNat h2
    have := Bits.length_readBytes h
    simp only [Bits.align, List.length_drop] at *
    omega
  · simp at h

theorem length_readContents {limit kind : Nat} {out result : Array UInt8} {bits rest : Bits}
    (h : readContents limit kind out bits = some (result, rest)) : rest.length ≤ bits.length := by
  unfold readContents at h
  split at h
  · exact length_readStored h
  · exact Nat.le_of_lt (length_readItems h)
  · simp only [Option.bind_eq_bind, Option.bind_eq_some_iff, Prod.exists] at h
    obtain ⟨_, _, b1, h1, h⟩ := h
    exact Nat.le_trans (Nat.le_of_lt (length_readItems h)) (length_readCodes h1)
  · simp at h

theorem length_readBlock {limit : Nat} {last : Bool} {out result : Array UInt8} {bits rest : Bits}
    (h : readBlock limit out bits = some (last, result, rest)) : rest.length < bits.length := by
  unfold readBlock at h
  simp only [Option.bind_eq_bind, Option.bind_eq_some_iff, Option.pure_def, Option.some.injEq,
    Prod.exists, Prod.mk.injEq] at h
  obtain ⟨_, b1, h1, _, b2, h2, _, b3, h3, _, _, rfl⟩ := h
  have := Bits.length_readNat h1
  have := Bits.length_readNat h2
  have := length_readContents h3
  omega

/-- The output with the contents of all blocks behind it, and the bits after the last one. -/
def readBlocks (limit : Nat) (out : Array UInt8) (bits : Bits) : Option (Array UInt8 × Bits) :=
  match _h : readBlock limit out bits with
  | none => none
  | some (true, out, rest) => some (out, rest)
  | some (false, out, rest) => readBlocks limit out rest
termination_by bits.length
decreasing_by exact length_readBlock _h

end ShortLink.Deflate
