import ShortLink.Deflate.Huffman

/-!
# Literals and copies

A coded block is a sequence of literal bytes and copies. A copy is a length and a distance, written
as symbols with extra bits behind them.

## Main definitions

- `Deflate.lengthSteps`, `Deflate.distanceSteps` — the smallest value and the number of extra bits
  of each symbol
- `Deflate.Item`, `Deflate.readItem` — a literal, a copy or the end of a block, and reading one
- `Deflate.copyBack` — the output with a copy behind it
- `Deflate.literalLengths`, `Deflate.distanceLengths` — the fixed codes
-/

namespace ShortLink.Deflate

/-- An item of a coded block. -/
inductive Item where
  /-- A byte that stands for itself. -/
  | literal (byte : UInt8)
  /-- The repetition of earlier output. -/
  | copy (length distance : Nat)
  /-- The end of the block. -/
  | endOfBlock
  deriving DecidableEq, Repr

/-- The smallest length and the number of extra bits of the symbols from 257 on. -/
def lengthSteps : Array (Nat × Nat) :=
  #[(3, 0), (4, 0), (5, 0), (6, 0), (7, 0), (8, 0), (9, 0), (10, 0), (11, 1), (13, 1), (15, 1),
    (17, 1), (19, 2), (23, 2), (27, 2), (31, 2), (35, 3), (43, 3), (51, 3), (59, 3), (67, 4),
    (83, 4), (99, 4), (115, 4), (131, 5), (163, 5), (195, 5), (227, 5), (258, 0)]

/-- The smallest distance and the number of extra bits of the distance symbols. -/
def distanceSteps : Array (Nat × Nat) :=
  #[(1, 0), (2, 0), (3, 0), (4, 0), (5, 1), (7, 1), (9, 2), (13, 2), (17, 3), (25, 3), (33, 4),
    (49, 4), (65, 5), (97, 5), (129, 6), (193, 6), (257, 7), (385, 7), (513, 8), (769, 8),
    (1025, 9), (1537, 9), (2049, 10), (3073, 10), (4097, 11), (6145, 11), (8193, 12), (12289, 12),
    (16385, 13), (24577, 13)]

/-- The value of a symbol with its extra bits, and the bits after them. -/
def readStep (steps : Array (Nat × Nat)) (symbol : Nat) (bits : Bits) : Option (Nat × Bits) :=
  match steps[symbol]? with
  | none => none
  | some (base, extra) => (Bits.readNat extra bits).map fun (value, rest) => (base + value, rest)

/-- Length and distance of the copy that begins with a length symbol, and the bits after it. -/
def readCopy (distances : CodeTree) (symbol : Nat) (bits : Bits) : Option (Nat × Nat × Bits) := do
  let (length, bits) ← readStep lengthSteps (symbol - 257) bits
  let (distanceSymbol, bits) ← distances.readSymbol bits
  let (distance, bits) ← readStep distanceSteps distanceSymbol bits
  return (length, distance, bits)

/-- The next item, and the bits after it. -/
def readItem (literals distances : CodeTree) (bits : Bits) : Option (Item × Bits) :=
  match literals.readSymbol bits with
  | none => none
  | some (symbol, rest) =>
    if symbol < 256 then some (.literal symbol.toUInt8, rest)
    else if symbol = 256 then some (.endOfBlock, rest)
    else (readCopy distances symbol rest).map fun (length, distance, rest) =>
      (.copy length distance, rest)

/-- The byte that stands `distance` bytes before the end of the output; the window holds zero bytes
before the first byte of output. -/
def byteBefore (out : Array UInt8) (distance : Nat) : UInt8 :=
  if distance ≤ out.size then out.getD (out.size - distance) 0 else 0

/-- The output with `n` bytes behind it that repeat what stands `distance` bytes before. -/
def copyBack (distance : Nat) : Nat → Array UInt8 → Array UInt8
  | 0, out => out
  | n + 1, out => copyBack distance n (out.push (byteBefore out distance))

/-- The codeword lengths of the fixed code for literals and lengths. -/
def literalLengths : List Nat :=
  List.replicate 144 8 ++ List.replicate 112 9 ++ List.replicate 24 7 ++ List.replicate 8 8

/-- The codeword lengths of the fixed code for distances. -/
def distanceLengths : List Nat := List.replicate 32 5

theorem length_readStep {steps : Array (Nat × Nat)} {symbol value : Nat} {bits rest : Bits}
    (h : readStep steps symbol bits = some (value, rest)) : rest.length ≤ bits.length := by
  unfold readStep at h
  split at h
  · simp at h
  · rw [Option.map_eq_some_iff] at h
    obtain ⟨⟨v, r⟩, hr, heq⟩ := h
    cases heq
    have := Bits.length_readNat hr
    omega

theorem length_readCopy {distances : CodeTree} {symbol length distance : Nat} {bits rest : Bits}
    (h : readCopy distances symbol bits = some (length, distance, rest)) :
    rest.length ≤ bits.length := by
  unfold readCopy at h
  simp only [Option.bind_eq_bind, Option.bind_eq_some_iff, Option.pure_def, Option.some.injEq,
    Prod.exists, Prod.mk.injEq] at h
  obtain ⟨_, b1, h1, _, b2, h2, _, b3, h3, _, _, rfl⟩ := h
  have := length_readStep h1
  have := CodeTree.length_readSymbol h2
  have := length_readStep h3
  omega

theorem length_readItem {literals distances : CodeTree} {bits rest : Bits} {item : Item}
    (h : readItem literals distances bits = some (item, rest)) : rest.length < bits.length := by
  unfold readItem at h
  split at h
  · simp at h
  · next symbol r hs =>
    have := CodeTree.length_readSymbol hs
    repeat' split at h
    · simp_all
    · simp_all
    · rw [Option.map_eq_some_iff] at h
      obtain ⟨⟨length, distance, r'⟩, hr, heq⟩ := h
      cases heq
      have := length_readCopy hr
      omega

end ShortLink.Deflate
