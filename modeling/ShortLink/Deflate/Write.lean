import ShortLink.Deflate.Fitted
import ShortLink.Deflate.Inflate
import ShortLink.Deflate.Match

/-!
# Writing deflate streams

The same items can be written with the fixed codes or with codes that fit them, and any byte string
can be written as it is, in stored blocks.

## Main definitions

- `Deflate.writeItem` — an item under given codes
- `Deflate.fixedBlock`, `Deflate.fittedBlock` — one last block with the fixed codes or with fitting
  ones
- `Deflate.storedBlocks` — a byte string in stored blocks
-/

namespace ShortLink.Deflate

/-- The symbol of a value among the given steps, with the number and the value of its extra bits. -/
def stepOf (steps : Array (Nat × Nat)) (value : Nat) : Nat × Nat × Nat :=
  steps.toList.zipIdx.foldl
    (fun found ((base, extra), symbol) =>
      if base ≤ value then (symbol, extra, value - base) else found)
    (0, 0, 0)

/-- The symbols of an item: the one for literals and lengths, and the one for distances. -/
def Item.symbols : Item → Nat × Option Nat
  | .literal byte => (byte.toNat, none)
  | .endOfBlock => (256, none)
  | .copy length distance =>
    (257 + (stepOf lengthSteps length).1, some (stepOf distanceSteps distance).1)

/-- A value as the codeword of its symbol and its extra bits. -/
def writeStep (words : Array Bits) (offset : Nat) (steps : Array (Nat × Nat)) (value : Nat) :
    Bits :=
  let (symbol, extra, rest) := stepOf steps value
  words.getD (offset + symbol) [] ++ Bits.ofNat extra rest

/-- An item under the given codewords for literals and lengths and for distances. -/
def writeItem (literals distances : Array Bits) : Item → Bits
  | .literal byte => literals.getD byte.toNat []
  | .endOfBlock => literals.getD 256 []
  | .copy length distance =>
    writeStep literals 257 lengthSteps length ++ writeStep distances 0 distanceSteps distance

/-- The items of a block with its end behind them. -/
def writeItems (literals distances : Array Bits) (items : List Item) : Bits :=
  (items ++ [Item.endOfBlock]).flatMap (writeItem literals distances)

/-- A last block of the given items with the fixed codes. -/
def fixedBlock (items : List Item) : Bits :=
  true :: Bits.ofNat 2 1 ++ writeItems (codewords literalLengths) (codewords distanceLengths) items

/-- How often each of `n` symbols occurs. -/
def frequencies (n : Nat) (symbols : List Nat) : List Nat :=
  (symbols.foldl (fun (all : Array Nat) s => all.modify s (· + 1)) (Array.replicate n 0)).toList

/-- A list without the zeros at its end, but with `n` elements at least. -/
def withoutTrailingZeros (n : Nat) (lengths : List Nat) : List Nat :=
  lengths.take (max n (lengths.reverse.dropWhile (· == 0)).length)

/-- A last block of the given items with codes that fit them. -/
def fittedBlock (items : List Item) : Bits :=
  let symbols := (items ++ [Item.endOfBlock]).map Item.symbols
  let literals := fittedLengths maxLength (frequencies 286 (symbols.map (·.1))) 20
  let distances := fittedLengths maxLength (frequencies 30 (symbols.filterMap (·.2))) 20
  let literals := withoutTrailingZeros 257 literals
  let distances := withoutTrailingZeros 1 distances
  let runs := packRuns (literals ++ distances)
  let runLengths := fittedLengths 7 (frequencies 19 (runs.map RunSymbol.symbol)) 20
  let given := withoutTrailingZeros 4 (lengthOrder.map fun s => runLengths.getD s 0)
  let runWords := codewords runLengths
  true :: Bits.ofNat 2 2 ++ Bits.ofNat 5 (literals.length - 257)
    ++ Bits.ofNat 5 (distances.length - 1) ++ Bits.ofNat 4 (given.length - 4)
    ++ given.flatMap (Bits.ofNat 3)
    ++ runs.flatMap (fun run => runWords.getD run.symbol [] ++ Bits.ofNat run.extra run.value)
    ++ writeItems (codewords literals) (codewords distances) items

/-- Largest stored block. -/
def maxStored : Nat := 65535

/-- A stored block, from one byte boundary to another. -/
def storedBlock (last : Bool) (piece : Bytes) : Bytes :=
  let size := piece.length.toUInt16
  [last.toUInt8, size.toUInt8, (size >>> 8).toUInt8, (~~~size).toUInt8, (~~~size >>> 8).toUInt8]
    ++ piece

/-- A byte string in stored blocks. -/
def storedBlocks (data : Bytes) : Bytes :=
  if _h : data.length ≤ maxStored then storedBlock true data
  else storedBlock false (data.take maxStored) ++ storedBlocks (data.drop maxStored)
termination_by data.length
decreasing_by
  rw [List.length_drop]
  unfold maxStored at _h ⊢
  omega

end ShortLink.Deflate
