import ShortLink.Deflate.Write
import ShortLink.Fault

/-!
# Compressed byte strings

A compressed byte string is a header of two bytes, a deflate stream, and a checksum of the contents.
What stands behind the checksum is ignored. A byte string has many compressed forms of many lengths,
and each compressor writes its own, so whatever compresses takes the compressor as an argument.

There is one here to run with. It hands out a stream only when that reads back, and stored blocks
otherwise. Its forms are not those of other compressors, nor are their lengths.

## Main definitions

- `Zlib.adler32` — the checksum
- `Zlib.inflate` — the contents of a compressed byte string, up to a limit
- `Zlib.decompress` — the contents, of at most 64 KiB
- `Zlib.compress` — a compressor
-/

namespace ShortLink.Zlib

/-- The checksum of a byte string. -/
def adler32 (data : Bytes) : UInt32 :=
  let (a, b) := data.foldl
    (fun (acc : UInt32 × UInt32) byte =>
      let a := (acc.1 + byte.toUInt32) % 65521
      (a, (acc.2 + a) % 65521))
    (1, 0)
  b <<< 16 ||| a

/-- Whether two bytes are a header: deflate with a window of at most 32 KiB, no preset dictionary,
and a valid check. -/
def isHeader (first second : UInt8) : Bool :=
  first.toNat % 16 = 8 && first.toNat / 16 ≤ 7 && (first.toNat * 256 + second.toNat) % 31 = 0
    && second.toNat / 32 % 2 = 0

/-- The contents of a compressed byte string, when it is well-formed and they have at most `limit`
bytes. -/
def inflate (limit : Nat) : Bytes → Option Bytes
  | first :: second :: body =>
    if isHeader first second then do
      let (out, rest) ← Deflate.readBlocks limit #[] (Deflate.Bits.ofBytes body)
      let (checksum, _) ← Deflate.Bits.readBytes #[] 4 rest.align
      if checksum.toList = Bytes.ofWord32 (adler32 out.toList) then some out.toList else none
    else none
  | _ => none

/-- Largest contents that are inflated. -/
def maxInflated : Nat := 65536

/-- The contents of a compressed byte string. -/
def decompress (data : Bytes) : Except Fault Bytes :=
  match inflate maxInflated data with
  | some contents => .ok contents
  | none => .error .corrupted

/-! ### A compressor -/

/-- A deflate stream of the given contents as a compressed byte string. -/
def wrap (data stream : Bytes) : Bytes :=
  0x78 :: 0x9c :: stream ++ Bytes.ofWord32 (adler32 data)

/-- Whether a compressed byte string has the given contents. -/
def readsBack (data compressed : Bytes) : Bool := inflate data.length compressed = some data

/-- Longest byte string that is always written as literals with the fixed codes. -/
def maxLiteral : Nat := 32

/-- The deflate streams of a byte string that are worth a try. Frequent bytes are short by
themselves, so copies are tried with several least lengths and without any. -/
def candidates (data : Bytes) : List Bytes :=
  let copied := Deflate.findItems Deflate.minCopy data
  [Deflate.fixedBlock copied, Deflate.fittedBlock copied,
    Deflate.fittedBlock (Deflate.findItems 8 data),
    Deflate.fittedBlock (Deflate.findItems 24 data),
    Deflate.fittedBlock (Deflate.literals data)].map Deflate.Bits.toBytes

/-- The shorter one of two byte strings. -/
def shorter (a b : Bytes) : Bytes := if b.length < a.length then b else a

/-- The deflate stream that a byte string is written as, if it reads back. -/
def preferred (data : Bytes) : Bytes :=
  if data.length ≤ maxLiteral then (Deflate.fixedBlock (Deflate.literals data)).toBytes
  else (candidates data).foldl shorter (Deflate.storedBlocks data)

/-- A compressor to run with. -/
def compress (data : Bytes) : Bytes :=
  let compressed := wrap data (preferred data)
  if readsBack data compressed then compressed else wrap data (Deflate.storedBlocks data)

end ShortLink.Zlib
