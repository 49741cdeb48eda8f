import ShortLink.Bytes

/-!
# Bit streams

A deflate stream is a sequence of bits, packed into bytes from the least significant bit on. Numbers
stand in it with their least significant bit first.

## Main definitions

- `Deflate.Bits` — a bit stream
- `Deflate.Bits.ofBytes`, `Deflate.Bits.toBytes` — the bits of a byte string and the packed bytes of
  a bit stream
- `Deflate.Bits.ofNat`, `Deflate.Bits.readNat` — writing and reading a number
- `Deflate.Bits.align`, `Deflate.Bits.readByte`, `Deflate.Bits.readBytes` — byte boundaries

## Main results

- `Deflate.Bits.length_readNat`, `Deflate.Bits.length_readBytes` — reading leaves no more bits than
  there were
-/

namespace ShortLink.Deflate

/-- A bit stream. -/
abbrev Bits := List Bool

namespace Bits

/-- The lowest `n` bits of a number, least significant first. -/
def ofNat (n value : Nat) : Bits := (List.range n).map value.testBit

/-- The number whose bits these are, least significant first. -/
def toNat (bits : Bits) : Nat := bits.foldr (fun b n => b.toNat + 2 * n) 0

/-- The bits of a byte string. -/
def ofBytes (bytes : Bytes) : Bits := bytes.flatMap fun b => ofNat 8 b.toNat

/-- The bytes of a bit stream put behind `out`; the last byte is filled up with zero bits. -/
def packOnto (out : Array UInt8) : Bits → Array UInt8
  | [] => out
  | a :: b :: c :: d :: e :: f :: g :: h :: rest =>
    packOnto (out.push (toNat [a, b, c, d, e, f, g, h]).toUInt8) rest
  | rest => out.push (toNat rest).toUInt8

/-- The bytes of a bit stream; the last byte is filled up with zero bits. -/
def toBytes (bits : Bits) : Bytes := (packOnto #[] bits).toList

/-- The number in the first `n` bits, and the bits after them. -/
def readNat : Nat → Bits → Option (Nat × Bits)
  | 0, bits => some (0, bits)
  | _ + 1, [] => none
  | n + 1, b :: bits => (readNat n bits).map fun (value, rest) => (b.toNat + 2 * value, rest)

/-- The bits from the next byte boundary on, for a stream that ends at a byte boundary. -/
def align (bits : Bits) : Bits := bits.drop (bits.length % 8)

/-- The next byte, and the bits after it. -/
def readByte (bits : Bits) : Option (UInt8 × Bits) :=
  (readNat 8 bits).map fun (value, rest) => (value.toUInt8, rest)

/-- The next `n` bytes put behind `out`, and the bits after them. -/
def readBytes (out : Array UInt8) : Nat → Bits → Option (Array UInt8 × Bits)
  | 0, bits => some (out, bits)
  | n + 1, bits =>
    match readByte bits with
    | none => none
    | some (b, rest) => readBytes (out.push b) n rest

theorem length_readNat {n : Nat} {bits rest : Bits} {value : Nat}
    (h : readNat n bits = some (value, rest)) : rest.length + n = bits.length := by
  induction n generalizing bits value with
  | zero => simp_all [readNat]
  | succ n ih =>
    cases bits with
    | nil => simp [readNat] at h
    | cons b bits =>
      rw [readNat, Option.map_eq_some_iff] at h
      obtain ⟨⟨v, r⟩, hr, heq⟩ := h
      cases heq
      rw [List.length_cons, ← ih hr]
      omega

theorem length_readByte {bits rest : Bits} {b : UInt8} (h : readByte bits = some (b, rest)) :
    rest.length + 8 = bits.length := by
  rw [readByte, Option.map_eq_some_iff] at h
  obtain ⟨⟨v, r⟩, hr, heq⟩ := h
  cases heq
  exact length_readNat hr

theorem length_readBytes {out result : Array UInt8} {n : Nat} {bits rest : Bits}
    (h : readBytes out n bits = some (result, rest)) : rest.length ≤ bits.length := by
  induction n generalizing out bits with
  | zero => simp_all [readBytes]
  | succ n ih =>
    rw [readBytes] at h
    split at h
    · simp at h
    · next b r hr =>
      have := length_readByte hr
      have := ih h
      omega

end Bits

end ShortLink.Deflate
