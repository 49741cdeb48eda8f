import ShortLink.Bytes

/-!
# SHA-256

The hash of a byte string: the string is padded to blocks of 64 bytes, and the blocks are
compressed into a state of eight 32-bit words, first to last.

## Main definitions

- `Crypto.sha256` — the 32-byte digest of a byte string

## Main results

- `Crypto.length_sha256` — a digest has 32 bytes
-/

namespace ShortLink.Crypto

/-- Turns a 32-bit word right by `n` bits, `0 < n < 32`. -/
def rotateRight (w n : UInt32) : UInt32 := w >>> n ||| w <<< (32 - n)

/-- The chaining state of SHA-256. -/
structure ShaState where
  a : UInt32
  b : UInt32
  c : UInt32
  d : UInt32
  e : UInt32
  f : UInt32
  g : UInt32
  h : UInt32
  deriving DecidableEq

namespace ShaState

/-- The state before the first block. -/
def start : ShaState :=
  ⟨0x6a09e667, 0xbb67ae85, 0x3c6ef372, 0xa54ff53a, 0x510e527f, 0x9b05688c, 0x1f83d9ab,
    0x5be0cd19⟩

/-- The wordwise sum of two states. -/
def add (s t : ShaState) : ShaState :=
  ⟨s.a + t.a, s.b + t.b, s.c + t.c, s.d + t.d, s.e + t.e, s.f + t.f, s.g + t.g, s.h + t.h⟩

/-- One round with the sum `kw` of the round constant and the message word. -/
def round (s : ShaState) (kw : UInt32) : ShaState :=
  let s1 := rotateRight s.e 6 ^^^ rotateRight s.e 11 ^^^ rotateRight s.e 25
  let choice := (s.e &&& s.f) ^^^ (~~~s.e &&& s.g)
  let t1 := s.h + s1 + choice + kw
  let s0 := rotateRight s.a 2 ^^^ rotateRight s.a 13 ^^^ rotateRight s.a 22
  let majority := (s.a &&& s.b) ^^^ (s.a &&& s.c) ^^^ (s.b &&& s.c)
  ⟨t1 + (s0 + majority), s.a, s.b, s.c, s.d + t1, s.e, s.f, s.g⟩

/-- The bytes of a state. -/
def toBytes (s : ShaState) : Bytes :=
  [s.a, s.b, s.c, s.d, s.e, s.f, s.g, s.h].flatMap Bytes.ofWord32

end ShaState

/-- The round constants. -/
def shaConstants : Array UInt32 :=
  #[0x428a2f98, 0x71374491, 0xb5c0fbcf, 0xe9b5dba5, 0x3956c25b, 0x59f111f1,
    0x923f82a4, 0xab1c5ed5, 0xd807aa98, 0x12835b01, 0x243185be, 0x550c7dc3,
    0x72be5d74, 0x80deb1fe, 0x9bdc06a7, 0xc19bf174, 0xe49b69c1, 0xefbe4786,
    0x0fc19dc6, 0x240ca1cc, 0x2de92c6f, 0x4a7484aa, 0x5cb0a9dc, 0x76f988da,
    0x983e5152, 0xa831c66d, 0xb00327c8, 0xbf597fc7, 0xc6e00bf3, 0xd5a79147,
    0x06ca6351, 0x14292967, 0x27b70a85, 0x2e1b2138, 0x4d2c6dfc, 0x53380d13,
    0x650a7354, 0x766a0abb, 0x81c2c92e, 0x92722c85, 0xa2bfe8a1, 0xa81a664b,
    0xc24b8b70, 0xc76c51a3, 0xd192e819, 0xd6990624, 0xf40e3585, 0x106aa070,
    0x19a4c116, 0x1e376c08, 0x2748774c, 0x34b0bcb5, 0x391c0cb3, 0x4ed8aa4a,
    0x5b9cca4f, 0x682e6ff3, 0x748f82ee, 0x78a5636f, 0x84c87814, 0x8cc70208,
    0x90befffa, 0xa4506ceb, 0xbef9a3f7, 0xc67178f2]

/-- The sixteen words of a block. -/
def blockWords (block : Bytes) : Array UInt32 :=
  ((List.range 16).map fun i => Bytes.toWord32 ((block.drop (4 * i)).take 4)).toArray

/-- The 64 message words of a block. -/
def messageWords (block : Bytes) : Array UInt32 :=
  (List.range 48).foldl
    (fun w i =>
      let x := w.getD (i + 1) 0
      let y := w.getD (i + 14) 0
      let s0 := rotateRight x 7 ^^^ rotateRight x 18 ^^^ x >>> 3
      let s1 := rotateRight y 17 ^^^ rotateRight y 19 ^^^ y >>> 10
      w.push (s1 + w.getD (i + 9) 0 + s0 + w.getD i 0))
    (blockWords block)

/-- The state after one more block of 64 bytes. -/
def compressBlock (s : ShaState) (block : Bytes) : ShaState :=
  let w := messageWords block
  s.add ((List.range 64).foldl
    (fun t i => t.round (shaConstants.getD i 0 + w.getD i 0)) s)

/-- A message with a one bit, zero bits and its length in bits behind it, so that the whole comes
in blocks of 64 bytes. -/
def padMessage (message : Bytes) : Bytes :=
  message ++ 0x80 :: List.replicate ((119 - message.length % 64) % 64) 0
    ++ Bytes.ofWord64 (8 * message.length).toUInt64

/-- The pieces of `n` bytes of a byte string, for positive `n`; the last one may be shorter. -/
def pieces (n : Nat) (bytes : Bytes) : List Bytes :=
  if _h : bytes = [] ∨ n = 0 then []
  else bytes.take n :: pieces n (bytes.drop n)
termination_by bytes.length
decreasing_by
  rw [not_or] at _h
  have := List.length_pos_iff.mpr _h.1
  rw [List.length_drop]
  omega

/-- The digest of a byte string. -/
def sha256 (message : Bytes) : Bytes :=
  ((pieces 64 (padMessage message)).foldl compressBlock ShaState.start).toBytes

theorem length_sha256 (message : Bytes) : (sha256 message).length = 32 := rfl

end ShortLink.Crypto
