/-!
# Byte strings

Byte strings are lists of bytes, read as big-endian numbers where a number is meant.

## Main definitions

- `Bytes` — a byte string
- `Bytes.ofText`, `Bytes.toText?` — the UTF-8 form of a text, and the text behind a byte string
- `Bytes.toNat`, `Bytes.ofNat` — the number a byte string denotes, and its shortest byte string
- `Bytes.ofWord32`, `Bytes.ofWord64`, `Bytes.toWord32` — fixed-width words
- `Bytes.dropZeros` — the byte string without its leading zero bytes
-/

namespace ShortLink

/-- A byte string. -/
abbrev Bytes := List UInt8

namespace Bytes

/-- The UTF-8 bytes of a text. -/
def ofText (text : String) : Bytes := text.toUTF8.data.toList

/-- The text whose UTF-8 bytes these are, when they are well-formed UTF-8. -/
def toText? (bytes : Bytes) : Option String := String.fromUTF8? ⟨bytes.toArray⟩

/-- The number that bytes denote when they follow those of a number, most significant byte first. -/
def extend (bytes : Bytes) (n : Nat) : Nat := bytes.foldl (fun n b => n * 256 + b.toNat) n

/-- The number a byte string denotes, most significant byte first. -/
def toNat (bytes : Bytes) : Nat := bytes.extend 0

/-- The byte string without its leading zero bytes. -/
def dropZeros (bytes : Bytes) : Bytes := bytes.dropWhile (· == 0)

/-- The bytes of `n` put in front of `tail`, most significant first. -/
def ofNatOnto (n : Nat) (tail : Bytes) : Bytes :=
  if h : n = 0 then tail
  else ofNatOnto (n / 256) (n.toUInt8 :: tail)
termination_by n
decreasing_by omega

/-- The shortest byte string that denotes `n`; zero is the empty one. -/
def ofNat (n : Nat) : Bytes := ofNatOnto n []

/-- The four bytes of a 32-bit word, most significant first. -/
def ofWord32 (w : UInt32) : Bytes :=
  [(w >>> 24).toUInt8, (w >>> 16).toUInt8, (w >>> 8).toUInt8, w.toUInt8]

/-- The eight bytes of a 64-bit word, most significant first. -/
def ofWord64 (w : UInt64) : Bytes :=
  ofWord32 (w >>> 32).toUInt32 ++ ofWord32 w.toUInt32

/-- The 32-bit word whose bytes are given, most significant first; bytes before the last four
carry no weight. -/
def toWord32 (bytes : Bytes) : UInt32 := bytes.foldl (fun w b => w <<< 8 ||| b.toUInt32) 0

/-- The bytewise exclusive or, as long as the shorter operand. -/
def xor (a b : Bytes) : Bytes := a.zipWith (· ^^^ ·) b

@[simp] theorem toNat_nil : toNat [] = 0 := rfl

theorem toNat_cons (b : UInt8) (rest : Bytes) : toNat (b :: rest) = rest.extend b.toNat := by
  rw [toNat, Bytes.extend, List.foldl_cons, Nat.zero_mul, Nat.zero_add]
  rfl

/-- More bytes make a number no smaller. -/
theorem le_extend (bytes : Bytes) (n : Nat) : n ≤ bytes.extend n := by
  induction bytes generalizing n with
  | nil => exact Nat.le_refl n
  | cons b rest ih =>
    refine Nat.le_trans ?_ (ih (n * 256 + b.toNat))
    omega

theorem toNat_concat (bytes : Bytes) (b : UInt8) :
    toNat (bytes ++ [b]) = toNat bytes * 256 + b.toNat := by
  simp [toNat, Bytes.extend, List.foldl_append]

end Bytes

end ShortLink
