import ShortLink.Radix62.Long

/-!
# Codes in radix 62

A code is a number in radix 62. Byte strings are read as one big-endian number, so leading zero
bytes carry no value and do not survive; whoever needs them frames the byte string first. Numbers
of at most 128 bits are converted in one machine word, wider ones by schoolbook arithmetic.

## Main definitions

- `Radix62.encode`, `Radix62.decode` — codes of byte strings
- `Radix62.encodeWord`, `Radix62.decodeWord` — codes of 64-bit words
- `Radix62.checkShortCode`, `Radix62.checkToken` — the limits on the length of issued codes
-/

namespace ShortLink.Radix62

/-- Longest byte string that is converted in one machine word. -/
def wordBytes : Nat := 16

/-- Longest list of digits that is converted in one machine word: 62²¹ < 2¹²⁸. -/
def wordDigits : Nat := 21

/-- The code of a byte string; empty and all-zero strings have the code `0`. -/
def encode (data : Bytes) : String :=
  let significant := data.dropZeros
  if significant.isEmpty then "0"
  else if significant.length ≤ wordBytes then
    write (numeral (BitVec.ofNat 128 significant.toNat).toNat)
  else write (longDigits significant)

/-- The 128-bit word that a list of digits denotes; it wraps beyond 21 digits. -/
def word128 (digits : List Digit) : BitVec 128 :=
  digits.foldl (fun w d => w * 62 + BitVec.ofNat 128 d.val) 0

/-- The shortest bytes of the number that a list of digits denotes. -/
def bytesOf (digits : List Digit) : Bytes :=
  if digits.length ≤ wordDigits then Bytes.ofNat (word128 digits).toNat
  else longBytes digits

/-- The shortest bytes of the number behind a code; zero and the empty code give the empty byte
string. -/
def decode (code : String) : Except Malformed Bytes := (read code).map bytesOf

/-- The code of a 64-bit word. -/
def encodeWord (w : UInt64) : String := write (numeral w.toNat)

/-- Longest code of a 64-bit word. -/
def maxWordCode : Nat := 11

/-- The 64-bit word behind a code of at most 11 digits. -/
def decodeWord (code : String) : Except Malformed UInt64 := do
  if code.utf8ByteSize = 0 ∨ maxWordCode < code.utf8ByteSize then throw .invalidLength
  let n := value (← read code)
  if n < UInt64.size then return n.toUInt64 else throw .overflow

/-- Longest short code that is accepted. -/
def maxShortCode : Nat := 200

/-- Longest self-contained token that is accepted. Decoding takes time quadratic in the length, so
longer ones are refused unread. -/
def maxToken : Nat := 8192

/-- Whether a text of at most `limit` bytes consists of digits only, and of one at least. -/
def check (limit : Nat) (code : String) : Except Malformed Unit := do
  if code.utf8ByteSize = 0 ∨ limit < code.utf8ByteSize then throw .invalidLength
  discard (read code)

/-- Whether a text could be an issued short code. -/
def checkShortCode (code : String) : Except Malformed Unit := check maxShortCode code

/-- Whether a text could be an issued token. -/
def checkToken (token : String) : Except Malformed Unit := check maxToken token

end ShortLink.Radix62
