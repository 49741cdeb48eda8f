import ShortLink.Bytes
import ShortLink.Fault

/-!
# Digits of radix 62

The digits of radix 62 are written `0`–`9`, `a`–`z`, `A`–`Z`, in the order of their values.

## Main definitions

- `Radix62.Digit` — a digit value
- `Radix62.Digit.char`, `Radix62.Digit.ofByte?` — the character of a digit, and the digit behind
  a byte
- `Radix62.write`, `Radix62.read` — the text of a list of digits, and the digits of a text
- `Radix62.numeral`, `Radix62.value` — the digits of a number and the number of a list of digits
-/

namespace ShortLink.Radix62

/-- A digit value. -/
abbrev Digit := Fin 62

namespace Digit

/-- The character a digit is written as. -/
def char (d : Digit) : Char :=
  if d.val < 10 then Char.ofNat (d.val + 48)
  else if d.val < 36 then Char.ofNat (d.val + 87)
  else Char.ofNat (d.val + 29)

/-- The digit written as the given byte. -/
def ofByte? (byte : UInt8) : Option Digit :=
  let b := byte.toNat
  if h : 48 ≤ b ∧ b ≤ 57 then some ⟨b - 48, by omega⟩
  else if h : 97 ≤ b ∧ b ≤ 122 then some ⟨b - 87, by omega⟩
  else if h : 65 ≤ b ∧ b ≤ 90 then some ⟨b - 29, by omega⟩
  else none

end Digit

/-- The text of a list of digits. -/
def write (digits : List Digit) : String := String.ofList (digits.map Digit.char)

/-- The first byte that is no digit, with its position. -/
def firstForeign? (bytes : Bytes) : Option (UInt8 × Nat) :=
  bytes.zipIdx.find? fun entry => (Digit.ofByte? entry.1).isNone

/-- The digits of a text, or the first byte of its UTF-8 form that is none. -/
def read (code : String) : Except Malformed (List Digit) :=
  let bytes := Bytes.ofText code
  match firstForeign? bytes with
  | some (byte, position) => .error (.invalidCharacter byte position)
  | none => .ok (bytes.filterMap Digit.ofByte?)

/-- The number that a list of digits denotes, most significant digit first. -/
def value (digits : List Digit) : Nat := digits.foldl (fun n d => n * 62 + d.val) 0

/-- The digits of `n` put in front of `tail`, most significant first; at least one. -/
def numeralOnto (n : Nat) (tail : List Digit) : List Digit :=
  if h : n < 62 then ⟨n, h⟩ :: tail
  else numeralOnto (n / 62) (⟨n % 62, Nat.mod_lt n (by decide)⟩ :: tail)
termination_by n
decreasing_by omega

/-- The shortest list of digits that denotes `n`; zero is the one digit `0`. -/
def numeral (n : Nat) : List Digit := numeralOnto n []

end ShortLink.Radix62
