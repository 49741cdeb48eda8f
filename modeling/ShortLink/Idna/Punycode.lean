/-!
# Punycode

A label with characters beyond ASCII is written in ASCII: its ASCII characters come first, and
behind the last hyphen the others follow as a sequence of variable-length numbers, each of which
tells how far to step on in the list of all pairs of a code point and a place. The thresholds
between digits adapt to the numbers seen.

## Main definitions

- `Idna.Punycode.decode?` — the label behind a written form
- `Idna.Punycode.encode` — the written form of a label
-/

namespace ShortLink.Idna.Punycode

/-- Number of digits. -/
def base : Nat := 36

/-- The value of a digit; letters of both cases are taken. -/
def digitValue? (c : Char) : Option Nat :=
  if 'a' ≤ c ∧ c ≤ 'z' then some (c.toNat - 97)
  else if 'A' ≤ c ∧ c ≤ 'Z' then some (c.toNat - 65)
  else if '0' ≤ c ∧ c ≤ '9' then some (c.toNat - 22)
  else none

/-- The digit with a value. -/
def digitChar (d : Nat) : Char := if d < 26 then Char.ofNat (d + 97) else Char.ofNat (d + 22)

/-- The threshold at position `k`, counted in steps of `base`: digits from it on are followed by
another one. -/
def threshold (k bias : Nat) : Nat := if k ≤ bias then 1 else min (k - bias) 26

/-- The bias for a number that has been scaled, with the steps taken so far. -/
def scaledBias (delta k : Nat) : Nat :=
  if _h : 455 < delta then scaledBias (delta / 35) (k + base)
  else k + base * delta / (delta + 38)
termination_by delta
decreasing_by omega

/-- The bias after a number, when the label has `length` characters so far. -/
def adapt (delta length : Nat) (first : Bool) : Nat :=
  let scaled := if first then delta / 700 else delta / 2
  scaledBias (scaled + scaled / length) 0

/-- What has been decoded so far. -/
structure Decoder where
  label : List Char
  /-- The code point to go on from. -/
  point : Nat := 128
  /-- The place to go on from. -/
  place : Nat := 0
  bias : Nat := 72
  /-- The number that is being read. -/
  delta : Nat := 0
  /-- The weight of its next digit. -/
  weight : Nat := 1
  /-- The position of its next digit. -/
  position : Nat := 36

/-- The decoder after a complete number. -/
def Decoder.insert (decoder : Decoder) (delta : Nat) : Option Decoder :=
  let length := decoder.label.length + 1
  let total := decoder.place + delta
  let point := decoder.point + total / length
  let place := total % length
  if point.isValidChar then
    some
      { label := decoder.label.take place ++ Char.ofNat point :: decoder.label.drop place,
        point, place := place + 1,
        bias := adapt delta length (decoder.place == 0 && decoder.point == 128) }
  else none

/-- Weights of digits stay below this number: they have 32 bits. -/
def weightBound : Nat := 4294967296

/-- The decoder after one more digit. -/
def Decoder.step (decoder : Decoder) (c : Char) : Option Decoder := do
  let digit ← digitValue? c
  let delta := decoder.delta + digit * decoder.weight
  let t := threshold decoder.position decoder.bias
  if digit < t then decoder.insert delta
  else
    let weight := decoder.weight * (base - t)
    if weight < weightBound then
      return { decoder with delta, weight, position := decoder.position + base }
    else none

/-- The part before the last hyphen and the part after it. Without a hyphen behind some other
character the first part is empty and the second part is the whole text. -/
def splitHyphen (text : List Char) : List Char × List Char :=
  let after := (text.reverse.takeWhile (· ≠ '-')).reverse
  let before := text.take (text.length - after.length - 1)
  if before.isEmpty then ([], text) else (before, after)

/-- The label behind a written form. -/
def decode? (text : List Char) : Option (List Char) := do
  let (plain, numbers) := splitHyphen text
  if ¬ plain.all (·.toNat < 0x80) then none
  let decoder ← numbers.foldlM Decoder.step { label := plain }
  if decoder.position = base then return decoder.label else none

/-- The digits of a number from position `k` on. -/
def writeNumber (bias k n : Nat) : List Char :=
  let t := threshold k bias
  if _h : n < t then [digitChar n]
  else digitChar (t + (n - t) % (base - t)) :: writeNumber bias (k + base) ((n - t) / (base - t))
termination_by n
decreasing_by
  have ht : 1 ≤ threshold k bias := by
    unfold threshold
    split <;> omega
  exact Nat.lt_of_le_of_lt (Nat.div_le_self _ _) (by omega)

/-- What has been encoded so far. -/
structure Encoder where
  /-- The digits so far, in reverse. -/
  digits : List Char := []
  delta : Nat := 0
  bias : Nat := 72
  /-- How many characters have been written. -/
  written : Nat

/-- The encoder after one more character of the label, while `point` is being written. -/
def Encoder.step (plain point : Nat) (encoder : Encoder) (c : Char) : Encoder :=
  if c.toNat < point then { encoder with delta := encoder.delta + 1 }
  else if c.toNat = point then
    { digits := (writeNumber encoder.bias base encoder.delta).reverse ++ encoder.digits,
      delta := 0,
      bias := adapt encoder.delta (encoder.written + 1) (encoder.written == plain),
      written := encoder.written + 1 }
  else encoder

/-- The code points of a label beyond ASCII, in order and without repetition. -/
def points (label : List Char) : List Nat :=
  (((label.map Char.toNat).filter (0x80 ≤ ·)).mergeSort (· ≤ ·)).foldr
    (fun p later => if later.head? = some p then later else p :: later) []

/-- The written form of a label. -/
def encode (label : List Char) : List Char :=
  let plain := label.filter (·.toNat < 0x80)
  let (encoder, _) := (points label).foldl
    (fun (encoder, next) point =>
      let encoder :=
        { encoder with delta := encoder.delta + (point - next) * (encoder.written + 1) }
      let encoder := label.foldl (Encoder.step plain.length point) encoder
      ({ encoder with delta := encoder.delta + 1 }, point + 1))
    (({ written := plain.length } : Encoder), 128)
  (if plain.isEmpty then [] else plain ++ ['-']) ++ encoder.digits.reverse

end ShortLink.Idna.Punycode
