import ShortLink.Text.CodeRange
import ShortLink.Url.Escape

/-!
# Addresses as hosts

A host may be an address instead of a name. The older kind has 32 bits, written as up to four
numbers with dots between them, each in decimal, octal or hexadecimal; the last number fills all
bytes that are left. The newer kind has eight groups of 16 bits, of which one run of zero groups can
be left out; its last two groups may be written as four decimal numbers.

## Main definitions

- `Url.isNumeric` — whether a name has to be read as an address of 32 bits
- `Url.Address32.ofName?`, `Url.Address32.text`
- `Url.Address128.ofText?`, `Url.Address128.text`
-/

namespace ShortLink.Url

open Text (fields)

/-- A number in the notation of addresses of 32 bits: with `0x` in front in hexadecimal, with `0` in
front in octal, and otherwise in decimal. -/
def addressNumber? : List Char → Option Nat
  | [] => none
  | '0' :: 'x' :: digits => number? 16 digits
  | '0' :: 'X' :: digits => number? 16 digits
  | '0' :: digits => number? 8 digits
  | digits => number? 10 digits

/-- The labels of a name, without the empty one behind a final dot. -/
def labels (name : List Char) : List (List Char) :=
  let parts := fields '.' name
  if 1 < parts.length ∧ parts.getLast? = some [] then parts.dropLast else parts

/-- Whether a name has to be read as an address: its last label is a number, or would be one if it
were in decimal. -/
def isNumeric (name : List Char) : Bool :=
  match (labels name).getLast? with
  | some last => (!last.isEmpty && last.all Char.isDigit) || (addressNumber? last).isSome
  | none => false

/-- An address of 32 bits. -/
structure Address32 where
  value : UInt32
  deriving DecidableEq

namespace Address32

/-- The value of an address whose last number is `last`, and whose first bytes are given. -/
def combine? (bytes : List Nat) (last : Nat) : Option Nat :=
  let bits := 8 * (4 - bytes.length)
  if bytes.all (· < 256) ∧ last < 1 <<< bits then
    some (bytes.foldl (fun n b => n * 256 + b) 0 <<< bits + last)
  else none

/-- The address that a name stands for. -/
def ofName? (name : List Char) : Option Address32 := do
  let numbers ← (labels name).mapM addressNumber?
  if 4 < numbers.length then none
  let value ← combine? numbers.dropLast (← numbers.getLast?)
  return ⟨value.toUInt32⟩

/-- The address as four decimal numbers. -/
def text (address : Address32) : String :=
  let n := address.value.toNat
  ".".intercalate ([n / 16777216, n / 65536 % 256, n / 256 % 256, n % 256].map toString)

end Address32

/-- An address of eight groups of 16 bits. -/
structure Address128 where
  groups : List UInt16
  length_groups : groups.length = 8
  deriving DecidableEq

namespace Address128

/-- A group: one to four hexadecimal digits. -/
def group? (text : List Char) : Option UInt16 :=
  if 1 ≤ text.length ∧ text.length ≤ 4 then (number? 16 text).map Nat.toUInt16 else none

/-- A decimal number below 256 without leading zeros. -/
def byte? (text : List Char) : Option Nat := do
  if text.isEmpty ∨ (text.head? = some '0' ∧ text ≠ ['0']) then none
  let n ← number? 10 text
  if n < 256 then return n else none

/-- Two groups written as four decimal numbers. -/
def quad? (text : List Char) : Option (List UInt16) := do
  match ← (fields '.' text).mapM byte? with
  | [a, b, c, d] => return [(a * 256 + b).toUInt16, (c * 256 + d).toUInt16]
  | _ => none

/-- The groups of a text with colons between them. -/
def groups? (text : List Char) : Option (List UInt16) := (fields ':' text).mapM group?

/-- The groups of a text whose last part may be four decimal numbers. -/
def finalGroups? (text : List Char) : Option (List UInt16) :=
  let parts := fields ':' text
  match parts.getLast? with
  | some last =>
    if last.contains '.' then do return (← parts.dropLast.mapM group?) ++ (← quad? last)
    else groups? text
  | none => none

/-- The parts before and after the first pair of colons. -/
def splitGap? : List Char → Option (List Char × List Char)
  | [] => none
  | ':' :: ':' :: rest => some ([], rest)
  | c :: rest => (splitGap? rest).map fun (before, after) => (c :: before, after)

/-- The address with the given groups, when there are eight. -/
def ofGroups? (groups : List UInt16) : Option Address128 :=
  if h : groups.length = 8 then some ⟨groups, h⟩ else none

/-- The address that a text stands for. A gap leaves out one group at least. -/
def ofText? (text : List Char) : Option Address128 :=
  match splitGap? text with
  | none => (finalGroups? text).bind ofGroups?
  | some (before, after) => do
    let before ← if before.isEmpty then some [] else groups? before
    let after ← if after.isEmpty then some [] else finalGroups? after
    let known := before.length + after.length
    if 8 ≤ known then none
    ofGroups? (before ++ List.replicate (8 - known) 0 ++ after)

/-- How many zero groups stand at the front. -/
def zeroRun (groups : List UInt16) : Nat := (groups.takeWhile (· == 0)).length

/-- Where the first of the longest runs of zero groups begins, and its length. -/
def longestRun (groups : List UInt16) : Nat × Nat :=
  (List.range groups.length).foldl
    (fun best i =>
      let run := zeroRun (groups.drop i)
      if best.2 < run then (i, run) else best)
    (0, 0)

/-- Groups in hexadecimal with colons between them. -/
def writeGroups (groups : List UInt16) : String :=
  ":".intercalate (groups.map fun g => String.ofList (Nat.toDigits 16 g.toNat))

/-- The address in its shortest form: the longest run of zero groups is left out, unless it is a
single group. -/
def text (address : Address128) : String :=
  let (start, length) := longestRun address.groups
  if length < 2 then writeGroups address.groups
  else writeGroups (address.groups.take start) ++ "::"
    ++ writeGroups (address.groups.drop (start + length))

end Address128

end ShortLink.Url
