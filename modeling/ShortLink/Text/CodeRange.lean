/-!
# Sets of characters as ranges

A property of characters is stored as the ranges of code points that have it.

## Main definitions

- `Text.CodeRange` — a first and a last code point
- `Text.CodeRanges` — a set of characters as an array of ranges
- `Text.CodeRanges.ofText` — the ranges written as hexadecimal numbers, `a-b` or `a`, with spaces
  or line ends between them
- `Text.fields`, `Text.words` — the parts of a text between separators
-/

namespace ShortLink.Text

/-- The value of a hexadecimal digit; other characters count as zero. -/
def hexDigit (c : Char) : Nat :=
  if '0' ≤ c ∧ c ≤ '9' then c.toNat - 48
  else if 'a' ≤ c ∧ c ≤ 'f' then c.toNat - 87
  else if 'A' ≤ c ∧ c ≤ 'F' then c.toNat - 55
  else 0

/-- The number that hexadecimal digits denote. -/
def hexNumber (digits : List Char) : Nat := digits.foldl (fun n c => n * 16 + hexDigit c) 0

/-- The parts of a text between the occurrences of a separator. There is one part more than there
are separators. -/
def fields (separator : Char) (text : List Char) : List (List Char) :=
  text.foldr
    (fun c parts =>
      if c = separator then [] :: parts
      else match parts with
        | [] => [[c]]
        | part :: others => (c :: part) :: others)
    [[]]

/-- The non-empty parts of a text between spaces and line ends. -/
def words (text : List Char) : List (List Char) :=
  (text.foldr
    (fun c parts =>
      if c = ' ' ∨ c = '\n' then [] :: parts
      else match parts with
        | [] => [[c]]
        | part :: others => (c :: part) :: others)
    [[]]).filter (!·.isEmpty)

/-- A range of code points, both ends included. -/
structure CodeRange where
  first : Nat
  last : Nat
  deriving DecidableEq, Repr

/-- A set of characters, as ranges of code points. -/
abbrev CodeRanges := Array CodeRange

/-- The range written as `a-b`, or as `a` for a single code point. -/
def CodeRange.ofDigits (text : List Char) : CodeRange :=
  match fields '-' text with
  | [a, b] => ⟨hexNumber a, hexNumber b⟩
  | _ => ⟨hexNumber text, hexNumber text⟩

/-- The ranges of a text that has spaces or line ends between them. -/
def CodeRanges.ofText (text : String) : CodeRanges :=
  ((words text.toList).map CodeRange.ofDigits).toArray

/-- Whether a character lies in one of the ranges. -/
def CodeRanges.contains (ranges : CodeRanges) (c : Char) : Bool :=
  ranges.any fun r => r.first ≤ c.toNat && c.toNat ≤ r.last

end ShortLink.Text
