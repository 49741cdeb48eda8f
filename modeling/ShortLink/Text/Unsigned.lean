/-!
# Unsigned decimal numbers

The written form of a number: an optional plus sign and one or more ASCII digits. Leading zeros are
allowed; blanks, a minus sign and separators are not.

## Main definitions

- `Text.readDecimal?` — the number behind a non-empty list of ASCII digits
- `Text.readUnsigned?` — the number behind a text, when it is below a bound
-/

namespace ShortLink.Text

/-- Whether a character is an ASCII digit. -/
def isDecimal (c : Char) : Bool := '0' ≤ c && c ≤ '9'

/-- The number behind a non-empty list of ASCII digits. -/
def readDecimal? (cs : List Char) : Option Nat :=
  if cs ≠ [] ∧ cs.all isDecimal then some (cs.foldl (fun n c => n * 10 + (c.toNat - 48)) 0)
  else none

/-- The characters after one optional plus sign. -/
def withoutPlus : List Char → List Char
  | '+' :: rest => rest
  | cs => cs

/-- The number behind a text, when the text is a number below `bound`. -/
def readUnsigned? (bound : Nat) (text : String) : Option Nat :=
  (readDecimal? (withoutPlus text.toList)).filter (· < bound)

end ShortLink.Text
