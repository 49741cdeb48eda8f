/-!
# White space

The characters with the Unicode property `White_Space`, and texts without them at their ends. The
zero-width space and the byte order mark are no white space.

## Main definitions

- `Text.isBlank` — whether a character is white space
- `Text.trim` — a text without the white space at its ends
-/

namespace ShortLink.Text

/-- Whether a character is white space. -/
def isBlank (c : Char) : Bool :=
  let n := c.toNat
  (9 ≤ n && n ≤ 13) || n == 0x20 || n == 0x85 || n == 0xa0 || n == 0x1680
    || (0x2000 ≤ n && n ≤ 0x200a) || n == 0x2028 || n == 0x2029 || n == 0x202f || n == 0x205f
    || n == 0x3000

/-- The characters from the first to the last one without the given property. -/
def trimWhere (p : Char → Bool) (cs : List Char) : List Char :=
  ((cs.dropWhile p).reverse.dropWhile p).reverse

/-- The text without the white space at its ends. -/
def trim (text : String) : String := String.ofList (trimWhere isBlank text.toList)

end ShortLink.Text
