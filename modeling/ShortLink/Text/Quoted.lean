import ShortLink.Text.Printable

/-!
# Quoted texts

A quoted text stands between double quotes. Double quotes and backslashes are escaped, tab, line
feed, carriage return and NUL have short escapes, and characters that cannot be shown or that would
combine with the character before them are written by number.

## Main definitions

- `Text.escape` — the written form of one character
- `Text.quote` — the written form of a text
-/

namespace ShortLink.Text

/-- The lower-case hexadecimal digits of a number. -/
def hexText (n : Nat) : String := String.ofList (Nat.toDigits 16 n)

/-- The written form of one character in a quoted text. -/
def escape (c : Char) : String :=
  match c with
  | '\x00' => "\\0"
  | '\t' => "\\t"
  | '\r' => "\\r"
  | '\n' => "\\n"
  | '"' => "\\\""
  | '\\' => "\\\\"
  | c =>
    if isCombining c || isUnprintable c then "\\u\x7b" ++ hexText c.toNat ++ "\x7d"
    else c.toString

/-- The written form of a text, between double quotes. -/
def quote (text : String) : String :=
  "\"" ++ String.join (text.toList.map escape) ++ "\""

end ShortLink.Text
