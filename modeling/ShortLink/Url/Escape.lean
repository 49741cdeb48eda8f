import ShortLink.Bytes

/-!
# Escaped characters in URLs

A character that may not stand in a part of a URL is written as the bytes of its UTF-8 form, each
one as a percent sign and two hexadecimal digits. Which characters these are depends on the part.
Characters beyond ASCII are escaped everywhere. A percent sign is not, so that what has been escaped
already stays as it is.

## Main definitions

- `Url.EscapeSet` — the characters to escape; `controls`, `fragment`, `query`, `path`, …
- `Url.escape` — a text with the characters of a set escaped
- `Url.unescape` — the bytes behind an escaped text
- `Url.number?` — the number that digits denote in a radix
-/

namespace ShortLink.Url

/-- The value of a hexadecimal digit. -/
def digitValue? (c : Char) : Option Nat :=
  if '0' ≤ c ∧ c ≤ '9' then some (c.toNat - 48)
  else if 'a' ≤ c ∧ c ≤ 'f' then some (c.toNat - 87)
  else if 'A' ≤ c ∧ c ≤ 'F' then some (c.toNat - 55)
  else none

/-- The number that digits denote in a radix of at most 16; no digits denote zero. -/
def number? (radix : Nat) (digits : List Char) : Option Nat :=
  digits.foldlM (fun n c => do
    let digit ← digitValue? c
    if digit < radix then some (n * radix + digit) else none) 0

/-- The hexadecimal digit with a value, in upper case. -/
def upperDigit (n : Nat) : Char := Char.ofNat (if n < 10 then n + 48 else n + 55)

/-- A set of characters to escape. -/
abbrev EscapeSet := Char → Bool

namespace EscapeSet

/-- Controls, and everything beyond ASCII. -/
def controls : EscapeSet := fun c => c < ' ' || '~' < c

/-- What is escaped in a fragment. -/
def fragment : EscapeSet := fun c => controls c || [' ', '"', '<', '>', '\x60'].contains c

/-- What is escaped in a query. -/
def query : EscapeSet := fun c => controls c || [' ', '"', '#', '<', '>'].contains c

/-- What is escaped in the query of a special scheme. -/
def specialQuery : EscapeSet := fun c => query c || c == '\''

/-- What is escaped in the segments of a path. -/
def path : EscapeSet := fun c => fragment c || ['#', '?', '\x7b', '\x7d'].contains c

/-- What is escaped in a user name or password. -/
def credentials : EscapeSet := fun c =>
  path c || ['/', ':', ';', '=', '@', '[', '\\', ']', '^', '|'].contains c

end EscapeSet

/-- A byte as an escape. -/
def escapeByte (b : UInt8) : List Char :=
  ['%', upperDigit (b.toNat / 16), upperDigit (b.toNat % 16)]

/-- A character, escaped when it belongs to a set. -/
def escapeChar (set : EscapeSet) (c : Char) : List Char :=
  if set c then (String.utf8EncodeChar c).flatMap escapeByte else [c]

/-- A text with the characters of a set escaped. -/
def escape (set : EscapeSet) (text : List Char) : List Char := text.flatMap (escapeChar set)

/-- The bytes behind an escaped text. A percent sign without two hexadecimal digits stands for
itself. -/
def unescape : List Char → Bytes
  | [] => []
  | '%' :: a :: b :: rest =>
    match digitValue? a, digitValue? b with
    | some m, some n => (m * 16 + n).toUInt8 :: unescape rest
    | _, _ => String.utf8EncodeChar '%' ++ unescape (a :: b :: rest)
  | c :: rest => String.utf8EncodeChar c ++ unescape rest

end ShortLink.Url
