import ShortLink.Idna.Domain
import ShortLink.Url.Address

/-!
# Hosts

The host of a URL is an address or a name. Under a special scheme a name is a domain name, which is
brought into its ASCII form, and a name that ends in a number is an address. Under any other scheme
a name is taken as it stands.

## Main definitions

- `Url.Host` — a host
- `Url.Host.ofText?` — the host that a text stands for
- `Url.Host.text` — the written form of a host
-/

namespace ShortLink.Url

/-- A host. -/
inductive Host where
  /-- A name; the empty one where a URL has no host behind its slashes. -/
  | name (text : String)
  | address32 (address : Address32)
  | address128 (address : Address128)
  deriving DecidableEq

namespace Host

/-- Characters that never stand in a name. -/
def isForbidden (c : Char) : Bool :=
  ['\x00', '\t', '\n', '\r', ' ', '#', '/', ':', '<', '>', '?', '@', '[', '\\', ']', '^',
    '|'].contains c

/-- Characters that never stand in a domain name. -/
def isForbiddenInDomain (c : Char) : Bool :=
  isForbidden c || c < ' ' || c == '%' || c == '\x7f'

/-- The host that the text of a domain name stands for. -/
def ofDomain? (text : List Char) : Option Host := do
  let shown ← Bytes.toText? (unescape text)
  let domain ← Idna.toAscii? shown.toList
  if domain.isEmpty ∨ domain.any isForbiddenInDomain then none
  if isNumeric domain then (Address32.ofName? domain).map .address32
  else return .name (String.ofList domain)

/-- The host of a scheme that is not special. -/
def ofPlain? (text : List Char) : Option Host :=
  if text.any isForbidden then none
  else some (.name (String.ofList (escape EscapeSet.controls text)))

/-- The host that a text stands for; an address in square brackets under any scheme. -/
def ofText? (special : Bool) (text : List Char) : Option Host :=
  match text with
  | '[' :: rest =>
    if rest.getLast? = some ']' then (Address128.ofText? rest.dropLast).map .address128 else none
  | _ => if special then ofDomain? text else ofPlain? text

/-- The written form of a host. -/
def text : Host → String
  | name text => text
  | address32 address => address.text
  | address128 address => "[" ++ address.text ++ "]"

end Host

end ShortLink.Url
