import ShortLink.Radix62.Code

/-!
# The envelope of tokens

A token that carries a byte string of any length puts a marker byte in front of it. Codes drop
leading zero bytes, and the marker keeps the first byte of the contents from being one.

## Main definitions

- `Envelope.close` — the token around given contents
- `Envelope.contents` — the contents of a token
-/

namespace ShortLink.Envelope

/-- The byte in front of the contents of a token. -/
def marker : UInt8 := 1

/-- The contents behind the marker. -/
def unframe : Bytes → Except Malformed Bytes
  | [] => .error .tooShort
  | first :: contents =>
    if first = marker then .ok contents else .error (.markerMismatch first marker)

/-- The token around given contents. -/
def close (contents : Bytes) : String := Radix62.encode (marker :: contents)

/-- The contents of a token. -/
def contents (token : String) : Except Malformed Bytes := do
  Radix62.checkToken token
  unframe (← Radix62.decode token)

end ShortLink.Envelope
