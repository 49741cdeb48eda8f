import ShortLink.Crypto.Gcm
import ShortLink.Crypto.Hmac
import ShortLink.Settings.Basic
import ShortLink.Token.Envelope
import ShortLink.Zlib

/-!
# Sealed tokens

A sealed token holds an encrypted text in its envelope: a nonce, the ciphertext, and an integrity
tag over both. The tag is checked before anything is decrypted. A sealed token needs no store and
belongs to no tenant.

## Main definitions

- `TokenSealer` — the functions that encrypt, decrypt and authenticate
- `TokenSealer.ofSettings` — AES-256 in Galois counter mode with HMAC-SHA-256 tags
- `TokenSealer.create`, `TokenSealer.resolve` — the token of a text, and the text of a token
-/

namespace ShortLink

/-- The functions that a sealed token is made with. -/
structure TokenSealer where
  /-- The integrity tag of a byte string. -/
  tag : Bytes → Bytes
  /-- The ciphertext of a text under a nonce. -/
  encrypt : Bytes → Bytes → Bytes
  /-- The text of a ciphertext under a nonce. -/
  decrypt? : Bytes → Bytes → Option Bytes

namespace TokenSealer

/-- Size of a nonce. -/
def nonceSize : Nat := 12

/-- Size of an integrity tag. -/
def tagSize : Nat := 32

/-- The functions for the secrets of the settings. -/
def ofSettings (settings : Settings) : TokenSealer where
  tag := Crypto.hmac settings.hmacSecret.bytes
  encrypt := Crypto.gcmEncrypt settings.aesSecret
  decrypt? := Crypto.gcmDecrypt? settings.aesSecret

/-- The token of a text, with a fresh nonce and the compressor that is used for it. -/
def create (sealer : TokenSealer) (nonce : Bytes) (text : String)
    (compress : Bytes → Bytes := Zlib.compress) : String :=
  let body := nonce ++ sealer.encrypt nonce (compress (Bytes.ofText text))
  Envelope.close (body ++ sealer.tag body)

/-- The parts of the contents before and from the integrity tag on. -/
def splitTag (contents : Bytes) : Except Malformed (Bytes × Bytes) :=
  if contents.length < tagSize then .error .tooShort
  else .ok (contents.splitAt (contents.length - tagSize))

/-- The text that was encrypted, from the part before the integrity tag. -/
def unlock (sealer : TokenSealer) (body : Bytes) : Except Fault String := do
  if body.length < nonceSize then throw .decryptionFailed
  let (nonce, ciphertext) := body.splitAt nonceSize
  let some compressed := sealer.decrypt? nonce ciphertext | throw .decryptionFailed
  let some text := Bytes.toText? (← Zlib.decompress compressed) | throw .corrupted
  return text

/-- The text of a token. -/
def resolve (sealer : TokenSealer) (token : String) : Except Fault String := do
  let contents ← (Envelope.contents token).mapError Fault.malformed
  let (body, received) ← (splitTag contents).mapError Fault.malformed
  if sealer.tag body ≠ received then throw .tampered
  sealer.unlock body

end TokenSealer

end ShortLink
