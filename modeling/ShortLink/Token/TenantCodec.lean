import ShortLink.Feistel.Stream
import ShortLink.Feistel.Word
import ShortLink.Settings.Basic
import ShortLink.Token.Envelope
import ShortLink.Zlib

/-!
# Codes for tenants

Ids and payloads are written as codes under the key of a tenant. An id is scrambled as one word; a
payload is compressed, scrambled as a byte string and put into an envelope. A code read under
another key gives another id, or a payload that does not inflate: nothing here is authenticated.

## Main definitions

- `TenantCodec` — a key ring with the version of the key for tenants without one of their own
- `TenantCodec.withVersion?` — the codec for codes from before a rotation
- `TenantCodec.encodeId`, `TenantCodec.decodeId` — codes of ids
- `TenantCodec.encodePayload`, `TenantCodec.decodePayload` — tokens of payloads
-/

namespace ShortLink

/-- Writes and reads codes under the keys of a key ring. -/
structure TenantCodec where
  ring : KeyRing
  version : Fin ring.keys.length
  deriving DecidableEq

namespace TenantCodec

/-- The codec at the active version of a key ring. -/
def ofRing (ring : KeyRing) : TenantCodec := ⟨ring, ring.active⟩

/-- The codec of the settings. -/
def ofSettings (settings : Settings) : TenantCodec := ofRing settings.keyRing

/-- The codec at another version, if there is such a version. -/
def withVersion? (codec : TenantCodec) (version : Nat) : Option TenantCodec :=
  if h : version < codec.ring.keys.length then some ⟨codec.ring, ⟨version, h⟩⟩ else none

/-- The key of a tenant: the tenant's own, or else the one of the codec's version. -/
def key (codec : TenantCodec) (tenant : String) : UInt32 :=
  (codec.ring.derivedKey? tenant).getD (codec.ring.keys.get codec.version)

/-- The number of rounds. -/
def rounds (codec : TenantCodec) : UInt8 := codec.ring.rounds.val

/-- The code of an id. -/
def encodeId (codec : TenantCodec) (id : UInt64) (tenant : String) : String :=
  Radix62.encodeWord (Feistel.scramble id (codec.key tenant) codec.rounds)

/-- The id behind a code. -/
def decodeId (codec : TenantCodec) (code tenant : String) : Except Malformed UInt64 :=
  (Radix62.decodeWord code).map fun word =>
    Feistel.unscramble word (codec.key tenant) codec.rounds

/-- The token of a payload, with the compressor that is used for it. -/
def encodePayload (codec : TenantCodec) (data : Bytes) (tenant : String)
    (compress : Bytes → Bytes := Zlib.compress) : String :=
  Envelope.close (Feistel.scrambleBytes (compress data)
    (Bytes.ofWord32 (codec.key tenant)) codec.rounds)

/-- The payload of a token. -/
def decodePayload (codec : TenantCodec) (token tenant : String) : Except Fault Bytes := do
  let scrambled ← (Envelope.contents token).mapError Fault.malformed
  Zlib.decompress (Feistel.unscrambleBytes scrambled
    (Bytes.ofWord32 (codec.key tenant)) codec.rounds)

end TenantCodec

end ShortLink
