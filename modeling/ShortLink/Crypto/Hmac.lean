import ShortLink.Crypto.Sha256

/-!
# Keyed hashes

The message authentication code HMAC over SHA-256, and the key derivation HKDF built on it.

## Main definitions

- `Crypto.hmac` — the 32-byte code of a message under a key of any length
- `Crypto.hkdfExtract`, `Crypto.hkdfBlock` — the key derived from a secret, and the first block of
  output for a purpose
- `Crypto.deriveWord` — a 32-bit key for a purpose

## Main results

- `Crypto.length_hmac` — a code has 32 bytes
-/

namespace ShortLink.Crypto

/-- Size of a block of the hash. -/
def blockSize : Nat := 64

/-- A key as one block: hashed first when it is too long, and filled up with zero bytes. -/
def blockKey (key : Bytes) : Bytes :=
  let short := if blockSize < key.length then sha256 key else key
  short ++ List.replicate (blockSize - short.length) 0

/-- The authentication code of `message` under `key`. -/
def hmac (key message : Bytes) : Bytes :=
  let block := blockKey key
  sha256 (block.map (· ^^^ 0x5c) ++ sha256 (block.map (· ^^^ 0x36) ++ message))

theorem length_hmac (key message : Bytes) : (hmac key message).length = 32 :=
  length_sha256 _

/-- The key behind a secret, with no salt. -/
def hkdfExtract (secret : Bytes) : Bytes := hmac (List.replicate 32 0) secret

/-- The first block of output for a purpose. -/
def hkdfBlock (key info : Bytes) : Bytes := hmac key (info ++ [1])

/-- The 32-bit key that a secret gives for a purpose: the first four bytes of output, most
significant first. -/
def deriveWord (secret info : Bytes) : UInt32 :=
  Bytes.toWord32 ((hkdfBlock (hkdfExtract secret) info).take 4)

end ShortLink.Crypto
