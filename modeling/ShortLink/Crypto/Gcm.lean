import ShortLink.Crypto.Aes256
import ShortLink.Crypto.Sha256

/-!
# Galois counter mode

Authenticated encryption with AES-256, a nonce of 12 bytes and no associated data: the text is
combined with the key stream, and a tag of 16 bytes over the ciphertext is put behind it.

## Main definitions

- `Crypto.hashBlocks` — the universal hash of the mode
- `Crypto.gcmEncrypt`, `Crypto.gcmDecrypt?` — encryption, and decryption of what carries its tag
-/

namespace ShortLink.Crypto

/-- A block read as a 128-bit word, most significant byte first. -/
def toWord128 (block : Bytes) : BitVec 128 :=
  BitVec.ofNat 128 (block.foldl (fun n b => n * 256 + b.toNat) 0)

/-- The sixteen bytes of a 128-bit word, most significant first. -/
def ofWord128 (w : BitVec 128) : Bytes :=
  (List.range 16).map fun i => (w.toNat >>> (8 * (15 - i))).toUInt8

/-- The product in the field of 2¹²⁸ elements, whose polynomials are written with the constant
term first. -/
def fieldMul (x y : BitVec 128) : BitVec 128 :=
  ((List.range 128).foldl
    (fun (acc : BitVec 128 × BitVec 128) i =>
      let (z, v) := acc
      let z := if x.getMsbD i then z ^^^ v else z
      let reduction : BitVec 128 := if v.getLsbD 0 then 0xe1 <<< 120 else 0
      (z, v >>> 1 ^^^ reduction))
    (0, y)).1

/-- The hash of a list of blocks under the hash key. -/
def hashBlocks (hashKey : BitVec 128) (blocks : List (BitVec 128)) : BitVec 128 :=
  blocks.foldl (fun acc block => fieldMul (acc ^^^ block) hashKey) 0

/-- A byte string filled up with zero bytes to sixteen bytes. -/
def fillBlock (bytes : Bytes) : Bytes := bytes ++ List.replicate (16 - bytes.length) 0

/-- The first `n` bytes of the key stream under the given round keys. -/
def keyStream (keys : List Bytes) (nonce : Bytes) (n : Nat) : Bytes :=
  ((List.range ((n + 15) / 16)).flatMap fun i =>
    encryptBlock keys (nonce ++ Bytes.ofWord32 (i.toUInt32 + 2))).take n

/-- A text combined with the key stream. -/
def applyStream (keys : List Bytes) (nonce text : Bytes) : Bytes :=
  Bytes.xor text (keyStream keys nonce text.length)

/-- The tag of a ciphertext. -/
def gcmTag (keys : List Bytes) (nonce ciphertext : Bytes) : Bytes :=
  let hashKey := toWord128 (encryptBlock keys (List.replicate 16 0))
  let lengths := BitVec.ofNat 128 (8 * ciphertext.length)
  let blocks := (pieces 16 ciphertext).map fun piece => toWord128 (fillBlock piece)
  let mask := toWord128 (encryptBlock keys (nonce ++ [0, 0, 0, 1]))
  ofWord128 (hashBlocks hashKey (blocks ++ [lengths]) ^^^ mask)

/-- Size of a tag. -/
def tagSize : Nat := 16

/-- The ciphertext of a text with its tag behind it. -/
def gcmEncrypt (key nonce text : Bytes) : Bytes :=
  let keys := roundKeys key
  let ciphertext := applyStream keys nonce text
  ciphertext ++ gcmTag keys nonce ciphertext

/-- The text behind a ciphertext that carries its tag. -/
def gcmDecrypt? (key nonce sealedText : Bytes) : Option Bytes :=
  let keys := roundKeys key
  let size := sealedText.length - tagSize
  let ciphertext := sealedText.take size
  if sealedText.length < tagSize ∨ sealedText.drop size ≠ gcmTag keys nonce ciphertext then none
  else some (applyStream keys nonce ciphertext)

end ShortLink.Crypto
