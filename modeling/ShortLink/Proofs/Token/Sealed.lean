import ShortLink.Proofs.Bytes.Text
import ShortLink.Proofs.Crypto.Gcm
import ShortLink.Proofs.Token.Envelope
import ShortLink.Proofs.Zlib
import ShortLink.Token.Sealed

/-!
# Sealed tokens give their texts back

The contents of a sealed token are sixty bytes longer than the compressed text: a nonce, the tag of
the cipher and the integrity tag. The limit on tokens therefore refuses a text by its compressed
size alone, except for one size at which the nonce decides. What is not refused comes back unless
the text is larger than what is inflated. How large a text is when it is compressed is up to the
compressor, of which nothing is needed but that it is lossless.

## Main definitions

- `TokenSealer.Lawful` — what a round trip needs of the functions of a sealer
- `TokenSealer.sealedPart` — the part of a token that its integrity tag is over

## Main results

- `TokenSealer.resolve_of_contents` — the order of the checks
- `TokenSealer.lawful_ofSettings` — AES-256 in Galois counter mode with HMAC-SHA-256 is lawful
- `TokenSealer.resolve_create_exact` — what comes back from the token of a text
-/

namespace ShortLink.TokenSealer

open Radix62 (maxToken)
open Envelope (maxContents)

/-- What a round trip needs of the functions of a sealer. -/
structure Lawful (sealer : TokenSealer) : Prop where
  length_tag : ∀ body, (sealer.tag body).length = tagSize
  length_encrypt : ∀ nonce text,
    (sealer.encrypt nonce text).length = text.length + Crypto.tagSize
  decrypt?_encrypt : ∀ nonce text,
    sealer.decrypt? nonce (sealer.encrypt nonce text) = some text

/-- The part of a token that its integrity tag is over: the nonce and the ciphertext. -/
def sealedPart (sealer : TokenSealer) (nonce : Bytes) (text : String)
    (compress : Bytes → Bytes) : Bytes :=
  nonce ++ sealer.encrypt nonce (compress (Bytes.ofText text))

variable {sealer : TokenSealer} {token text : String} {nonce body received : Bytes}
  {compress : Bytes → Bytes}

theorem create_eq (sealer : TokenSealer) (nonce : Bytes) (text : String)
    (compress : Bytes → Bytes) :
    sealer.create nonce text compress
      = Envelope.close (sealer.sealedPart nonce text compress
          ++ sealer.tag (sealer.sealedPart nonce text compress)) :=
  rfl

/-! ### The order of the checks -/

theorem resolve_of_malformed {reason : Malformed} (h : Envelope.contents token = .error reason) :
    sealer.resolve token = .error (.malformed reason) := by
  rw [resolve, h]
  rfl

theorem resolve_of_short {contents : Bytes} (h : Envelope.contents token = .ok contents)
    (hshort : contents.length < tagSize) : sealer.resolve token = .error (.malformed .tooShort) := by
  have hsplit : splitTag contents = .error .tooShort := if_pos hshort
  rw [resolve, h]
  show ((splitTag contents).mapError Fault.malformed >>= _) = _
  rw [hsplit]
  rfl

/-- A token of sufficient length is opened only after its integrity tag was found right. -/
theorem resolve_of_contents (h : Envelope.contents token = .ok (body ++ received))
    (hreceived : received.length = tagSize) :
    sealer.resolve token
      = if sealer.tag body = received then sealer.unlock body else .error .tampered := by
  have hsplit : splitTag (body ++ received) = .ok (body, received) := by
    have hlength : (body ++ received).length = body.length + tagSize := by
      rw [List.length_append, hreceived]
    rw [splitTag, hlength, if_neg (by omega), Nat.add_sub_cancel, List.splitAt_eq, List.take_left,
      List.drop_left]
  rw [resolve, h]
  show ((splitTag (body ++ received)).mapError Fault.malformed >>= _) = _
  rw [hsplit]
  by_cases htag : sealer.tag body = received
  · rw [if_pos htag]
    show (if sealer.tag body ≠ received then _ else _) = _
    rw [if_neg (not_not_intro htag)]
  · -- The cipher is not asked.
    rw [if_neg htag]
    show (if sealer.tag body ≠ received then _ else _) = _
    rw [if_pos htag]
    rfl

/-- The text behind a byte string that was inflated. -/
def asText (bytes : Bytes) : Except Fault String :=
  match Bytes.toText? bytes with
  | some text => .ok text
  | none => .error .corrupted

theorem unlock_of_short (h : body.length < nonceSize) :
    sealer.unlock body = .error .decryptionFailed := by
  rw [unlock, if_pos h]
  rfl

theorem unlock_append (hnonce : nonce.length = nonceSize) (ciphertext : Bytes) :
    sealer.unlock (nonce ++ ciphertext)
      = match sealer.decrypt? nonce ciphertext with
        | some compressed => Zlib.decompress compressed >>= asText
        | none => .error .decryptionFailed := by
  have hlong : ¬(nonce ++ ciphertext).length < nonceSize := by
    rw [List.length_append, hnonce]
    omega
  have hsplit : (nonce ++ ciphertext).splitAt nonceSize = (nonce, ciphertext) := by
    rw [List.splitAt_eq, ← hnonce, List.take_left, List.drop_left]
  rw [unlock, if_neg hlong, hsplit]
  dsimp only
  cases sealer.decrypt? nonce ciphertext with
  | none => rfl
  | some compressed =>
    show Zlib.decompress compressed >>= _ = _
    congr 1
    funext bytes
    rw [asText]
    cases Bytes.toText? bytes with
    | none => rfl
    | some text => rfl

/-! ### The round trip -/

theorem unlock_sealedPart (hlaw : sealer.Lawful) (hcompress : Zlib.Lossless compress)
    (hnonce : nonce.length = nonceSize) :
    sealer.unlock (sealer.sealedPart nonce text compress)
      = if text.utf8ByteSize ≤ Zlib.maxInflated then .ok text else .error .corrupted := by
  have htext : asText (Bytes.ofText text) = .ok text := by
    rw [asText, Bytes.toText?_ofText]
  rw [sealedPart, unlock_append hnonce, hlaw.decrypt?_encrypt]
  show Zlib.decompress (compress (Bytes.ofText text)) >>= asText = _
  rw [(hcompress.isFormOf _).decompress_eq, Bytes.length_ofText]
  split
  · exact htext
  · rfl

theorem length_contents (hlaw : sealer.Lawful) (hnonce : nonce.length = nonceSize) :
    (sealer.sealedPart nonce text compress
        ++ sealer.tag (sealer.sealedPart nonce text compress)).length
      = (compress (Bytes.ofText text)).length + 60 := by
  rw [List.length_append, hlaw.length_tag, sealedPart, List.length_append, hlaw.length_encrypt,
    hnonce]
  unfold nonceSize tagSize Crypto.tagSize
  omega

theorem resolve_create_of_lt (h : maxToken < (sealer.create nonce text compress).length) :
    sealer.resolve (sealer.create nonce text compress) = .error (.malformed .invalidLength) := by
  rw [create_eq] at h ⊢
  apply resolve_of_malformed
  rw [Envelope.contents_close, if_pos h]

/-- A token that is short enough gives its text back, unless that is larger than what is inflated. -/
theorem resolve_create_of_le (hlaw : sealer.Lawful) (hcompress : Zlib.Lossless compress)
    (hnonce : nonce.length = nonceSize)
    (h : (sealer.create nonce text compress).length ≤ maxToken) :
    sealer.resolve (sealer.create nonce text compress)
      = if text.utf8ByteSize ≤ Zlib.maxInflated then .ok text else .error .corrupted := by
  rw [create_eq] at h ⊢
  have hcontents := Envelope.contents_close
    (sealer.sealedPart nonce text compress ++ sealer.tag (sealer.sealedPart nonce text compress))
  rw [if_neg (Nat.not_lt.mpr h)] at hcontents
  rw [resolve_of_contents hcontents (hlaw.length_tag _), if_pos rfl,
    unlock_sealedPart hlaw hcompress hnonce]

/-- Most compressed bytes that fit into a sealed token under any nonce. -/
def maxCompressed : Nat := 6036

theorem length_create_le (hlaw : sealer.Lawful) (hnonce : nonce.length = nonceSize)
    (h : (compress (Bytes.ofText text)).length ≤ maxCompressed) :
    (sealer.create nonce text compress).length ≤ maxToken := by
  rw [create_eq]
  apply Envelope.close_fits
  rw [length_contents hlaw hnonce]
  exact Nat.add_le_add_right h 60

theorem length_create_gt (hlaw : sealer.Lawful) (hnonce : nonce.length = nonceSize)
    (h : maxCompressed + 2 ≤ (compress (Bytes.ofText text)).length) :
    maxToken < (sealer.create nonce text compress).length := by
  rw [create_eq]
  apply Envelope.close_overflows
  rw [length_contents hlaw hnonce]
  exact Nat.add_le_add_right h 60

/-! ### One size at which the nonce decides -/

theorem length_ciphertext_tag (hlaw : sealer.Lawful)
    (h : (compress (Bytes.ofText text)).length = maxCompressed + 1) :
    (sealer.encrypt nonce (compress (Bytes.ofText text))
      ++ sealer.tag (sealer.sealedPart nonce text compress)).length = maxContents - 11 := by
  rw [List.length_append, hlaw.length_tag, hlaw.length_encrypt, h]
  rfl

theorem length_create_zeros_le (hlaw : sealer.Lawful)
    (h : (compress (Bytes.ofText text)).length = maxCompressed + 1) :
    (sealer.create (List.replicate nonceSize 0) text compress).length ≤ maxToken := by
  rw [create_eq, sealedPart, List.append_assoc]
  exact Envelope.close_fits_of_zeros (length_ciphertext_tag hlaw h)

theorem length_create_ones_gt (hlaw : sealer.Lawful)
    (h : (compress (Bytes.ofText text)).length = maxCompressed + 1) :
    maxToken < (sealer.create (List.replicate nonceSize 0xff) text compress).length := by
  rw [create_eq, sealedPart, List.append_assoc]
  exact Envelope.close_overflows_of_ones (length_ciphertext_tag hlaw h)

/-! ### The functions of the settings -/

/-- AES-256 in Galois counter mode with HMAC-SHA-256 does what a round trip needs. -/
theorem lawful_ofSettings (settings : Settings) : (ofSettings settings).Lawful where
  length_tag := Crypto.length_hmac settings.hmacSecret.bytes
  length_encrypt := Crypto.length_gcmEncrypt settings.length_aesSecret
  decrypt?_encrypt := Crypto.gcmDecrypt?_gcmEncrypt settings.length_aesSecret

/-- Whatever lossless compressor is used, the token of a text gives the text back, unless that is
larger than what is inflated, when its compressed form has at most 6036 bytes. From 6038 bytes on it
is refused for its length, and at 6037 bytes the nonce decides. -/
theorem resolve_create_exact (settings : Settings) (hcompress : Zlib.Lossless compress)
    (text : String) {nonce : Bytes} (hnonce : nonce.length = nonceSize) :
    let sealer := ofSettings settings
    let size := (compress (Bytes.ofText text)).length
    let answer := if text.utf8ByteSize ≤ Zlib.maxInflated then .ok text else .error .corrupted
    if size ≤ maxCompressed then sealer.resolve (sealer.create nonce text compress) = answer
    else if size = maxCompressed + 1 then
      sealer.resolve (sealer.create (List.replicate nonceSize 0) text compress) = answer ∧
      sealer.resolve (sealer.create (List.replicate nonceSize 0xff) text compress)
        = .error (.malformed .invalidLength)
    else sealer.resolve (sealer.create nonce text compress) = .error (.malformed .invalidLength) := by
  intro sealer size answer
  have hlaw := lawful_ofSettings settings
  by_cases hfits : size ≤ maxCompressed
  · rw [if_pos hfits]
    exact resolve_create_of_le hlaw hcompress hnonce (length_create_le hlaw hnonce hfits)
  rw [if_neg hfits]
  by_cases hnext : size = maxCompressed + 1
  · rw [if_pos hnext]
    constructor
    · exact resolve_create_of_le hlaw hcompress List.length_replicate
        (length_create_zeros_le hlaw hnext)
    · exact resolve_create_of_lt (length_create_ones_gt hlaw hnext)
  · rw [if_neg hnext]
    exact resolve_create_of_lt (length_create_gt hlaw hnonce (by omega))

/-- Settings to try a statement on. -/
def sample : Settings where
  keyRing := ⟨[777], 0, .standard, none⟩
  aesSecret := List.replicate aesSecretSize 7
  length_aesSecret := List.length_replicate
  hmacSecret := ⟨Bytes.ofText "hmac-secret", by decide⟩
  node := default

theorem length_compress_sample :
    (Zlib.compress (Bytes.ofText "https://example.com/a")).length ≤ 40 := by
  decide +kernel

theorem resolve_create_sample :
    Zlib.Lossless Zlib.compress ∧
    (List.replicate nonceSize 0 : Bytes).length = nonceSize ∧
    (ofSettings sample).resolve ((ofSettings sample).create (List.replicate nonceSize 0)
        "https://example.com/a" Zlib.compress)
      = .ok "https://example.com/a" := by
  have hsize : (Zlib.compress (Bytes.ofText "https://example.com/a")).length ≤ maxCompressed :=
    Nat.le_trans length_compress_sample (by decide)
  have hexact := resolve_create_exact sample Zlib.lossless_compress "https://example.com/a"
    (List.length_replicate (n := nonceSize) (a := 0))
  dsimp only at hexact
  rw [if_pos hsize] at hexact
  exact ⟨Zlib.lossless_compress, List.length_replicate, hexact⟩

end ShortLink.TokenSealer
