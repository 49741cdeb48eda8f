import ShortLink.Proofs.Feistel.Inverse
import ShortLink.Proofs.Token.Envelope
import ShortLink.Proofs.Zlib
import ShortLink.Token.TenantCodec

/-!
# Payloads come back

A payload comes back from its token under the key it was written with, whatever lossless compressor
it was written with. Two limits stand in the way: the token may be too long, which the size of the
compressed payload alone decides, and the payload itself may be larger than what is inflated.

## Main definitions

- `TenantCodec.scrambledSize` — the size of a compressed payload in its token

## Main results

- `TenantCodec.decodePayload_encodePayload_of_rounds` — what is read from a token under any key
- `TenantCodec.decodePayload_encodePayload` — what comes back from the token of a payload
-/

namespace ShortLink.TenantCodec

/-- The size of a compressed payload in its token: rounded up to an even number. -/
def scrambledSize (compressed : Bytes) : Nat := compressed.length + compressed.length % 2

variable (codec : TenantCodec) (tenant : String) {compress : Bytes → Bytes} {compressed data : Bytes}

theorem scrambledSize_mod_two (compressed : Bytes) : scrambledSize compressed % 2 = 0 := by
  unfold scrambledSize
  omega

theorem decodePayload_of_error {codec : TenantCodec} {token tenant : String} {reason : Malformed}
    (h : Envelope.contents token = .error reason) :
    codec.decodePayload token tenant = .error (.malformed reason) := by
  rw [decodePayload, h]
  rfl

theorem decodePayload_of_ok {codec : TenantCodec} {token tenant : String} {scrambled : Bytes}
    (h : Envelope.contents token = .ok scrambled) :
    codec.decodePayload token tenant = Zlib.decompress (Feistel.unscrambleBytes scrambled
      (Bytes.ofWord32 (codec.key tenant)) codec.rounds) := by
  rw [decodePayload, h]
  rfl

/-- A scrambled form of a payload gives the payload, for the zero byte that it may have been padded
with stands behind the form. -/
theorem decompress_unscrambleBytes (hform : Zlib.IsFormOf compressed data) (key : Bytes)
    (rounds : UInt8) :
    Zlib.decompress (Feistel.unscrambleBytes (Feistel.scrambleBytes compressed key rounds) key
      rounds) = if data.length ≤ Zlib.maxInflated then .ok data else .error .corrupted := by
  obtain ⟨tail, htail⟩ := Feistel.exists_padEven_eq compressed
  rw [Feistel.unscrambleBytes_scrambleBytes, htail]
  exact hform.decompress_append tail

/-- What is read from a token, under its own key or another one: the bytes that the key makes of what
was scrambled are inflated, unless the token is too long. -/
theorem decodePayload_encodePayload_of_rounds {ours theirs : TenantCodec} {our their : String}
    (hrounds : ours.rounds = theirs.rounds) (compress : Bytes → Bytes) (data : Bytes) :
    theirs.decodePayload (ours.encodePayload data our compress) their
      = if Radix62.maxToken < (ours.encodePayload data our compress).length then
          .error (.malformed .invalidLength)
        else Zlib.decompress (Feistel.unscrambleBytes
          (Feistel.scrambleBytes (compress data) (Bytes.ofWord32 (ours.key our)) ours.rounds)
          (Bytes.ofWord32 (theirs.key their)) ours.rounds) := by
  have hcontents : Envelope.contents (ours.encodePayload data our compress)
      = if Radix62.maxToken < (ours.encodePayload data our compress).length then
          .error .invalidLength
        else .ok (Feistel.scrambleBytes (compress data) (Bytes.ofWord32 (ours.key our))
          ours.rounds) :=
    Envelope.contents_close _
  split at hcontents
  · next hlong => rw [if_pos hlong, decodePayload_of_error hcontents]
  · next hshort => rw [if_neg hshort, decodePayload_of_ok hcontents, hrounds]

/-- What a token has to be, and what the key has to make of it, for a reading to succeed. -/
theorem decodePayload_encodePayload_eq_ok_iff {ours theirs : TenantCodec} {our their : String}
    (hrounds : ours.rounds = theirs.rounds) (compress : Bytes → Bytes) (data out : Bytes) :
    theirs.decodePayload (ours.encodePayload data our compress) their = .ok out ↔
      (ours.encodePayload data our compress).length ≤ Radix62.maxToken ∧
      Zlib.decompress (Feistel.unscrambleBytes
        (Feistel.scrambleBytes (compress data) (Bytes.ofWord32 (ours.key our)) ours.rounds)
        (Bytes.ofWord32 (theirs.key their)) ours.rounds) = .ok out := by
  rw [decodePayload_encodePayload_of_rounds hrounds]
  by_cases hlong : Radix62.maxToken < (ours.encodePayload data our compress).length
  · rw [if_pos hlong]
    exact iff_of_false nofun fun h => Nat.not_le.mpr hlong h.1
  · rw [if_neg hlong]
    exact (and_iff_right (Nat.not_lt.mp hlong)).symm

/-- The token of a payload is too long when its compressed form is. -/
theorem maxToken_lt_length_encodePayload_iff (compress : Bytes → Bytes) (data : Bytes) :
    Radix62.maxToken < (codec.encodePayload data tenant compress).length
      ↔ Envelope.maxContents < scrambledSize (compress data) := by
  have hsize : (Feistel.scrambleBytes (compress data) (Bytes.ofWord32 (codec.key tenant))
      codec.rounds).length = scrambledSize (compress data) := Feistel.length_scrambleBytes _ _ _
  rw [← hsize]
  refine Envelope.maxToken_lt_length_close_iff ?_
  rw [hsize, scrambledSize_mod_two]

/-- A payload comes back from a token that is short enough, unless it is larger than what is
inflated. -/
theorem decodePayload_of_fits (hcompress : Zlib.Lossless compress)
    (h : ¬Envelope.maxContents < scrambledSize (compress data)) :
    codec.decodePayload (codec.encodePayload data tenant compress) tenant
      = if data.length ≤ Zlib.maxInflated then .ok data else .error .corrupted := by
  have hlong := maxToken_lt_length_encodePayload_iff codec tenant compress data
  rw [decodePayload_encodePayload_of_rounds rfl, if_neg (mt hlong.mp h)]
  exact decompress_unscrambleBytes (hcompress.isFormOf data) _ _

/-- Whatever lossless compressor is used, the token of a payload is too long when its compressed form
is, and otherwise gives the payload unless that is larger than what is inflated. -/
theorem decodePayload_encodePayload (hcompress : Zlib.Lossless compress) (data : Bytes) :
    (Radix62.maxToken < (codec.encodePayload data tenant compress).length
      ↔ Envelope.maxContents < scrambledSize (compress data)) ∧
    codec.decodePayload (codec.encodePayload data tenant compress) tenant
      = if Envelope.maxContents < scrambledSize (compress data) then
          .error (.malformed .invalidLength)
        else if data.length ≤ Zlib.maxInflated then .ok data
        else .error .corrupted := by
  have hlong := maxToken_lt_length_encodePayload_iff codec tenant compress data
  refine ⟨hlong, ?_⟩
  by_cases h : Envelope.maxContents < scrambledSize (compress data)
  · rw [if_pos h, decodePayload_encodePayload_of_rounds rfl, if_pos (hlong.mpr h)]
  · rw [if_neg h, decodePayload_of_fits codec tenant hcompress h]

/-- A payload that is written as literals, under a key of one version. -/
theorem decodePayload_encodePayload_literals :
    let codec := ofRing ⟨[777], 0, .standard, none⟩
    let data := Bytes.ofText "abc"
    Zlib.Lossless Zlib.compress ∧
      codec.decodePayload (codec.encodePayload data "" Zlib.compress) "" = .ok data := by
  intro codec data
  have hfits : ¬Envelope.maxContents < scrambledSize (Zlib.compress data) := by
    rw [Zlib.compress_abc]
    decide
  have hsize : data.length ≤ Zlib.maxInflated := by decide
  refine ⟨Zlib.lossless_compress, ?_⟩
  rw [(decodePayload_encodePayload codec "" Zlib.lossless_compress data).2, if_neg hfits,
    if_pos hsize]

end ShortLink.TenantCodec
