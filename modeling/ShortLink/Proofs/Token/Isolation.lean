import ShortLink.Proofs.Bytes.Positional
import ShortLink.Proofs.Feistel.KeyDifference
import ShortLink.Proofs.Token.Payload

/-!
# Tokens under other keys

A token is meant to be of no use under another key: that of another tenant, or another version. It
gives its payload all the same when the two keys encrypt all columns of the compressed payload alike,
for then it is the token under the other key as well. Otherwise the other key makes other bytes of
it, and these only give the payload if they happen to inflate to it.

When three does not divide the number of rounds, no two keys encrypt all columns of a compressed
payload alike. When it does, as it divides the standard number, keys that differ in the top bits of
their bytes only are the same key for all payloads. Some byte string tells any other two keys apart,
but there may be payloads that do not.

## Main results

- `TenantCodec.encodePayload_eq_iff` — which payloads have the same token under two keys
- `TenantCodec.decodePayload_foreign` — what a token gives under another key
-/

namespace ShortLink.TenantCodec

open Feistel (AgreeBelowTop ColumnsAlike padEven scrambleBytes unscrambleBytes)

variable {ours theirs : TenantCodec} {our their : String} {compress : Bytes → Bytes}

/-- Codecs with one number of rounds write the same token when their keys encrypt the columns of the
compressed payload alike. -/
theorem encodePayload_eq_iff (hrounds : ours.rounds = theirs.rounds) (data : Bytes) :
    theirs.encodePayload data their compress = ours.encodePayload data our compress ↔
      ColumnsAlike (compress data) (Bytes.ofWord32 (ours.key our))
        (Bytes.ofWord32 (theirs.key their)) ours.rounds := by
  rw [encodePayload, encodePayload, Envelope.close_injective.eq_iff, ← hrounds, eq_comm,
    Feistel.scrambleBytes_eq_iff]

/-- When two keys encrypt all columns of the compressed payload alike, the token gives the same under
both. -/
theorem decodePayload_eq_of_columnsAlike (hrounds : ours.rounds = theirs.rounds) {data : Bytes}
    (h : ColumnsAlike (compress data) (Bytes.ofWord32 (ours.key our))
      (Bytes.ofWord32 (theirs.key their)) ours.rounds) :
    theirs.decodePayload (ours.encodePayload data our compress) their
      = ours.decodePayload (ours.encodePayload data our compress) our := by
  have hpad := Feistel.unscrambleBytes_scrambleBytes_eq_iff.mpr h
  rw [decodePayload_encodePayload_of_rounds hrounds, decodePayload_encodePayload_of_rounds rfl, hpad,
    Feistel.unscrambleBytes_scrambleBytes]

/-- A compressed payload has a column for each byte of a key. -/
theorem four_le_length_padEven_compress (hcompress : Zlib.Lossless compress) (data : Bytes) :
    4 ≤ (padEven (compress data)).length / 2 := by
  have hseven := (hcompress.isFormOf data).seven_le_length
  have hpad := Feistel.length_padEven (compress data)
  omega

/-- What a token gives under another key, for one number of rounds. It is the token under that key as
well if both keys encrypt all columns of the compressed payload alike, and then gives there what it
gives here. If they do not, the other key makes other bytes of it, and it gives its payload only when
these inflate to it. Keys never encrypt all columns alike if three does not divide the number of
rounds; if it does, they always do when they differ in the top bits of their bytes only, and no other
keys do for all byte strings. -/
theorem decodePayload_foreign (hcompress : Zlib.Lossless compress)
    (hrounds : ours.rounds = theirs.rounds) (hkeys : ours.key our ≠ theirs.key their)
    (data : Bytes) :
    let key := Bytes.ofWord32 (ours.key our)
    let key' := Bytes.ofWord32 (theirs.key their)
    let token := ours.encodePayload data our compress
    let other := unscrambleBytes (scrambleBytes (compress data) key ours.rounds) key' ours.rounds
    (theirs.encodePayload data their compress = token
      ↔ ColumnsAlike (compress data) key key' ours.rounds) ∧
    (ColumnsAlike (compress data) key key' ours.rounds →
      theirs.decodePayload token their = ours.decodePayload token our) ∧
    (¬ColumnsAlike (compress data) key key' ours.rounds →
      other ≠ padEven (compress data) ∧ other.length = (padEven (compress data)).length ∧
      (theirs.decodePayload token their = .ok data
        ↔ token.length ≤ Radix62.maxToken ∧ Zlib.decompress other = .ok data)) ∧
    (¬ 3 ∣ ours.rounds.toNat → ¬ColumnsAlike (compress data) key key' ours.rounds) ∧
    ((∀ contents, ColumnsAlike contents key key' ours.rounds)
      ↔ 3 ∣ ours.rounds.toNat ∧ AgreeBelowTop key key') := by
  intro key key' token other
  have hbytes : key ≠ key' := fun h => hkeys (Bytes.ofWord32_injective h)
  refine ⟨encodePayload_eq_iff hrounds data, decodePayload_eq_of_columnsAlike hrounds, ?_, ?_, ?_⟩
  · intro halike
    refine ⟨mt Feistel.unscrambleBytes_scrambleBytes_eq_iff.mp halike, ?_,
      decodePayload_encodePayload_eq_ok_iff hrounds compress data data⟩
    rw [Feistel.length_unscrambleBytes, Feistel.length_scrambleBytes, Feistel.length_padEven]
    omega
  · intro hndvd
    exact Feistel.not_columnsAlike hbytes rfl hndvd (four_le_length_padEven_compress hcompress data)
  · exact Feistel.forall_columnsAlike_iff hbytes rfl
      (UInt8.le_iff_toNat_le.mp ours.ring.rounds.one_le)
      (UInt8.le_iff_toNat_le.mp ours.ring.rounds.le_ten)

/-- At the standard number of rounds two versions of a key that differ in one top bit are the same key
for all byte strings. Two that differ in one bit below are not, but still write the same token for
some payload. At one round two versions write the bytes of the empty payload differently, but only in
bits that nobody reads. -/
theorem decodePayload_foreign_versions :
    let top : KeyRing := ⟨[777, 905], ⟨0, by decide⟩, .standard, none⟩
    let below : KeyRing := ⟨[777, 769], ⟨0, by decide⟩, .standard, none⟩
    let single : KeyRing := ⟨[0, 4], ⟨0, by decide⟩, ⟨1, by decide, by decide⟩, none⟩
    Zlib.Lossless Zlib.compress ∧
    (∀ contents, ColumnsAlike contents (Bytes.ofWord32 777) (Bytes.ofWord32 905) top.rounds.val) ∧
    (¬∀ contents, ColumnsAlike contents (Bytes.ofWord32 777) (Bytes.ofWord32 769)
      below.rounds.val) ∧
    (TenantCodec.mk below ⟨1, by decide⟩).encodePayload (Bytes.ofText "abc") "" Zlib.compress
      = (ofRing below).encodePayload (Bytes.ofText "abc") "" Zlib.compress ∧
    (TenantCodec.mk single ⟨1, by decide⟩).decodePayload
      ((ofRing single).encodePayload [] "" Zlib.compress) "" = .ok [] ∧
    ∃ other, other ≠ padEven (Zlib.compress []) ∧ Zlib.decompress other = .ok [] := by
  intro top below single
  have hcompress := Zlib.lossless_compress
  have htop := @decodePayload_foreign (ofRing top) ⟨top, ⟨1, by decide⟩⟩ "" "" Zlib.compress
    hcompress rfl (by decide) []
  have hbelow := @decodePayload_foreign (ofRing below) ⟨below, ⟨1, by decide⟩⟩ "" "" Zlib.compress
    hcompress rfl (by decide) (Bytes.ofText "abc")
  have hsingle := @decodePayload_foreign (ofRing single) ⟨single, ⟨1, by decide⟩⟩ "" "" Zlib.compress
    hcompress rfl (by decide) []
  obtain ⟨-, -, -, -, halltop⟩ := htop
  obtain ⟨hsame, -, -, -, hallbelow⟩ := hbelow
  obtain ⟨-, -, hother, hapart, -⟩ := hsingle
  obtain ⟨hne, -, hgives⟩ := hother (hapart (by decide))
  have hdiffer : ¬AgreeBelowTop (Bytes.ofWord32 777) (Bytes.ofWord32 769) := by decide
  have halike : ColumnsAlike (Zlib.compress (Bytes.ofText "abc")) (Bytes.ofWord32 777)
      (Bytes.ofWord32 769) below.rounds.val := by
    rw [Zlib.compress_abc]
    decide +kernel
  have hshort : ((ofRing single).encodePayload [] "" Zlib.compress).length ≤ Radix62.maxToken := by
    rw [← Nat.not_lt, maxToken_lt_length_encodePayload_iff, Zlib.compress_nil]
    decide
  have hinflate : Zlib.decompress (unscrambleBytes
      (scrambleBytes (Zlib.compress []) (Bytes.ofWord32 0) 1) (Bytes.ofWord32 4) 1) = .ok [] := by
    rw [Zlib.compress_nil]
    decide +kernel
  exact ⟨hcompress, halltop.mpr (by decide), fun hall => hdiffer (hallbelow.mp hall).2,
    hsame.mpr halike, hgives.mpr ⟨hshort, hinflate⟩, _, hne, hinflate⟩

/-- A token of one version of the key gives its payload under another version. -/
theorem decodePayload_across_versions :
    let ring : KeyRing := ⟨[777, 905], ⟨0, by decide⟩, .standard, none⟩
    Zlib.Lossless Zlib.compress ∧
    (ofRing ring).key "" ≠ (TenantCodec.mk ring ⟨1, by decide⟩).key "" ∧
    (TenantCodec.mk ring ⟨1, by decide⟩).decodePayload
        ((ofRing ring).encodePayload (Bytes.ofText "abc") "" Zlib.compress) ""
      = .ok (Bytes.ofText "abc") := by
  intro ring
  let second : TenantCodec := ⟨ring, ⟨1, by decide⟩⟩
  have hkeys : (ofRing ring).key "" ≠ second.key "" := by decide
  refine ⟨Zlib.lossless_compress, hkeys, ?_⟩
  have halike : ColumnsAlike (Zlib.compress (Bytes.ofText "abc")) (Bytes.ofWord32 777)
      (Bytes.ofWord32 905) ring.rounds.val :=
    Feistel.columnsAlike_of_agreeBelowTop (by decide) (by decide) _
  -- It is the token of the other version, too.
  have hsame := (@encodePayload_eq_iff (ofRing ring) second "" "" Zlib.compress rfl
    (Bytes.ofText "abc")).mpr halike
  have hfits : ¬Envelope.maxContents < scrambledSize (Zlib.compress (Bytes.ofText "abc")) := by
    rw [Zlib.compress_abc]
    decide
  have hsize : (Bytes.ofText "abc").length ≤ Zlib.maxInflated := by decide
  show second.decodePayload ((ofRing ring).encodePayload (Bytes.ofText "abc") "" Zlib.compress) ""
    = _
  rw [← hsame, decodePayload_of_fits second "" Zlib.lossless_compress hfits, if_pos hsize]

end ShortLink.TenantCodec
