import ShortLink.Proofs.Deflate.Stored
import ShortLink.Zlib

/-!
# Compressed byte strings inflate

A compressed byte string inflates to its contents when the limit leaves room for them, and not at
all otherwise, whatever bytes stand behind it.

## Main definitions

- `Zlib.IsFormOf` — a byte string that inflates like a compressed form of given contents
- `Zlib.Lossless` — the law of compressors: what they write inflates to what they were given

## Main results

- `Zlib.Lossless.isFormOf` — a lossless compressor writes forms of any byte string
- `Zlib.IsFormOf.decompress_append` — what is decompressed from a form with more behind it
- `Zlib.lossless_compress` — the compressor to run with is lossless
-/

namespace ShortLink.Zlib

/-- A byte string that inflates, with anything behind it, to `data` where the limit allows. -/
def IsFormOf (compressed data : Bytes) : Prop :=
  ∀ limit tail, inflate limit (compressed ++ tail) = if data.length ≤ limit then some data else none

/-- What a compressor writes inflates to what it was given, when there is just enough room. -/
def Lossless (compress : Bytes → Bytes) : Prop :=
  ∀ data, inflate data.length (compress data) = some data

/-- What it takes to inflate: a header, blocks within the limit, and their checksum. -/
theorem inflate_eq_some_iff {limit : Nat} {first second : UInt8} {body data : Bytes} :
    inflate limit (first :: second :: body) = some data ↔
      isHeader first second = true ∧ ∃ out rest checksum behind,
        Deflate.readBlocks limit #[] (Deflate.Bits.ofBytes body) = some (out, rest) ∧
        Deflate.Bits.readBytes #[] 4 rest.align = some (checksum, behind) ∧
        checksum.toList = Bytes.ofWord32 (adler32 out.toList) ∧ out.toList = data := by
  rw [inflate]
  by_cases hheader : isHeader first second = true
  · simp [hheader, Option.bind_eq_some_iff]
  · simp [hheader]

theorem exists_of_inflate {limit : Nat} {compressed data : Bytes}
    (h : inflate limit compressed = some data) :
    ∃ first second body, compressed = first :: second :: body := by
  match compressed, h with
  | first :: second :: body, _ => exact ⟨first, second, body, rfl⟩

theorem inflate_append {limit limit' : Nat} {compressed data : Bytes} (hlimit : limit ≤ limit')
    (tail : Bytes) (h : inflate limit compressed = some data) :
    inflate limit' (compressed ++ tail) = some data := by
  obtain ⟨first, second, body, rfl⟩ := exists_of_inflate h
  have htail : (Deflate.Bits.ofBytes tail).length % 8 = 0 := by
    rw [Deflate.Bits.length_ofBytes]
    omega
  obtain ⟨hheader, out, rest, checksum, behind, hout, hread, hsum, hdata⟩ :=
    inflate_eq_some_iff.mp h
  have hout' := Deflate.readBlocks_append htail hlimit hout
  have hread' := Deflate.Bits.readBytes_append (Deflate.Bits.ofBytes tail) hread
  rw [← Deflate.Bits.align_append htail] at hread'
  rw [List.cons_append, List.cons_append, inflate_eq_some_iff, Deflate.Bits.ofBytes_append]
  exact ⟨hheader, out, _, checksum, _, hout', hread', hsum, hdata⟩

/-- What is inflated keeps the limit. -/
theorem length_inflate_le {limit : Nat} {compressed data : Bytes}
    (h : inflate limit compressed = some data) : data.length ≤ limit := by
  obtain ⟨first, second, body, rfl⟩ := exists_of_inflate h
  obtain ⟨-, out, rest, checksum, behind, hout, -, -, rfl⟩ := inflate_eq_some_iff.mp h
  exact Deflate.size_readBlocks_le (Nat.zero_le _) hout

/-- What inflates has a header, part of a byte at least, and a checksum. -/
theorem seven_le_length_of_inflate {limit : Nat} {compressed data : Bytes}
    (h : inflate limit compressed = some data) : 7 ≤ compressed.length := by
  obtain ⟨first, second, body, rfl⟩ := exists_of_inflate h
  obtain ⟨-, out, rest, checksum, behind, hout, hread, -, -⟩ := inflate_eq_some_iff.mp h
  have hblocks := Deflate.length_readBlocks hout
  have hchecksum := Deflate.Bits.le_length_of_readBytes hread
  rw [Deflate.Bits.length_ofBytes] at hblocks
  rw [Deflate.Bits.align, List.length_drop] at hchecksum
  rw [List.length_cons, List.length_cons]
  omega

/-- A form that reads back within the length of its contents does so within any limit that leaves
room for them. -/
theorem isFormOf_of_readsBack {compressed data : Bytes}
    (h : inflate data.length compressed = some data) : IsFormOf compressed data := by
  intro limit tail
  split
  · next hroom => exact inflate_append hroom tail h
  · next hroom =>
    -- Within a smaller limit there is no other output either: a larger one would show it too.
    by_contra hne
    obtain ⟨out, hout⟩ := Option.ne_none_iff_exists'.mp hne
    have hsame := inflate_append (Nat.le_of_not_le hroom) [] hout
    have hdata := inflate_append (Nat.le_refl data.length) tail h
    rw [List.append_nil, hdata, Option.some.injEq] at hsame
    exact hroom (hsame ▸ length_inflate_le hout)

/-- What a lossless compressor writes is a form of what it was given. -/
theorem Lossless.isFormOf {compress : Bytes → Bytes} (h : Lossless compress) (data : Bytes) :
    IsFormOf (compress data) data :=
  isFormOf_of_readsBack (h data)

theorem IsFormOf.seven_le_length {compressed data : Bytes} (h : IsFormOf compressed data) :
    7 ≤ compressed.length := by
  have hself := h data.length []
  rw [List.append_nil, if_pos (Nat.le_refl _)] at hself
  exact seven_le_length_of_inflate hself

theorem IsFormOf.decompress_append {compressed data : Bytes} (h : IsFormOf compressed data)
    (tail : Bytes) :
    decompress (compressed ++ tail)
      = if data.length ≤ maxInflated then .ok data else .error .corrupted := by
  rw [Zlib.decompress, h]
  by_cases hroom : data.length ≤ maxInflated
  · rw [if_pos hroom, if_pos hroom]
  · rw [if_neg hroom, if_neg hroom]

theorem IsFormOf.decompress_eq {compressed data : Bytes} (h : IsFormOf compressed data) :
    decompress compressed = if data.length ≤ maxInflated then .ok data else .error .corrupted := by
  rw [← h.decompress_append [], List.append_nil]

/-! ### The compressor to run with -/

theorem inflate_storedBlocks (data : Bytes) :
    inflate data.length (wrap data (Deflate.storedBlocks data)) = some data := by
  have hsum : (Bytes.ofWord32 (adler32 data)).length = 4 := rfl
  have hroom : (#[] : Array UInt8).size + data.length ≤ data.length := by simp
  have hshort : ([] : Deflate.Bits).length < 8 := by decide
  have hout := Deflate.readBlocks_storedBlocks (Bytes.ofWord32 (adler32 data)) hroom
  have hread := Deflate.Bits.readBytes_ofBytes #[] (Bytes.ofWord32 (adler32 data)) []
  rw [hsum, List.append_nil] at hread
  have halign := Deflate.Bits.align_ofBytes hshort (Bytes.ofWord32 (adler32 data))
  rw [List.nil_append] at halign
  rw [← halign] at hread
  show inflate data.length
    (0x78 :: 0x9c :: (Deflate.storedBlocks data ++ Bytes.ofWord32 (adler32 data))) = some data
  rw [inflate_eq_some_iff]
  exact ⟨by decide, _, _, _, _, hout, hread, by simp, by simp⟩

theorem lossless_compress : Lossless compress := by
  intro data
  unfold compress
  dsimp only
  split
  · next h => exact of_decide_eq_true h
  · exact inflate_storedBlocks data

theorem compress_nil : compress [] = [0x78, 0x9c, 0x03, 0x00, 0x00, 0x00, 0x00, 0x01] := by
  decide +kernel

theorem compress_abc : compress (Bytes.ofText "abc") =
    [0x78, 0x9c, 0x4b, 0x4c, 0x4a, 0x06, 0x00, 0x02, 0x4d, 0x01, 0x27] := by
  decide +kernel

end ShortLink.Zlib
