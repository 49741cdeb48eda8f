import ShortLink.Proofs.Radix62.Word

/-!
# Words among byte strings

A word has the same code as its eight bytes, although the two are written by different means. A text
short enough for the code of a word gives that word whenever its bytes are few enough, and both ways
of reading refuse a text for the same byte.

## Main results

- `Radix62.decode_eq_ok_iff`, `Radix62.decode_eq_error_iff` — the bytes of a text by its number
- `Radix62.decodeWord_eq_ok_iff_decode`, `Radix62.decodeWord_eq_overflow_iff_decode` — a word is read
  when at most eight bytes are
- `Radix62.words_agree_with_bytes` — words and byte strings have the same codes
-/

namespace ShortLink.Radix62

variable {code : String} {data : Bytes} {reason : Malformed}

/-- The code of a word is the one of its bytes, most significant first. -/
theorem encode_ofWord64 (w : UInt64) : encode (Bytes.ofWord64 w) = encodeWord w := by
  rw [encode_eq, Bytes.toNat_ofWord64, encodeWord]

/-! ### Bytes by number -/

theorem decode_eq_ok_iff :
    decode code = .ok data ↔
      (∀ b ∈ Bytes.ofText code, b ∈ Bytes.ofText alphabet) ∧ data = Bytes.ofNat (number code) := by
  rw [← exists_eq_write_iff]
  constructor
  · intro h
    obtain ⟨digits, rfl, rfl⟩ := eq_write_of_decode h
    exact ⟨⟨digits, rfl⟩, by rw [number_write]⟩
  · rintro ⟨⟨digits, rfl⟩, rfl⟩
    rw [decode_write, number_write]

theorem decode_eq_error_iff :
    decode code = .error reason ↔
      ∃ byte position, IsFirstForeign code byte position ∧
        reason = .invalidCharacter byte position := by
  rw [← read_eq_error_iff, decode]
  cases read code with
  | error reason' =>
    show Except.error reason' = Except.error reason ↔ _
    rw [Except.error.injEq, Except.error.injEq]
  | ok digits => exact iff_of_false (by rintro ⟨⟩) (by rintro ⟨⟩)

/-! ### Texts of at most eleven bytes -/

theorem accepted_iff (hsize : IsSized maxWordCode code) :
    Accepted maxWordCode code ↔ ∀ b ∈ Bytes.ofText code, b ∈ Bytes.ofText alphabet :=
  ⟨Accepted.digits, Accepted.mk hsize⟩

/-- A text gives the word that its bytes denote, as long as a word holds them. -/
theorem decodeWord_eq_ok_iff_decode (hsize : IsSized maxWordCode code) {w : UInt64} :
    decodeWord code = .ok w ↔
      ∃ data, decode code = .ok data ∧ data.length ≤ 8 ∧ data.toNat = w.toNat := by
  have hw := w.toNat_lt
  rw [decodeWord_eq_ok_iff, accepted_iff hsize]
  constructor
  · rintro ⟨hdigits, hnumber⟩
    refine ⟨_, decode_eq_ok_iff.mpr ⟨hdigits, rfl⟩, ?_, ?_⟩
    · rw [Bytes.length_ofNat_le_iff, hnumber]
      exact hw
    · rw [Bytes.toNat_ofNat, hnumber]
  · rintro ⟨data, hdecode, -, hvalue⟩
    obtain ⟨hdigits, rfl⟩ := decode_eq_ok_iff.mp hdecode
    rw [Bytes.toNat_ofNat] at hvalue
    exact ⟨hdigits, hvalue⟩

/-- A text gives no word for its size alone when it gives nine bytes. -/
theorem decodeWord_eq_overflow_iff_decode (hsize : IsSized maxWordCode code) :
    decodeWord code = .error .overflow ↔ ∃ data, decode code = .ok data ∧ 8 < data.length := by
  have hlong : ∀ n, 8 < (Bytes.ofNat n).length ↔ 2 ^ 64 ≤ n := by
    intro n
    rw [← Nat.not_le, Bytes.length_ofNat_le_iff, Nat.not_lt]
    exact Iff.rfl
  rw [decodeWord_eq_error_iff, accepted_iff hsize]
  constructor
  · rintro (hrefused | ⟨hdigits, hnumber, -⟩)
    · cases hrefused
    · exact ⟨_, decode_eq_ok_iff.mpr ⟨hdigits, rfl⟩, (hlong _).mpr hnumber⟩
  · rintro ⟨data, hdecode, hdata⟩
    obtain ⟨hdigits, rfl⟩ := decode_eq_ok_iff.mp hdecode
    exact Or.inr ⟨hdigits, (hlong _).mp hdata, rfl⟩

/-- What is refused for a byte is refused for it as a word too. -/
theorem decodeWord_of_decode (hsize : IsSized maxWordCode code) (h : decode code = .error reason) :
    decodeWord code = .error reason := by
  obtain ⟨byte, position, hforeign, rfl⟩ := decode_eq_error_iff.mp h
  exact decodeWord_of_refused (.character hsize hforeign)

/-- A word has the code of its eight bytes. A text of one to eleven bytes gives a word when it gives
at most eight bytes, namely the word that they denote; it is too large for a word when it gives more;
and when it gives no bytes, both readings name the same byte, the first one that is no digit. -/
theorem words_agree_with_bytes :
    (∀ w, encodeWord w = encode (Bytes.ofWord64 w)) ∧
    (∀ code, 1 ≤ code.utf8ByteSize → code.utf8ByteSize ≤ 11 →
      (∀ w, decodeWord code = .ok w ↔
        ∃ data, decode code = .ok data ∧ data.length ≤ 8 ∧ data.toNat = w.toNat) ∧
      (decodeWord code = .error .overflow ↔ ∃ data, decode code = .ok data ∧ 8 < data.length) ∧
      ((∀ data, decode code ≠ .ok data) → ∃ byte position, IsFirstForeign code byte position ∧
        decode code = .error (.invalidCharacter byte position) ∧
        decodeWord code = .error (.invalidCharacter byte position))) := by
  refine ⟨fun w => (encode_ofWord64 w).symm, fun code hpositive hlimit => ?_⟩
  have hsize : IsSized maxWordCode code := ⟨hpositive, hlimit⟩
  refine ⟨fun w => decodeWord_eq_ok_iff_decode hsize, decodeWord_eq_overflow_iff_decode hsize, ?_⟩
  intro hnone
  cases hdecode : decode code with
  | ok data => exact absurd hdecode (hnone data)
  | error reason =>
    have hword := decodeWord_of_decode hsize hdecode
    obtain ⟨byte, position, hforeign, rfl⟩ := decode_eq_error_iff.mp hdecode
    exact ⟨byte, position, hforeign, rfl, hword⟩

/-- The greatest word has eight bytes, and the text after its code has nine. -/
theorem words_agree_with_bytes_at_limit :
    decodeWord "lYGhA16ahyf" = .ok 0xffffffffffffffff ∧
    decodeWord "lYGhA16ahyg" = .error .overflow ∧
    decodeWord "lYGhA-ahyé" = .error (.invalidCharacter 45 5) := by
  have hgreatest := (words_agree_with_bytes.2 "lYGhA16ahyf" (by decide) (by decide)).1
  have hbeyond := (words_agree_with_bytes.2 "lYGhA16ahyg" (by decide) (by decide)).2.1
  have hforeign := (words_agree_with_bytes.2 "lYGhA-ahyé" (by decide) (by decide)).2.2
  refine ⟨(hgreatest _).mpr ⟨List.replicate 8 255, by decide +kernel, by decide, by decide⟩,
    hbeyond.mpr ⟨1 :: List.replicate 8 0, by decide +kernel, by decide⟩, ?_⟩
  have hrefused : decode "lYGhA-ahyé" = .error (.invalidCharacter 45 5) := by decide +kernel
  have hnone : ∀ data, decode "lYGhA-ahyé" ≠ .ok data := by
    intro data hdata
    rw [hrefused] at hdata
    cases hdata
  obtain ⟨byte, position, -, hdecode, hword⟩ := hforeign hnone
  rw [hrefused] at hdecode
  cases hdecode
  exact hword

end ShortLink.Radix62
