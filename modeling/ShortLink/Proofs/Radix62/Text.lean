import Mathlib.Data.Fintype.Basic
import ShortLink.Proofs.Bytes.Text
import ShortLink.Radix62.Digit

/-!
# Texts of digits

Lists of digits and texts over the alphabet determine each other, byte for byte.

## Main definitions

- `Radix62.alphabet` — the digits in the order of their values
- `Radix62.Digit.byte` — the byte a digit is written as

## Main results

- `Radix62.ofText_write` — a written digit takes one byte
- `Radix62.read_eq_ok_iff` — reading gives exactly the digits that were written
- `Radix62.exists_read_iff` — what is read is what stands in the alphabet
-/

namespace ShortLink.Radix62

/-- The digits in the order of their values. -/
def alphabet : String := "0123456789abcdefghijklmnopqrstuvwxyzABCDEFGHIJKLMNOPQRSTUVWXYZ"

theorem alphabet_eq_write : alphabet = write (List.finRange 62) := by
  rfl

namespace Digit

/-- The byte a digit is written as. -/
def byte (d : Digit) : UInt8 := d.char.val.toUInt8

theorem utf8Size_char (d : Digit) : d.char.utf8Size = 1 := by
  revert d
  decide

theorem ofByte?_byte (d : Digit) : ofByte? d.byte = some d := by
  revert d
  decide

/-- A byte is read as the digit that is written as it. -/
theorem ofByte?_eq_some_iff {b : UInt8} {d : Digit} : ofByte? b = some d ↔ d.byte = b := by
  constructor
  · intro h
    -- Of the 256 bytes, those that are read at all are looked up one by one.
    have hinv : ∀ n : Fin 256, ∀ d ∈ ofByte? (UInt8.ofNat n), d.byte = UInt8.ofNat n := by
      decide +kernel
    have := hinv ⟨b.toNat, b.toNat_lt⟩ d
    simpa [h] using this
  · rintro rfl
    exact ofByte?_byte d

theorem byte_injective : Function.Injective byte := by
  intro d e h
  apply Option.some.inj
  rw [← ofByte?_byte d, h, ofByte?_byte]

theorem char_injective : Function.Injective char := by
  intro d e h
  apply byte_injective
  rw [byte, h, byte]

end Digit

theorem toList_write (digits : List Digit) : (write digits).toList = digits.map Digit.char :=
  String.toList_ofList

theorem mem_alphabet_of_mem_write {digits : List Digit} {c : Char} (h : c ∈ (write digits).toList) :
    c ∈ alphabet.toList := by
  rw [toList_write] at h
  obtain ⟨d, -, rfl⟩ := List.mem_map.mp h
  rw [alphabet_eq_write, toList_write]
  exact List.mem_map_of_mem (List.mem_finRange d)

theorem write_injective : Function.Injective write := by
  intro a b h
  have hchars := congrArg String.toList h
  rw [toList_write, toList_write] at hchars
  exact Digit.char_injective.list_map hchars

theorem ofText_write (digits : List Digit) :
    Bytes.ofText (write digits) = digits.map Digit.byte := by
  rw [write, Bytes.ofText_ofList_of_ascii, List.map_map]
  · rfl
  · intro c hc
    obtain ⟨d, -, rfl⟩ := List.mem_map.mp hc
    exact d.utf8Size_char

theorem utf8ByteSize_write (digits : List Digit) : (write digits).utf8ByteSize = digits.length := by
  rw [← Bytes.length_ofText, ofText_write, List.length_map]

/-- The bytes of digits are the bytes of the alphabet. -/
theorem isSome_ofByte?_iff {b : UInt8} : (Digit.ofByte? b).isSome ↔ b ∈ Bytes.ofText alphabet := by
  rw [alphabet_eq_write, ofText_write, List.mem_map, Option.isSome_iff_exists]
  constructor
  · rintro ⟨d, hd⟩
    exact ⟨d, List.mem_finRange d, Digit.ofByte?_eq_some_iff.mp hd⟩
  · rintro ⟨d, -, hd⟩
    exact ⟨d, Digit.ofByte?_eq_some_iff.mpr hd⟩

theorem firstForeign?_eq_none_iff {bytes : Bytes} :
    firstForeign? bytes = none ↔ ∀ b ∈ bytes, (Digit.ofByte? b).isSome := by
  rw [firstForeign?, List.find?_eq_none]
  constructor
  · intro h b hb
    obtain ⟨i, hi⟩ := List.mem_iff_getElem?.mp hb
    simpa [Option.isSome_iff_ne_none] using h (b, i) (List.mk_mem_zipIdx_iff_getElem?.mpr hi)
  · rintro h ⟨b, i⟩ hb
    have hmem := List.mem_iff_getElem?.mpr ⟨i, List.mk_mem_zipIdx_iff_getElem?.mp hb⟩
    simpa [Option.isSome_iff_ne_none] using h b hmem

theorem map_byte_filterMap {bytes : Bytes} (h : ∀ b ∈ bytes, (Digit.ofByte? b).isSome) :
    (bytes.filterMap Digit.ofByte?).map Digit.byte = bytes := by
  induction bytes with
  | nil => rfl
  | cons b rest ih =>
    obtain ⟨d, hd⟩ := Option.isSome_iff_exists.mp (h b (by simp))
    rw [List.filterMap_cons_some hd, List.map_cons, Digit.ofByte?_eq_some_iff.mp hd,
      ih fun c hc => h c (List.mem_cons_of_mem b hc)]

/-- What is written is read as the same digits. -/
theorem read_write (digits : List Digit) : read (write digits) = .ok digits := by
  have hnone : firstForeign? (digits.map Digit.byte) = none := by
    rw [firstForeign?_eq_none_iff]
    intro b hb
    obtain ⟨d, -, rfl⟩ := List.mem_map.mp hb
    rw [Digit.ofByte?_byte]
    rfl
  have hid : Digit.ofByte? ∘ Digit.byte = some := by
    funext d
    exact d.ofByte?_byte
  rw [read, ofText_write]
  simp only [hnone, List.filterMap_map, hid, List.filterMap_some]

/-- A text is read as the digits it is written from. -/
theorem read_eq_ok_iff {code : String} {digits : List Digit} :
    read code = .ok digits ↔ code = write digits := by
  constructor
  · intro h
    rw [read] at h
    split at h
    · cases h
    · next hnone =>
      cases h
      apply Bytes.ofText_injective
      rw [ofText_write, map_byte_filterMap (firstForeign?_eq_none_iff.mp hnone)]
  · rintro rfl
    exact read_write digits

/-- The texts that are read are those over the alphabet. -/
theorem exists_read_iff {code : String} :
    (∃ digits, read code = .ok digits) ↔ ∀ b ∈ Bytes.ofText code, b ∈ Bytes.ofText alphabet := by
  have hiff : (∀ b ∈ Bytes.ofText code, b ∈ Bytes.ofText alphabet)
      ↔ firstForeign? (Bytes.ofText code) = none := by
    rw [firstForeign?_eq_none_iff]
    exact forall₂_congr fun b _ => isSome_ofByte?_iff.symm
  rw [hiff, read]
  constructor
  · rintro ⟨digits, h⟩
    split at h
    · cases h
    · assumption
  · intro h
    simp only [h]
    exact ⟨_, rfl⟩

end ShortLink.Radix62
