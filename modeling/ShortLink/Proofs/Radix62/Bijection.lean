import Mathlib.Data.List.TakeWhile
import ShortLink.Proofs.Radix62.Long
import ShortLink.Proofs.Radix62.Text
import ShortLink.Radix62.Code

/-!
# Codes and byte strings determine each other

Whichever way a number takes, through one machine word or through schoolbook arithmetic, a code is
the numeral of its byte string and a byte string is the shortest one of the value of its code. So
codes without leading zeros and byte strings without leading zero bytes are in bijection.

## Main definitions

- `Radix62.withoutZeros` — a text without the characters `0` in front
- `Radix62.zeros` — texts of the character `0`

## Main results

- `Radix62.encode_eq`, `Radix62.decode_write` — both directions as arithmetic on numbers
- `Radix62.exists_zeros_append_encode` — every code of a byte string is the issued one, padded
- `Radix62.codes_correspond` — the bijection up to leading zeros
-/

namespace ShortLink.Radix62

/-- A text without the characters `0` in front. -/
def withoutZeros (code : String) : String := String.ofList (code.toList.dropWhile (· == '0'))

/-- Sixteen bytes fit into the machine word. -/
theorem toNat_lt_of_length_le {bytes : Bytes} (h : bytes.length ≤ wordBytes) :
    bytes.toNat < 2 ^ 128 := by
  have hpow : 256 ^ bytes.length ≤ 256 ^ wordBytes := Nat.pow_le_pow_right (by decide) h
  exact Nat.lt_of_lt_of_le (Bytes.toNat_lt _) hpow

/-- The code of a byte string is the numeral of its number. -/
theorem encode_eq (data : Bytes) : encode data = write (numeral data.toNat) := by
  rw [encode]
  split
  · next h =>
    rw [List.isEmpty_iff, ← Bytes.toNat_eq_zero_iff] at h
    rw [h, numeral_zero]
    rfl
  · split
    · next h =>
      rw [BitVec.toNat_ofNat, Nat.mod_eq_of_lt (toNat_lt_of_length_le h), Bytes.toNat_dropZeros]
    · rw [longDigits_eq, Bytes.toNat_dropZeros]

theorem word128_eq (digits : List Digit) : word128 digits = BitVec.ofNat 128 (value digits) := by
  have hfold : ∀ n, digits.foldl (fun w d => w * 62 + BitVec.ofNat 128 d.val) (BitVec.ofNat 128 n)
      = BitVec.ofNat 128 (digits.foldl (fun n d => n * 62 + d.val) n) := by
    induction digits with
    | nil => intro n; rfl
    | cons d rest ih =>
      intro n
      rw [List.foldl_cons, List.foldl_cons, ← ih, BitVec.ofNat_add, BitVec.ofNat_mul]
      rfl
  exact hfold 0

/-- 21 digits fit into the machine word, although the code of sixteen bytes may have 22. -/
theorem value_lt_of_length_le {digits : List Digit} (h : digits.length ≤ wordDigits) :
    value digits < 2 ^ 128 := by
  have hpow : 62 ^ digits.length ≤ 62 ^ wordDigits := Nat.pow_le_pow_right (by decide) h
  exact Nat.lt_trans (Nat.lt_of_lt_of_le (value_lt digits) hpow) (by decide)

theorem toNat_word128 {digits : List Digit} (h : digits.length ≤ wordDigits) :
    (word128 digits).toNat = value digits := by
  rw [word128_eq, BitVec.toNat_ofNat, Nat.mod_eq_of_lt (value_lt_of_length_le h)]

/-- Both ways of conversion give the shortest bytes of the value. -/
theorem bytesOf_eq (digits : List Digit) : bytesOf digits = Bytes.ofNat (value digits) := by
  rw [bytesOf]
  split
  · next h => rw [toNat_word128 h]
  · exact longBytes_eq digits

/-- A text over the alphabet is decoded to the shortest bytes of its value. -/
theorem decode_write (digits : List Digit) :
    decode (write digits) = .ok (Bytes.ofNat (value digits)) := by
  rw [decode, read_write, ← bytesOf_eq]
  rfl

theorem eq_write_of_decode {code : String} {data : Bytes} (h : decode code = .ok data) :
    ∃ digits, code = write digits ∧ data = Bytes.ofNat (value digits) := by
  cases hread : read code with
  | error e =>
    rw [decode, hread] at h
    cases h
  | ok digits =>
    refine ⟨digits, read_eq_ok_iff.mp hread, ?_⟩
    rw [read_eq_ok_iff.mp hread, decode_write] at h
    cases h
    rfl

/-- Reading a code back gives the byte string without its leading zero bytes. -/
theorem decode_encode (data : Bytes) : decode (encode data) = .ok data.dropZeros := by
  rw [encode_eq, decode_write, value_numeral, Bytes.ofNat_toNat]

theorem exists_decode_iff {code : String} :
    (∃ data, decode code = .ok data)
      ↔ ∀ b ∈ Bytes.ofText code, b ∈ Bytes.ofText alphabet := by
  rw [← exists_read_iff]
  constructor
  · rintro ⟨data, h⟩
    obtain ⟨digits, rfl, -⟩ := eq_write_of_decode h
    exact ⟨digits, read_write digits⟩
  · rintro ⟨digits, h⟩
    rw [read_eq_ok_iff.mp h]
    exact ⟨_, decode_write digits⟩

theorem char_beq_zero : (· == '0') ∘ Digit.char = (·.val == 0) := by
  have hzero : Digit.char 0 = '0' := rfl
  funext d
  rw [Function.comp_apply, Bool.eq_iff_iff, beq_iff_eq, beq_iff_eq, ← hzero,
    Digit.char_injective.eq_iff]
  exact Fin.val_eq_zero_iff.symm

theorem withoutZeros_write (digits : List Digit) :
    withoutZeros (write digits) = write (dropZeros digits) := by
  rw [withoutZeros, toList_write, List.dropWhile_map, char_beq_zero]
  rfl

theorem write_eq_empty_iff {digits : List Digit} : write digits = "" ↔ digits = [] := by
  have hempty : write [] = "" := rfl
  rw [← hempty]
  exact write_injective.eq_iff

theorem zero_eq_write : "0" = write [0] := rfl

theorem mem_alphabet_of_mem_encode {data : Bytes} {c : Char} (h : c ∈ (encode data).toList) :
    c ∈ alphabet.toList := by
  rw [encode_eq] at h
  exact mem_alphabet_of_mem_write h

theorem encode_eq_zero_iff {data : Bytes} : encode data = "0" ↔ data.toNat = 0 := by
  rw [encode_eq, zero_eq_write, write_injective.eq_iff]
  constructor
  · intro h
    rw [← value_numeral data.toNat, h]
    rfl
  · intro h
    rw [h, numeral_zero]

/-- A code begins with `0` only when it is that character. -/
theorem head?_encode_iff {data : Bytes} :
    (encode data).toList.head? = some '0' ↔ encode data = "0" := by
  have hzero : Digit.char 0 = '0' := rfl
  rw [encode_eq_zero_iff, encode_eq, toList_write, List.head?_map, ← hzero,
    ← Option.map_some, (Option.map_injective Digit.char_injective).eq_iff]
  exact head?_numeral_eq_zero_iff

theorem toNat_eq_zero_iff_forall {data : Bytes} : data.toNat = 0 ↔ ∀ b ∈ data, b = 0 := by
  rw [Bytes.toNat_eq_zero_iff, Bytes.dropZeros, List.dropWhile_eq_nil_iff]
  simp

/-- The numeral of the number that a text denotes is the text without its leading zeros. -/
theorem write_numeral_value (digits : List Digit) :
    write (numeral (value digits))
      = if withoutZeros (write digits) = "" then "0" else withoutZeros (write digits) := by
  rw [numeral_value, withoutZeros_write]
  simp only [write_eq_empty_iff]
  split
  · rfl
  · rfl

/-- Encoding what a code decodes to gives the code without its leading zeros. -/
theorem encode_of_decode {code : String} {data : Bytes} (h : decode code = .ok data) :
    encode data = if withoutZeros code = "" then "0" else withoutZeros code := by
  obtain ⟨digits, rfl, rfl⟩ := eq_write_of_decode h
  rw [encode_eq, Bytes.toNat_ofNat, write_numeral_value]

/-- Two codes decode to the same bytes when they are the same up to leading zeros. -/
theorem decode_inj_iff {code code' : String} {data data' : Bytes} (h : decode code = .ok data)
    (h' : decode code' = .ok data') : data = data' ↔ withoutZeros code = withoutZeros code' := by
  obtain ⟨digits, rfl, rfl⟩ := eq_write_of_decode h
  obtain ⟨digits', rfl, rfl⟩ := eq_write_of_decode h'
  rw [withoutZeros_write, withoutZeros_write, write_injective.eq_iff, ← value_eq_iff]
  constructor
  · intro heq
    rw [← Bytes.toNat_ofNat (value digits), heq, Bytes.toNat_ofNat]
  · intro heq
    rw [heq]

/-! ### The length of a code -/

theorem check_write (limit : Nat) (digits : List Digit) :
    check limit (write digits)
      = if digits.length = 0 ∨ limit < digits.length then .error .invalidLength else .ok () := by
  rw [check, utf8ByteSize_write, read_write]
  split
  · rfl
  · rfl

theorem length_write (digits : List Digit) : (write digits).length = digits.length := by
  rw [← String.length_toList, toList_write, List.length_map]

theorem length_encode (data : Bytes) :
    (encode data).length = (numeral data.toNat).length := by
  rw [encode_eq, length_write]

/-! ### Codes with zeros in front -/

/-- The text that consists of the character `0`, `n` times. -/
def zeros (n : Nat) : String := String.ofList (List.replicate n '0')

theorem zeros_append_write (n : Nat) (digits : List Digit) :
    zeros n ++ write digits = write (List.replicate n 0 ++ digits) := by
  have hzero : Digit.char 0 = '0' := rfl
  rw [← String.toList_inj, String.toList_append, toList_write, toList_write, zeros,
    String.toList_ofList, List.map_append, List.map_replicate, hzero]

theorem length_zeros_append (n : Nat) (code : String) :
    (zeros n ++ code).length = n + code.length := by
  rw [String.length_append, zeros, String.length_ofList, List.length_replicate]

/-- Zeros in front of a code change nothing. -/
theorem decode_zeros_append (n : Nat) {code : String} {data : Bytes} (h : decode code = .ok data) :
    decode (zeros n ++ code) = .ok data := by
  obtain ⟨digits, rfl, rfl⟩ := eq_write_of_decode h
  have hvalue : value (List.replicate n 0 ++ digits) = value digits := by
    rw [value_eq_iff, dropZeros, List.dropWhile_append_of_pos]
    · rfl
    · intro d hd
      rw [List.eq_of_mem_replicate hd]
      rfl
  rw [zeros_append_write, decode_write, hvalue]

/-- A text that decodes to anything is the code of what it decodes to, with zeros in front. -/
theorem exists_zeros_append_encode {code : String} {data : Bytes} (h : decode code = .ok data)
    (hne : data ≠ []) : ∃ n, code = zeros n ++ encode data := by
  obtain ⟨digits, rfl, rfl⟩ := eq_write_of_decode h
  have hdigits : dropZeros digits ≠ [] := by
    intro hnil
    have hvalue : value digits = value [] := value_eq_iff.mpr hnil
    exact hne (by rw [hvalue]; exact Bytes.ofNat_zero)
  refine ⟨(digits.takeWhile (·.val == 0)).length, ?_⟩
  have hfront : List.replicate (digits.takeWhile (·.val == 0)).length 0
      = digits.takeWhile (·.val == 0) := by
    symm
    rw [List.eq_replicate_iff]
    refine ⟨rfl, ?_⟩
    intro d hd
    have hzero := List.mem_takeWhile_imp hd
    exact Fin.val_eq_zero_iff.mp (eq_of_beq hzero)
  rw [encode_eq, Bytes.toNat_ofNat, numeral_value, if_neg hdigits, zeros_append_write, hfront,
    dropZeros, List.takeWhile_append_dropWhile]

/-- Encoding and decoding are inverse to each other up to leading zeros: of the byte string in one
direction, of the code in the other. -/
theorem codes_correspond :
    (∀ data, decode (encode data) = .ok data.dropZeros) ∧
    (∀ data, (∀ c ∈ (encode data).toList, c ∈ alphabet.toList) ∧
      ((encode data).toList.head? = some '0' ↔ encode data = "0") ∧
      (encode data = "0" ↔ ∀ b ∈ data, b = 0)) ∧
    (∀ code, (∃ data, decode code = .ok data)
      ↔ ∀ b ∈ Bytes.ofText code, b ∈ Bytes.ofText alphabet) ∧
    (∀ code data, decode code = .ok data → data.head? ≠ some 0 ∧
      encode data = if withoutZeros code = "" then "0" else withoutZeros code) ∧
    (∀ code code' data data', decode code = .ok data → decode code' = .ok data' →
      (data = data' ↔ withoutZeros code = withoutZeros code')) := by
  refine ⟨decode_encode, ?_, fun code => exists_decode_iff, ?_, ?_⟩
  · intro data
    refine ⟨fun c => mem_alphabet_of_mem_encode, head?_encode_iff, ?_⟩
    rw [encode_eq_zero_iff, toNat_eq_zero_iff_forall]
  · intro code data h
    refine ⟨?_, encode_of_decode h⟩
    obtain ⟨digits, rfl, rfl⟩ := eq_write_of_decode h
    rw [← Bytes.dropZeros_ofNat]
    exact Bytes.head?_dropZeros _
  · intro code code' data data' h h'
    exact decode_inj_iff h h'

theorem codes_correspond_padded :
    decode "0010" = .ok [62] ∧ decode "10" = .ok [62] ∧ encode [62] = "10" ∧
    withoutZeros "0010" = withoutZeros "10" := by
  have hpadded : decode "0010" = .ok [62] := by decide +kernel
  have hplain : decode "10" = .ok [62] := by decide +kernel
  have hcode := (codes_correspond.2.2.2.1 "10" [62] hplain).2
  have hsame := (codes_correspond.2.2.2.2 "0010" "10" [62] [62] hpadded hplain).mp rfl
  rw [if_neg (by decide)] at hcode
  exact ⟨hpadded, hplain, hcode, hsame⟩

end ShortLink.Radix62
