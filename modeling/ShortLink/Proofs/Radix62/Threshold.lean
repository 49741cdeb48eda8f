import ShortLink.Proofs.Radix62.Bijection

/-!
# Where conversion changes over

Short byte strings and short lists of digits go through one machine word, longer ones through
schoolbook arithmetic. Both ways list the digits that arithmetic knows, so it does not matter where
one gives way to the other, as long as the word holds what it is given: sixteen bytes and 21 digits,
and not one more of either.

## Main definitions

- `Radix62.encodeUpTo`, `Radix62.bytesUpTo` — the conversions with another limit on what goes through
  the word

## Main results

- `Radix62.encodeUpTo_eq`, `Radix62.bytesUpTo_eq` — the number that is converted under a limit
- `Radix62.conversions_agree` — both ways of conversion agree, and which limits change nothing
-/

namespace ShortLink.Radix62

/-- The code of a byte string, when up to `limit` bytes go through one machine word. -/
def encodeUpTo (limit : Nat) (data : Bytes) : String :=
  let significant := data.dropZeros
  if significant.isEmpty then "0"
  else if significant.length ≤ limit then
    write (numeral (BitVec.ofNat 128 significant.toNat).toNat)
  else write (longDigits significant)

/-- The bytes of a list of digits, when up to `limit` digits go through one machine word. -/
def bytesUpTo (limit : Nat) (digits : List Digit) : Bytes :=
  if digits.length ≤ limit then Bytes.ofNat (word128 digits).toNat else longBytes digits

variable {limit : Nat}

/-- What goes through the word is taken modulo 2¹²⁸. -/
theorem encodeUpTo_eq (limit : Nat) (data : Bytes) :
    encodeUpTo limit data = write (numeral
      (if data.dropZeros.length ≤ limit then data.toNat % 2 ^ 128 else data.toNat)) := by
  rw [encodeUpTo]
  split
  · next hempty =>
    rw [List.isEmpty_iff, ← Bytes.toNat_eq_zero_iff] at hempty
    rw [hempty, Nat.zero_mod, ite_self, numeral_zero]
    rfl
  · split
    · rw [BitVec.toNat_ofNat, Bytes.toNat_dropZeros]
    · rw [longDigits_eq, Bytes.toNat_dropZeros]

theorem bytesUpTo_eq (limit : Nat) (digits : List Digit) :
    bytesUpTo limit digits = Bytes.ofNat
      (if digits.length ≤ limit then value digits % 2 ^ 128 else value digits) := by
  rw [bytesUpTo]
  split
  · rw [word128_eq, BitVec.toNat_ofNat]
  · exact longBytes_eq digits

theorem map_val_longDigits (data : Bytes) :
    (longDigits data).map Fin.val =
      if data.toNat = 0 then [0] else (Nat.digits 62 data.toNat).reverse := by
  rw [longDigits_eq]
  split
  · next hzero =>
    rw [hzero, numeral_zero]
    rfl
  · next hpositive => exact map_val_numeral hpositive

/-! ### Limits that the word can meet -/

theorem encodeUpTo_of_le (h : limit ≤ wordBytes) (data : Bytes) :
    encodeUpTo limit data = encode data := by
  rw [encodeUpTo_eq, encode_eq]
  split
  · next hshort =>
    have hword := toNat_lt_of_length_le (Nat.le_trans hshort h)
    rw [Bytes.toNat_dropZeros] at hword
    rw [Nat.mod_eq_of_lt hword]
  · rfl

theorem bytesUpTo_of_le (h : limit ≤ wordDigits) (digits : List Digit) :
    bytesUpTo limit digits = bytesOf digits := by
  rw [bytesUpTo_eq, bytesOf_eq]
  split
  · next hshort =>
    rw [Nat.mod_eq_of_lt (value_lt_of_length_le (Nat.le_trans hshort h))]
  · rfl

/-- The least number of seventeen bytes is lost in the word. -/
theorem exists_encodeUpTo_ne (h : wordBytes < limit) :
    ∃ data, encodeUpTo limit data ≠ encode data := by
  refine ⟨1 :: List.replicate 16 0, ?_⟩
  have hshort : (Bytes.dropZeros (1 :: List.replicate 16 0)).length ≤ limit := h
  rw [encodeUpTo_eq, encode_eq, if_pos hshort, Ne, write_injective.eq_iff]
  intro heq
  have hvalue := congrArg value heq
  rw [value_numeral, value_numeral] at hvalue
  exact absurd hvalue (by decide)

/-- The greatest number of 22 digits needs 131 bits. -/
theorem exists_bytesUpTo_ne (h : wordDigits < limit) :
    ∃ digits, bytesUpTo limit digits ≠ bytesOf digits := by
  refine ⟨List.replicate 22 61, ?_⟩
  have hshort : (List.replicate 22 (61 : Digit)).length ≤ limit := by
    rw [List.length_replicate]
    exact h
  rw [bytesUpTo_eq, bytesOf_eq, if_pos hshort]
  intro heq
  have hvalue := congrArg Bytes.toNat heq
  rw [Bytes.toNat_ofNat, Bytes.toNat_ofNat] at hvalue
  exact absurd hvalue (by decide)

/-- Every byte string has the code that long division gives, and every text of digits, leading zeros
or not, is decoded to the bytes that multiplication gives. These are the digits of the number in base
62, or a lone zero, and its digits in base 256. The limits below which the word is used may be moved
exactly as far as the word holds what goes through it. -/
theorem conversions_agree :
    (∀ data, encode data = write (longDigits data) ∧
      (longDigits data).map Fin.val =
        if data.toNat = 0 then [0] else (Nat.digits 62 data.toNat).reverse) ∧
    (∀ digits, decode (write digits) = .ok (longBytes digits) ∧
      longBytes digits = ((Nat.digits 256 (value digits)).map Nat.toUInt8).reverse ∧
      value digits = Nat.ofDigits 62 (digits.map Fin.val).reverse) ∧
    (∀ limit, (∀ data, encodeUpTo limit data = encode data) ↔ limit ≤ wordBytes) ∧
    (∀ limit, (∀ digits, bytesUpTo limit digits = bytesOf digits) ↔ limit ≤ wordDigits) := by
  refine ⟨fun data => ⟨?_, map_val_longDigits data⟩, fun digits => ⟨?_, ?_, ?_⟩,
    fun limit => ⟨?_, encodeUpTo_of_le⟩, fun limit => ⟨?_, bytesUpTo_of_le⟩⟩
  · rw [encode_eq, longDigits_eq]
  · rw [decode_write, longBytes_eq]
  · rw [longBytes_eq, Bytes.ofNat_eq]
  · exact value_eq_ofDigits digits
  · intro hsame
    by_contra hlimit
    obtain ⟨data, hdata⟩ := exists_encodeUpTo_ne (Nat.not_le.mp hlimit)
    exact hdata (hsame data)
  · intro hsame
    by_contra hlimit
    obtain ⟨digits, hdigits⟩ := exists_bytesUpTo_ne (Nat.not_le.mp hlimit)
    exact hdigits (hsame digits)

end ShortLink.Radix62
