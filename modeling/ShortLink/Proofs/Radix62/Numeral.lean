import ShortLink.Proofs.Bytes.Positional
import ShortLink.Radix62.Long

/-!
# Numerals of radix 62

The shortest list of digits of a number is unique, so a list of digits is the numeral of its value
once its leading zeros are gone. How long a numeral is tells how large its number is.

## Main definitions

- `Radix62.dropZeros` — the digits without leading zeros

## Main results

- `Radix62.value_numeral`, `Radix62.numeral_value` — numbers and digits without leading zeros
  determine each other
- `Radix62.value_eq_iff` — two lists denote the same number when they agree up to leading zeros
- `Radix62.length_numeral_le_iff` — the length of a numeral
-/

namespace ShortLink.Radix62

/-- The digits without leading zeros. -/
def dropZeros (digits : List Digit) : List Digit := digits.dropWhile (·.val == 0)

theorem value_eq_ofDigits (digits : List Digit) :
    value digits = Nat.ofDigits 62 (digits.map Fin.val).reverse :=
  Positional.foldl_zero_eq_ofDigits digits

theorem digits_value (digits : List Digit) :
    Nat.digits 62 (value digits) = ((dropZeros digits).map Fin.val).reverse :=
  Positional.digits_foldl (by decide) Fin.isLt digits

theorem value_lt (digits : List Digit) : value digits < 62 ^ digits.length :=
  Positional.foldl_lt (by decide) Fin.isLt digits

theorem map_val_numeralOnto {n : Nat} (hn : n ≠ 0) (tail : List Digit) :
    (numeralOnto n tail).map Fin.val = (Nat.digits 62 n).reverse ++ tail.map Fin.val := by
  fun_induction numeralOnto n tail with
  | case1 n tail h => rw [Nat.digits_of_lt 62 n hn h]; rfl
  | case2 n tail h ih =>
    rw [ih (by omega), Nat.digits_def' (by decide) (Nat.pos_of_ne_zero hn)]
    simp

theorem numeral_zero : numeral 0 = [0] := by
  rw [numeral, numeralOnto]
  rfl

/-- The numeral of a positive number lists its digits in base 62. -/
theorem map_val_numeral {n : Nat} (hn : n ≠ 0) :
    (numeral n).map Fin.val = (Nat.digits 62 n).reverse := by
  rw [numeral, map_val_numeralOnto hn, List.map_nil, List.append_nil]

theorem value_numeral (n : Nat) : value (numeral n) = n := by
  by_cases hn : n = 0
  · subst hn
    rw [numeral_zero]
    rfl
  · rw [value_eq_ofDigits, map_val_numeral hn, List.reverse_reverse, Nat.ofDigits_digits]

/-- The numeral of the number that digits denote is made of them, leading zeros left out; a lone
zero stays. -/
theorem numeral_value (digits : List Digit) :
    numeral (value digits) = if dropZeros digits = [] then [0] else dropZeros digits := by
  have hdigits := digits_value digits
  split
  · next h =>
    rw [h, List.map_nil, List.reverse_nil, Nat.digits_eq_nil_iff_eq_zero] at hdigits
    rw [hdigits, numeral_zero]
  · -- Digits that do not all vanish denote a positive number, whose numeral is read off.
    next h =>
    have hn : value digits ≠ 0 := by
      intro hzero
      rw [hzero, Nat.digits_zero] at hdigits
      exact h (by simpa using hdigits.symm)
    apply List.map_injective_iff.mpr Fin.val_injective
    rw [map_val_numeral hn, hdigits, List.reverse_reverse]

/-- Two lists of digits denote the same number when they are the same up to leading zeros. -/
theorem value_eq_iff {a b : List Digit} : value a = value b ↔ dropZeros a = dropZeros b := by
  rw [← Nat.digits_inj_iff (b := 62), digits_value, digits_value, List.reverse_inj]
  exact (List.map_injective_iff.mpr Fin.val_injective).eq_iff

theorem head?_dropZeros (digits : List Digit) : (dropZeros digits).head? ≠ some 0 := by
  intro h
  have hhead := List.head?_dropWhile_not (fun d : Digit => d.val == 0) digits
  rw [dropZeros] at h
  rw [h] at hhead
  simp at hhead

/-- A numeral begins with the digit zero only when it is that digit. -/
theorem head?_numeral_eq_zero_iff {n : Nat} : (numeral n).head? = some 0 ↔ n = 0 := by
  constructor
  · intro h
    by_contra hn
    have hnum := numeral_value (numeral n)
    rw [value_numeral] at hnum
    split at hnum
    · have := value_numeral n
      rw [hnum] at this
      exact hn this.symm
    · rw [hnum] at h
      exact head?_dropZeros _ h
  · rintro rfl
    rw [numeral_zero]
    rfl

/-- A numeral has at most `k` digits when its number is below 62 to the power of `k`. -/
theorem length_numeral_le_iff {n k : Nat} (hk : 0 < k) : (numeral n).length ≤ k ↔ n < 62 ^ k := by
  by_cases hn : n = 0
  · subst hn
    rw [numeral_zero]
    exact iff_of_true hk (Nat.pow_pos (by decide))
  · have hlen := congrArg List.length (map_val_numeral hn)
    rw [List.length_map, List.length_reverse] at hlen
    rw [hlen, Nat.digits_length_le_iff (by decide)]

theorem length_numeral_pos (n : Nat) : 0 < (numeral n).length := by
  apply List.length_pos_of_ne_nil
  intro h
  have hvalue := value_numeral n
  rw [h] at hvalue
  change 0 = n at hvalue
  rw [← hvalue, numeral_zero] at h
  cases h

end ShortLink.Radix62
