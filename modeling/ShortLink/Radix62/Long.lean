import ShortLink.Radix62.Digit

/-!
# Schoolbook conversion between bytes and digits

Numbers wider than a machine word are converted by hand: bytes to digits by repeated long
division by 62, digits to bytes by multiplying by 62 and adding the next digit. Every step works
on 32-bit words and stays far below their range.

## Main definitions

- `Radix62.divide` — one long division by 62
- `Radix62.longDigits` — the digits of a byte string
- `Radix62.multiplyAdd` — a byte string times 62 plus a carry
- `Radix62.longBytes` — the bytes of a list of digits

## Main results

- `Radix62.toNat_divide` — quotient and remainder of a long division make up the number
- `Radix62.divide_size_lt` — long division makes its number smaller, so the digits come to an
  end
-/

namespace ShortLink.Radix62

/-- Long division by 62 of the rest `bytes` of a number, with the remainder and the quotient bytes
so far, the latter in reverse and without leading zeros. -/
def divide (remainder : UInt32) (quotient : Bytes) : Bytes → Bytes × UInt32
  | [] => (quotient.reverse, remainder)
  | b :: rest =>
    let acc := remainder * 256 + b.toUInt32
    let q := acc / 62
    divide (acc % 62) (if quotient.isEmpty && q == 0 then [] else q.toUInt8 :: quotient) rest

/-- The word formed from a remainder and the next byte does not wrap. -/
theorem toNat_accumulate {remainder : UInt32} (h : remainder.toNat < 62) (b : UInt8) :
    (remainder * 256 + b.toUInt32).toNat = remainder.toNat * 256 + b.toNat := by
  have hb := b.toNat_lt
  rw [UInt32.toNat_add, UInt32.toNat_mul, UInt8.toNat_toUInt32]
  change (remainder.toNat * 256 % 2 ^ 32 + b.toNat) % 2 ^ 32 = _
  omega

theorem toNat_quotient {remainder : UInt32} (h : remainder.toNat < 62) (b : UInt8) :
    ((remainder * 256 + b.toUInt32) / 62).toNat = (remainder.toNat * 256 + b.toNat) / 62 := by
  rw [UInt32.toNat_div, toNat_accumulate h]
  rfl

theorem toNat_remainder {remainder : UInt32} (h : remainder.toNat < 62) (b : UInt8) :
    ((remainder * 256 + b.toUInt32) % 62).toNat = (remainder.toNat * 256 + b.toNat) % 62 := by
  rw [UInt32.toNat_mod, toNat_accumulate h]
  rfl

/-- A remainder below 62 stays below 62. -/
theorem divide_remainder_lt (bytes : Bytes) (remainder : UInt32) (quotient : Bytes)
    (h : remainder.toNat < 62) : (divide remainder quotient bytes).2.toNat < 62 := by
  induction bytes generalizing remainder quotient with
  | nil => simpa [divide] using h
  | cons b rest ih =>
    rw [divide]
    exact ih _ _ (by rw [UInt32.toNat_mod]; exact Nat.mod_lt _ (by decide))

/-- A quotient has at most one byte per byte divided. -/
theorem length_divide_le (bytes : Bytes) (remainder : UInt32) (quotient : Bytes) :
    (divide remainder quotient bytes).1.length ≤ quotient.length + bytes.length := by
  induction bytes generalizing remainder quotient with
  | nil => simp [divide]
  | cons b rest ih =>
    rw [divide]
    refine Nat.le_trans (ih _ _) ?_
    split <;> simp <;> omega

/-- Quotient and remainder make up the number that was divided. -/
theorem toNat_divide (bytes : Bytes) (remainder : UInt32) (quotient : Bytes)
    (h : remainder.toNat < 62) :
    (divide remainder quotient bytes).1.toNat * 62 + (divide remainder quotient bytes).2.toNat =
      bytes.extend (Bytes.toNat quotient.reverse * 62 + remainder.toNat) := by
  induction bytes generalizing remainder quotient with
  | nil => simp [divide, Bytes.extend]
  | cons b rest ih =>
    have hb := b.toNat_lt
    have hq := toNat_quotient h b
    have hr := toNat_remainder h b
    have hq8 : ((remainder * 256 + b.toUInt32) / 62).toUInt8.toNat
        = (remainder.toNat * 256 + b.toNat) / 62 := by
      rw [UInt32.toNat_toUInt8, hq]; omega
    have hpush : Bytes.toNat (if quotient.isEmpty
          && (remainder * 256 + b.toUInt32) / 62 == 0 then []
          else ((remainder * 256 + b.toUInt32) / 62).toUInt8 :: quotient).reverse
        = Bytes.toNat quotient.reverse * 256 + (remainder.toNat * 256 + b.toNat) / 62 := by
      split
      · next hz =>
        rw [Bool.and_eq_true, List.isEmpty_iff, beq_iff_eq] at hz
        rw [hz.1, ← hq, hz.2]
        rfl
      · rw [List.reverse_cons, Bytes.toNat_concat, hq8]
    rw [divide, ih _ _ (by rw [hr]; exact Nat.mod_lt _ (by decide)), hpush, hr, Bytes.extend,
      Bytes.extend, List.foldl_cons]
    congr 1
    omega

theorem toNat_divide_zero (bytes : Bytes) :
    (divide 0 [] bytes).1.toNat * 62 + (divide 0 [] bytes).2.toNat = bytes.toNat := by
  have h := toNat_divide bytes 0 [] (by decide)
  rwa [List.reverse_nil, Bytes.toNat_nil, Nat.zero_mul, UInt32.toNat_zero, Nat.add_zero] at h

/-- Long division makes its number smaller, or at least shorter. -/
theorem divide_size_lt (b : UInt8) (rest : Bytes) :
    (divide 0 [] (b :: rest)).1.toNat + (divide 0 [] (b :: rest)).1.length
      < Bytes.toNat (b :: rest) + (b :: rest).length := by
  have hval := toNat_divide_zero (b :: rest)
  have hlen := length_divide_le (b :: rest) 0 []
  rw [List.length_nil, Nat.zero_add] at hlen
  by_cases hpos : 0 < Bytes.toNat (b :: rest)
  · omega
  · have hzero : b = 0 := by
      have h0 : Bytes.toNat (b :: rest) = 0 := by omega
      rw [Bytes.toNat_cons] at h0
      have hle := Bytes.le_extend rest b.toNat
      exact UInt8.toNat_inj.mp (by rw [h0] at hle; exact Nat.le_zero.mp hle)
    subst hzero
    have hshort : (divide 0 [] (0 :: rest)).1.length ≤ rest.length := by
      rw [divide]
      exact Nat.le_trans (length_divide_le _ _ _) (by simp)
    simp only [List.length_cons]
    omega

/-- The digits of a byte string put in front of `tail`: the remainders of repeated long division,
last one first. -/
def longDigitsOnto (tail : List Digit) : Bytes → List Digit
  | [] => tail
  | b :: rest =>
    let step := divide 0 [] (b :: rest)
    longDigitsOnto (⟨step.2.toNat, divide_remainder_lt _ _ _ (by decide)⟩ :: tail) step.1
termination_by bytes => bytes.toNat + bytes.length
decreasing_by exact divide_size_lt b rest

/-- The digits of a byte string, by schoolbook division. -/
def longDigits (bytes : Bytes) : List Digit :=
  match longDigitsOnto [] bytes with
  | [] => [0]
  | digits => digits

/-- The bytes of a carry, least significant first. -/
def carryBytes (carry : UInt32) : Bytes :=
  if _h : carry.toNat = 0 then []
  else carry.toUInt8 :: carryBytes (carry >>> 8)
termination_by carry.toNat
decreasing_by
  rw [UInt32.toNat_shiftRight]
  change carry.toNat >>> 8 < carry.toNat
  rw [Nat.shiftRight_eq_div_pow]
  omega

/-- A byte string, least significant byte first, times 62 plus a carry. -/
def multiplyAdd (carry : UInt32) : Bytes → Bytes
  | [] => carryBytes carry
  | b :: rest =>
    let acc := b.toUInt32 * 62 + carry
    acc.toUInt8 :: multiplyAdd (acc >>> 8) rest

/-- The bytes of a list of digits, most significant first, by schoolbook multiplication. -/
def longBytes (digits : List Digit) : Bytes :=
  (digits.foldl (fun bytes d => multiplyAdd d.val.toUInt32 bytes) []).reverse

end ShortLink.Radix62
