import ShortLink.Proofs.Radix62.Numeral

/-!
# Schoolbook conversion computes numerals

Repeated long division lists the digits of the numeral of a byte string, and repeated
multiplication lists the shortest bytes of the value of a list of digits.

## Main results

- `Radix62.longDigits_eq` — long division gives the numeral
- `Radix62.longBytes_eq` — multiplication gives the shortest bytes
-/

namespace ShortLink.Radix62

/-- A quotient has no zero byte in front. -/
theorem head?_divide (bytes : Bytes) {remainder : UInt32} (hr : remainder.toNat < 62)
    {quotient : Bytes} (hq : quotient.getLast? ≠ some 0) :
    (divide remainder quotient bytes).1.head? ≠ some 0 := by
  induction bytes generalizing remainder quotient with
  | nil => simpa [divide] using hq
  | cons b rest ih =>
    have hb := b.toNat_lt
    have hdiv := toNat_quotient hr b
    rw [divide]
    apply ih
    · rw [UInt32.toNat_mod]
      exact Nat.mod_lt _ (by decide)
    · split
      · simp
      · next hpush =>
        cases quotient with
        | nil =>
          -- The first byte of the quotient is kept only when it is not zero.
          intro hzero
          rw [List.getLast?_singleton, Option.some.injEq, ← UInt8.toNat_inj, UInt32.toNat_toUInt8,
            hdiv] at hzero
          apply hpush
          rw [Bool.and_eq_true, beq_iff_eq, ← UInt32.toNat_inj, hdiv]
          refine ⟨rfl, ?_⟩
          show _ = 0
          change _ = 0 at hzero
          omega
        | cons c more => simpa using hq

/-- Long division lists the remainders that make up the numeral. -/
theorem longDigitsOnto_eq (tail : List Digit) {bytes : Bytes} (h : bytes ≠ []) :
    longDigitsOnto tail bytes = numeralOnto bytes.toNat tail := by
  fun_induction longDigitsOnto tail bytes with
  | case1 => exact absurd rfl h
  | case2 tail b rest step ih =>
    have hr : step.2.toNat < 62 := divide_remainder_lt _ _ _ (by decide)
    have hval : step.1.toNat * 62 + step.2.toNat = Bytes.toNat (b :: rest) := toNat_divide_zero _
    by_cases hq : step.1 = []
    · -- Nothing is left to divide: the remainder is the leading digit.
      have hn : Bytes.toNat (b :: rest) = step.2.toNat := by
        rw [← hval, hq, Bytes.toNat_nil, Nat.zero_mul, Nat.zero_add]
      rw [hq, longDigitsOnto, numeralOnto, dif_pos (by omega)]
      simp only [hn]
    · have hq0 : step.1.toNat ≠ 0 := by
        have hhead : step.1.head? ≠ some 0 := head?_divide _ (by decide) (by simp)
        rw [Ne, Bytes.toNat_eq_zero_iff, Bytes.dropZeros_eq_self hhead]
        exact hq
      have hdiv : Bytes.toNat (b :: rest) / 62 = step.1.toNat := by omega
      have hmod : Bytes.toNat (b :: rest) % 62 = step.2.toNat := by omega
      rw [ih hq]
      conv_rhs => rw [numeralOnto, dif_neg (by omega)]
      simp only [hdiv, hmod]

theorem longDigits_eq (bytes : Bytes) : longDigits bytes = numeral bytes.toNat := by
  rw [longDigits]
  by_cases h : bytes = []
  · subst h
    rw [longDigitsOnto, Bytes.toNat_nil, numeral_zero]
  · have hnumeral : longDigitsOnto [] bytes = numeral bytes.toNat := longDigitsOnto_eq [] h
    have hpos := length_numeral_pos bytes.toNat
    rw [hnumeral]
    cases hdigits : numeral bytes.toNat with
    | nil => simp [hdigits] at hpos
    | cons d rest => rfl

theorem toNat_shiftCarry (carry : UInt32) : (carry >>> 8).toNat = carry.toNat / 256 := by
  rw [UInt32.toNat_shiftRight]
  exact Nat.shiftRight_eq_div_pow _ _

/-- The word formed from a byte and a carry does not wrap. -/
theorem toNat_scale (b : UInt8) {carry : UInt32} (h : carry.toNat < 256) :
    (b.toUInt32 * 62 + carry).toNat = b.toNat * 62 + carry.toNat := by
  have hb := b.toNat_lt
  rw [UInt32.toNat_add, UInt32.toNat_mul, UInt8.toNat_toUInt32]
  show (b.toNat * 62 % 2 ^ 32 + carry.toNat) % 2 ^ 32 = _
  omega

theorem toNat_digit (d : Digit) : d.val.toUInt32.toNat = d.val := by
  rw [UInt32.toNat_ofNat']
  exact Nat.mod_eq_of_lt (Nat.lt_trans d.isLt (by decide))

theorem carryBytes_eq (carry : UInt32) : carryBytes carry = (Bytes.ofNat carry.toNat).reverse := by
  fun_induction carryBytes carry with
  | case1 carry h => rw [h, Bytes.ofNat_zero]; rfl
  | case2 carry h ih =>
    have hlow : carry.toUInt8 = (carry.toNat % 256).toUInt8 := by
      apply UInt8.toNat_inj.mp
      simp
    rw [ih, toNat_shiftCarry, Bytes.reverse_ofNat h, hlow]

/-- One step of the multiplication, on the bytes of a number. -/
theorem multiplyAdd_reverse_ofNat (n : Nat) {carry : UInt32} (hc : carry.toNat < 256) :
    multiplyAdd carry (Bytes.ofNat n).reverse
      = (Bytes.ofNat (n * 62 + carry.toNat)).reverse := by
  induction n using Nat.strong_induction_on generalizing carry with
  | _ n ih =>
    -- The induction is on the number and not on its bytes, for a carry may add bytes in front.
    by_cases hn : n = 0
    · subst hn
      rw [Bytes.ofNat_zero, Nat.zero_mul, Nat.zero_add]
      exact carryBytes_eq carry
    · have hlt : n % 256 < 256 := Nat.mod_lt n (by decide)
      have hacc : ((n % 256).toUInt8.toUInt32 * 62 + carry).toNat
          = n % 256 * 62 + carry.toNat := by
        rw [toNat_scale _ hc, UInt8.toNat_ofNat', Nat.mod_eq_of_lt hlt]
      have hhigh : (((n % 256).toUInt8.toUInt32 * 62 + carry) >>> 8).toNat
          = (n % 256 * 62 + carry.toNat) / 256 := by
        rw [toNat_shiftCarry, hacc]
      have hlow : ((n % 256).toUInt8.toUInt32 * 62 + carry).toUInt8
          = ((n * 62 + carry.toNat) % 256).toUInt8 := by
        apply UInt8.toNat_inj.mp
        rw [UInt32.toNat_toUInt8, hacc, UInt8.toNat_ofNat']
        omega
      rw [Bytes.reverse_ofNat hn, multiplyAdd, ih (n / 256) (by omega) (by rw [hhigh]; omega),
        Bytes.reverse_ofNat (n := n * 62 + carry.toNat) (by omega), hhigh, hlow]
      congr 3
      omega

/-- Schoolbook multiplication gives the shortest bytes of the value of a list of digits. -/
theorem longBytes_eq (digits : List Digit) : longBytes digits = Bytes.ofNat (value digits) := by
  have hfold : ∀ n, digits.foldl (fun bytes d => multiplyAdd d.val.toUInt32 bytes)
      (Bytes.ofNat n).reverse
        = (Bytes.ofNat (digits.foldl (fun n d => n * 62 + d.val) n)).reverse := by
    induction digits with
    | nil => intro n; rfl
    | cons d rest ih =>
      intro n
      have hd := toNat_digit d
      rw [List.foldl_cons, List.foldl_cons,
        multiplyAdd_reverse_ofNat n (by rw [hd]; exact Nat.lt_trans d.isLt (by decide)), hd, ih]
  have h := hfold 0
  rw [Bytes.ofNat_zero, List.reverse_nil] at h
  rw [longBytes, h, List.reverse_reverse]
  rfl

end ShortLink.Radix62
