import ShortLink.Proofs.Radix62.Bijection

/-!
# Checked conversion between bytes and digits

The conversions once more, with everything they rely on as a check: that a sum or product fits into
its register, that a byte or a digit is one, that a loop comes to its end within a number of turns.
A run in which a check fails gives nothing. No check ever fails, and the runs give what the
definitions of the same names without checks give.

## Main definitions

- `Checked.fit`, `Checked.subtract`, `Checked.digit` — the checks
- `Checked.word128`, `Checked.longBytes` — digits to bytes, in one machine word and by hand
- `Checked.shortDigits`, `Checked.longDigits` — bytes to digits, likewise

## Main results

- `Checked.multiplyAdd_eq`, `Checked.divide_eq` — one turn of each loop, under the bound that it
  keeps
- `Checked.bytesOf_eq`, `Checked.encode_eq` — no check fails
-/

namespace ShortLink.Checked

open Radix62 (Digit value write numeral)

/-- A number in a register for the numbers below `size`. -/
def fit (size n : Nat) : Option Nat := if n < size then some n else none

/-- A difference that is not negative. -/
def subtract (a b : Nat) : Option Nat := if b ≤ a then some (a - b) else none

/-- A number as an index into the alphabet. -/
def digit (n : Nat) : Option Digit := if h : n < 62 then some ⟨n, h⟩ else none

theorem fit_of_lt {size n : Nat} (h : n < size) : fit size n = some n := if_pos h

theorem subtract_of_le {a b : Nat} (h : b ≤ a) : subtract a b = some (a - b) := if_pos h

theorem digit_of_lt {n : Nat} (h : n < 62) : digit n = some ⟨n, h⟩ := dif_pos h

/-- Where a check holds, a run goes on with what is checked. -/
theorem bind_of_eq {α β : Type} {checked : Option α} {a : α} (h : checked = some a)
    (next : α → Option β) : (checked >>= next) = next a := by
  rw [h]
  rfl

/-! ### Digits to bytes -/

/-- A number times 62 plus a digit, in a register of 128 bits. -/
def accumulate (acc : Nat) (d : Digit) : Option Nat := do
  let scaled ← fit (2 ^ 128) (acc * 62)
  fit (2 ^ 128) (scaled + d.val)

def word128 (digits : List Digit) : Option Nat := digits.foldlM accumulate 0

/-- The bytes of a carry, least significant first, in at most `turns` turns. What is pushed in each
of them is all of the carry. -/
def carryBytes : Nat → Nat → Option Bytes
  | _, 0 => some []
  | 0, _ + 1 => none
  | turns + 1, carry + 1 => do
    let low ← fit 256 (carry + 1)
    let more ← carryBytes turns ((carry + 1) / 256)
    return low.toUInt8 :: more

/-- A byte string, least significant byte first, times 62 plus a carry, in registers of 32 bits. The
carry that is left at the end takes one turn at most. -/
def multiplyAdd (carry : Nat) : Bytes → Option Bytes
  | [] => carryBytes 1 carry
  | b :: rest => do
    let scaled ← fit (2 ^ 32) (b.toNat * 62)
    let acc ← fit (2 ^ 32) (scaled + carry)
    let more ← multiplyAdd (acc / 256) rest
    return acc.toUInt8 :: more

def longBytes (digits : List Digit) : Option Bytes :=
  (digits.foldlM (fun bytes d => multiplyAdd d.val bytes) []).map List.reverse

def bytesOf (digits : List Digit) : Option Bytes :=
  if digits.length ≤ Radix62.wordDigits then (word128 digits).map Bytes.ofNat else longBytes digits

theorem accumulate_eq {acc : Nat} {d : Digit} (h : acc * 62 + d.val < 2 ^ 128) :
    accumulate acc d = some (acc * 62 + d.val) := by
  rw [accumulate, bind_of_eq (fit_of_lt (by omega))]
  exact fit_of_lt h

theorem word128_eq {digits : List Digit} (h : digits.length ≤ Radix62.wordDigits) :
    word128 digits = some (value digits) := by
  -- The accumulator holds the number of the digits before, so the induction is from the end.
  induction digits using List.reverseRecOn with
  | nil => rfl
  | append_singleton front d ih =>
    have hvalue : value (front ++ [d]) = value front * 62 + d.val := List.foldl_append
    have hlt := Radix62.value_lt_of_length_le h
    rw [List.length_append] at h
    have hfront : front.foldlM accumulate 0 = some (value front) := ih (by omega)
    rw [hvalue] at hlt ⊢
    rw [word128, List.foldlM_append, bind_of_eq hfront, List.foldlM_cons,
      bind_of_eq (accumulate_eq hlt)]
    rfl

/-- One digit more does not fit: the greatest number of 22 digits needs 131 bits. -/
example : word128 (List.replicate 22 61) = none := by decide

theorem carryBytes_eq {carry : UInt32} (h : carry.toNat < 256) :
    carryBytes 1 carry.toNat = some (Radix62.carryBytes carry) := by
  rw [Radix62.carryBytes_eq]
  by_cases hzero : carry.toNat = 0
  · rw [hzero, carryBytes, Bytes.ofNat_zero]
    rfl
  · rw [Bytes.reverse_ofNat hzero, Nat.mod_eq_of_lt h, Nat.div_eq_of_lt h, Bytes.ofNat_zero]
    obtain ⟨n, hn⟩ := Nat.exists_eq_succ_of_ne_zero hzero
    rw [hn] at h ⊢
    rw [carryBytes, bind_of_eq (fit_of_lt h), Nat.div_eq_of_lt h]
    rfl

/-- A carry of at most 61 stays so: 255 times 62 plus 61 is less than 62 times 256. -/
theorem multiplyAdd_eq (bytes : Bytes) {carry : UInt32} (h : carry.toNat ≤ 61) :
    multiplyAdd carry.toNat bytes = some (Radix62.multiplyAdd carry bytes) := by
  induction bytes generalizing carry with
  | nil => exact carryBytes_eq (by omega)
  | cons b rest ih =>
    have hb := b.toNat_lt
    have hacc := Radix62.toNat_scale b (show carry.toNat < 256 by omega)
    have hcarry : ((b.toUInt32 * 62 + carry) >>> 8).toNat ≤ 61 := by
      rw [Radix62.toNat_shiftCarry, hacc]
      omega
    have hlow : (b.toNat * 62 + carry.toNat).toUInt8 = (b.toUInt32 * 62 + carry).toUInt8 := by
      apply UInt8.toNat_inj.mp
      rw [UInt8.toNat_ofNat', UInt32.toNat_toUInt8, hacc]
    have hmore := ih hcarry
    rw [Radix62.toNat_shiftCarry, hacc] at hmore
    rw [multiplyAdd, bind_of_eq (fit_of_lt (by omega)), bind_of_eq (fit_of_lt (by omega)),
      bind_of_eq hmore, hlow]
    rfl

theorem longBytes_eq (digits : List Digit) :
    longBytes digits = some (Radix62.longBytes digits) := by
  have hfold : ∀ bytes, digits.foldlM (fun bytes d => multiplyAdd d.val bytes) bytes
      = some (digits.foldl (fun bytes d => Radix62.multiplyAdd d.val.toUInt32 bytes) bytes) := by
    induction digits with
    | nil => exact fun bytes => rfl
    | cons d rest ih =>
      intro bytes
      have hd := Radix62.toNat_digit d
      have hstep := multiplyAdd_eq bytes (show d.val.toUInt32.toNat ≤ 61 by omega)
      rw [hd] at hstep
      rw [List.foldlM_cons, List.foldl_cons, bind_of_eq hstep, ih]
  rw [longBytes, hfold, Radix62.longBytes]
  rfl

theorem bytesOf_eq (digits : List Digit) : bytesOf digits = some (Radix62.bytesOf digits) := by
  rw [bytesOf, Radix62.bytesOf]
  split
  · next h =>
    rw [word128_eq h, Radix62.toNat_word128 h]
    rfl
  · exact longBytes_eq digits

/-! ### Bytes to digits -/

/-- Long division by 62 of the rest of a number, in registers of 32 bits. Every byte of the quotient
is one. -/
def divide (remainder : Nat) (quotient : Bytes) : Bytes → Option (Bytes × Nat)
  | [] => some (quotient.reverse, remainder)
  | b :: rest => do
    let scaled ← fit (2 ^ 32) (remainder * 256)
    let acc ← fit (2 ^ 32) (scaled + b.toNat)
    let q ← fit 256 (acc / 62)
    divide (acc % 62) (if quotient.isEmpty && q == 0 then [] else q.toUInt8 :: quotient) rest

/-- The digits of a byte string put in front of `tail`, in at most `turns` long divisions. -/
def longDigitsOnto (tail : List Digit) : Nat → Bytes → Option (List Digit)
  | _, [] => some tail
  | 0, _ :: _ => none
  | turns + 1, b :: rest => do
    let step ← divide 0 [] (b :: rest)
    let d ← digit step.2
    longDigitsOnto (d :: tail) turns step.1

/-- Two long divisions for each byte are enough. -/
def longDigits (bytes : Bytes) : Option (List Digit) := do
  let digits ← longDigitsOnto [] (2 * bytes.length) bytes
  if digits.isEmpty then return [← digit 0] else return digits

/-- The digits of at most sixteen bytes, moved to the end of a register of 128 bits. -/
def shortDigits (bytes : Bytes) : Option (List Digit) := do
  let padding ← subtract Radix62.wordBytes bytes.length
  return numeral (← fit (2 ^ 128) (Bytes.toNat (List.replicate padding 0 ++ bytes)))

def encode (data : Bytes) : Option String :=
  let significant := data.dropZeros
  if significant.isEmpty then some "0"
  else if significant.length ≤ Radix62.wordBytes then (shortDigits significant).map write
  else (longDigits significant).map write

/-- A remainder below 62 stays so, and then 62 times 256 bounds what is divided. -/
theorem divide_eq (bytes quotient : Bytes) {remainder : UInt32} (h : remainder.toNat < 62) :
    divide remainder.toNat quotient bytes
      = some ((Radix62.divide remainder quotient bytes).1,
          (Radix62.divide remainder quotient bytes).2.toNat) := by
  induction bytes generalizing remainder quotient with
  | nil => rfl
  | cons b rest ih =>
    have hb := b.toNat_lt
    have hquotient := Radix62.toNat_quotient h b
    have hremainder := Radix62.toNat_remainder h b
    have hzero : ((remainder.toNat * 256 + b.toNat) / 62 == 0)
        = ((remainder * 256 + b.toUInt32) / 62 == 0) := by
      rw [Bool.eq_iff_iff, beq_iff_eq, beq_iff_eq, ← UInt32.toNat_inj, hquotient]
      rfl
    have hbyte : ((remainder.toNat * 256 + b.toNat) / 62).toUInt8
        = ((remainder * 256 + b.toUInt32) / 62).toUInt8 := by
      apply UInt8.toNat_inj.mp
      rw [UInt8.toNat_ofNat', UInt32.toNat_toUInt8, hquotient]
    have hsmall : ((remainder * 256 + b.toUInt32) % 62).toNat < 62 := by omega
    have hmore := fun quotient => ih quotient hsmall
    rw [hremainder] at hmore
    rw [divide, bind_of_eq (fit_of_lt (by omega)), bind_of_eq (fit_of_lt (by omega)),
      bind_of_eq (fit_of_lt (by omega)), hzero, hbyte, hmore]
    rfl

/-- Each long division takes a digit away, and its quotient has no zero byte in front again. -/
theorem longDigitsOnto_eq (tail : List Digit) {turns : Nat} {bytes : Bytes}
    (hhead : bytes.head? ≠ some 0) (hlt : bytes.toNat < 62 ^ turns) :
    longDigitsOnto tail turns bytes = some (Radix62.longDigitsOnto tail bytes) := by
  induction turns generalizing tail bytes with
  | zero =>
    have hnil : bytes = [] := by
      rw [← Bytes.dropZeros_eq_self hhead, ← Bytes.toNat_eq_zero_iff]
      omega
    rw [hnil, longDigitsOnto, Radix62.longDigitsOnto]
  | succ turns ih =>
    cases bytes with
    | nil => rw [longDigitsOnto, Radix62.longDigitsOnto]
    | cons b rest =>
      have hvalue := Radix62.toNat_divide_zero (b :: rest)
      have hzero : (0 : UInt32).toNat < 62 := by decide
      have hdigit := Radix62.divide_remainder_lt (b :: rest) 0 [] hzero
      have hdivide := divide_eq (b :: rest) [] hzero
      have hquotient : (Radix62.divide 0 [] (b :: rest)).1.head? ≠ some 0 :=
        Radix62.head?_divide _ hzero (by simp)
      rw [UInt32.toNat_zero] at hdivide
      rw [Nat.pow_succ] at hlt
      rw [longDigitsOnto, bind_of_eq hdivide, bind_of_eq (digit_of_lt hdigit),
        ih _ hquotient (by omega), Radix62.longDigitsOnto]

theorem longDigits_eq {bytes : Bytes} (h : bytes.head? ≠ some 0) :
    longDigits bytes = some (Radix62.longDigits bytes) := by
  have hturns : bytes.toNat < 62 ^ (2 * bytes.length) := by
    rw [Nat.pow_mul]
    exact Nat.lt_of_lt_of_le (Bytes.toNat_lt bytes) (Nat.pow_le_pow_left (by decide) _)
  rw [longDigits, bind_of_eq (longDigitsOnto_eq [] h hturns), Radix62.longDigits]
  cases Radix62.longDigitsOnto [] bytes <;> rfl

theorem shortDigits_eq {bytes : Bytes} (h : bytes.length ≤ Radix62.wordBytes) :
    shortDigits bytes = some (numeral bytes.toNat) := by
  have hpadded : Bytes.toNat (List.replicate (Radix62.wordBytes - bytes.length) 0 ++ bytes)
      = bytes.toNat := by
    rw [← Bytes.toNat_dropZeros, Bytes.dropZeros, List.dropWhile_append_of_pos (by simp)]
    exact Bytes.toNat_dropZeros bytes
  rw [shortDigits, bind_of_eq (subtract_of_le h), hpadded,
    bind_of_eq (fit_of_lt (Radix62.toNat_lt_of_length_le h))]
  rfl

theorem encode_eq (data : Bytes) : encode data = some (Radix62.encode data) := by
  rw [encode, Radix62.encode]
  split
  · rfl
  split
  · next h =>
    rw [shortDigits_eq h, BitVec.toNat_ofNat, Nat.mod_eq_of_lt (Radix62.toNat_lt_of_length_le h)]
    rfl
  · rw [longDigits_eq (Bytes.head?_dropZeros data)]
    rfl

end ShortLink.Checked
