import Mathlib.Data.Nat.Digits.Lemmas
import ShortLink.Bytes

/-!
# Byte strings as numbers

A list of digits, most significant first, is compared with the digits that `Nat.digits` lists from
the other end. Two lists denote the same number when they are the same apart from leading zeros. For
byte strings, that is the case of base 256.

## Main results

- `Positional.foldl_eq_ofDigits`, `Positional.digits_foldl` — any base and any kind of digits
- `Bytes.ofNat_eq` — the shortest bytes of a number are its digits in base 256
- `Bytes.ofNat_toNat`, `Bytes.toNat_ofNat` — byte strings without leading zero bytes and numbers
  determine each other
- `Bytes.toNat_lt` — the size of a number in terms of the length of its bytes
- `Bytes.exists_ofNat_eq_cons` — the first byte of a number, and the number of bytes behind it
- `Bytes.length_ofNat_le_iff` — how many bytes a number needs
- `Bytes.toNat_ofWord32`, `Bytes.toNat_ofWord64` — the bytes of a word denote its number
-/

namespace ShortLink.Positional

variable {α : Type} {b : Nat} {val : α → Nat}

/-- Evaluation from the most significant digit on agrees with the one from the other end. -/
theorem foldl_eq_ofDigits (digits : List α) (n : Nat) :
    digits.foldl (fun n d => n * b + val d) n
      = n * b ^ digits.length + Nat.ofDigits b (digits.map val).reverse := by
  -- The start value grows with every digit, so it is general in the induction.
  induction digits generalizing n with
  | nil => simp
  | cons d rest ih =>
    rw [List.foldl_cons, ih, List.map_cons, List.reverse_cons, Nat.ofDigits_append,
      Nat.ofDigits_singleton, List.length_reverse, List.length_map, List.length_cons, Nat.pow_succ]
    ring

theorem foldl_zero_eq_ofDigits (digits : List α) :
    digits.foldl (fun n d => n * b + val d) 0 = Nat.ofDigits b (digits.map val).reverse := by
  rw [foldl_eq_ofDigits, Nat.zero_mul, Nat.zero_add]

theorem foldl_lt (hb : 1 < b) (hval : ∀ d, val d < b) (digits : List α) :
    digits.foldl (fun n d => n * b + val d) 0 < b ^ digits.length := by
  have hlt := Nat.ofDigits_lt_base_pow_length (l := (digits.map val).reverse) hb (by
    intro d hd
    obtain ⟨e, -, rfl⟩ := List.mem_map.mp (List.mem_reverse.mp hd)
    exact hval e)
  rw [List.length_reverse, List.length_map] at hlt
  rw [foldl_zero_eq_ofDigits]
  exact hlt

theorem ofDigits_reverse_dropZeros (digits : List Nat) :
    Nat.ofDigits b (digits.dropWhile (· == 0)).reverse = Nat.ofDigits b digits.reverse := by
  induction digits with
  | nil => rfl
  | cons d rest ih =>
    by_cases hd : d = 0
    · subst hd
      rw [List.dropWhile_cons_of_pos rfl, ih, List.reverse_cons, Nat.ofDigits_append_zero]
    · rw [List.dropWhile_cons_of_neg (by simpa using hd)]

/-- The digits of the number that a list of digits denotes are those of the list, leading zeros
left out. -/
theorem digits_foldl (hb : 1 < b) (hval : ∀ d, val d < b) (digits : List α) :
    Nat.digits b (digits.foldl (fun n d => n * b + val d) 0)
      = ((digits.dropWhile (val · == 0)).map val).reverse := by
  have hmap : (digits.map val).dropWhile (· == 0) = (digits.dropWhile (val · == 0)).map val := by
    rw [List.dropWhile_map]
    rfl
  rw [foldl_zero_eq_ofDigits, ← ofDigits_reverse_dropZeros, hmap]
  apply Nat.digits_ofDigits b hb
  · intro d hd
    obtain ⟨e, -, rfl⟩ := List.mem_map.mp (List.mem_reverse.mp hd)
    exact hval e
  · -- The most significant digit of what is left is not zero.
    intro hne
    have hleft : digits.dropWhile (val · == 0) ≠ [] := by simpa using hne
    have hhead := List.head_dropWhile_not (p := (val · == 0)) (l := digits) hleft
    rw [List.getLast_reverse, List.head_map]
    simpa using hhead

end ShortLink.Positional

namespace ShortLink.Bytes

theorem toNat_eq_ofDigits (bytes : Bytes) :
    toNat bytes = Nat.ofDigits 256 (bytes.map UInt8.toNat).reverse :=
  Positional.foldl_zero_eq_ofDigits bytes

theorem extend_eq (bytes : Bytes) (n : Nat) :
    bytes.extend n = n * 256 ^ bytes.length + toNat bytes := by
  rw [toNat_eq_ofDigits]
  exact Positional.foldl_eq_ofDigits bytes n

theorem toNat_append (a b : Bytes) :
    toNat (a ++ b) = toNat a * 256 ^ b.length + toNat b := by
  rw [← extend_eq]
  exact List.foldl_append

/-- A byte string denotes a number below the power of 256 that its length gives. -/
theorem toNat_lt (bytes : Bytes) : toNat bytes < 256 ^ bytes.length :=
  Positional.foldl_lt (by decide) UInt8.toNat_lt bytes

theorem digits_toNat (bytes : Bytes) :
    Nat.digits 256 (toNat bytes) = (bytes.dropZeros.map UInt8.toNat).reverse := by
  have hzero : (fun b : UInt8 => b == 0) = fun b => b.toNat == 0 := by
    funext b
    rw [Bool.eq_iff_iff, beq_iff_eq, beq_iff_eq, ← UInt8.toNat_inj]
    rfl
  rw [dropZeros, hzero]
  exact Positional.digits_foldl (by decide) UInt8.toNat_lt bytes

theorem ofNatOnto_eq (n : Nat) (tail : Bytes) :
    ofNatOnto n tail = ((Nat.digits 256 n).map Nat.toUInt8).reverse ++ tail := by
  fun_induction ofNatOnto n tail with
  | case1 => simp
  | case2 n tail hn ih =>
    have hb : (n % 256).toUInt8 = n.toUInt8 := by
      apply UInt8.toNat_inj.mp
      simp
    rw [ih, Nat.digits_def' (by decide) (Nat.pos_of_ne_zero hn)]
    simp [hb]

/-- The shortest bytes of a number are its digits in base 256. -/
theorem ofNat_eq (n : Nat) : ofNat n = ((Nat.digits 256 n).map Nat.toUInt8).reverse := by
  rw [ofNat, ofNatOnto_eq, List.append_nil]

/-- The shortest bytes of the number that a byte string denotes are its own, leading zero bytes left
out. -/
theorem ofNat_toNat (bytes : Bytes) : ofNat (toNat bytes) = bytes.dropZeros := by
  have hid : Nat.toUInt8 ∘ UInt8.toNat = id := by
    funext b
    simp
  rw [ofNat_eq, digits_toNat, List.map_reverse, List.reverse_reverse, List.map_map, hid,
    List.map_id]

theorem toNat_ofNat (n : Nat) : toNat (ofNat n) = n := by
  have hid : (Nat.digits 256 n).map (UInt8.toNat ∘ Nat.toUInt8) = Nat.digits 256 n := by
    rw [List.map_congr_left (g := id), List.map_id]
    intro d hd
    have := Nat.digits_lt_base (b := 256) (by decide) hd
    simp
    omega
  rw [toNat_eq_ofDigits, ofNat_eq, List.map_reverse, List.reverse_reverse, List.map_map, hid,
    Nat.ofDigits_digits]

theorem dropZeros_ofNat (n : Nat) : (ofNat n).dropZeros = ofNat n := by
  rw [← ofNat_toNat, toNat_ofNat]

theorem toNat_dropZeros (bytes : Bytes) : toNat bytes.dropZeros = toNat bytes := by
  rw [← ofNat_toNat, toNat_ofNat]

theorem head?_dropZeros (bytes : Bytes) : bytes.dropZeros.head? ≠ some 0 := by
  intro h
  have hhead := List.head?_dropWhile_not (· == 0) bytes
  rw [dropZeros] at h
  rw [h] at hhead
  simp at hhead

theorem dropZeros_eq_self {bytes : Bytes} (h : bytes.head? ≠ some 0) : bytes.dropZeros = bytes := by
  cases bytes with
  | nil => rfl
  | cons b rest =>
    rw [dropZeros, List.dropWhile_cons, if_neg]
    simpa using h

theorem toNat_eq_zero_iff {bytes : Bytes} : toNat bytes = 0 ↔ bytes.dropZeros = [] := by
  rw [← Nat.digits_eq_nil_iff_eq_zero (b := 256), digits_toNat, List.reverse_eq_nil_iff,
    List.map_eq_nil_iff]

theorem ofNat_zero : ofNat 0 = [] := by
  rw [ofNat_eq, Nat.digits_zero]
  rfl

/-- The bytes of a positive number, from the least significant one on. -/
theorem reverse_ofNat {n : Nat} (hn : n ≠ 0) :
    (ofNat n).reverse = (n % 256).toUInt8 :: (ofNat (n / 256)).reverse := by
  rw [ofNat_eq, ofNat_eq, Nat.digits_def' (by decide) (Nat.pos_of_ne_zero hn)]
  simp

/-- The first byte of a number, which is not zero, and how many bytes follow it. -/
theorem exists_ofNat_eq_cons {n : Nat} (hn : n ≠ 0) :
    ∃ first rest, ofNat n = first :: rest ∧ rest.length = Nat.log 256 n ∧
      first.toNat = n / 256 ^ Nat.log 256 n := by
  cases hbytes : ofNat n with
  | nil =>
    have hvalue := toNat_ofNat n
    rw [hbytes] at hvalue
    exact absurd hvalue.symm hn
  | cons first rest =>
    have hvalue : first.toNat * 256 ^ rest.length + toNat rest = n := by
      rw [← extend_eq, ← toNat_cons, ← hbytes, toNat_ofNat]
    have hrest := toNat_lt rest
    have hfirst : first.toNat ≠ 0 := by
      intro hzero
      have hhead := head?_dropZeros (ofNat n)
      obtain rfl : first = 0 := UInt8.toNat_inj.mp hzero
      rw [dropZeros_ofNat, hbytes] at hhead
      exact hhead rfl
    have hlog : Nat.log 256 n = rest.length := by
      rw [Nat.log_eq_iff (Or.inr ⟨by decide, hn⟩), Nat.pow_succ]
      have hlow : 256 ^ rest.length ≤ first.toNat * 256 ^ rest.length :=
        Nat.le_mul_of_pos_left _ (Nat.pos_of_ne_zero hfirst)
      have hhigh : first.toNat * 256 ^ rest.length ≤ 255 * 256 ^ rest.length :=
        Nat.mul_le_mul_right _ (Nat.le_of_lt_succ first.toNat_lt)
      omega
    refine ⟨first, rest, rfl, hlog.symm, ?_⟩
    rw [hlog, ← hvalue, Nat.add_comm, Nat.add_mul_div_right _ _ (Nat.pow_pos (by decide)),
      Nat.div_eq_of_lt hrest, Nat.zero_add]

theorem length_ofNat_le_iff {n k : Nat} : (ofNat n).length ≤ k ↔ n < 256 ^ k := by
  rw [ofNat_eq, List.length_reverse, List.length_map, Nat.digits_length_le_iff (by decide)]

/-! ### Words -/

theorem toNat_ofWord32 (w : UInt32) : toNat (ofWord32 w) = w.toNat := by
  have hw := w.toNat_lt
  simp [toNat, extend, ofWord32, Nat.shiftRight_eq_div_pow]
  omega

theorem toNat_ofWord64 (w : UInt64) : toNat (ofWord64 w) = w.toNat := by
  have hw := w.toNat_lt
  have hlength : (ofWord32 w.toUInt32).length = 4 := rfl
  have hhigh : (w >>> 32).toUInt32.toNat = w.toNat / 2 ^ 32 := by
    rw [UInt64.toNat_toUInt32, UInt64.toNat_shiftRight]
    show w.toNat >>> 32 % 2 ^ 32 = _
    rw [Nat.shiftRight_eq_div_pow]
    omega
  rw [ofWord64, toNat_append, toNat_ofWord32, toNat_ofWord32, hlength, hhigh, UInt64.toNat_toUInt32]
  omega

theorem ofWord32_injective : Function.Injective ofWord32 := by
  intro v w h
  apply UInt32.toNat_inj.mp
  rw [← toNat_ofWord32 v, h, toNat_ofWord32]

end ShortLink.Bytes
