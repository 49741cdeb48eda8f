import Mathlib.Algebra.Group.Nat.Defs
import Mathlib.Data.List.Range
import ShortLink.Deflate.Write
import ShortLink.Proofs.Deflate.Extension

/-!
# Stored blocks read back

Numbers and bytes come back from the bits they were written as, and with them any byte string from
its stored blocks.

## Main results

- `Deflate.Bits.readNat_ofNat`, `Deflate.Bits.readBytes_ofBytes` — numbers and bytes read back
- `Deflate.readBlocks_storedBlocks` — stored blocks read back, whatever stands behind them
-/

namespace ShortLink.Deflate

namespace Bits

theorem ofNat_succ (n value : Nat) :
    ofNat (n + 1) value = value.testBit 0 :: ofNat n (value / 2) := by
  rw [ofNat, ofNat, List.range_succ_eq_map, List.map_cons, List.map_map]
  congr 2
  funext i
  exact Nat.testBit_succ value i

theorem length_ofNat (n value : Nat) : (ofNat n value).length = n := by
  rw [ofNat, List.length_map, List.length_range]

/-- A number reads back, up to the bits that were written. -/
theorem readNat_ofNat (n value : Nat) (rest : Bits) :
    readNat n (ofNat n value ++ rest) = some (value % 2 ^ n, rest) := by
  induction n generalizing value with
  | zero =>
    rw [Nat.pow_zero, Nat.mod_one]
    rfl
  | succ n ih =>
    have hbit : (value.testBit 0).toNat = value % 2 := by
      rw [Nat.testBit_zero]
      rcases Nat.mod_two_eq_zero_or_one value with h | h <;> simp [h]
    have hsplit : value % 2 ^ (n + 1) = value % 2 + 2 * (value / 2 % 2 ^ n) := by
      rw [Nat.pow_succ', Nat.mod_mul]
    rw [ofNat_succ, List.cons_append, readNat, ih, Option.map_some, hbit, hsplit]

/-- Two numbers one behind the other are one number. -/
theorem ofNat_append {m a : Nat} (ha : a < 2 ^ m) (n b : Nat) :
    ofNat m a ++ ofNat n b = ofNat (m + n) (2 ^ m * b + a) := by
  rw [ofNat, ofNat, ofNat, List.range_add, List.map_append, List.map_map]
  congr 1
  · apply List.map_congr_left
    intro i hi
    rw [Nat.testBit_two_pow_mul_add b ha, if_pos (List.mem_range.mp hi)]
  · apply List.map_congr_left
    intro i _
    rw [Function.comp_apply, Nat.testBit_two_pow_mul_add b ha, if_neg (by omega),
      Nat.add_sub_cancel_left]

theorem ofBytes_cons (b : UInt8) (bytes : Bytes) :
    ofBytes (b :: bytes) = ofNat 8 b.toNat ++ ofBytes bytes := rfl

theorem ofBytes_append (a b : Bytes) : ofBytes (a ++ b) = ofBytes a ++ ofBytes b :=
  List.flatMap_append

theorem length_ofBytes (bytes : Bytes) : (ofBytes bytes).length = 8 * bytes.length := by
  induction bytes with
  | nil => rfl
  | cons b rest ih =>
    rw [ofBytes_cons, List.length_append, length_ofNat, ih, List.length_cons]
    omega

theorem readBytes_ofBytes (out : Array UInt8) (bytes rest : Bytes) :
    readBytes out bytes.length (ofBytes (bytes ++ rest))
      = some (out ++ bytes.toArray, ofBytes rest) := by
  induction bytes generalizing out with
  | nil => simp [readBytes]
  | cons b more ih =>
    have hbyte : readByte (ofBytes (b :: (more ++ rest))) = some (b, ofBytes (more ++ rest)) := by
      rw [readByte, ofBytes_cons, readNat_ofNat, Option.map_some, Nat.mod_eq_of_lt b.toNat_lt]
      simp
    rw [List.length_cons, List.cons_append, readBytes, hbyte]
    show readBytes (out.push b) more.length (ofBytes (more ++ rest)) = _
    rw [ih]
    simp

/-- A number of two bytes, the lower one first. -/
theorem readNat_sixteen (low high : UInt8) (rest : Bytes) :
    readNat 16 (ofBytes (low :: high :: rest))
      = some (256 * high.toNat + low.toNat, ofBytes rest) := by
  have hlow := low.toNat_lt
  have hhigh := high.toNat_lt
  rw [ofBytes_cons, ofBytes_cons, ← List.append_assoc, ofNat_append hlow, readNat_ofNat,
    Nat.mod_eq_of_lt (by omega)]
  rfl

theorem align_ofBytes {bits : Bits} (hbits : bits.length < 8) (bytes : Bytes) :
    (bits ++ ofBytes bytes).align = ofBytes bytes := by
  have hmod : (bits ++ ofBytes bytes).length % 8 = bits.length := by
    rw [List.length_append, length_ofBytes]
    omega
  rw [align, hmod, List.drop_left]

end Bits

theorem readStored_ofBytes {limit : Nat} {out : Array UInt8} {piece : Bytes} {bits : Bits}
    (rest : Bytes) (hbits : bits.length < 8) (hpiece : piece.length ≤ maxStored)
    (hroom : out.size + piece.length ≤ limit) :
    readStored limit out (bits ++ Bits.ofBytes ((storedBlock true piece).tail ++ rest))
      = some (out ++ piece.toArray, Bits.ofBytes rest) := by
  have hsize : piece.length.toUInt16.toNat = piece.length := by
    rw [UInt16.toNat_ofNat']
    exact Nat.mod_eq_of_lt (Nat.lt_succ_of_le hpiece)
  have hcomplement : (~~~piece.length.toUInt16).toNat = 65535 - piece.length := by
    rw [UInt16.toNat_not, hsize]
    rfl
  have hword : ∀ w : UInt16, 256 * (w >>> 8).toUInt8.toNat + w.toUInt8.toNat = w.toNat := by
    intro w
    have hw := w.toNat_lt
    rw [UInt16.toNat_toUInt8, UInt16.toNat_toUInt8, UInt16.toNat_shiftRight,
      Nat.shiftRight_eq_div_pow]
    show 256 * (w.toNat / 256 % 256) + w.toNat % 256 = w.toNat
    omega
  unfold readStored
  rw [Bits.align_ofBytes hbits]
  simp only [storedBlock, List.cons_append, List.nil_append, List.tail_cons,
    Bits.readNat_sixteen, hword, hsize, hcomplement, Option.bind_eq_bind, Option.bind_some]
  rw [if_pos ⟨by unfold maxStored at hpiece; omega, hroom⟩]
  exact Bits.readBytes_ofBytes out piece rest

theorem readBlock_storedBlock {limit : Nat} {out : Array UInt8} {piece : Bytes} (last : Bool)
    (rest : Bytes) (hpiece : piece.length ≤ maxStored) (hroom : out.size + piece.length ≤ limit) :
    readBlock limit out (Bits.ofBytes (storedBlock last piece ++ rest))
      = some (last, out ++ piece.toArray, Bits.ofBytes rest) := by
  have hfirst : Bits.ofNat 8 last.toUInt8.toNat
      = Bits.ofNat 1 last.toNat ++ (Bits.ofNat 2 0 ++ Bits.ofNat 5 0) := by
    cases last <;> rfl
  have hbits : Bits.ofBytes (storedBlock last piece ++ rest)
      = Bits.ofNat 1 last.toNat ++ (Bits.ofNat 2 0
          ++ (Bits.ofNat 5 0 ++ Bits.ofBytes ((storedBlock true piece).tail ++ rest))) := by
    show Bits.ofNat 8 last.toUInt8.toNat ++ Bits.ofBytes ((storedBlock true piece).tail ++ rest) = _
    rw [hfirst, List.append_assoc, List.append_assoc]
  have hkind : readContents limit 0 out
      (Bits.ofNat 5 0 ++ Bits.ofBytes ((storedBlock true piece).tail ++ rest))
        = some (out ++ piece.toArray, Bits.ofBytes rest) :=
    readStored_ofBytes rest (by rw [Bits.length_ofNat]; decide) hpiece hroom
  unfold readBlock
  simp only [hbits, Bits.readNat_ofNat, Option.bind_eq_bind, Option.bind_some, Nat.zero_mod, hkind,
    Option.pure_def]
  cases last <;> rfl

/-- Stored blocks read back, whatever stands behind them. -/
theorem readBlocks_storedBlocks {limit : Nat} {out : Array UInt8} {data : Bytes} (rest : Bytes)
    (hroom : out.size + data.length ≤ limit) :
    readBlocks limit out (Bits.ofBytes (storedBlocks data ++ rest))
      = some (out ++ data.toArray, Bits.ofBytes rest) := by
  fun_induction storedBlocks data generalizing out with
  | case1 data h =>
    rw [readBlocks]
    split <;> simp_all [readBlock_storedBlock true rest h hroom]
  | case2 data h ih =>
    have hpiece : (data.take maxStored).length = maxStored := by
      rw [List.length_take]
      omega
    have hlength : (data.take maxStored).length + (data.drop maxStored).length = data.length := by
      rw [← List.length_append, List.take_append_drop]
    have hfirst : out.size + (data.take maxStored).length ≤ limit := by omega
    have hblock := readBlock_storedBlock false (storedBlocks (data.drop maxStored) ++ rest)
      (Nat.le_of_eq hpiece) hfirst
    have hlater := @ih (out ++ (data.take maxStored).toArray) (by simp; omega)
    rw [readBlocks, List.append_assoc]
    split
    · simp_all
    · simp_all
    · next hr =>
      rw [hblock] at hr
      cases hr
      have hjoin : (data.take maxStored).toArray ++ (data.drop maxStored).toArray
          = data.toArray := by
        rw [List.append_toArray, List.take_append_drop]
      rw [hlater, Array.append_assoc, hjoin]

end ShortLink.Deflate
