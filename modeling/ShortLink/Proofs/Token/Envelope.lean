import ShortLink.Proofs.Radix62.Bijection
import ShortLink.Token.Envelope

/-!
# How much a token holds

A token is refused for its length alone: what was put into an envelope comes back unless its number
has more digits than a token may have. Contents of up to 6096 bytes always fit, contents of 6098
bytes never do, and for 6097 bytes the first of them decide.

## Main results

- `Envelope.contents_close` — what is taken out of an envelope
- `Envelope.close_fits`, `Envelope.close_overflows` — the limit in bytes
- `Envelope.close_fits_of_zeros`, `Envelope.close_overflows_of_ones` — contents of 6097 bytes
-/

namespace ShortLink.Envelope

open Radix62

/-- Most bytes that fit into a token whatever they are. -/
def maxContents : Nat := 6096

theorem length_close_le_iff {contents : Bytes} {k : Nat} (hk : 0 < k) :
    (close contents).length ≤ k ↔ 256 ^ contents.length + contents.toNat < 62 ^ k := by
  have hmarked : Bytes.toNat (marker :: contents) = 256 ^ contents.length + contents.toNat := by
    rw [Bytes.toNat_cons, Bytes.extend_eq]
    show 1 * 256 ^ contents.length + contents.toNat = _
    rw [Nat.one_mul]
  rw [close, length_encode, length_numeral_le_iff hk, hmarked]

theorem length_close_gt_iff {contents : Bytes} :
    maxToken < (close contents).length
      ↔ 62 ^ maxToken ≤ 256 ^ contents.length + contents.toNat := by
  rw [← Nat.not_le, length_close_le_iff (by decide), Nat.not_lt]

theorem decode_close (contents : Bytes) : decode (close contents) = .ok (marker :: contents) := by
  have hmarker : (marker :: contents).head? ≠ some 0 := by simp [marker]
  rw [close, decode_encode, Bytes.dropZeros_eq_self hmarker]

theorem close_injective : Function.Injective close := by
  intro contents contents' h
  have hdecode := decode_close contents
  rw [h, decode_close, Except.ok.injEq, List.cons.injEq] at hdecode
  exact hdecode.2.symm

theorem eq_cons_of_unframe {data inner : Bytes} (h : unframe data = .ok inner) :
    data = marker :: inner := by
  cases data with
  | nil => cases h
  | cons first rest =>
    rw [unframe] at h
    by_cases hfirst : first = marker
    · rw [if_pos hfirst] at h
      cases h
      rw [hfirst]
    · rw [if_neg hfirst] at h
      cases h

theorem checkToken_close (contents : Bytes) :
    checkToken (close contents)
      = if maxToken < (close contents).length then .error .invalidLength else .ok () := by
  have hpos := length_numeral_pos (Bytes.toNat (marker :: contents))
  rw [close, length_encode, encode_eq, checkToken, check_write]
  simp only [Nat.ne_of_gt hpos, false_or]

theorem contents_close (contents : Bytes) :
    Envelope.contents (close contents)
      = if maxToken < (close contents).length then .error .invalidLength else .ok contents := by
  rw [Envelope.contents, checkToken_close, decode_close]
  split
  · rfl
  · show unframe (marker :: contents) = _
    rw [unframe, if_pos rfl]

/-- The contents of a token are those behind the marker, as long as the token is not too long. -/
theorem contents_eq_ok_iff {token : String} {inner : Bytes} :
    Envelope.contents token = .ok inner
      ↔ token.length ≤ maxToken ∧ decode token = .ok (marker :: inner) := by
  constructor
  · intro h
    rw [Envelope.contents] at h
    cases hcheck : checkToken token with
    | error reason =>
      rw [hcheck] at h
      cases h
    | ok =>
      cases hdecode : decode token with
      | error reason =>
        rw [hcheck, hdecode] at h
        cases h
      | ok data =>
        rw [hcheck, hdecode] at h
        obtain ⟨digits, rfl, -⟩ := eq_write_of_decode hdecode
        have hdata : data = marker :: inner := eq_cons_of_unframe h
        refine ⟨?_, by rw [hdata]⟩
        rw [length_write]
        by_contra hlong
        rw [checkToken, check_write, if_pos (Or.inr (Nat.not_le.mp hlong))] at hcheck
        cases hcheck
  · -- The empty text is refused as well, but it decodes to nothing at all.
    rintro ⟨hlength, hdecode⟩
    obtain ⟨digits, rfl, hdata⟩ := eq_write_of_decode hdecode
    rw [length_write] at hlength
    have hne : digits.length ≠ 0 := by
      intro hzero
      rw [List.length_eq_zero_iff] at hzero
      subst hzero
      cases hdata.trans Bytes.ofNat_zero
    rw [Envelope.contents, hdecode, checkToken, check_write, if_neg (by omega)]
    show unframe (marker :: inner) = _
    rw [unframe, if_pos rfl]

/-! ### Where 62 to the power of 8192 lies among the powers of 256 -/

theorem two_mul_pow_le : 2 * 256 ^ maxContents ≤ 62 ^ maxToken := by
  decide +kernel

theorem le_pow_add_two : 62 ^ maxToken ≤ 256 ^ (maxContents + 2) := by
  decide +kernel

theorem pow_add_pow_le : 256 ^ (maxContents + 1) + 256 ^ (maxContents - 11) ≤ 62 ^ maxToken := by
  decide +kernel

theorem le_pow_add_ones :
    62 ^ maxToken ≤ 256 ^ (maxContents + 1) + (256 ^ 12 - 1) * 256 ^ (maxContents - 11) := by
  decide +kernel

theorem length_close_le {contents : Bytes} {m k : Nat} (h : contents.length ≤ m) (hk : 0 < k)
    (hroom : 2 * 256 ^ m ≤ 62 ^ k) : (close contents).length ≤ k := by
  rw [length_close_le_iff hk]
  have hlt := contents.toNat_lt
  have hpow : 256 ^ contents.length ≤ 256 ^ m := Nat.pow_le_pow_right (by decide) h
  omega

/-- Up to 6096 bytes fit into a token. -/
theorem close_fits {contents : Bytes} (h : contents.length ≤ maxContents) :
    (close contents).length ≤ maxToken :=
  length_close_le h (by decide) two_mul_pow_le

/-- 6098 bytes and more do not fit into a token. -/
theorem close_overflows {contents : Bytes} (h : maxContents + 2 ≤ contents.length) :
    maxToken < (close contents).length := by
  rw [length_close_gt_iff]
  have hpow : 256 ^ (maxContents + 2) ≤ 256 ^ contents.length := Nat.pow_le_pow_right (by decide) h
  have hcap := le_pow_add_two
  omega

/-- Contents of an even number of bytes never have the one length at which their bytes matter. -/
theorem maxToken_lt_length_close_iff {contents : Bytes} (heven : contents.length % 2 = 0) :
    maxToken < (close contents).length ↔ maxContents < contents.length := by
  constructor
  · intro h
    by_contra hfits
    exact absurd h (Nat.not_lt.mpr (close_fits (Nat.not_lt.mp hfits)))
  · intro h
    -- The one size at which the bytes decide is odd.
    have hnext : contents.length ≠ maxContents + 1 := by
      unfold maxContents
      omega
    exact close_overflows (by omega)

/-- 6097 bytes fit when the first twelve of them are zero. -/
theorem close_fits_of_zeros {rest : Bytes} (h : rest.length = maxContents - 11) :
    (close (List.replicate 12 0 ++ rest)).length ≤ maxToken := by
  have hsum : 12 + (maxContents - 11) = maxContents + 1 := rfl
  rw [← Nat.not_lt, length_close_gt_iff, Nat.not_le, Bytes.toNat_append, List.length_append,
    List.length_replicate, h, hsum]
  have hzeros : Bytes.toNat (List.replicate 12 0) = 0 := by decide
  have hlt := rest.toNat_lt
  rw [h] at hlt
  rw [hzeros, Nat.zero_mul, Nat.zero_add]
  exact Nat.lt_of_lt_of_le (Nat.add_lt_add_left hlt _) pow_add_pow_le

/-- 6097 bytes do not fit when all bits of the first twelve are set. -/
theorem close_overflows_of_ones {rest : Bytes} (h : rest.length = maxContents - 11) :
    maxToken < (close (List.replicate 12 0xff ++ rest)).length := by
  have hsum : 12 + (maxContents - 11) = maxContents + 1 := rfl
  rw [length_close_gt_iff, Bytes.toNat_append, List.length_append, List.length_replicate, h, hsum]
  have hones : Bytes.toNat (List.replicate 12 0xff) = 256 ^ 12 - 1 := by decide +kernel
  rw [hones, ← Nat.add_assoc]
  exact Nat.le_trans le_pow_add_ones (Nat.le_add_right _ _)

end ShortLink.Envelope
