import Mathlib.Algebra.Group.Nat.Defs

/-!
# Fields of words

A field that is shifted to its place and joined with what stands below it adds up with it, as long
as both keep to their places.

## Main results

- `toNat_shiftLeft_or` — two fields of a 64-bit word as a number
-/

namespace ShortLink

/-- A field above another one keeps clear of it, when neither leaves its place. -/
theorem toNat_shiftLeft_or {high low shift : UInt64} (k : Nat) (hshift : shift.toNat = k)
    (hk : k < 64) (hhigh : high.toNat * 2 ^ k < 2 ^ 64) (hlow : low.toNat < 2 ^ k) :
    (high <<< shift ||| low).toNat = high.toNat * 2 ^ k + low.toNat := by
  have hplace : (high <<< shift).toNat = high.toNat <<< k := by
    rw [UInt64.toNat_shiftLeft, hshift, Nat.mod_eq_of_lt hk, Nat.shiftLeft_eq,
      Nat.mod_eq_of_lt hhigh]
  rw [UInt64.toNat_or, hplace, ← Nat.shiftLeft_add_eq_or_of_lt hlow, Nat.shiftLeft_eq]

end ShortLink
