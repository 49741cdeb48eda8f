import ShortLink.Bytes

/-!
# Bytewise operations

## Main results

- `Bytes.xor_xor` — among byte strings of one length the exclusive or undoes itself
-/

namespace ShortLink.Bytes

theorem length_xor (a b : Bytes) : (xor a b).length = min a.length b.length := List.length_zipWith

theorem xor_xor {a b : Bytes} (h : a.length = b.length) : xor (xor a b) b = a := by
  induction a generalizing b with
  | nil => rfl
  | cons x rest ih =>
    cases b with
    | nil => simp at h
    | cons y more =>
      have hxy : x ^^^ y ^^^ y = x := by rw [UInt8.xor_assoc, UInt8.xor_self, UInt8.xor_zero]
      rw [List.length_cons, List.length_cons, Nat.add_right_cancel_iff] at h
      show (x ^^^ y ^^^ y) :: xor (xor rest more) more = x :: rest
      rw [hxy, ih h]

theorem map_complement_ne {bytes : Bytes} (h : bytes ≠ []) :
    bytes.map (~~~ ·) ≠ bytes := by
  cases bytes with
  | nil => exact absurd rfl h
  | cons b rest =>
    intro heq
    have hb : ~~~b = b := (List.cons.inj heq).1
    have hnat := congrArg UInt8.toNat hb
    have hlt := b.toNat_lt
    rw [UInt8.toNat_not] at hnat
    unfold UInt8.size at hnat
    omega

end ShortLink.Bytes
