import ShortLink.Proofs.Radix62.Refusal

/-!
# Codes of words

Every 64-bit word has a code of at most eleven digits, and eleven digits suffice to denote more than
a word holds. So what is decoded are the texts of that length that denote a word, and the code of
that word is the text again, without the zeros in front of it.

## Main results

- `Radix62.decodeWord_of_refused`, `Radix62.decodeWord_of_accepted` — what is decoded, and what not
- `Radix62.accepted_encodeWord`, `Radix62.decodeWord_encodeWord` — a word comes back from its code
- `Radix62.encodeWord_of_number` — the code of the word that a text denotes
-/

namespace ShortLink.Radix62

variable {code : String} {reason : Malformed}

theorem decodeWord_of_refused (h : Refused maxWordCode code reason) :
    decodeWord code = .error reason := by
  cases h with
  | length h =>
    rw [decodeWord, if_pos (not_isSized_iff.mp h)]
    rfl
  | character h hforeign =>
    rw [decodeWord, if_neg (mt not_isSized_iff.mpr (not_not_intro h)), hforeign.read_eq]
    rfl

/-- Eleven digits may denote more than a word holds. -/
theorem decodeWord_of_accepted (h : Accepted maxWordCode code) :
    decodeWord code
      = if number code < UInt64.size then .ok (number code).toUInt64 else .error .overflow := by
  have hsize : ¬(code.utf8ByteSize = 0 ∨ maxWordCode < code.utf8ByteSize) :=
    mt not_isSized_iff.mpr (not_not_intro h.isSized)
  obtain ⟨digits, rfl, -⟩ := h.exists_digits
  rw [decodeWord, if_neg hsize, read_write, number_write]
  rfl

theorem decodeWord_eq_ok_iff {w : UInt64} :
    decodeWord code = .ok w ↔ Accepted maxWordCode code ∧ number code = w.toNat := by
  rcases refused_or_accepted maxWordCode code with ⟨reason, hrefused⟩ | haccepted
  · rw [decodeWord_of_refused hrefused]
    exact iff_of_false (by rintro ⟨⟩) fun h => h.1.not_refused hrefused
  · rw [decodeWord_of_accepted haccepted]
    have hw := w.toNat_lt
    split
    · next hroom =>
      have hword : (number code).toUInt64.toNat = number code := by
        rw [UInt64.toNat_ofNat']
        exact Nat.mod_eq_of_lt hroom
      rw [Except.ok.injEq, ← UInt64.toNat_inj, hword]
      exact (and_iff_right haccepted).symm
    · next hroom =>
      refine iff_of_false (by rintro ⟨⟩) ?_
      rintro ⟨-, hnumber⟩
      rw [hnumber] at hroom
      exact hroom hw

theorem decodeWord_eq_error_iff :
    decodeWord code = .error reason ↔
      Refused maxWordCode code reason ∨
        Accepted maxWordCode code ∧ 2 ^ 64 ≤ number code ∧ reason = .overflow := by
  rcases refused_or_accepted maxWordCode code with ⟨reason', hrefused⟩ | haccepted
  · rw [decodeWord_of_refused hrefused, Except.error.injEq]
    constructor
    · rintro rfl
      exact Or.inl hrefused
    · rintro (hother | ⟨haccepted, -⟩)
      · exact hrefused.eq hother
      · exact absurd hrefused haccepted.not_refused
  · rw [decodeWord_of_accepted haccepted]
    have hnot : ¬Refused maxWordCode code reason := haccepted.not_refused
    split
    · next hroom =>
      refine iff_of_false (by rintro ⟨⟩) ?_
      rintro (hrefused | ⟨-, hlarge, -⟩)
      · exact hnot hrefused
      · exact absurd hroom (Nat.not_lt.mpr hlarge)
    · next hroom =>
      rw [Except.error.injEq]
      constructor
      · rintro rfl
        exact Or.inr ⟨haccepted, Nat.not_lt.mp hroom, rfl⟩
      · rintro (hrefused | ⟨-, -, rfl⟩)
        · exact absurd hrefused hnot
        · rfl

/-! ### The code of a word -/

theorem accepted_encodeWord (w : UInt64) : Accepted maxWordCode (encodeWord w) := by
  refine accepted_write (length_numeral_pos w.toNat) ?_
  rw [length_numeral_le_iff (by decide)]
  exact Nat.lt_of_lt_of_le w.toNat_lt (by decide)

theorem number_encodeWord (w : UInt64) : number (encodeWord w) = w.toNat := by
  rw [encodeWord, number_write, value_numeral]

/-- A word comes back from its code. -/
theorem decodeWord_encodeWord (w : UInt64) : decodeWord (encodeWord w) = .ok w :=
  decodeWord_eq_ok_iff.mpr ⟨accepted_encodeWord w, number_encodeWord w⟩

theorem encodeWord_injective : Function.Injective encodeWord := by
  intro a b h
  apply Except.ok.inj
  rw [← decodeWord_encodeWord a, h, decodeWord_encodeWord]

/-- The code of the word that a text denotes is the text without the zeros in front of it. -/
theorem encodeWord_of_number {w : UInt64} (h : Accepted maxWordCode code)
    (hnumber : number code = w.toNat) :
    encodeWord w = if withoutZeros code = "" then "0" else withoutZeros code := by
  obtain ⟨digits, rfl, -⟩ := h.exists_digits
  rw [number_write] at hnumber
  rw [encodeWord, ← hnumber, write_numeral_value]

end ShortLink.Radix62
