import ShortLink.Proofs.Radix62.Bijection

/-!
# Texts that are no codes

A text is refused for its length, or else for the first byte of its UTF-8 form that is no digit.
What is not refused denotes a number, each character counting by its place in the alphabet.

## Main definitions

- `Radix62.number` — the number that a text over the alphabet denotes
- `Radix62.IsFirstForeign` — the first byte of a text that is no digit
- `Radix62.Refused`, `Radix62.Accepted` — texts that are no codes of a given length, and the others

## Main results

- `Radix62.read_eq_error_iff` — what is not read, and why
- `Radix62.check_eq_error_iff`, `Radix62.check_eq_ok_iff` — what the limits on length let through
-/

namespace ShortLink.Radix62

/-- The number that a text over the alphabet denotes. -/
def number (code : String) : Nat :=
  code.toList.foldl (fun n c => n * 62 + alphabet.toList.idxOf c) 0

/-- A byte of a text that is no digit, with nothing but digits before it. -/
structure IsFirstForeign (code : String) (byte : UInt8) (position : Nat) : Prop where
  getElem? : (Bytes.ofText code)[position]? = some byte
  foreign : byte ∉ Bytes.ofText alphabet
  before : ∀ b ∈ (Bytes.ofText code).take position, b ∈ Bytes.ofText alphabet

/-- The size of a text is between one byte and `limit`. -/
def IsSized (limit : Nat) (code : String) : Prop :=
  1 ≤ code.utf8ByteSize ∧ code.utf8ByteSize ≤ limit

/-- Why a text is no code of at most `limit` digits. -/
inductive Refused (limit : Nat) (code : String) : Malformed → Prop where
  | length (h : ¬IsSized limit code) : Refused limit code .invalidLength
  | character {byte : UInt8} {position : Nat} (h : IsSized limit code)
      (hforeign : IsFirstForeign code byte position) :
      Refused limit code (.invalidCharacter byte position)

/-- A text consists of at most `limit` digits, and of one at least. -/
structure Accepted (limit : Nat) (code : String) : Prop where
  isSized : IsSized limit code
  digits : ∀ b ∈ Bytes.ofText code, b ∈ Bytes.ofText alphabet

variable {code : String} {digits : List Digit} {byte : UInt8} {position limit : Nat}
  {reason : Malformed}

/-! ### What is read -/

theorem firstForeign?_eq_some_iff {bytes : Bytes} :
    firstForeign? bytes = some (byte, position) ↔
      bytes[position]? = some byte ∧ byte ∉ Bytes.ofText alphabet ∧
        ∀ b ∈ bytes.take position, b ∈ Bytes.ofText alphabet := by
  have hforeign : ∀ b : UInt8, (Digit.ofByte? b).isNone = true ↔ b ∉ Bytes.ofText alphabet := by
    intro b
    rw [← isSome_ofByte?_iff, Option.isNone_iff_eq_none, Option.isSome_iff_ne_none, not_not]
  rw [firstForeign?, List.find?_eq_some_iff_getElem]
  constructor
  · rintro ⟨hnone, i, hi, hat, hbefore⟩
    rw [List.getElem_zipIdx, Nat.zero_add, Prod.mk.injEq] at hat
    obtain ⟨rfl, rfl⟩ := hat
    rw [List.length_zipIdx] at hi
    refine ⟨List.getElem?_eq_getElem hi, (hforeign _).mp hnone, ?_⟩
    intro b hb
    obtain ⟨j, hj, rfl⟩ := List.mem_take_iff_getElem.mp hb
    have hdigit := hbefore j (by omega)
    rw [List.getElem_zipIdx, Bool.not_eq_true', ← Bool.not_eq_true, hforeign, not_not] at hdigit
    exact hdigit
  · rintro ⟨hat, hnone, hbefore⟩
    obtain ⟨hi, rfl⟩ := List.getElem?_eq_some_iff.mp hat
    refine ⟨(hforeign _).mpr hnone, position, by rwa [List.length_zipIdx], ?_, ?_⟩
    · rw [List.getElem_zipIdx, Nat.zero_add]
    · intro j hj
      rw [List.getElem_zipIdx, Bool.not_eq_true', ← Bool.not_eq_true, hforeign, not_not]
      exact hbefore _ (List.mem_take_iff_getElem.mpr ⟨j, by omega, rfl⟩)

/-- A text is not read for its first byte that is no digit. -/
theorem read_eq_error_iff :
    read code = .error reason ↔
      ∃ byte position, IsFirstForeign code byte position ∧
        reason = .invalidCharacter byte position := by
  rw [read]
  constructor
  · intro h
    split at h
    · next byte position hsome =>
      cases h
      obtain ⟨hat, hforeign, hbefore⟩ := firstForeign?_eq_some_iff.mp hsome
      exact ⟨byte, position, ⟨hat, hforeign, hbefore⟩, rfl⟩
    · cases h
  · rintro ⟨byte, position, ⟨hat, hforeign, hbefore⟩, rfl⟩
    simp only [firstForeign?_eq_some_iff.mpr ⟨hat, hforeign, hbefore⟩]

theorem IsFirstForeign.read_eq (h : IsFirstForeign code byte position) :
    read code = .error (.invalidCharacter byte position) :=
  read_eq_error_iff.mpr ⟨byte, position, h, rfl⟩

theorem exists_eq_write_iff :
    (∃ digits, code = write digits) ↔ ∀ b ∈ Bytes.ofText code, b ∈ Bytes.ofText alphabet := by
  rw [← exists_read_iff]
  exact exists_congr fun digits => read_eq_ok_iff.symm

/-- A character counts as much as the digit that is written as it. -/
theorem number_write (digits : List Digit) : number (write digits) = value digits := by
  have hplace : ∀ d : Digit, alphabet.toList.idxOf d.char = d.val := by decide
  rw [number, value, toList_write, List.foldl_map]
  simp only [hplace]

/-! ### The limits on length -/

theorem isSized_write :
    IsSized limit (write digits) ↔ 1 ≤ digits.length ∧ digits.length ≤ limit := by
  rw [IsSized, utf8ByteSize_write]

theorem accepted_write (h : 1 ≤ digits.length) (hlimit : digits.length ≤ limit) :
    Accepted limit (write digits) where
  isSized := isSized_write.mpr ⟨h, hlimit⟩
  digits := exists_eq_write_iff.mp ⟨digits, rfl⟩

theorem Accepted.exists_digits (h : Accepted limit code) :
    ∃ digits, code = write digits ∧ 1 ≤ digits.length ∧ digits.length ≤ limit := by
  obtain ⟨digits, rfl⟩ := exists_eq_write_iff.mpr h.digits
  exact ⟨digits, rfl, isSized_write.mp h.isSized⟩

theorem refused_or_accepted (limit : Nat) (code : String) :
    (∃ reason, Refused limit code reason) ∨ Accepted limit code := by
  by_cases hsize : IsSized limit code
  · cases hread : read code with
    | error reason =>
      obtain ⟨byte, position, hforeign, rfl⟩ := read_eq_error_iff.mp hread
      exact Or.inl ⟨_, .character hsize hforeign⟩
    | ok digits =>
      obtain rfl := read_eq_ok_iff.mp hread
      obtain ⟨hpositive, hlimit⟩ := isSized_write.mp hsize
      exact Or.inr (accepted_write hpositive hlimit)
  · exact Or.inl ⟨_, .length hsize⟩

theorem not_isSized_iff :
    ¬IsSized limit code ↔ code.utf8ByteSize = 0 ∨ limit < code.utf8ByteSize := by
  unfold IsSized
  omega

theorem check_of_refused (h : Refused limit code reason) : check limit code = .error reason := by
  cases h with
  | length h =>
    rw [check, if_pos (not_isSized_iff.mp h)]
    rfl
  | character h hforeign =>
    rw [check, if_neg (mt not_isSized_iff.mpr (not_not_intro h)), hforeign.read_eq]
    rfl

theorem check_of_accepted (h : Accepted limit code) : check limit code = .ok () := by
  obtain ⟨digits, rfl, hpositive, hlimit⟩ := h.exists_digits
  rw [check_write, if_neg (by omega)]

theorem check_eq_error_iff : check limit code = .error reason ↔ Refused limit code reason := by
  refine ⟨fun h => ?_, check_of_refused⟩
  rcases refused_or_accepted limit code with ⟨reason', hrefused⟩ | haccepted
  · rw [check_of_refused hrefused] at h
    cases h
    exact hrefused
  · rw [check_of_accepted haccepted] at h
    cases h

theorem check_eq_ok_iff : check limit code = .ok () ↔ Accepted limit code := by
  refine ⟨fun h => ?_, check_of_accepted⟩
  rcases refused_or_accepted limit code with ⟨reason, hrefused⟩ | haccepted
  · rw [check_of_refused hrefused] at h
    cases h
  · exact haccepted

/-- A text is refused for one reason only. -/
theorem Refused.eq {other : Malformed} (h : Refused limit code reason)
    (h' : Refused limit code other) : reason = other := by
  have hcheck := check_of_refused h
  rw [check_of_refused h'] at hcheck
  exact (Except.error.inj hcheck).symm

theorem Accepted.not_refused (h : Accepted limit code) : ¬Refused limit code reason := by
  intro hrefused
  have hok := check_of_accepted h
  rw [check_of_refused hrefused] at hok
  cases hok

end ShortLink.Radix62
