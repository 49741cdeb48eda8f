import ShortLink.Proofs.Radix62.Refusal
import ShortLink.Proofs.Token.Authenticity
import ShortLink.Proofs.Token.Payload

/-!
# Malformed tokens

Whether a token is malformed, and how, is read off the text alone: its size, its first byte that is
no digit, and the number that it denotes. Tokens of payloads and sealed tokens are refused for the
same reasons, before any key is used; only a sealed token has one more, when there is no room for an
integrity tag behind its marker.

## Main definitions

- `Envelope.leadingByte` — the first of the shortest bytes of a number
- `Envelope.Verdict`, `Envelope.Sound` — what is wrong with a token, and tokens with nothing wrong

## Main results

- `Envelope.contents_of_verdict`, `Envelope.contents_of_sound` — what is found in the envelope
- `Envelope.verdict_decides` — the outcomes of both kinds of tokens
-/

namespace ShortLink

namespace Envelope

open Radix62 (Accepted Refused number)

/-- The first of the shortest bytes of a number. -/
def leadingByte (n : Nat) : UInt8 := (n / 256 ^ Nat.log 256 n).toUInt8

/-- What is wrong with a token: its size or a character, or else the number it denotes, which is
zero or does not begin with the marker. -/
inductive Verdict (token : String) : Malformed → Prop where
  | refused {reason : Malformed} (h : Refused 8192 token reason) : Verdict token reason
  | zero (h : Accepted 8192 token) (hzero : number token = 0) : Verdict token .tooShort
  | marker (h : Accepted 8192 token) (hpositive : number token ≠ 0)
      (hmarker : leadingByte (number token) ≠ 1) :
      Verdict token (.markerMismatch (leadingByte (number token)) 1)

/-- Nothing is wrong with a token. -/
structure Sound (token : String) : Prop where
  accepted : Accepted 8192 token
  positive : number token ≠ 0
  marked : leadingByte (number token) = 1

variable {token : String} {reason : Malformed}

theorem ofNat_eq_leadingByte_cons {n : Nat} (hn : n ≠ 0) :
    ∃ rest, Bytes.ofNat n = leadingByte n :: rest ∧ rest.length = Nat.log 256 n := by
  obtain ⟨first, rest, hbytes, hlength, hfirst⟩ := Bytes.exists_ofNat_eq_cons hn
  have hleading : leadingByte n = first := by
    rw [leadingByte, ← hfirst]
    exact UInt8.ofNat_toNat
  exact ⟨rest, by rw [hleading, hbytes], hlength⟩

theorem verdict_or_sound (token : String) : (∃ reason, Verdict token reason) ∨ Sound token := by
  rcases Radix62.refused_or_accepted 8192 token with ⟨reason, hrefused⟩ | haccepted
  · exact Or.inl ⟨reason, .refused hrefused⟩
  by_cases hzero : number token = 0
  · exact Or.inl ⟨_, .zero haccepted hzero⟩
  by_cases hmarker : leadingByte (number token) = 1
  · exact Or.inr ⟨haccepted, hzero, hmarker⟩
  · exact Or.inl ⟨_, .marker haccepted hzero hmarker⟩

/-! ### What is found in the envelope -/

theorem contents_of_refused (h : Refused 8192 token reason) : contents token = .error reason := by
  have hcheck : Radix62.checkToken token = .error reason := Radix62.check_of_refused h
  rw [contents, hcheck]
  rfl

theorem contents_of_accepted (h : Accepted 8192 token) :
    contents token = unframe (Bytes.ofNat (number token)) := by
  have hcheck : Radix62.checkToken token = .ok () := Radix62.check_of_accepted h
  obtain ⟨digits, rfl, -⟩ := h.exists_digits
  rw [contents, hcheck, Radix62.decode_write, Radix62.number_write]
  rfl

theorem contents_of_verdict (h : Verdict token reason) : contents token = .error reason := by
  cases h with
  | refused h => exact contents_of_refused h
  | zero h hzero =>
    rw [contents_of_accepted h, hzero, Bytes.ofNat_zero]
    rfl
  | marker h hpositive hmarker =>
    obtain ⟨rest, hbytes, -⟩ := ofNat_eq_leadingByte_cons hpositive
    rw [contents_of_accepted h, hbytes]
    exact if_neg hmarker

/-- A token with nothing wrong holds the bytes of its number behind the marker. -/
theorem contents_of_sound (h : Sound token) :
    ∃ inner, contents token = .ok inner ∧ inner.length = Nat.log 256 (number token) := by
  obtain ⟨rest, hbytes, hlength⟩ := ofNat_eq_leadingByte_cons h.positive
  refine ⟨rest, ?_, hlength⟩
  rw [contents_of_accepted h.accepted, hbytes]
  exact if_pos h.marked

theorem Sound.not_verdict (h : Sound token) : ¬∃ reason, Verdict token reason := by
  rintro ⟨reason, hverdict⟩
  obtain ⟨inner, hcontents, -⟩ := contents_of_sound h
  rw [contents_of_verdict hverdict] at hcontents
  cases hcontents

/-- A token has no two verdicts. -/
theorem Verdict.eq {other : Malformed} (h : Verdict token reason) (h' : Verdict token other) :
    reason = other := by
  have hcontents := contents_of_verdict h
  rw [contents_of_verdict h'] at hcontents
  exact (Except.error.inj hcontents).symm

/-! ### The outcomes of both kinds of tokens -/

theorem decompress_cases (compressed : Bytes) :
    (∃ data, Zlib.decompress compressed = .ok data) ∨
      Zlib.decompress compressed = .error .corrupted := by
  rw [Zlib.decompress]
  cases Zlib.inflate Zlib.maxInflated compressed with
  | none => exact Or.inr rfl
  | some data => exact Or.inl ⟨data, rfl⟩

theorem decodePayload_of_sound (h : Sound token) (codec : TenantCodec) (tenant : String) :
    (∃ data, codec.decodePayload token tenant = .ok data) ∨
      codec.decodePayload token tenant = .error .corrupted := by
  obtain ⟨inner, hcontents, -⟩ := contents_of_sound h
  rw [TenantCodec.decodePayload_of_ok hcontents]
  exact decompress_cases _

theorem resolve_of_sound_of_lt (h : Sound token) (hshort : Nat.log 256 (number token) < 32)
    (sealer : TokenSealer) : sealer.resolve token = .error (.malformed .tooShort) := by
  obtain ⟨inner, hcontents, hlength⟩ := contents_of_sound h
  exact TokenSealer.resolve_of_short hcontents (hlength ▸ hshort)

theorem isPastTag_cases {answer : Except Fault String} (h : TokenSealer.IsPastTag answer) :
    (∃ text, answer = .ok text) ∨ answer = .error .decryptionFailed ∨
      answer = .error .corrupted := by
  cases answer with
  | ok text => exact Or.inl ⟨text, rfl⟩
  | error fault =>
    cases fault with
    | decryptionFailed => exact Or.inr (Or.inl rfl)
    | corrupted => exact Or.inr (Or.inr rfl)
    | _ => exact h.elim

/-- With room for an integrity tag the answer tells of the tag or of what is behind it. -/
theorem resolve_of_sound_of_le (h : Sound token) (hroom : 32 ≤ Nat.log 256 (number token))
    (sealer : TokenSealer) :
    (∃ text, sealer.resolve token = .ok text) ∨ sealer.resolve token = .error .tampered ∨
      sealer.resolve token = .error .decryptionFailed ∨
      sealer.resolve token = .error .corrupted := by
  obtain ⟨inner, hcontents, hlength⟩ := contents_of_sound h
  have htag : (inner.drop (inner.length - 32)).length = TokenSealer.tagSize := by
    rw [List.length_drop, hlength]
    exact Nat.sub_sub_self hroom
  rw [← List.take_append_drop (inner.length - 32) inner] at hcontents
  rw [TokenSealer.resolve_of_contents hcontents htag]
  split
  · rcases isPastTag_cases (TokenSealer.isPastTag_unlock sealer _) with htext | hfailed
    · exact Or.inl htext
    · exact Or.inr (Or.inr hfailed)
  · exact Or.inr (Or.inl rfl)

/-- The verdict on a token is the reason for which it is refused, as the token of a payload and as a
sealed one, whatever the keys and secrets; a sealed token is also too short when fewer than 32 bytes
follow its marker. Every other token of a payload gives the payload or is corrupted, and every other
sealed token gives a text or is found out by its tag, by the cipher or by what it inflates to. -/
theorem verdict_decides (codec : TenantCodec) (tenant : String) (sealer : TokenSealer)
    (token : String) :
    (∀ reason, codec.decodePayload token tenant = .error (.malformed reason)
      ↔ Verdict token reason) ∧
    ((∃ reason, Verdict token reason) ∨ (∃ data, codec.decodePayload token tenant = .ok data) ∨
      codec.decodePayload token tenant = .error .corrupted) ∧
    (∀ reason, sealer.resolve token = .error (.malformed reason) ↔
      Verdict token reason ∨
        (¬∃ other, Verdict token other) ∧ Nat.log 256 (number token) < 32 ∧ reason = .tooShort) ∧
    ((∃ reason, Verdict token reason) ∨ Nat.log 256 (number token) < 32 ∨
      (∃ text, sealer.resolve token = .ok text) ∨ sealer.resolve token = .error .tampered ∨
      sealer.resolve token = .error .decryptionFailed ∨
      sealer.resolve token = .error .corrupted) := by
  rcases verdict_or_sound token with ⟨verdict, hverdict⟩ | hsound
  · have hcontents := contents_of_verdict hverdict
    have hreason : ∀ reason,
        Fault.malformed verdict = .malformed reason ↔ Verdict token reason := by
      intro reason
      rw [Fault.malformed.injEq]
      exact ⟨fun h => h ▸ hverdict, hverdict.eq⟩
    refine ⟨fun reason => ?_, Or.inl ⟨verdict, hverdict⟩, fun reason => ?_,
      Or.inl ⟨verdict, hverdict⟩⟩
    · rw [TenantCodec.decodePayload_of_error hcontents, Except.error.injEq, hreason]
    · rw [TokenSealer.resolve_of_malformed hcontents, Except.error.injEq, hreason, iff_self_or]
      exact fun h => absurd ⟨verdict, hverdict⟩ h.1
  · have hnone := hsound.not_verdict
    have hno : ∀ reason, ¬Verdict token reason := fun reason h => hnone ⟨reason, h⟩
    have hpayload := decodePayload_of_sound hsound codec tenant
    refine ⟨fun reason => ?_, Or.inr hpayload, fun reason => ?_, Or.inr ?_⟩
    · refine iff_of_false ?_ (hno reason)
      rcases hpayload with ⟨data, hdata⟩ | hdata
      · rw [hdata]
        rintro ⟨⟩
      · rw [hdata]
        rintro ⟨⟩
    · rw [or_iff_right (hno reason), and_iff_right hnone]
      rcases Nat.lt_or_ge (Nat.log 256 (number token)) 32 with hshort | hroom
      · rw [resolve_of_sound_of_lt hsound hshort, Except.error.injEq, Fault.malformed.injEq,
          and_iff_right hshort]
        exact eq_comm
      · refine iff_of_false ?_ fun h => absurd h.1 (Nat.not_lt.mpr hroom)
        rcases resolve_of_sound_of_le hsound hroom sealer with ⟨text, h⟩ | h | h | h
        all_goals
          rw [h]
          rintro ⟨⟩
    · rcases Nat.lt_or_ge (Nat.log 256 (number token)) 32 with hshort | hroom
      · exact Or.inl hshort
      · exact Or.inr (resolve_of_sound_of_le hsound hroom sealer)

end Envelope

end ShortLink
