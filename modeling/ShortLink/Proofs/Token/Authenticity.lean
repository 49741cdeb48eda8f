import Mathlib.Data.Set.Basic
import ShortLink.Proofs.Token.Sealed

/-!
# Only authentic tokens are opened

Whoever wants an answer that depends on the cipher must present a byte string with its integrity
tag. The tag of an issued token serves for that token alone, up to zeros in front of it, so any
other token that is opened carries the tag of a byte string for which none was issued. Nothing is
assumed of the functions of the sealer, and nothing of the compressor.

## Main definitions

- `TokenSealer.IsPastTag` — the answers that tell of what is behind the integrity tag
- `TokenSealer.Authentic` — tokens with the integrity tag of what they hold
- `TokenSealer.Issued` — sets of issued tokens that give their texts back

## Main results

- `TokenSealer.isPastTag_resolve_iff` — which tokens get past their integrity tag
- `TokenSealer.only_authentic_opened` — what an opened token is, and what a changed one gives
-/

namespace ShortLink.TokenSealer

open Radix62 (maxToken)
open Envelope (marker)

/-- The answers that tell of what is behind the integrity tag. -/
def IsPastTag : Except Fault String → Prop
  | .ok _ => True
  | .error .decryptionFailed => True
  | .error .corrupted => True
  | .error _ => False

/-- A token decodes to a byte string and a tag of 32 bytes behind the marker, and the tag is that
of the byte string. -/
def Authentic (sealer : TokenSealer) (token : String) (body tag : Bytes) : Prop :=
  Radix62.decode token = .ok (marker :: (body ++ tag)) ∧ tag.length = tagSize ∧
    tag = sealer.tag body

/-- A set of nonces and texts whose tokens give the texts back. -/
def Issued (sealer : TokenSealer) (compress : Bytes → Bytes) (issued : Set (Bytes × String)) :
    Prop :=
  ∀ nonce text, (nonce, text) ∈ issued →
    sealer.resolve (sealer.create nonce text compress) = .ok text

variable {sealer : TokenSealer} {compress : Bytes → Bytes} {token : String} {body tag : Bytes}

/-- Whatever is behind a right integrity tag, the answer tells of it. -/
theorem isPastTag_unlock (sealer : TokenSealer) (body : Bytes) : IsPastTag (sealer.unlock body) := by
  by_cases hshort : body.length < nonceSize
  · rw [unlock_of_short hshort]
    trivial
  have hnonce : (body.take nonceSize).length = nonceSize := by
    rw [List.length_take]
    omega
  rw [← List.take_append_drop nonceSize body, unlock_append hnonce]
  cases sealer.decrypt? (body.take nonceSize) (body.drop nonceSize) with
  | none => trivial
  | some compressed =>
    show IsPastTag (Zlib.decompress compressed >>= asText)
    rw [Zlib.decompress]
    cases Zlib.inflate Zlib.maxInflated compressed with
    | none => trivial
    | some bytes =>
      show IsPastTag (asText bytes)
      rw [asText]
      cases Bytes.toText? bytes with
      | none => trivial
      | some text => trivial

/-- What there is to check a tag on: nothing, too little, or a byte string and a tag. -/
theorem contents_cases (token : String) :
    (∃ reason, Envelope.contents token = .error reason) ∨
    (∃ contents, Envelope.contents token = .ok contents ∧ contents.length < tagSize) ∨
    ∃ body tag, Envelope.contents token = .ok (body ++ tag) ∧ tag.length = tagSize := by
  cases Envelope.contents token with
  | error reason => exact Or.inl ⟨reason, rfl⟩
  | ok contents =>
    by_cases hshort : contents.length < tagSize
    · exact Or.inr (Or.inl ⟨contents, rfl, hshort⟩)
    · refine Or.inr (Or.inr ⟨contents.take (contents.length - tagSize),
        contents.drop (contents.length - tagSize), ?_, ?_⟩)
      · rw [List.take_append_drop]
      · rw [List.length_drop]
        omega

/-- A token gets past its integrity tag when it is authentic and not too long. -/
theorem isPastTag_resolve_iff :
    IsPastTag (sealer.resolve token)
      ↔ token.length ≤ maxToken ∧ ∃ body tag, sealer.Authentic token body tag := by
  constructor
  · intro h
    obtain ⟨reason, hcontents⟩ | ⟨contents, hcontents, hshort⟩ | ⟨body, tag, hcontents, htag⟩ :=
      contents_cases token
    · rw [resolve_of_malformed hcontents] at h
      exact h.elim
    · rw [resolve_of_short hcontents hshort] at h
      exact h.elim
    · rw [resolve_of_contents hcontents htag] at h
      obtain ⟨hlength, hdecode⟩ := Envelope.contents_eq_ok_iff.mp hcontents
      by_cases hright : sealer.tag body = tag
      · exact ⟨hlength, body, tag, hdecode, htag, hright.symm⟩
      · rw [if_neg hright] at h
        exact h.elim
  · rintro ⟨hlength, body, tag, hdecode, htag, hright⟩
    have hcontents := Envelope.contents_eq_ok_iff.mpr ⟨hlength, hdecode⟩
    rw [resolve_of_contents hcontents htag, if_pos hright.symm]
    exact isPastTag_unlock sealer body

theorem resolve_congr {token' : String} (h : Envelope.contents token = Envelope.contents token') :
    sealer.resolve token = sealer.resolve token' := by
  rw [resolve, resolve, h]

theorem decode_create (sealer : TokenSealer) (nonce : Bytes) (text : String)
    (compress : Bytes → Bytes) :
    Radix62.decode (sealer.create nonce text compress)
      = .ok (marker :: (sealer.sealedPart nonce text compress
          ++ sealer.tag (sealer.sealedPart nonce text compress))) :=
  Envelope.decode_close _

/-- A token is authentic in one way only. -/
theorem Authentic.body_eq {body' tag' : Bytes} (h : sealer.Authentic token body tag)
    (h' : sealer.Authentic token body' tag') : body = body' := by
  obtain ⟨hdecode, hlength, -⟩ := h
  obtain ⟨hdecode', hlength', -⟩ := h'
  rw [hdecode, Except.ok.injEq, List.cons.injEq] at hdecode'
  exact (List.append_inj' hdecode'.2 (hlength.trans hlength'.symm)).1

/-- An authentic token with the sealed part of an issued one is that one, with zeros in front. -/
theorem Authentic.eq_zeros_append {nonce : Bytes} {text : String}
    (h : sealer.Authentic token (sealer.sealedPart nonce text compress) tag)
    (hlength : token.length ≤ maxToken) :
    (∃ n, token = Radix62.zeros n ++ sealer.create nonce text compress) ∧
      sealer.resolve token = sealer.resolve (sealer.create nonce text compress) := by
  obtain ⟨hdecode, -, rfl⟩ := h
  obtain ⟨n, hn⟩ := Radix62.exists_zeros_append_encode hdecode (List.cons_ne_nil _ _)
  rw [show Radix62.encode _ = sealer.create nonce text compress from rfl] at hn
  refine ⟨⟨n, hn⟩, resolve_congr ?_⟩
  -- The issued token is no longer than the padded one, so it is not refused either.
  have hshort : (sealer.create nonce text compress).length ≤ maxToken := by
    rw [hn, Radix62.length_zeros_append] at hlength
    omega
  rw [Envelope.contents_eq_ok_iff.mpr ⟨hlength, hdecode⟩,
    Envelope.contents_eq_ok_iff.mpr ⟨hshort, decode_create sealer nonce text compress⟩]

/-- Without the right tag the cipher has no part in the answer. -/
theorem resolve_eq_of_not_authentic (encrypt : Bytes → Bytes → Bytes)
    (decrypt? : Bytes → Bytes → Option Bytes) (h : ¬∃ body tag, sealer.Authentic token body tag) :
    resolve ⟨sealer.tag, encrypt, decrypt?⟩ token = sealer.resolve token := by
  obtain ⟨reason, hcontents⟩ | ⟨contents, hcontents, hshort⟩ | ⟨body, tag, hcontents, htag⟩ :=
    contents_cases token
  · rw [resolve_of_malformed hcontents, resolve_of_malformed hcontents]
  · rw [resolve_of_short hcontents hshort, resolve_of_short hcontents hshort]
  · obtain ⟨-, hdecode⟩ := Envelope.contents_eq_ok_iff.mp hcontents
    have hwrong : ¬sealer.tag body = tag := by
      intro hright
      exact h ⟨body, tag, hdecode, htag, hright.symm⟩
    rw [resolve_of_contents hcontents htag, resolve_of_contents hcontents htag, if_neg hwrong]
    exact (if_neg hwrong).symm

/-- Nothing is opened but what is authentic. What is opened with the sealed part of an issued token
is that token, with zeros in front, and gives its text; anything else that is opened shows the tag
of a byte string for which none was issued. The sealed part of an issued token with another tag is
found out, and as long as a token is not authentic the cipher has no part in the answer. -/
theorem only_authentic_opened (sealer : TokenSealer) {issued : Set (Bytes × String)}
    (hissued : sealer.Issued compress issued) (token : String) :
    (IsPastTag (sealer.resolve token) →
      ∃ body tag, sealer.Authentic token body tag ∧
        ∀ nonce text, (nonce, text) ∈ issued → body = sealer.sealedPart nonce text compress →
          (∃ n, token = Radix62.zeros n ++ sealer.create nonce text compress) ∧
          sealer.resolve token = .ok text) ∧
    (IsPastTag (sealer.resolve token) →
      (∀ nonce text, (nonce, text) ∈ issued →
        ∀ n, token ≠ Radix62.zeros n ++ sealer.create nonce text compress) →
      ∃ body tag, sealer.Authentic token body tag ∧
        ∀ nonce text, (nonce, text) ∈ issued → body ≠ sealer.sealedPart nonce text compress) ∧
    (∀ nonce text received, token.length ≤ maxToken →
      Radix62.decode token = .ok (marker :: (sealer.sealedPart nonce text compress ++ received)) →
      received.length = tagSize → received ≠ sealer.tag (sealer.sealedPart nonce text compress) →
      sealer.resolve token = .error .tampered) ∧
    (∀ encrypt decrypt?, (¬∃ body tag, sealer.Authentic token body tag) →
      resolve ⟨sealer.tag, encrypt, decrypt?⟩ token = sealer.resolve token) := by
  have hopened : IsPastTag (sealer.resolve token) →
      ∃ body tag, sealer.Authentic token body tag ∧
        ∀ nonce text, (nonce, text) ∈ issued → body = sealer.sealedPart nonce text compress →
          (∃ n, token = Radix62.zeros n ++ sealer.create nonce text compress) ∧
          sealer.resolve token = .ok text := by
    intro hpast
    obtain ⟨hlength, body, tag, hauthentic⟩ := isPastTag_resolve_iff.mp hpast
    refine ⟨body, tag, hauthentic, ?_⟩
    rintro nonce text hmem rfl
    obtain ⟨hzeros, hsame⟩ := hauthentic.eq_zeros_append hlength
    exact ⟨hzeros, hsame.trans (hissued nonce text hmem)⟩
  refine ⟨hopened, ?_, ?_, ?_⟩
  · -- With a sealed part that was issued, the token would be one of those left out.
    intro hpast hnone
    obtain ⟨body, tag, hauthentic, hissue⟩ := hopened hpast
    refine ⟨body, tag, hauthentic, ?_⟩
    intro nonce text hmem hbody
    obtain ⟨⟨n, hn⟩, -⟩ := hissue nonce text hmem hbody
    exact hnone nonce text hmem n hn
  · intro nonce text received hlength hdecode hreceived hother
    have hcontents := Envelope.contents_eq_ok_iff.mpr ⟨hlength, hdecode⟩
    rw [resolve_of_contents hcontents hreceived, if_neg hother.symm]
  · intro encrypt decrypt? hnot
    exact resolve_eq_of_not_authentic encrypt decrypt? hnot

/-- A token for a text, a second one with a zero in front, and a third one whose tag was turned
bit by bit. -/
theorem only_authentic_opened_sample :
    let sealer := ofSettings sample
    let nonce : Bytes := List.replicate nonceSize 0
    let url := "https://example.com/a"
    let turned := (sealer.tag (sealer.sealedPart nonce url Zlib.compress)).map (~~~ ·)
    let changed := Envelope.close (sealer.sealedPart nonce url Zlib.compress ++ turned)
    sealer.Issued Zlib.compress {(nonce, url)} ∧
    sealer.resolve (Radix62.zeros 1 ++ sealer.create nonce url Zlib.compress) = .ok url ∧
    (∃ body tag, sealer.Authentic (sealer.create nonce url Zlib.compress) body tag) ∧
    sealer.resolve changed = .error .tampered ∧
    resolve ⟨sealer.tag, fun _ _ => [], fun _ _ => none⟩ changed = .error .tampered := by
  intro sealer nonce url turned changed
  have hlaw : sealer.Lawful := lawful_ofSettings sample
  have hnonce : nonce.length = nonceSize := List.length_replicate
  have hsize : (Zlib.compress (Bytes.ofText url)).length ≤ 40 := length_compress_sample
  have hcontents := @length_contents sealer url nonce Zlib.compress hlaw hnonce
  have hlength : (sealer.create nonce url Zlib.compress).length ≤ 8191 := by
    rw [create_eq]
    exact Envelope.length_close_le (m := 100) (by omega) (by decide) (by decide +kernel)
  have hissued : sealer.Issued Zlib.compress {(nonce, url)} := by
    rintro _ _ ⟨⟩
    rw [resolve_create_of_le hlaw Zlib.lossless_compress hnonce (by unfold maxToken; omega),
      if_pos (by decide)]
  let signed := sealer.sealedPart nonce url Zlib.compress
  have htag := hlaw.length_tag signed
  have hauthentic : sealer.Authentic (sealer.create nonce url Zlib.compress) signed
      (sealer.tag signed) := ⟨decode_create sealer nonce url Zlib.compress, htag, rfl⟩
  have hpadded : sealer.Authentic (Radix62.zeros 1 ++ sealer.create nonce url Zlib.compress) signed
      (sealer.tag signed) :=
    ⟨Radix62.decode_zeros_append 1 hauthentic.1, htag, rfl⟩
  have hpadded_le :
      (Radix62.zeros 1 ++ sealer.create nonce url Zlib.compress).length ≤ maxToken := by
    rw [Radix62.length_zeros_append]
    unfold maxToken
    omega
  have hturned : turned.length = tagSize := by rw [List.length_map, htag]
  have hother : turned ≠ sealer.tag signed := by
    apply Bytes.map_complement_ne
    rw [← List.length_pos_iff, htag]
    decide
  have hchanged_le : changed.length ≤ maxToken := by
    apply Envelope.close_fits
    rw [List.length_append, hturned, ← htag, ← List.length_append, hcontents]
    unfold Envelope.maxContents
    omega
  have htampered := (only_authentic_opened sealer hissued changed).2.2.1 nonce url turned hchanged_le
    (Envelope.decode_close _) hturned hother
  refine ⟨hissued, ?_, ?_, htampered, ?_⟩
  · -- The token with a zero in front.
    have hpast := isPastTag_resolve_iff.mpr ⟨hpadded_le, _, _, hpadded⟩
    obtain ⟨body, tag, hfound, hissue⟩ := (only_authentic_opened sealer hissued _).1 hpast
    exact (hissue nonce url rfl (hfound.body_eq hpadded)).2
  · -- Where nothing was issued, any token that is opened is a forgery.
    have hnone : sealer.Issued Zlib.compress ∅ := fun _ _ hmem => hmem.elim
    have hpast := isPastTag_resolve_iff.mpr ⟨Nat.le_succ_of_le hlength, _, _, hauthentic⟩
    obtain ⟨body, tag, hfound, -⟩ := (only_authentic_opened sealer hnone _).2.1 hpast
      fun _ _ hmem => hmem.elim
    exact ⟨body, tag, hfound⟩
  · have hnot : ¬∃ body tag, sealer.Authentic changed body tag := by
      intro hauthentic
      have hpast := isPastTag_resolve_iff.mpr ⟨hchanged_le, hauthentic⟩
      rw [htampered] at hpast
      exact hpast
    rw [(only_authentic_opened sealer hissued changed).2.2.2 _ _ hnot, htampered]

end ShortLink.TokenSealer
