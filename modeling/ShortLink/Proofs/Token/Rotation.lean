import ShortLink.Proofs.Token.Id

/-!
# Codes from before a rotation

A rotation puts keys behind the ones that are there and makes another version active. The codec at
the old version then has the same keys as before, so it writes and reads the same codes, and those
of tenants with keys of their own are the same at every version.

## Main definitions

- `TenantCodec.AgreeFor` — two codecs write and read the same codes for a tenant

## Main results

- `TenantCodec.key_of_shared`, `TenantCodec.key_of_derived` — where the key of a tenant comes from
- `TenantCodec.AgreeFor.of_key` — codecs agree for a tenant when they have the same key for it
- `TenantCodec.rotation_keeps_codes` — what becomes of codes when keys are rotated
-/

namespace ShortLink.TenantCodec

/-- Two codecs write and read the same codes for a tenant. -/
structure AgreeFor (ours theirs : TenantCodec) (tenant : String) : Prop where
  encodeId : ∀ id, ours.encodeId id tenant = theirs.encodeId id tenant
  decodeId : ∀ code, ours.decodeId code tenant = theirs.decodeId code tenant
  encodePayload : ∀ data (compress : Bytes → Bytes),
    ours.encodePayload data tenant compress = theirs.encodePayload data tenant compress
  decodePayload : ∀ token, ours.decodePayload token tenant = theirs.decodePayload token tenant

variable {codec ours theirs earlier : TenantCodec} {ring rotated : KeyRing} {tenant : String}
  {version : Nat}

theorem AgreeFor.of_key (hrounds : ours.rounds = theirs.rounds)
    (hkey : ours.key tenant = theirs.key tenant) : AgreeFor ours theirs tenant where
  encodeId id := by rw [TenantCodec.encodeId, TenantCodec.encodeId, hkey, hrounds]
  decodeId code := by rw [TenantCodec.decodeId, TenantCodec.decodeId, hkey, hrounds]
  encodePayload data compress := by
    rw [TenantCodec.encodePayload, TenantCodec.encodePayload, hkey, hrounds]
  decodePayload token := by rw [TenantCodec.decodePayload, TenantCodec.decodePayload, hkey, hrounds]

/-! ### Where keys come from -/

theorem derivedKey?_eq_none_iff :
    ring.derivedKey? tenant = none ↔ tenant = "" ∨ ring.master = none := by
  rw [KeyRing.derivedKey?]
  by_cases htenant : tenant = ""
  · subst htenant
    exact iff_of_true rfl (Or.inl rfl)
  · rw [if_neg (by rwa [String.isEmpty_iff]), Option.map_eq_none_iff]
    exact (or_iff_right htenant).symm

/-- Without a name or without a master secret a tenant has the key of the version. -/
theorem key_of_shared (h : tenant = "" ∨ codec.ring.master = none) :
    codec.key tenant = codec.ring.keys.get codec.version := by
  rw [key, derivedKey?_eq_none_iff.mpr h, Option.getD_none]

/-- Under a master secret a tenant with a name has the key that is derived for it. -/
theorem key_of_derived (hmaster : codec.ring.master ≠ none) (htenant : tenant ≠ "") :
    codec.key tenant = codec.ring.tenantKey tenant := by
  have hderived : codec.ring.derivedKey? tenant ≠ none := by
    rw [Ne, derivedKey?_eq_none_iff, not_or]
    exact ⟨htenant, hmaster⟩
  obtain ⟨word, hword⟩ := Option.ne_none_iff_exists'.mp hderived
  rw [key, KeyRing.tenantKey, hword, Option.getD_some, Option.getD_some]

/-! ### Versions -/

theorem withVersion?_eq_some_iff :
    codec.withVersion? version = some earlier ↔
      earlier.ring = codec.ring ∧ earlier.version.val = version := by
  obtain ⟨ring, active⟩ := codec
  obtain ⟨ring', active'⟩ := earlier
  rw [withVersion?]
  constructor
  · intro h
    split at h
    · cases h
      exact ⟨rfl, rfl⟩
    · cases h
  · rintro ⟨hring, rfl⟩
    obtain rfl : ring' = ring := hring
    exact dif_pos active'.isLt

theorem withVersion?_eq_none_iff :
    codec.withVersion? version = none ↔ codec.ring.keys.length ≤ version := by
  rw [withVersion?, dite_eq_right_iff, ← Nat.not_lt]
  exact forall_congr' fun _ => iff_of_false (by rintro ⟨⟩) not_false

theorem withVersion?_congr (h : ours.ring = theirs.ring) (version : Nat) :
    ours.withVersion? version = theirs.withVersion? version := by
  rw [withVersion?, withVersion?, h]

/-- The codec at the old version of a rotated key ring has the keys from before the rotation. -/
theorem key_of_rotated {added : List UInt32} (hkeys : rotated.keys = ring.keys ++ added)
    (hmaster : rotated.master = ring.master) (hring : earlier.ring = rotated)
    (hversion : earlier.version.val = ring.active.val) (tenant : String) :
    earlier.key tenant = (ofRing ring).key tenant := by
  subst hring
  have hderived : earlier.ring.derivedKey? tenant = ring.derivedKey? tenant := by
    rw [KeyRing.derivedKey?, KeyRing.derivedKey?, hmaster]
  have hkey : earlier.ring.keys.get earlier.version = ring.keys.get ring.active := by
    apply Option.some.inj
    rw [List.get_eq_getElem, List.get_eq_getElem, ← List.getElem?_eq_getElem,
      ← List.getElem?_eq_getElem, hversion, hkeys, List.getElem?_append_left ring.active.isLt]
  rw [key, key, hderived, hkey]
  rfl

/-- After a rotation the codec at the version that was active is there, and it writes and reads the
codes from before, for all tenants; so the ids behind them are still found. Versions are the indices
of the keys, and of two choices of a version the later one counts. A tenant with a key of its own
has the same codes at every version, and the codec at the active version uses the keys of the key
ring. -/
theorem rotation_keeps_codes {added : List UInt32} (hkeys : rotated.keys = ring.keys ++ added)
    (hrounds : rotated.rounds = ring.rounds) (hmaster : rotated.master = ring.master) :
    (∃ previous, (ofRing rotated).withVersion? ring.active = some previous ∧
      ∀ tenant, AgreeFor previous (ofRing ring) tenant ∧
        ∀ id, previous.decodeId ((ofRing ring).encodeId id tenant) tenant = .ok id) ∧
    (∀ (codec : TenantCodec) (version : Nat),
      codec.withVersion? version = none ↔ ¬version < codec.ring.keys.length) ∧
    (∀ (codec earlier : TenantCodec) (version later : Nat),
      codec.withVersion? version = some earlier →
        earlier.withVersion? later = codec.withVersion? later) ∧
    (∀ (codec earlier : TenantCodec) (version : Nat) (tenant : String),
      codec.ring.master ≠ none → tenant ≠ "" → codec.withVersion? version = some earlier →
        AgreeFor earlier codec tenant) ∧
    (∀ (codec : TenantCodec) (tenant : String), codec.version = codec.ring.active →
      codec.key tenant = codec.ring.tenantKey tenant) := by
  refine ⟨?_, ?_, ?_, ?_, ?_⟩
  · have hroom : ring.active.val < rotated.keys.length := by
      rw [hkeys, List.length_append]
      exact Nat.lt_add_right _ ring.active.isLt
    refine ⟨⟨rotated, ⟨ring.active, hroom⟩⟩, withVersion?_eq_some_iff.mpr ⟨rfl, rfl⟩, ?_⟩
    intro tenant
    have hagree : AgreeFor ⟨rotated, ⟨ring.active, hroom⟩⟩ (ofRing ring) tenant :=
      AgreeFor.of_key (congrArg Rounds.val hrounds) (key_of_rotated hkeys hmaster rfl rfl tenant)
    refine ⟨hagree, ?_⟩
    intro id
    rw [hagree.decodeId, decodeId_encodeId]
  · intro codec version
    rw [withVersion?_eq_none_iff, Nat.not_lt]
  · intro codec earlier version later h
    exact withVersion?_congr (withVersion?_eq_some_iff.mp h).1 later
  · intro codec earlier version tenant hsecret htenant h
    obtain ⟨hring, -⟩ := withVersion?_eq_some_iff.mp h
    apply AgreeFor.of_key
    · rw [rounds, rounds, hring]
    · rw [key_of_derived hsecret htenant, ← hring]
      exact key_of_derived (hring ▸ hsecret) htenant
  · intro codec tenant hactive
    by_cases hshared : tenant = "" ∨ codec.ring.master = none
    · rw [key_of_shared hshared, hactive, KeyRing.tenantKey,
        derivedKey?_eq_none_iff.mpr hshared]
      rfl
    · rw [not_or] at hshared
      exact key_of_derived hshared.2 hshared.1

/-- A key is added and made active: a code from before is still read at the old version, and no
longer at the new one, while a tenant with a key of its own notices nothing. -/
theorem rotation_keeps_codes_added :
    let secret : Secret := ⟨Bytes.ofText "tenant-derivation-secret", by decide⟩
    let ring : KeyRing := ⟨[777], ⟨0, by decide⟩, .standard, some secret⟩
    let rotated : KeyRing := ⟨[777, 905], ⟨1, by decide⟩, .standard, some secret⟩
    let code := (ofRing ring).encodeId 42 ""
    rotated.keys = ring.keys ++ [905] ∧ rotated.rounds = ring.rounds ∧
    rotated.master = ring.master ∧
    (∃ previous, (ofRing rotated).withVersion? 0 = some previous ∧
      previous.decodeId code "" = .ok 42 ∧ AgreeFor previous (ofRing rotated) "acme") ∧
    (ofRing rotated).decodeId code "" ≠ .ok 42 := by
  intro secret ring rotated code
  have hrotated := @rotation_keeps_codes ring rotated [905] rfl rfl rfl
  obtain ⟨previous, hprevious, hcodes⟩ := hrotated.1
  refine ⟨rfl, rfl, rfl, ⟨previous, hprevious, (hcodes "").2 42, ?_⟩, by decide +kernel⟩
  exact hrotated.2.2.2.1 (ofRing rotated) previous 0 "acme" (by decide) (by decide) hprevious

end ShortLink.TenantCodec
