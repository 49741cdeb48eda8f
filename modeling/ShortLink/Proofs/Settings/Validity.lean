import ShortLink.Link.Service
import ShortLink.Proofs.Checked.Pipeline
import ShortLink.Proofs.Settings.Builders

/-!
# Settings without proofs

Key rings and settings once more, as plain records that can hold anything: a version with no key, no
rounds at all, an empty secret. Their builders make the checks and nothing else keeps the records in
range, and what is made of them afterwards indexes a list, cuts a byte string or takes a key of a
fixed length without asking. All that builders ever make of plain records is the plain form of key
rings and settings that carry their proofs, so nothing that is made of them afterwards fails.

## Main definitions

- `RawKeyRing`, `RawSettings` — plain records
- `RawKeyRing.Valid`, `RawSettings.Valid` — what key rings and settings carry proofs of
- `Settings.Builders.raw` — the builders of plain records
- `RawKeyRing.activeKey?`, `RawKeyRing.tenantKey?`, `RawSettings.codec?`, `RawSettings.sealer?`,
  `RawSettings.service` — what is made of them

## Main results

- `KeyRing.exists_raw_eq_iff`, `Settings.exists_raw_eq_iff` — plain forms are the valid records
- `Settings.Builders.hom_raw` — builders do the same to plain forms
- `RawKeyRing.Valid.exists_keys`, `RawSettings.Valid.exists_service` — valid records serve their
  purposes
- `Settings.valid_of_builders` — what builders make is valid, and so serves its purposes
-/

namespace ShortLink

/-- A key ring that can hold anything. -/
structure RawKeyRing where
  keys : List UInt32
  active : Nat
  rounds : UInt8
  master : Option Bytes
  deriving DecidableEq

/-- Settings that can hold anything. -/
structure RawSettings where
  keyRing : RawKeyRing
  aesSecret : Bytes
  hmacSecret : Bytes
  node : UInt16
  deriving DecidableEq

/-- The active version has a key, and the number of rounds and the master secret are in range. -/
structure RawKeyRing.Valid (ring : RawKeyRing) : Prop where
  keys_ne_nil : ring.keys ≠ []
  active_lt : ring.active < ring.keys.length
  one_le_rounds : 1 ≤ ring.rounds
  rounds_le_ten : ring.rounds ≤ 10
  master_ne : ring.master ≠ some []

/-- The key ring is valid, and the secrets and the node are in range. -/
structure RawSettings.Valid (settings : RawSettings) : Prop where
  keyRing : settings.keyRing.Valid
  length_aesSecret : settings.aesSecret.length = 32
  hmacSecret_ne_nil : settings.hmacSecret ≠ []
  node_le : settings.node ≤ 1023

/-! ### Plain forms -/

/-- The plain form of a key ring. -/
def KeyRing.raw (ring : KeyRing) : RawKeyRing :=
  ⟨ring.keys, ring.active.val, ring.rounds.val, ring.master.map Secret.bytes⟩

/-- The plain form of settings. -/
def Settings.raw (settings : Settings) : RawSettings :=
  ⟨settings.keyRing.raw, settings.aesSecret, settings.hmacSecret.bytes, settings.node.val⟩

theorem KeyRing.valid_raw (ring : KeyRing) : ring.raw.Valid where
  keys_ne_nil := List.length_pos_iff.mp (Nat.zero_lt_of_lt ring.active.isLt)
  active_lt := ring.active.isLt
  one_le_rounds := ring.rounds.one_le
  rounds_le_ten := ring.rounds.le_ten
  master_ne := by
    intro h
    obtain ⟨secret, -, hempty⟩ := Option.map_eq_some_iff.mp h
    exact secret.nonempty hempty

/-- Plain forms of key rings are the valid records. -/
theorem KeyRing.exists_raw_eq_iff {plain : RawKeyRing} :
    (∃ ring : KeyRing, ring.raw = plain) ↔ plain.Valid := by
  constructor
  · rintro ⟨ring, rfl⟩
    exact ring.valid_raw
  · rintro ⟨-, hactive, hone, hten, hmaster⟩
    obtain ⟨keys, active, rounds, master⟩ := plain
    cases master with
    | none => exact ⟨⟨keys, ⟨active, hactive⟩, ⟨rounds, hone, hten⟩, none⟩, rfl⟩
    | some secret =>
      have hne : secret ≠ [] := fun h => hmaster (congrArg some h)
      exact ⟨⟨keys, ⟨active, hactive⟩, ⟨rounds, hone, hten⟩, some ⟨secret, hne⟩⟩, rfl⟩

theorem Settings.valid_raw (settings : Settings) : settings.raw.Valid where
  keyRing := settings.keyRing.valid_raw
  length_aesSecret := settings.length_aesSecret
  hmacSecret_ne_nil := settings.hmacSecret.nonempty
  node_le := settings.node.val_le

/-- Plain forms of settings are the valid records. -/
theorem Settings.exists_raw_eq_iff {plain : RawSettings} :
    (∃ settings : Settings, settings.raw = plain) ↔ plain.Valid := by
  constructor
  · rintro ⟨settings, rfl⟩
    exact settings.valid_raw
  · rintro ⟨hring, hlength, hne, hnode⟩
    obtain ⟨ring, hraw⟩ := KeyRing.exists_raw_eq_iff.mpr hring
    obtain ⟨keyRing, aesSecret, hmacSecret, node⟩ := plain
    obtain rfl : ring.raw = keyRing := hraw
    exact ⟨⟨ring, aesSecret, hlength, ⟨hmacSecret, hne⟩, ⟨node, hnode⟩⟩, rfl⟩

/-! ### Builders

What has the name of a builder makes the same checks and keeps nothing but the values, here and
below. -/

namespace RawKeyRing

def ofKeys (keys : List UInt32) : Except SettingsError RawKeyRing :=
  if keys.isEmpty then .error .noKeys else .ok ⟨keys, 0, 3, none⟩

def withActive (ring : RawKeyRing) (version : Nat) : Except SettingsError RawKeyRing :=
  if ring.keys.length ≤ version then
    .error (.versionOutOfRange (toString version) ring.keys.length)
  else .ok { ring with active := version }

def withRounds (ring : RawKeyRing) (rounds : UInt8) : Except SettingsError RawKeyRing :=
  if rounds = 0 ∨ 10 < rounds then .error (.roundsOutOfRange (toString rounds.toNat))
  else .ok { ring with rounds }

def withMaster (ring : RawKeyRing) (secret : Bytes) : RawKeyRing :=
  { ring with master := if secret.isEmpty then none else some secret }

end RawKeyRing

namespace RawSettings

def ofSecrets (keyRing : RawKeyRing) (aesSecret hmacSecret : Bytes) :
    Except SettingsError RawSettings :=
  match Checked.sized aesSecretSize aesSecret with
  | none => .error (.aesSecretSize aesSecret.length)
  | some aesSecret =>
    if hmacSecret.isEmpty then .error .emptyHmacSecret
    else .ok ⟨keyRing, aesSecret, hmacSecret, 0⟩

def withNode (settings : RawSettings) (node : UInt16) : Except SettingsError RawSettings :=
  if 1023 < node then .error (.nodeOutOfRange (toString node.toNat))
  else .ok { settings with node }

end RawSettings

namespace Settings.Builders

/-- The builders of plain records. -/
def raw : Builders RawKeyRing RawSettings where
  ofKeys := RawKeyRing.ofKeys
  withActive := RawKeyRing.withActive
  withRounds := RawKeyRing.withRounds
  withMaster := RawKeyRing.withMaster
  ofSecrets := RawSettings.ofSecrets
  withNode := RawSettings.withNode
  keyRing := RawSettings.keyRing

/-- Builders make of plain forms what they make of the key rings and settings themselves. -/
theorem hom_raw : Hom checked raw KeyRing.raw Settings.raw where
  ofKeys keys := by
    cases keys with
    | nil => rfl
    | cons key rest => rfl
  withActive ring version := by
    show ring.raw.withActive version = (ring.withActive version).map KeyRing.raw
    by_cases h : version < ring.keys.length
    · rw [RawKeyRing.withActive, withActive_eq_ok h]
      exact if_neg (Nat.not_le.mpr h)
    · rw [RawKeyRing.withActive, withActive_eq_error_iff.mpr ⟨Nat.not_lt.mp h, rfl⟩]
      exact if_pos (Nat.not_lt.mp h)
  withRounds ring rounds := by
    show ring.raw.withRounds rounds = (ring.withRounds rounds).map KeyRing.raw
    have hrange : (rounds = 0 ∨ 10 < rounds) ↔ ¬(1 ≤ rounds ∧ rounds ≤ 10) := by
      rw [← UInt8.toNat_inj, UInt8.lt_iff_toNat_lt, UInt8.le_iff_toNat_le, UInt8.le_iff_toNat_le]
      simp only [UInt8.reduceToNat]
      omega
    by_cases h : 1 ≤ rounds ∧ rounds ≤ 10
    · rw [RawKeyRing.withRounds, withRounds_eq_ok h]
      exact if_neg (hrange.not.mpr (not_not.mpr h))
    · rw [RawKeyRing.withRounds, withRounds_eq_error_iff.mpr ⟨h, rfl⟩]
      exact if_pos (hrange.mpr h)
  withMaster ring secret := by
    cases secret with
    | nil => rfl
    | cons b rest => rfl
  ofSecrets ring aesSecret hmacSecret := by
    show RawSettings.ofSecrets ring.raw aesSecret hmacSecret
      = (Settings.ofSecrets ring aesSecret hmacSecret).map Settings.raw
    by_cases h : aesSecret.length = aesSecretSize
    · rw [RawSettings.ofSecrets, Checked.sized_of_length h]
      by_cases hne : hmacSecret = []
      · rw [ofSecrets_eq_error_iff.mpr (Or.inr ⟨h, hne, rfl⟩), hne]
        rfl
      · rw [ofSecrets_eq_ok h hne]
        exact if_neg (mt List.isEmpty_iff.mp hne)
    · rw [RawSettings.ofSecrets, Checked.sized, if_neg h,
        ofSecrets_eq_error_iff.mpr (Or.inl ⟨h, rfl⟩)]
      rfl
  withNode settings node := by
    show settings.raw.withNode node = (settings.withNode node).map Settings.raw
    by_cases h : node ≤ TimedId.maxNode
    · rw [RawSettings.withNode, withNode_eq_ok h]
      exact if_neg (UInt16.not_lt.mpr h)
    · rw [RawSettings.withNode, withNode_eq_error_iff.mpr ⟨h, rfl⟩]
      exact if_pos (UInt16.not_le.mp h)
  keyRing settings := rfl

end Settings.Builders

/-! ### Uses -/

namespace RawKeyRing

/-- The key that stands at the active version. -/
def activeKey? (ring : RawKeyRing) : Option UInt32 := ring.keys[ring.active]?

/-- The key of a tenant, from the first four bytes that are derived, or else the active one. -/
def tenantKey? (ring : RawKeyRing) (tenant : String) : Option UInt32 :=
  match ring.master, tenant.isEmpty with
  | some secret, false => do
    let derived := Crypto.hkdfBlock (Crypto.hkdfExtract secret) (KeyRing.tenantPurpose tenant)
    let parts ← Checked.splitAt 4 derived
    return Bytes.toWord32 parts.1
  | _, _ => ring.activeKey?

end RawKeyRing

/-- A codec with a key that was looked up when it was made. -/
structure RawCodec where
  ring : RawKeyRing
  key : UInt32

/-- A service with its ids. -/
structure RawService where
  codec : RawCodec
  sealer : TokenSealer
  ids : TimedId.Generator

namespace RawSettings

/-- The codec at the active version. -/
def codec? (settings : RawSettings) : Option RawCodec := do
  let key ← settings.keyRing.activeKey?
  return ⟨settings.keyRing, key⟩

/-- The functions for the secrets. The encryption takes a key of 32 bytes; a tag has a key of any
length. -/
def sealer? (settings : RawSettings) : Option TokenSealer := do
  let key ← Checked.sized 32 settings.aesSecret
  return ⟨Crypto.hmac settings.hmacSecret, Crypto.gcmEncrypt key, Crypto.gcmDecrypt? key⟩

/-- The service, which has a reason not to start when its node is none. -/
def service (settings : RawSettings) : Checked.Guarded SettingsError RawService := do
  let codec ← settings.codec?
  let sealer ← settings.sealer?
  let node ← TimedId.NodeId.ofWord settings.node
  return ⟨codec, sealer, { node }⟩

end RawSettings

/-- The plain form of a codec. -/
def TenantCodec.raw (codec : TenantCodec) : RawCodec :=
  ⟨codec.ring.raw, codec.ring.keys.get codec.version⟩

theorem KeyRing.activeKey?_raw (ring : KeyRing) : ring.raw.activeKey? = some ring.activeKey :=
  List.getElem?_eq_getElem ring.active.isLt

theorem KeyRing.tenantKey?_raw (ring : KeyRing) (tenant : String) :
    ring.raw.tenantKey? tenant = some (ring.tenantKey tenant) := by
  have hactive := ring.activeKey?_raw
  obtain ⟨keys, active, rounds, master⟩ := ring
  rw [RawKeyRing.tenantKey?, KeyRing.tenantKey, KeyRing.derivedKey?]
  cases master with
  | none => cases tenant.isEmpty <;> exact hactive
  | some secret =>
    cases tenant.isEmpty with
    | true => exact hactive
    | false =>
      have hlength : 4 ≤ (Crypto.hkdfBlock (Crypto.hkdfExtract secret.bytes)
          (tenantPurpose tenant)).length := by
        rw [Crypto.hkdfBlock, Crypto.length_hmac]
        decide
      show (Checked.splitAt 4 _ >>= fun parts => some (Bytes.toWord32 parts.1)) = _
      rw [Checked.splitAt_of_le hlength, List.splitAt_eq]
      rfl

theorem Settings.codec?_raw (settings : Settings) :
    settings.raw.codec? = some (TenantCodec.ofSettings settings).raw := by
  rw [RawSettings.codec?, Settings.raw, KeyRing.activeKey?_raw]
  rfl

theorem Settings.sealer?_raw (settings : Settings) :
    settings.raw.sealer? = some (.ofSettings settings) := by
  have hkey : Checked.sized 32 settings.raw.aesSecret = some settings.aesSecret :=
    Checked.sized_of_length settings.length_aesSecret
  rw [RawSettings.sealer?, hkey]
  rfl

theorem Settings.service_raw (settings : Settings) :
    settings.raw.service.run = some (.ok ⟨(TenantCodec.ofSettings settings).raw,
      .ofSettings settings, { node := settings.node }⟩) := by
  have hle : settings.raw.node ≤ TimedId.maxNode := settings.node.val_le
  have hnode : TimedId.NodeId.ofWord settings.raw.node = .ok settings.node := by
    rw [TimedId.NodeId.ofWord, TimedId.NodeId.ofWord?, dif_pos hle]
    rfl
  rw [RawSettings.service, Checked.lift_bind settings.codec?_raw,
    Checked.lift_bind settings.sealer?_raw, hnode]
  rfl

/-- A valid key ring has its active key and the keys of tenants. -/
theorem RawKeyRing.Valid.exists_keys {plain : RawKeyRing} (h : plain.Valid) :
    ∃ ring : KeyRing, ring.raw = plain ∧ plain.activeKey? = some ring.activeKey ∧
      ∀ tenant, plain.tenantKey? tenant = some (ring.tenantKey tenant) := by
  obtain ⟨ring, rfl⟩ := KeyRing.exists_raw_eq_iff.mpr h
  exact ⟨ring, rfl, ring.activeKey?_raw, ring.tenantKey?_raw⟩

/-- A codec, a sealer and a service can be made with valid settings. -/
theorem RawSettings.Valid.exists_service {plain : RawSettings} (h : plain.Valid) :
    ∃ settings : Settings, settings.raw = plain ∧
      plain.codec? = some (TenantCodec.ofSettings settings).raw ∧
      plain.sealer? = some (.ofSettings settings) ∧
      plain.service.run = some (.ok ⟨(TenantCodec.ofSettings settings).raw, .ofSettings settings,
        { node := settings.node }⟩) := by
  obtain ⟨settings, rfl⟩ := Settings.exists_raw_eq_iff.mpr h
  exact ⟨settings, rfl, settings.codec?_raw, settings.sealer?_raw, settings.service_raw⟩

/-- Whatever calls are made on builders, with whatever arguments, all key rings and settings that
they make are valid, and the plain forms of those that carry their proofs. So the active key and the
keys of tenants are there, and codecs, sealers and services are made without fail. -/
theorem Settings.valid_of_builders (actions : List Action) :
    Builders.raw.run actions = (Builders.checked.run actions).map KeyRing.raw Settings.raw ∧
    (∀ plain ∈ (Builders.raw.run actions).rings
        ++ (Builders.raw.run actions).configs.map RawSettings.keyRing,
      plain.Valid ∧ ∃ ring : KeyRing, ring.raw = plain ∧
        plain.activeKey? = some ring.activeKey ∧
        ∀ tenant, plain.tenantKey? tenant = some (ring.tenantKey tenant)) ∧
    ∀ plain ∈ (Builders.raw.run actions).configs, plain.Valid ∧ ∃ settings : Settings,
      settings.raw = plain ∧ plain.codec? = some (TenantCodec.ofSettings settings).raw ∧
      plain.sealer? = some (.ofSettings settings) ∧
      plain.service.run = some (.ok ⟨(TenantCodec.ofSettings settings).raw, .ofSettings settings,
        { node := settings.node }⟩) := by
  have hrun := Builders.hom_raw.run_map actions
  refine ⟨hrun, ?_, ?_⟩
  · intro plain hplain
    rw [hrun, List.mem_append] at hplain
    obtain ⟨ring, rfl⟩ : ∃ ring : KeyRing, ring.raw = plain := by
      rcases hplain with hring | hsettings
      · obtain ⟨ring, -, hring⟩ := List.mem_map.mp hring
        exact ⟨ring, hring⟩
      · obtain ⟨config, hconfig, rfl⟩ := List.mem_map.mp hsettings
        obtain ⟨settings, -, rfl⟩ := List.mem_map.mp hconfig
        exact ⟨settings.keyRing, rfl⟩
    exact ⟨ring.valid_raw, ring.valid_raw.exists_keys⟩
  · intro plain hplain
    rw [hrun] at hplain
    obtain ⟨settings, -, rfl⟩ := List.mem_map.mp hplain
    exact ⟨settings.valid_raw, settings.valid_raw.exists_service⟩

/-- Calls of every kind but one, four of which are refused. -/
def Settings.sampleActions : List Action :=
  [.ofKeys [], .ofKeys [777, 424242], .withActive 0 2, .withActive 0 1, .withRounds 1 0,
    .withMaster 1 [], .ofSecrets 2 (List.replicate 32 7) [1], .withNode 0 1024, .withNode 0 1023,
    .keyRing 1]

/-- The calls that are not refused make settings with which a service starts. -/
theorem Settings.valid_of_builders_refused :
    (Builders.raw.run sampleActions).complaints = [.noKeys, .versionOutOfRange "2" 2,
      .roundsOutOfRange "0", .nodeOutOfRange "1024"] ∧
    ∃ plain ∈ (Builders.raw.run sampleActions).configs, plain.node = 1023 ∧ plain.Valid ∧
      ∃ service, plain.service.run = some (.ok service) := by
  obtain ⟨-, -, hconfigs⟩ := Settings.valid_of_builders sampleActions
  let plain : RawSettings := ⟨⟨[777, 424242], 1, 3, none⟩, List.replicate 32 7, [1], 1023⟩
  have hplain : plain ∈ (Builders.raw.run sampleActions).configs := by decide +kernel
  obtain ⟨hvalid, settings, -, -, -, hservice⟩ := hconfigs plain hplain
  exact ⟨by decide +kernel, plain, hplain, rfl, hvalid, _, hservice⟩

end ShortLink
