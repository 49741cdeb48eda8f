import ShortLink.Crypto.Hmac
import ShortLink.Settings.Error

/-!
# Key rings

A key ring holds the versions of the 32-bit key that hides ids and payloads, the version in use, the
number of rounds, and the secret from which tenants get keys of their own. Writer and reader of a
code must agree on key and rounds; a difference gives another permutation and no error.

## Main definitions

- `Secret`, `Rounds` — non-empty byte strings and numbers of rounds in range
- `KeyRing` — the keys of a deployment
- `KeyRing.ofKeys`, `KeyRing.withActive`, `KeyRing.withRounds`, `KeyRing.withMaster` — building a
  key ring
- `KeyRing.activeKey`, `KeyRing.key?`, `KeyRing.tenantKey` — the keys
- `KeyRing.report` — a key ring without its secrets
-/

namespace ShortLink

/-- A byte string that is not empty. -/
structure Secret where
  bytes : Bytes
  nonempty : bytes ≠ []
  deriving DecidableEq

/-- The secret with the given bytes, when there are any. -/
def Secret.ofBytes? (bytes : Bytes) : Option Secret :=
  if h : bytes = [] then none else some ⟨bytes, h⟩

/-- A number of rounds in range. -/
structure Rounds where
  val : UInt8
  one_le : 1 ≤ val
  le_ten : val ≤ 10
  deriving DecidableEq

namespace Rounds

/-- The given number of rounds, when it is in range. -/
def ofWord? (n : UInt8) : Option Rounds :=
  if h : 1 ≤ n ∧ n ≤ 10 then some ⟨n, h.1, h.2⟩ else none

/-- The number of rounds unless another one is set. -/
def standard : Rounds := ⟨3, by decide, by decide⟩

end Rounds

/-- The keys of a deployment. -/
structure KeyRing where
  keys : List UInt32
  active : Fin keys.length
  rounds : Rounds
  master : Option Secret
  deriving DecidableEq

namespace KeyRing

/-- The key ring with the given keys: the first one is active, the number of rounds is the standard
one, and there is no master secret. -/
def ofKeys (keys : List UInt32) : Except SettingsError KeyRing :=
  if h : 0 < keys.length then .ok ⟨keys, ⟨0, h⟩, .standard, none⟩
  else .error .noKeys

/-- The key ring with another active version. -/
def withActive (ring : KeyRing) (version : Nat) : Except SettingsError KeyRing :=
  if h : version < ring.keys.length then .ok ⟨ring.keys, ⟨version, h⟩, ring.rounds, ring.master⟩
  else .error (.versionOutOfRange (toString version) ring.keys.length)

/-- The key ring with another number of rounds. -/
def withRounds (ring : KeyRing) (rounds : UInt8) : Except SettingsError KeyRing :=
  match Rounds.ofWord? rounds with
  | some rounds => .ok { ring with rounds }
  | none => .error (.roundsOutOfRange (toString rounds.toNat))

/-- The key ring with another master secret; the empty byte string takes the secret away. -/
def withMaster (ring : KeyRing) (secret : Bytes) : KeyRing :=
  { ring with master := Secret.ofBytes? secret }

/-- The key in use. -/
def activeKey (ring : KeyRing) : UInt32 := ring.keys.get ring.active

/-- The key of a version, if there is one. -/
def key? (ring : KeyRing) (version : Nat) : Option UInt32 := ring.keys[version]?

/-- The purpose for which a tenant's key is derived. -/
def tenantPurpose (tenant : String) : Bytes := Bytes.ofText ("tenant/" ++ tenant)

/-- The key of a tenant's own, which exists under a master secret and for tenants with a name. -/
def derivedKey? (ring : KeyRing) (tenant : String) : Option UInt32 :=
  if tenant.isEmpty then none
  else ring.master.map fun secret => Crypto.deriveWord secret.bytes (tenantPurpose tenant)

/-- The key of a tenant: the tenant's own, or else the active one. -/
def tenantKey (ring : KeyRing) (tenant : String) : UInt32 :=
  (ring.derivedKey? tenant).getD ring.activeKey

/-- The key ring without its secrets, as one line. -/
def report (ring : KeyRing) : String :=
  "FeistelKeyMaterial \x7b versions: " ++ toString ring.keys.length
    ++ ", active_version: " ++ toString ring.active.val
    ++ ", rounds: " ++ toString ring.rounds.val.toNat
    ++ ", master_secret: " ++ (if ring.master.isSome then "Some(\"<redacted>\")" else "None")
    ++ " \x7d"

end KeyRing

end ShortLink
