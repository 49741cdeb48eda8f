import ShortLink.Settings.KeyRing
import ShortLink.TimedId.Layout

/-!
# Settings

The settings of a process: its keys and secrets and the id of its node. They are read once and then
passed to whatever needs them.

## Main definitions

- `Settings` — the settings
- `Settings.ofSecrets`, `Settings.withNode` — building settings
- `Settings.report` — the settings without their secrets
-/

namespace ShortLink

/-- Size of the encryption key. -/
def aesSecretSize : Nat := 32

/-- The settings of a process. -/
structure Settings where
  keyRing : KeyRing
  aesSecret : Bytes
  length_aesSecret : aesSecret.length = aesSecretSize
  hmacSecret : Secret
  node : TimedId.NodeId
  deriving DecidableEq

/-- The node with the given number, or the complaint about it. -/
def TimedId.NodeId.ofWord (n : UInt16) : Except SettingsError TimedId.NodeId :=
  match TimedId.NodeId.ofWord? n with
  | some node => .ok node
  | none => .error (.nodeOutOfRange (toString n.toNat))

namespace Settings

/-- Settings with the given keys and secrets, on node 0. -/
def ofSecrets (keyRing : KeyRing) (aesSecret hmacSecret : Bytes) : Except SettingsError Settings :=
  if h : aesSecret.length = aesSecretSize then
    match Secret.ofBytes? hmacSecret with
    | some secret => .ok ⟨keyRing, aesSecret, h, secret, default⟩
    | none => .error .emptyHmacSecret
  else .error (.aesSecretSize aesSecret.length)

/-- The settings on another node. -/
def withNode (settings : Settings) (n : UInt16) : Except SettingsError Settings :=
  (TimedId.NodeId.ofWord n).map fun node => { settings with node }

/-- The settings without their secrets, as one line. -/
def report (settings : Settings) : String :=
  "CryptoConfig \x7b feistel: " ++ settings.keyRing.report
    ++ ", aes_secret: \"<redacted>\", hmac_secret: \"<redacted>\", node_id: "
    ++ toString settings.node.val.toNat ++ " \x7d"

end Settings

end ShortLink
