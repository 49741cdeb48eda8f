import ShortLink.Text.Quoted

/-!
# Errors of the settings

Everything that can be wrong with the settings of a process. All of these stop the process at its
start.

## Main definitions

- `Settings.Item` — the names under which settings are given
- `SettingsError` — what is wrong
- `SettingsError.message` — the sentence shown to the operator
-/

namespace ShortLink

/-- The variables that hold the settings. -/
inductive Settings.Item where
  | feistelKeys
  | activeVersion
  | feistelRounds
  | masterSecret
  | aesSecret
  | hmacSecret
  | nodeId
  deriving DecidableEq, Repr

/-- The name of a variable in the environment. -/
def Settings.Item.name : Settings.Item → String
  | feistelKeys => "FEISTEL_KEYS"
  | activeVersion => "ACTIVE_FEISTEL_VERSION"
  | feistelRounds => "FEISTEL_ROUNDS"
  | masterSecret => "MASTER_FEISTEL_SECRET"
  | aesSecret => "AES_SECRET"
  | hmacSecret => "HMAC_SECRET"
  | nodeId => "NODE_ID"

/-- What is wrong with the settings. -/
inductive SettingsError where
  /-- A required variable is not set. -/
  | missing (item : Settings.Item)
  /-- An element of the key list is no 32-bit number. -/
  | invalidKey (element : String)
  /-- The key list is empty. -/
  | noKeys
  /-- The active version is no index into the key list. -/
  | versionOutOfRange (version : String) (available : Nat)
  /-- The number of rounds is not between 1 and 10. -/
  | roundsOutOfRange (rounds : String)
  /-- The encryption key has the wrong size. -/
  | aesSecretSize (size : Nat)
  /-- The authentication key is empty. -/
  | emptyHmacSecret
  /-- The node id is not between 0 and 1023. -/
  | nodeOutOfRange (node : String)
  deriving DecidableEq, Repr

/-- The sentence that tells what is wrong. -/
def SettingsError.message : SettingsError → String
  | missing item => item.name ++ " not set"
  | invalidKey element => "invalid FEISTEL_KEYS value: " ++ Text.quote element
  | noKeys => "at least one Feistel key is required"
  | versionOutOfRange version available =>
    "active Feistel version " ++ version ++ " out of range (have " ++ toString available ++ " keys)"
  | roundsOutOfRange rounds =>
    "invalid FEISTEL_ROUNDS " ++ Text.quote rounds ++ " (must be between 1 and 10)"
  | aesSecretSize size => "AES_SECRET must be exactly 32 bytes, got " ++ toString size
  | emptyHmacSecret => "HMAC_SECRET must not be empty"
  | nodeOutOfRange node =>
    "node id " ++ Text.quote node ++ " out of range (must be between 0 and 1023)"

end ShortLink
