import ShortLink.Settings.Basic
import ShortLink.Text.Blank
import ShortLink.Text.Unsigned

/-!
# Settings from variables

Settings are given as named values. Of several values under one name the last one counts, and names
that mean nothing here are ignored. Numbers, the key list and the master secret are read without the
white space around them, and count as not set when nothing else is left; the two other secrets are
taken as they are.

## Main definitions

- `Settings.lookup?`, `Settings.lookupTrimmed?` — the value of a variable
- `Settings.readKeys` — the keys of a comma-separated list
- `Settings.ofVariables` — the settings, or the first thing that is wrong with them
-/

namespace ShortLink.Settings

/-- The last value given under the name of a variable. -/
def lookup? (values : List (String × String)) (item : Item) : Option String :=
  (values.reverse.find? fun entry => entry.1 == item.name).map (·.2)

/-- The value of a variable without the white space around it, unless nothing else is left. -/
def lookupTrimmed? (values : List (String × String)) (item : Item) : Option String :=
  ((lookup? values item).map Text.trim).filter (!·.isEmpty)

/-- The value of a variable that has to be set. -/
def require (item : Item) (value : Option String) : Except SettingsError String :=
  match value with
  | some value => .ok value
  | none => .error (.missing item)

/-- The number behind a text, or the complaint about it. -/
def readBelow (bound : Nat) (complaint : SettingsError) (text : String) :
    Except SettingsError Nat :=
  match Text.readUnsigned? bound text with
  | some n => .ok n
  | none => .error complaint

/-- The elements of a comma-separated list, without the white space around them. -/
def elements (text : String) : List String :=
  (Text.fields ',' text.toList).map fun part => Text.trim (String.ofList part)

/-- The keys of a comma-separated list, or its first element that is none. -/
def readKeys (text : String) : Except SettingsError (List UInt32) :=
  (elements text).mapM fun element =>
    (readBelow UInt32.size (.invalidKey element) element).map Nat.toUInt32

/-- The settings that the given values make, or the first thing that is wrong with them. -/
def ofVariables (values : List (String × String)) : Except SettingsError Settings := do
  let keys ← readKeys (← require .feistelKeys (lookupTrimmed? values .feistelKeys))
  let versionText ← require .activeVersion (lookupTrimmed? values .activeVersion)
  let version ← readBelow UInt64.size (.versionOutOfRange versionText keys.length) versionText
  let rounds ← match lookupTrimmed? values .feistelRounds with
    | none => pure Rounds.standard.val
    | some text => (readBelow UInt8.size (.roundsOutOfRange text) text).map Nat.toUInt8
  let ring ← KeyRing.ofKeys keys
  let ring ← ring.withActive version
  let ring ← ring.withRounds rounds
  let ring := match lookupTrimmed? values .masterSecret with
    | none => ring
    | some secret => ring.withMaster (Bytes.ofText secret)
  let aesSecret ← require .aesSecret (lookup? values .aesSecret)
  let hmacSecret ← require .hmacSecret (lookup? values .hmacSecret)
  let settings ← ofSecrets ring (Bytes.ofText aesSecret) (Bytes.ofText hmacSecret)
  match lookupTrimmed? values .nodeId with
  | none => return settings
  | some text =>
    let n ← readBelow UInt16.size (.nodeOutOfRange text) text
    settings.withNode n.toUInt16

end ShortLink.Settings
