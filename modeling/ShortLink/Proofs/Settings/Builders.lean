import Mathlib.Tactic.Simps.Basic
import ShortLink.Proofs.Settings.Variables

/-!
# Calls on builders

Key rings and settings are built by a handful of functions, in any order and with any arguments, and
a value that was built once can be used again. A session is a list of such calls. What it leaves
behind is the same for two kinds of key rings and settings whenever each single builder does the same
on both.

## Main definitions

- `Settings.Builders` — the functions that build key rings and settings of some kind
- `Settings.Builders.load` — settings from variables, by these functions
- `Settings.Builders.run` — the values and complaints after some calls
- `Settings.Builders.Hom` — builders that do the same on two kinds

## Main results

- `Settings.Builders.load_checked` — the builders of a process load what `Settings.ofVariables` makes
- `Settings.Builders.Hom.step_map`, `Settings.Builders.Hom.run_map` — one call, and a whole session
- `Settings.withActive_eq_error_iff`, `Settings.withRounds_eq_error_iff`,
  `Settings.ofSecrets_eq_error_iff`, `Settings.withNode_eq_error_iff` — what builders refuse
-/

namespace ShortLink.Settings

/-- The functions that build key rings and settings. -/
structure Builders (Ring Config : Type) where
  ofKeys : List UInt32 → Except SettingsError Ring
  withActive : Ring → Nat → Except SettingsError Ring
  withRounds : Ring → UInt8 → Except SettingsError Ring
  withMaster : Ring → Bytes → Ring
  ofSecrets : Ring → Bytes → Bytes → Except SettingsError Config
  withNode : Config → UInt16 → Except SettingsError Config
  keyRing : Config → Ring

/-- A call on a builder. A key ring or settings from an earlier call are given by their place. -/
inductive Action where
  | ofKeys (keys : List UInt32)
  | withActive (ring version : Nat)
  | withRounds (ring : Nat) (rounds : UInt8)
  | withMaster (ring : Nat) (secret : Bytes)
  | ofSecrets (ring : Nat) (aesSecret hmacSecret : Bytes)
  | withNode (config : Nat) (node : UInt16)
  | ofVariables (values : List (String × String))
  | keyRing (config : Nat)

/-- What calls have left behind, each in its order. -/
structure Session (Ring Config : Type) where
  rings : List Ring := []
  configs : List Config := []
  complaints : List SettingsError := []

namespace Session

variable {Ring Config Ring' Config' : Type}

/-- The session after a call that gives a key ring or a complaint. -/
def withRing (session : Session Ring Config) : Except SettingsError Ring → Session Ring Config
  | .ok ring => { session with rings := session.rings ++ [ring] }
  | .error complaint => { session with complaints := session.complaints ++ [complaint] }

/-- The session after a call that gives settings or a complaint. -/
def withConfig (session : Session Ring Config) : Except SettingsError Config → Session Ring Config
  | .ok config => { session with configs := session.configs ++ [config] }
  | .error complaint => { session with complaints := session.complaints ++ [complaint] }

/-- A session with all values of another kind. -/
def map (f : Ring → Ring') (g : Config → Config') (session : Session Ring Config) :
    Session Ring' Config' :=
  ⟨session.rings.map f, session.configs.map g, session.complaints⟩

end Session

/-- The number of rounds that is read. -/
def readRounds (values : List (String × String)) : Except SettingsError UInt8 :=
  match lookupTrimmed? values .feistelRounds with
  | none => pure Rounds.standard.val
  | some text => (readBelow UInt8.size (.roundsOutOfRange text) text).map Nat.toUInt8

namespace Builders

variable {Ring Config Ring' Config' : Type}

/-- The key ring with the master secret that is read, if there is any. -/
def withMasterOf (b : Builders Ring Config) (values : List (String × String)) (ring : Ring) : Ring :=
  match lookupTrimmed? values .masterSecret with
  | none => ring
  | some secret => b.withMaster ring (Bytes.ofText secret)

/-- The settings on the node that is read, if there is any. -/
def withNodeOf (b : Builders Ring Config) (values : List (String × String)) (config : Config) :
    Except SettingsError Config :=
  match lookupTrimmed? values .nodeId with
  | none => return config
  | some text => do
    let n ← readBelow UInt16.size (.nodeOutOfRange text) text
    b.withNode config n.toUInt16

/-- The settings that the given values make. -/
def load (b : Builders Ring Config) (values : List (String × String)) :
    Except SettingsError Config := do
  let keysText ← require .feistelKeys (lookupTrimmed? values .feistelKeys)
  let keys ← readKeys keysText
  let versionText ← require .activeVersion (lookupTrimmed? values .activeVersion)
  let version ← readBelow UInt64.size (.versionOutOfRange versionText keys.length) versionText
  let rounds ← readRounds values
  let ring ← b.ofKeys keys
  let ring ← b.withActive ring version
  let ring ← b.withRounds ring rounds
  let aesSecret ← require .aesSecret (lookup? values .aesSecret)
  let hmacSecret ← require .hmacSecret (lookup? values .hmacSecret)
  let config ← b.ofSecrets (b.withMasterOf values ring) (Bytes.ofText aesSecret)
    (Bytes.ofText hmacSecret)
  b.withNodeOf values config

/-- The session after one more call. A call on a value that there is not is none. -/
def step (b : Builders Ring Config) (session : Session Ring Config) :
    Action → Session Ring Config
  | .ofKeys keys => session.withRing (b.ofKeys keys)
  | .withActive i version =>
    session.rings[i]?.elim session fun ring => session.withRing (b.withActive ring version)
  | .withRounds i rounds =>
    session.rings[i]?.elim session fun ring => session.withRing (b.withRounds ring rounds)
  | .withMaster i secret =>
    session.rings[i]?.elim session fun ring => session.withRing (.ok (b.withMaster ring secret))
  | .ofSecrets i aesSecret hmacSecret =>
    session.rings[i]?.elim session fun ring =>
      session.withConfig (b.ofSecrets ring aesSecret hmacSecret)
  | .withNode i node =>
    session.configs[i]?.elim session fun config => session.withConfig (b.withNode config node)
  | .ofVariables values => session.withConfig (b.load values)
  | .keyRing i =>
    session.configs[i]?.elim session fun config => session.withRing (.ok (b.keyRing config))

/-- What calls leave behind. -/
def run (b : Builders Ring Config) (actions : List Action) : Session Ring Config :=
  actions.foldl b.step {}

/-- Two kinds of builders do the same, up to maps between the kinds of values. -/
structure Hom (b : Builders Ring Config) (b' : Builders Ring' Config') (f : Ring → Ring')
    (g : Config → Config') : Prop where
  ofKeys : ∀ keys, b'.ofKeys keys = (b.ofKeys keys).map f
  withActive : ∀ ring version, b'.withActive (f ring) version = (b.withActive ring version).map f
  withRounds : ∀ ring rounds, b'.withRounds (f ring) rounds = (b.withRounds ring rounds).map f
  withMaster : ∀ ring secret, b'.withMaster (f ring) secret = f (b.withMaster ring secret)
  ofSecrets : ∀ ring aesSecret hmacSecret,
    b'.ofSecrets (f ring) aesSecret hmacSecret = (b.ofSecrets ring aesSecret hmacSecret).map g
  withNode : ∀ config node, b'.withNode (g config) node = (b.withNode config node).map g
  keyRing : ∀ config, b'.keyRing (g config) = f (b.keyRing config)

variable {b : Builders Ring Config} {b' : Builders Ring' Config'} {f : Ring → Ring'}
  {g : Config → Config'}

theorem bind_map {ε α α' β β' : Type} {first : Except ε α} {first' : Except ε α'}
    {next : α → Except ε β} {next' : α' → Except ε β'} {p : α → α'} {q : β → β'}
    (hfirst : first' = first.map p) (hnext : ∀ a, next' (p a) = (next a).map q) :
    first' >>= next' = (first >>= next).map q := by
  subst hfirst
  cases first with
  | error e => rfl
  | ok a => exact hnext a

theorem map_id {ε α : Type} (run : Except ε α) : run = run.map id := by
  cases run <;> rfl

namespace Hom

theorem withMasterOf_map (h : Hom b b' f g) (values : List (String × String)) (ring : Ring) :
    b'.withMasterOf values (f ring) = f (b.withMasterOf values ring) := by
  unfold withMasterOf
  cases lookupTrimmed? values .masterSecret with
  | none => rfl
  | some secret => exact h.withMaster ring (Bytes.ofText secret)

theorem withNodeOf_map (h : Hom b b' f g) (values : List (String × String)) (config : Config) :
    b'.withNodeOf values (g config) = (b.withNodeOf values config).map g := by
  unfold withNodeOf
  cases lookupTrimmed? values .nodeId with
  | none => rfl
  | some text => exact bind_map (map_id _) fun n => h.withNode config n.toUInt16

theorem load_map (h : Hom b b' f g) (values : List (String × String)) :
    b'.load values = (b.load values).map g := by
  refine bind_map (map_id _) fun keysText => ?_
  refine bind_map (map_id _) fun keys => ?_
  refine bind_map (map_id _) fun versionText => ?_
  refine bind_map (map_id _) fun version => ?_
  refine bind_map (map_id _) fun rounds => ?_
  refine bind_map (h.ofKeys keys) fun ring => ?_
  refine bind_map (h.withActive ring version) fun ring => ?_
  refine bind_map (h.withRounds ring rounds) fun ring => ?_
  refine bind_map (map_id _) fun aesSecret => ?_
  refine bind_map (map_id _) fun hmacSecret => ?_
  refine bind_map ?_ fun config => h.withNodeOf_map values config
  rw [id, id, h.withMasterOf_map]
  exact h.ofSecrets _ _ _

theorem withRing_map (session : Session Ring Config) (result : Except SettingsError Ring) :
    (session.map f g).withRing (result.map f) = (session.withRing result).map f g := by
  cases result with
  | error complaint => rfl
  | ok ring => simp [Session.withRing, Session.map, Except.map]

theorem withConfig_map (session : Session Ring Config) (result : Except SettingsError Config) :
    (session.map f g).withConfig (result.map g) = (session.withConfig result).map f g := by
  cases result with
  | error complaint => rfl
  | ok config => simp [Session.withConfig, Session.map, Except.map]

theorem rings_map (session : Session Ring Config) (i : Nat) {next : Ring → Session Ring Config}
    {next' : Ring' → Session Ring' Config'} (hnext : ∀ ring, next' (f ring) = (next ring).map f g) :
    (session.map f g).rings[i]?.elim (session.map f g) next'
      = (session.rings[i]?.elim session next).map f g := by
  rw [Session.map, List.getElem?_map]
  cases session.rings[i]? with
  | none => rfl
  | some ring => exact hnext ring

theorem configs_map (session : Session Ring Config) (i : Nat) {next : Config → Session Ring Config}
    {next' : Config' → Session Ring' Config'}
    (hnext : ∀ config, next' (g config) = (next config).map f g) :
    (session.map f g).configs[i]?.elim (session.map f g) next'
      = (session.configs[i]?.elim session next).map f g := by
  rw [Session.map, List.getElem?_map]
  cases session.configs[i]? with
  | none => rfl
  | some config => exact hnext config

/-- One call does the same to both kinds of values. -/
theorem step_map (h : Hom b b' f g) (session : Session Ring Config) (action : Action) :
    b'.step (session.map f g) action = (b.step session action).map f g := by
  cases action with
  | ofKeys keys => rw [step, h.ofKeys, withRing_map, step]
  | withActive i version =>
    refine rings_map session i fun ring => ?_
    rw [h.withActive, withRing_map]
  | withRounds i rounds =>
    refine rings_map session i fun ring => ?_
    rw [h.withRounds, withRing_map]
  | withMaster i secret =>
    refine rings_map session i fun ring => ?_
    rw [h.withMaster]
    exact withRing_map session (.ok (b.withMaster ring secret))
  | ofSecrets i aesSecret hmacSecret =>
    refine rings_map session i fun ring => ?_
    rw [h.ofSecrets, withConfig_map]
  | withNode i node =>
    refine configs_map session i fun config => ?_
    rw [h.withNode, withConfig_map]
  | ofVariables values => rw [step, h.load_map, withConfig_map, step]
  | keyRing i =>
    refine configs_map session i fun config => ?_
    rw [h.keyRing]
    exact withRing_map session (.ok (b.keyRing config))

/-- The same calls leave the same behind, whatever the kind of values. -/
theorem run_map (h : Hom b b' f g) (actions : List Action) :
    b'.run actions = (b.run actions).map f g := by
  have hfold : ∀ session : Session Ring Config,
      actions.foldl b'.step (session.map f g) = (actions.foldl b.step session).map f g := by
    induction actions with
    | nil => exact fun _ => rfl
    | cons action rest ih =>
      intro session
      rw [List.foldl_cons, List.foldl_cons, h.step_map, ih]
  exact hfold {}

end Hom

/-- The builders of the key rings and settings of a process. -/
@[simps] def checked : Builders KeyRing Settings where
  ofKeys := KeyRing.ofKeys
  withActive := KeyRing.withActive
  withRounds := KeyRing.withRounds
  withMaster := KeyRing.withMaster
  ofSecrets := Settings.ofSecrets
  withNode := Settings.withNode
  keyRing := Settings.keyRing

/-- What is built from variables is built by the builders. -/
theorem load_checked (values : List (String × String)) :
    checked.load values = ofVariables values := by
  rw [load, ofVariables, readRounds]
  cases lookupTrimmed? values .feistelRounds with
  | none => rfl
  | some text => rfl

end Builders

/-! ### What builders refuse -/

section Checked

variable {keys : List UInt32} {ring : KeyRing} {settings : Settings} {error : SettingsError}

theorem ofKeys_eq_ok (h : 0 < keys.length) :
    KeyRing.ofKeys keys = .ok ⟨keys, ⟨0, h⟩, .standard, none⟩ := dif_pos h

theorem withActive_eq_ok {version : Nat} (h : version < ring.keys.length) :
    ring.withActive version = .ok ⟨ring.keys, ⟨version, h⟩, ring.rounds, ring.master⟩ := dif_pos h

theorem withActive_eq_error_iff {version : Nat} :
    ring.withActive version = .error error ↔ ring.keys.length ≤ version ∧
      error = .versionOutOfRange (toString version) ring.keys.length := by
  rw [KeyRing.withActive]
  split
  · next h => exact iff_of_false nofun fun hle => Nat.not_lt.mpr hle.1 h
  · next h => simp [Nat.not_lt.mp h, eq_comm]

theorem withRounds_eq_ok {n : UInt8} (h : 1 ≤ n ∧ n ≤ 10) :
    ring.withRounds n = .ok { ring with rounds := ⟨n, h.1, h.2⟩ } := by
  rw [KeyRing.withRounds, Rounds.ofWord?, dif_pos h]

theorem withRounds_eq_error_iff {n : UInt8} :
    ring.withRounds n = .error error ↔ ¬(1 ≤ n ∧ n ≤ 10) ∧
      error = .roundsOutOfRange (toString n.toNat) := by
  by_cases h : 1 ≤ n ∧ n ≤ 10
  · rw [withRounds_eq_ok h]
    exact iff_of_false nofun fun hnot => hnot.1 h
  · rw [KeyRing.withRounds, Rounds.ofWord?, dif_neg h]
    simp [h, eq_comm]

theorem ofSecrets_eq_ok {aesSecret hmacSecret : Bytes} (h : aesSecret.length = aesSecretSize)
    (hne : hmacSecret ≠ []) :
    ofSecrets ring aesSecret hmacSecret = .ok ⟨ring, aesSecret, h, ⟨hmacSecret, hne⟩, default⟩ := by
  rw [ofSecrets, dif_pos h, Secret.ofBytes?, dif_neg hne]

theorem ofSecrets_eq_error_iff {aesSecret hmacSecret : Bytes} :
    ofSecrets ring aesSecret hmacSecret = .error error ↔
      aesSecret.length ≠ aesSecretSize ∧ error = .aesSecretSize aesSecret.length ∨
      aesSecret.length = aesSecretSize ∧ hmacSecret = [] ∧ error = .emptyHmacSecret := by
  by_cases h : aesSecret.length = aesSecretSize
  · by_cases hne : hmacSecret = []
    · rw [ofSecrets, dif_pos h, Secret.ofBytes?, dif_pos hne]
      simp [h, hne, eq_comm]
    · rw [ofSecrets_eq_ok h hne]
      simp [h, hne]
  · rw [ofSecrets, dif_neg h]
    simp [h, eq_comm]

theorem withNode_eq_ok {n : UInt16} (h : n ≤ TimedId.maxNode) :
    settings.withNode n = .ok { settings with node := ⟨n, h⟩ } := by
  rw [withNode, TimedId.NodeId.ofWord, TimedId.NodeId.ofWord?, dif_pos h]
  rfl

theorem withNode_eq_error_iff {n : UInt16} :
    settings.withNode n = .error error ↔ ¬n ≤ TimedId.maxNode ∧
      error = .nodeOutOfRange (toString n.toNat) := by
  by_cases h : n ≤ TimedId.maxNode
  · rw [withNode_eq_ok h]
    exact iff_of_false nofun fun hnot => hnot.1 h
  · rw [withNode, map_eq_error_iff, TimedId.NodeId.ofWord, TimedId.NodeId.ofWord?, dif_neg h]
    simp [h, eq_comm]

end Checked

end ShortLink.Settings
