import ShortLink.Proofs.Bytes.Text
import ShortLink.Proofs.Settings.Variables

/-!
# What variables spell, and what is wrong with them

Variables spell out the inputs of a chain of builders: keys, version, number of rounds, secrets and
node. When they do not, one of thirteen checks fails, and the first one in a fixed order gives the
complaint. Both are stated about the values of the variables alone, and one check at a time,
whatever the others do.

## Main definitions

- `Settings.Inputs`, `Settings.Inputs.build` — what the builders take, and the chain of them
- `Settings.Environment.Spells` — the values of variables that spell inputs in range
- `Settings.Check`, `Settings.Environment.Fails` — the checks, and the complaints of each
- `Settings.FirstFailure` — the complaint of the first check that fails
- `Settings.Tests` — a run that fails like the first check that fails

## Main results

- `Settings.Tests.bind`, `Settings.Tests.step` — a run after another one, and after a check
- `Settings.Environment.Holds.eq` — a variable has one value
-/

namespace ShortLink.Settings

open Text (IsDecimalOf)

/-! ### Inputs -/

/-- What the builders of settings take. -/
structure Inputs where
  keys : List UInt32
  version : Nat
  rounds : UInt8
  master : Bytes
  aesSecret : Bytes
  hmacSecret : Bytes
  node : UInt16

/-- The builders, one after the other. -/
def Inputs.build (inputs : Inputs) : Except SettingsError Settings := do
  let ring ← KeyRing.ofKeys inputs.keys
  let ring ← ring.withActive inputs.version
  let ring ← ring.withRounds inputs.rounds
  let settings ← ofSecrets (ring.withMaster inputs.master) inputs.aesSecret inputs.hmacSecret
  settings.withNode inputs.node

/-- A variable is set to a form of a value. -/
def Environment.Holds {α : Type} (env : Environment) (item : Item) (IsForm : String → α → Prop)
    (value : α) : Prop :=
  ∃ text, env.IsSet item text ∧ IsForm text value

/-- A variable is set to a form of a value, or the value is what counts when it is not set. -/
def Environment.HoldsOr {α : Type} (env : Environment) (item : Item) (standard : α)
    (IsForm : String → α → Prop) (value : α) : Prop :=
  env.IsUnset item ∧ value = standard ∨ env.Holds item IsForm value

/-- A text is a version: a number of 64 bits. -/
def IsVersion (text : String) (n : Nat) : Prop := IsDecimalOf text n ∧ n < UInt64.size

/-- A text is a number of rounds, in range or not. -/
def IsRounds (text : String) (n : UInt8) : Prop := IsDecimalOf text n.toNat

/-- A text is a node, in range or not. -/
def IsNode (text : String) (n : UInt16) : Prop := IsDecimalOf text n.toNat

/-- A text is spelled in bytes. -/
def IsEncoded (text : String) (bytes : Bytes) : Prop := bytes = Bytes.ofText text

/-- A variable is set to a text that is spelled in bytes, white space included. -/
def Environment.Gives (env : Environment) (item : Item) (bytes : Bytes) : Prop :=
  ∃ text, env item.name = some text ∧ IsEncoded text bytes

/-- The variables spell inputs that are all in range. -/
structure Environment.Spells (env : Environment) (inputs : Inputs) : Prop where
  keys : env.Holds .feistelKeys IsKeyList inputs.keys
  version : env.Holds .activeVersion IsVersion inputs.version
  version_lt : inputs.version < inputs.keys.length
  rounds : env.HoldsOr .feistelRounds 3 IsRounds inputs.rounds
  one_le_rounds : 1 ≤ inputs.rounds
  rounds_le_ten : inputs.rounds ≤ 10
  master : env.HoldsOr .masterSecret [] IsEncoded inputs.master
  aesSecret : env.Gives .aesSecret inputs.aesSecret
  length_aesSecret : inputs.aesSecret.length = 32
  hmacSecret : env.Gives .hmacSecret inputs.hmacSecret
  hmacSecret_ne_nil : inputs.hmacSecret ≠ []
  node : env.HoldsOr .nodeId 0 IsNode inputs.node
  node_le : inputs.node ≤ 1023

/-- The settings that are made of inputs in range. -/
def Environment.Spells.settings {env : Environment} {inputs : Inputs} (h : env.Spells inputs) :
    Settings where
  keyRing := ⟨inputs.keys, ⟨inputs.version, h.version_lt⟩,
    ⟨inputs.rounds, h.one_le_rounds, h.rounds_le_ten⟩, Secret.ofBytes? inputs.master⟩
  aesSecret := inputs.aesSecret
  length_aesSecret := h.length_aesSecret
  hmacSecret := ⟨inputs.hmacSecret, h.hmacSecret_ne_nil⟩
  node := ⟨inputs.node, h.node_le⟩

/-! ### Checks -/

/-- What can be wrong with variables, in the order in which it is complained about. -/
inductive Check where
  | keysGiven
  | keysRead
  | versionGiven
  | versionRead
  | roundsRead
  | versionInRange
  | roundsInRange
  | aesGiven
  | hmacGiven
  | aesSized
  | hmacFilled
  | nodeRead
  | nodeInRange

/-- All checks in their order. -/
def Check.inOrder : List Check :=
  [.keysGiven, .keysRead, .versionGiven, .versionRead, .roundsRead, .versionInRange, .roundsInRange,
    .aesGiven, .hmacGiven, .aesSized, .hmacFilled, .nodeRead, .nodeInRange]

/-- A check fails with a complaint. A complaint about a version tells how many keys there are, so only
with a list of keys is a version checked at all. -/
def Environment.Fails (env : Environment) : Check → SettingsError → Prop
  | .keysGiven, error => env.IsUnset .feistelKeys ∧ error = .missing .feistelKeys
  | .keysRead, error => ∃ bad, env.Holds .feistelKeys IsFirstBadKey bad ∧ error = .invalidKey bad
  | .versionGiven, error => env.IsUnset .activeVersion ∧ error = .missing .activeVersion
  | .versionRead, error => ∃ keys, env.Holds .feistelKeys IsKeyList keys ∧
      ∃ text, env.IsSet .activeVersion text ∧ (∀ n < UInt64.size, ¬IsDecimalOf text n) ∧
      error = .versionOutOfRange text keys.length
  | .roundsRead, error => ∃ text, env.IsSet .feistelRounds text ∧
      (∀ n < UInt8.size, ¬IsDecimalOf text n) ∧ error = .roundsOutOfRange text
  | .versionInRange, error => ∃ keys, env.Holds .feistelKeys IsKeyList keys ∧
      ∃ n, env.Holds .activeVersion IsVersion n ∧ keys.length ≤ n ∧
      error = .versionOutOfRange (toString n) keys.length
  | .roundsInRange, error => ∃ n, env.Holds .feistelRounds IsRounds n ∧ ¬(1 ≤ n ∧ n ≤ 10) ∧
      error = .roundsOutOfRange (toString n.toNat)
  | .aesGiven, error => env Item.aesSecret.name = none ∧ error = .missing .aesSecret
  | .hmacGiven, error => env Item.hmacSecret.name = none ∧ error = .missing .hmacSecret
  | .aesSized, error => ∃ text, env Item.aesSecret.name = some text ∧
      text.utf8ByteSize ≠ 32 ∧ error = .aesSecretSize text.utf8ByteSize
  | .hmacFilled, error => env Item.hmacSecret.name = some "" ∧ error = .emptyHmacSecret
  | .nodeRead, error => ∃ text, env.IsSet .nodeId text ∧
      (∀ n < UInt16.size, ¬IsDecimalOf text n) ∧ error = .nodeOutOfRange text
  | .nodeInRange, error => ∃ n, env.Holds .nodeId IsNode n ∧ ¬n ≤ 1023 ∧
      error = .nodeOutOfRange (toString n.toNat)

/-- The first of some checks that fails does so with a complaint. -/
inductive FirstFailure {γ ε : Type} (fails : γ → ε → Prop) : List γ → ε → Prop where
  | here {check : γ} {rest : List γ} {error : ε} :
      fails check error → FirstFailure fails (check :: rest) error
  | later {check : γ} {rest : List γ} {error : ε} :
      (∀ e, ¬fails check e) → FirstFailure fails rest error → FirstFailure fails (check :: rest) error

/-- A run fails like the first of some checks that fails. -/
def Tests {γ ε α : Type} (fails : γ → ε → Prop) (checks : List γ) (run : Except ε α) : Prop :=
  ∀ error, run = .error error ↔ FirstFailure fails checks error

section Runs

variable {γ ε α β : Type} {fails : γ → ε → Prop} {check : γ} {checks more : List γ} {error : ε}
  {first : Except ε α} {next : α → Except ε β}

@[simp] theorem ok_bind (a : α) (next : α → Except ε β) : (.ok a : Except ε α) >>= next = next a :=
  rfl

theorem firstFailure_cons_iff :
    FirstFailure fails (check :: checks) error ↔
      fails check error ∨ (∀ e, ¬fails check e) ∧ FirstFailure fails checks error := by
  constructor
  · rintro (h | ⟨hnot, h⟩)
    · exact Or.inl h
    · exact Or.inr ⟨hnot, h⟩
  · rintro (h | ⟨hnot, h⟩)
    · exact .here h
    · exact .later hnot h

theorem FirstFailure.exists_mem (h : FirstFailure fails checks error) :
    ∃ check ∈ checks, fails check error := by
  induction h with
  | here h => exact ⟨_, List.mem_cons_self, h⟩
  | later _ _ ih =>
    obtain ⟨check, hmem, h⟩ := ih
    exact ⟨check, List.mem_cons_of_mem _ hmem, h⟩

theorem firstFailure_append_iff :
    FirstFailure fails (checks ++ more) error ↔
      FirstFailure fails checks error ∨
        (∀ e, ¬FirstFailure fails checks e) ∧ FirstFailure fails more error := by
  induction checks with
  | nil => exact ⟨fun h => Or.inr ⟨nofun, h⟩, fun h => (h.resolve_left nofun).2⟩
  | cons check checks ih =>
    rw [List.cons_append, firstFailure_cons_iff, ih, firstFailure_cons_iff]
    simp only [firstFailure_cons_iff, not_or]
    by_cases hfails : ∀ e, ¬fails check e
    · simp only [hfails, not_false_eq_true, implies_true, true_and, false_or]
    · have hsome : ¬∀ e, ¬fails check e ∧ ¬False := fun h => hfails fun e => (h e).1
      simp only [hfails, hsome, false_and, or_false]

theorem Tests.single (h : ∀ e, first = .error e ↔ fails check e) : Tests fails [check] first :=
  fun e => (h e).trans
    ⟨.here, fun hfirst => (firstFailure_cons_iff.mp hfirst).resolve_right fun h => nomatch h.2⟩

/-- A run after another one fails like the checks of both. -/
theorem Tests.bind (hfirst : Tests fails checks first)
    (hnext : ∀ a, first = .ok a → Tests fails more (next a)) :
    Tests fails (checks ++ more) (first >>= next) := by
  intro error
  rw [firstFailure_append_iff, ← hfirst, bind_eq_error_iff]
  refine or_congr_right ?_
  cases first with
  | error e =>
    refine iff_of_false (fun ⟨_, h, _⟩ => nomatch h) fun h => ?_
    exact h.1 e ((hfirst e).mp rfl)
  | ok a =>
    have hpass : ∀ e, ¬FirstFailure fails checks e := fun e h => nomatch (hfirst e).mpr h
    constructor
    · rintro ⟨_, ha, h⟩
      cases ha
      exact ⟨hpass, (hnext a rfl error).mp h⟩
    · exact fun h => ⟨a, rfl, (hnext a rfl error).mpr h.2⟩

/-- A run after a check fails like the check and those of the run. -/
theorem Tests.step (h : ∀ e, first = .error e ↔ fails check e)
    (hnext : ∀ a, first = .ok a → Tests fails more (next a)) :
    Tests fails (check :: more) (first >>= next) :=
  Tests.bind (.single h) hnext

end Runs

/-! ### Values -/

section Values

variable {α : Type} {env : Environment} {item : Item} {text : String} {IsForm : String → α → Prop}
  {value : α}

theorem exists_and_iff {P q : α → Prop} (hvalue : P value) (hunique : ∀ v, P v → v = value) :
    (∃ v, P v ∧ q v) ↔ q value :=
  ⟨fun ⟨v, hv, h⟩ => hunique v hv ▸ h, fun h => ⟨value, hvalue, h⟩⟩

theorem Environment.IsSet.eq {other : String} (h : env.IsSet item text)
    (hother : env.IsSet item other) : other = text := by
  obtain ⟨value, hvalue, htext, -⟩ := h
  obtain ⟨value', hvalue', hother, -⟩ := hother
  obtain rfl := Option.some.inj (hvalue.symm.trans hvalue')
  exact hother.eq htext

theorem Environment.IsSet.not_isUnset (h : env.IsSet item text) : ¬env.IsUnset item := by
  intro hunset
  obtain ⟨value, hvalue, htext, hne⟩ := h
  exact hne (htext.eq (Text.trimsTo_empty_iff.mpr (hunset value hvalue)))

theorem Environment.IsSet.holds_iff (h : env.IsSet item text) :
    env.Holds item IsForm value ↔ IsForm text value :=
  exists_and_iff h fun _ => h.eq

theorem Environment.Holds.eq {value' : α} (hform : Relator.RightUnique IsForm)
    (h : env.Holds item IsForm value) (h' : env.Holds item IsForm value') : value' = value := by
  obtain ⟨text, hset, hvalue⟩ := h
  exact hform (hset.holds_iff.mp h') hvalue

theorem Environment.IsSet.holdsOr_iff {standard : α} (h : env.IsSet item text) :
    env.HoldsOr item standard IsForm value ↔ IsForm text value := by
  rw [Environment.HoldsOr, h.holds_iff, or_iff_right fun hunset => h.not_isUnset hunset.1]

theorem Environment.IsUnset.holdsOr_iff {standard : α} (h : env.IsUnset item) :
    env.HoldsOr item standard IsForm value ↔ value = standard := by
  have hnot : ¬env.Holds item IsForm value := fun ⟨_, hset, _⟩ => hset.not_isUnset h
  rw [Environment.HoldsOr, and_iff_right h, or_iff_left hnot]

end Values

theorem isKeyList_rightUnique : Relator.RightUnique IsKeyList := by
  intro text keys keys' h h'
  exact Except.ok.inj ((readKeys_eq_ok_iff.mpr h).symm.trans (readKeys_eq_ok_iff.mpr h'))

theorem IsKeyList.length_pos {text : String} {keys : List UInt32} (h : IsKeyList text keys) :
    0 < keys.length := by
  obtain ⟨parts, hparts, hkeys⟩ := h
  rw [← hkeys.length_eq]
  exact List.length_pos_iff.mpr hparts.ne_nil

theorem isVersion_rightUnique : Relator.RightUnique IsVersion :=
  fun _ _ _ h h' => h.1.eq h'.1

theorem isRounds_rightUnique : Relator.RightUnique IsRounds :=
  fun _ _ _ h h' => UInt8.toNat_inj.mp (h.eq h')

theorem isNode_rightUnique : Relator.RightUnique IsNode :=
  fun _ _ _ h h' => UInt16.toNat_inj.mp (h.eq h')

end ShortLink.Settings
