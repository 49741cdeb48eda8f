import ShortLink.Proofs.Settings.Loading

/-!
# What does not show

The values of four variables are secrets. Of the encryption key only the size shows, of the
authentication key and the master secret only whether they are there, and of the key list only how
long it is, as long as it is a list of keys. Two processes whose variables differ in nothing else
complain about the same thing, or start with the same report.

## Main definitions

- `Settings.ShowsAlike` — two values of a variable that differ in nothing that shows
- `Settings.Environment.ShowsAlike` — the same for the values of all variables

## Main results

- `Settings.Environment.ShowsAlike.fails_iff` — the same checks fail, with the same complaints
- `Settings.Environment.ShowsAlike.spells` — inputs that are accepted differ only in secrets
- `Settings.ofVariables_alike` — the same complaint, or the same report
-/

namespace ShortLink.Settings

open Text (IsBlank TrimsTo)

/-- A value is a list of so many keys, with white space around it or not. -/
def IsListOfLength (value : String) (length : Nat) : Prop :=
  ∃ text keys, TrimsTo value text ∧ IsKeyList text keys ∧ keys.length = length

/-- Two values of a variable differ in nothing that shows. -/
def ShowsAlike : Item → String → String → Prop
  | .feistelKeys, value, other =>
    value = other ∨ ∃ length, IsListOfLength value length ∧ IsListOfLength other length
  | .masterSecret, value, other => value = other ∨ ¬IsBlank value ∧ ¬IsBlank other
  | .aesSecret, value, other => value.utf8ByteSize = other.utf8ByteSize
  | .hmacSecret, value, other => value = other ∨ value ≠ "" ∧ other ≠ ""
  | .activeVersion, value, other | .feistelRounds, value, other | .nodeId, value, other =>
    value = other

/-- The same variables are set, to values that differ in nothing that shows. -/
def Environment.ShowsAlike (env other : Environment) : Prop :=
  ∀ item : Item, Option.Rel (Settings.ShowsAlike item) (env item.name) (other item.name)

variable {env other : Environment} {item : Item} {text bad : String} {keys : List UInt32}
  {check : Check} {error : SettingsError} {inputs : Inputs} {values others : List (String × String)}

theorem ShowsAlike.symm {value value' : String} (h : ShowsAlike item value value') :
    ShowsAlike item value' value := by
  cases item with
  | feistelKeys => exact h.imp Eq.symm fun ⟨length, hvalue, hother⟩ => ⟨length, hother, hvalue⟩
  | masterSecret => exact h.imp Eq.symm And.symm
  | aesSecret => exact Eq.symm h
  | hmacSecret => exact h.imp Eq.symm And.symm
  | activeVersion => exact Eq.symm h
  | feistelRounds => exact Eq.symm h
  | nodeId => exact Eq.symm h

namespace Environment.ShowsAlike

/-- Either no process sets a variable, or both set it to values that show alike. -/
theorem values_cases (h : env.ShowsAlike other) (item : Item) :
    (env item.name = none ∧ other item.name = none) ∨
      ∃ value value', env item.name = some value ∧ other item.name = some value' ∧
        Settings.ShowsAlike item value value' := by
  have hitem := h item
  generalize env item.name = given, other item.name = given' at hitem
  cases hitem with
  | none => exact Or.inl ⟨rfl, rfl⟩
  | some halike => exact Or.inr ⟨_, _, rfl, rfl, halike⟩

theorem symm (h : env.ShowsAlike other) : other.ShowsAlike env := by
  intro item
  rcases h.values_cases item with ⟨hnone, hnone'⟩ | ⟨value, value', hvalue, hvalue', halike⟩
  · rw [hnone, hnone']
    exact .none
  · rw [hvalue, hvalue']
    exact .some halike.symm

theorem eq_none (h : env.ShowsAlike other) (hnone : env item.name = none) :
    other item.name = none := by
  rcases h.values_cases item with ⟨-, hnone'⟩ | ⟨value, -, hvalue, -⟩
  · exact hnone'
  · cases hnone.symm.trans hvalue

theorem eq_some (h : env.ShowsAlike other) {value : String} (hvalue : env item.name = some value) :
    ∃ value', other item.name = some value' ∧ Settings.ShowsAlike item value value' := by
  rcases h.values_cases item with ⟨hnone, -⟩ | ⟨value₁, value', hvalue₁, hvalue', halike⟩
  · cases hnone.symm.trans hvalue
  · obtain rfl := Option.some.inj (hvalue₁.symm.trans hvalue)
    exact ⟨value', hvalue', halike⟩

/-- A variable that is no secret has the same value. -/
theorem eq (h : env.ShowsAlike other)
    (hitem : ∀ value value', Settings.ShowsAlike item value value' → value = value') :
    env item.name = other item.name := by
  rcases h.values_cases item with ⟨hnone, hnone'⟩ | ⟨value, value', hvalue, hvalue', halike⟩
  · rw [hnone, hnone']
  · rw [hvalue, hvalue', hitem _ _ halike]

theorem eq_version (h : env.ShowsAlike other) :
    env Item.activeVersion.name = other Item.activeVersion.name := h.eq fun _ _ => id

theorem eq_rounds (h : env.ShowsAlike other) :
    env Item.feistelRounds.name = other Item.feistelRounds.name := h.eq fun _ _ => id

theorem eq_node (h : env.ShowsAlike other) :
    env Item.nodeId.name = other Item.nodeId.name := h.eq fun _ _ => id

end Environment.ShowsAlike

theorem isSet_congr (h : env item.name = other item.name) :
    env.IsSet item text ↔ other.IsSet item text := by
  rw [Environment.IsSet, Environment.IsSet, h]

theorem isUnset_congr (h : env item.name = other item.name) :
    env.IsUnset item ↔ other.IsUnset item := by
  rw [Environment.IsUnset, Environment.IsUnset, h]

theorem holds_congr {α : Type} {IsForm : String → α → Prop} {value : α}
    (h : env item.name = other item.name) :
    env.Holds item IsForm value ↔ other.Holds item IsForm value := by
  simp only [Environment.Holds, isSet_congr h]

theorem holdsOr_congr {α : Type} {IsForm : String → α → Prop} {standard value : α}
    (h : env item.name = other item.name) :
    env.HoldsOr item standard IsForm value ↔ other.HoldsOr item standard IsForm value := by
  rw [Environment.HoldsOr, Environment.HoldsOr, isUnset_congr h, holds_congr h]

theorem IsKeyList.ne_empty (h : IsKeyList text keys) : text ≠ "" := by
  rintro rfl
  have hread : readKeys "" = .error (.invalidKey "") := by decide +kernel
  cases hread.symm.trans (readKeys_eq_ok_iff.mpr h)

theorem IsKeyList.not_isFirstBadKey (h : IsKeyList text keys) : ¬IsFirstBadKey text bad := by
  intro hbad
  cases (readKeys_eq_ok_iff.mpr h).symm.trans (readKeys_eq_error_iff.mpr ⟨bad, hbad, rfl⟩)

theorem IsListOfLength.exists_holds {value : String} {length : Nat}
    (h : IsListOfLength value length) (hvalue : env Item.feistelKeys.name = some value) :
    ∃ keys, env.Holds .feistelKeys IsKeyList keys ∧ keys.length = length := by
  obtain ⟨text, keys, htext, hkeys, hlength⟩ := h
  exact ⟨keys, ⟨text, ⟨value, hvalue, htext, hkeys.ne_empty⟩, hkeys⟩, hlength⟩

theorem exists_isSet_of_not_isBlank {value : String} (hvalue : env item.name = some value)
    (hblank : ¬IsBlank value) : ∃ text, env.IsSet item text := by
  have htext : TrimsTo value (Text.trim value) := Text.trim_eq_iff.mp rfl
  refine ⟨Text.trim value, value, hvalue, htext, fun hempty => hblank ?_⟩
  rwa [hempty, Text.trimsTo_empty_iff] at htext

theorem Environment.IsSet.ofText_ne_nil (h : env.IsSet item text) : Bytes.ofText text ≠ [] := by
  obtain ⟨-, -, -, hne⟩ := h
  exact mt Bytes.ofText_eq_nil_iff.mp hne

namespace Environment.ShowsAlike

theorem keys_cases (h : env.ShowsAlike other) :
    env Item.feistelKeys.name = other Item.feistelKeys.name ∨
      ∃ keys keys', env.Holds .feistelKeys IsKeyList keys ∧
        other.Holds .feistelKeys IsKeyList keys' ∧ keys'.length = keys.length := by
  rcases h.values_cases .feistelKeys with ⟨hnone, hnone'⟩ | ⟨value, value', hvalue, hvalue', halike⟩
  · exact Or.inl (hnone.trans hnone'.symm)
  · rcases halike with rfl | ⟨length, hlist, hlist'⟩
    · exact Or.inl (hvalue.trans hvalue'.symm)
    · obtain ⟨keys, hkeys, hlength⟩ := hlist.exists_holds hvalue
      obtain ⟨keys', hkeys', hlength'⟩ := hlist'.exists_holds hvalue'
      exact Or.inr ⟨keys, keys', hkeys, hkeys', hlength'.trans hlength.symm⟩

theorem master_cases (h : env.ShowsAlike other) :
    env Item.masterSecret.name = other Item.masterSecret.name ∨
      ∃ text text', env.IsSet .masterSecret text ∧ other.IsSet .masterSecret text' := by
  rcases h.values_cases .masterSecret with ⟨hnone, hnone'⟩ | ⟨value, value', hvalue, hvalue', halike⟩
  · exact Or.inl (hnone.trans hnone'.symm)
  · rcases halike with rfl | ⟨hblank, hblank'⟩
    · exact Or.inl (hvalue.trans hvalue'.symm)
    · obtain ⟨text, hset⟩ := exists_isSet_of_not_isBlank hvalue hblank
      obtain ⟨text', hset'⟩ := exists_isSet_of_not_isBlank hvalue' hblank'
      exact Or.inr ⟨text, text', hset, hset'⟩

/-- A key list is as long in one process as in the other. -/
theorem keyList (h : env.ShowsAlike other) (hkeys : env.Holds .feistelKeys IsKeyList keys) :
    ∃ keys', other.Holds .feistelKeys IsKeyList keys' ∧ keys'.length = keys.length := by
  rcases h.keys_cases with heq | ⟨keys₁, keys', hkeys₁, hkeys', hlength⟩
  · exact ⟨keys, (holds_congr heq).mp hkeys, rfl⟩
  · obtain rfl := hkeys.eq isKeyList_rightUnique hkeys₁
    exact ⟨keys', hkeys', hlength⟩

/-- A list with an element that is no key is the same. -/
theorem firstBadKey (h : env.ShowsAlike other) (hbad : env.Holds .feistelKeys IsFirstBadKey bad) :
    other.Holds .feistelKeys IsFirstBadKey bad := by
  rcases h.keys_cases with heq | ⟨keys, -, ⟨text, hset, hkeys⟩, -, -⟩
  · exact (holds_congr heq).mp hbad
  · exact absurd (hset.holds_iff.mp hbad) hkeys.not_isFirstBadKey

theorem keys_isUnset (h : env.ShowsAlike other) (hunset : env.IsUnset .feistelKeys) :
    other.IsUnset .feistelKeys := by
  rcases h.keys_cases with heq | ⟨keys, -, ⟨text, hset, -⟩, -, -⟩
  · exact (isUnset_congr heq).mp hunset
  · exact absurd hunset hset.not_isUnset

/-- There is a master secret in both processes or in none. -/
theorem master (h : env.ShowsAlike other) {secret : Bytes}
    (hsecret : env.HoldsOr .masterSecret [] IsEncoded secret) :
    ∃ secret', other.HoldsOr .masterSecret [] IsEncoded secret' ∧ (secret' = [] ↔ secret = []) := by
  rcases h.master_cases with heq | ⟨text, text', hset, hset'⟩
  · exact ⟨secret, (holdsOr_congr heq).mp hsecret, Iff.rfl⟩
  · obtain rfl := hset.holdsOr_iff.mp hsecret
    refine ⟨Bytes.ofText text', hset'.holdsOr_iff.mpr rfl, ?_⟩
    exact iff_of_false hset'.ofText_ne_nil hset.ofText_ne_nil

theorem aesSecret (h : env.ShowsAlike other) {secret : Bytes}
    (hsecret : env.Gives .aesSecret secret) :
    ∃ secret', other.Gives .aesSecret secret' ∧ secret'.length = secret.length := by
  obtain ⟨text, htext, rfl⟩ := hsecret
  obtain ⟨text', htext', halike⟩ := h.eq_some htext
  have hsize : text.utf8ByteSize = text'.utf8ByteSize := halike
  exact ⟨Bytes.ofText text', ⟨text', htext', rfl⟩, by simp [hsize]⟩

theorem hmacSecret (h : env.ShowsAlike other) {secret : Bytes} (hne : secret ≠ [])
    (hsecret : env.Gives .hmacSecret secret) :
    ∃ secret', other.Gives .hmacSecret secret' ∧ secret' ≠ [] := by
  obtain ⟨text, htext, rfl⟩ := hsecret
  obtain ⟨text', htext', rfl | ⟨-, hfilled⟩⟩ := h.eq_some htext
  · exact ⟨Bytes.ofText text, ⟨text, htext', rfl⟩, hne⟩
  · exact ⟨Bytes.ofText text', ⟨text', htext', rfl⟩, mt Bytes.ofText_eq_nil_iff.mp hfilled⟩

theorem fails (h : env.ShowsAlike other) (hfails : env.Fails check error) :
    other.Fails check error := by
  cases check with
  | keysGiven => exact ⟨h.keys_isUnset hfails.1, hfails.2⟩
  | keysRead =>
    obtain ⟨bad, hbad, herror⟩ := hfails
    exact ⟨bad, h.firstBadKey hbad, herror⟩
  | versionGiven => exact ⟨(isUnset_congr h.eq_version).mp hfails.1, hfails.2⟩
  | versionRead =>
    obtain ⟨keys, hkeys, text, hset, hnone, herror⟩ := hfails
    obtain ⟨keys', hkeys', hlength⟩ := h.keyList hkeys
    exact ⟨keys', hkeys', text, (isSet_congr h.eq_version).mp hset, hnone, by rwa [hlength]⟩
  | roundsRead =>
    obtain ⟨text, hset, hnone⟩ := hfails
    exact ⟨text, (isSet_congr h.eq_rounds).mp hset, hnone⟩
  | versionInRange =>
    obtain ⟨keys, hkeys, n, hn, hle⟩ := hfails
    obtain ⟨keys', hkeys', hlength⟩ := h.keyList hkeys
    exact ⟨keys', hkeys', n, (holds_congr h.eq_version).mp hn, by rwa [hlength]⟩
  | roundsInRange =>
    obtain ⟨n, hn, hrange⟩ := hfails
    exact ⟨n, (holds_congr h.eq_rounds).mp hn, hrange⟩
  | aesGiven => exact ⟨h.eq_none hfails.1, hfails.2⟩
  | hmacGiven => exact ⟨h.eq_none hfails.1, hfails.2⟩
  | aesSized =>
    obtain ⟨text, htext, hsize⟩ := hfails
    obtain ⟨text', htext', halike⟩ := h.eq_some htext
    have hsizes : text.utf8ByteSize = text'.utf8ByteSize := halike
    exact ⟨text', htext', by rwa [← hsizes]⟩
  | hmacFilled =>
    obtain ⟨text', htext', rfl | hne⟩ := h.eq_some hfails.1
    · exact ⟨htext', hfails.2⟩
    · exact absurd rfl hne.1
  | nodeRead =>
    obtain ⟨text, hset, hnone⟩ := hfails
    exact ⟨text, (isSet_congr h.eq_node).mp hset, hnone⟩
  | nodeInRange =>
    obtain ⟨n, hn, hrange⟩ := hfails
    exact ⟨n, (holds_congr h.eq_node).mp hn, hrange⟩

/-- The same checks fail, with the same complaints. -/
theorem fails_iff (h : env.ShowsAlike other) : env.Fails check error ↔ other.Fails check error :=
  ⟨h.fails, h.symm.fails⟩

/-- Inputs that are accepted in one process differ from those in the other in secrets only. -/
theorem spells (h : env.ShowsAlike other) (hspells : env.Spells inputs) :
    ∃ inputs', other.Spells inputs' ∧ inputs'.keys.length = inputs.keys.length ∧
      inputs'.version = inputs.version ∧ inputs'.rounds = inputs.rounds ∧
      (inputs'.master = [] ↔ inputs.master = []) ∧ inputs'.node = inputs.node := by
  obtain ⟨keys, hkeys, hlength⟩ := h.keyList hspells.keys
  obtain ⟨master, hmaster, hempty⟩ := h.master hspells.master
  obtain ⟨aesSecret, haes, hsize⟩ := h.aesSecret hspells.aesSecret
  obtain ⟨hmacSecret, hhmac, hfilled⟩ := h.hmacSecret hspells.hmacSecret_ne_nil hspells.hmacSecret
  refine ⟨{ inputs with keys, master, aesSecret, hmacSecret },
    { hspells with
      keys := hkeys
      version := (holds_congr h.eq_version).mp hspells.version
      version_lt := hlength ▸ hspells.version_lt
      rounds := (holdsOr_congr h.eq_rounds).mp hspells.rounds
      master := hmaster
      aesSecret := haes
      length_aesSecret := hsize.trans hspells.length_aesSecret
      hmacSecret := hhmac
      hmacSecret_ne_nil := hfilled
      node := (holdsOr_congr h.eq_node).mp hspells.node },
    hlength, rfl, rfl, hempty, rfl⟩

end Environment.ShowsAlike

/-- A report shows how many keys there are, the version, the number of rounds, whether there is a
master secret, and the node. -/
theorem report_congr {settings settings' : Settings}
    (hlength : settings'.keyRing.keys.length = settings.keyRing.keys.length)
    (hactive : settings'.keyRing.active.val = settings.keyRing.active.val)
    (hrounds : settings'.keyRing.rounds.val = settings.keyRing.rounds.val)
    (hmaster : settings'.keyRing.master.isSome = settings.keyRing.master.isSome)
    (hnode : settings'.node.val = settings.node.val) : settings'.report = settings.report := by
  unfold report KeyRing.report
  rw [hactive, hlength, hrounds, hmaster, hnode]

theorem isSome_ofBytes?_iff {bytes : Bytes} : (Secret.ofBytes? bytes).isSome ↔ bytes ≠ [] := by
  rw [Secret.ofBytes?]
  split
  · next hnil => simp [hnil]
  · next hne => simp [hne]

/-- Variables that show alike make two processes complain about the same thing, or start with the
same report. -/
theorem ofVariables_alike (h : (assigned values).ShowsAlike (assigned others)) :
    (∃ error, ofVariables values = .error error ∧ ofVariables others = .error error) ∨
      ∃ settings settings', ofVariables values = .ok settings ∧
        ofVariables others = .ok settings' ∧ settings'.report = settings.report := by
  cases hvalues : ofVariables values with
  | error error =>
    have hfails : (assigned values).Fails = (assigned others).Fails :=
      funext₂ fun _ _ => propext h.fails_iff
    rw [ofVariables_eq_error_iff, hfails] at hvalues
    exact Or.inl ⟨error, rfl, ofVariables_eq_error_iff.mpr hvalues⟩
  | ok settings =>
    obtain ⟨inputs, hinputs⟩ := exists_spells hvalues
    obtain ⟨inputs', hinputs', hlength, hversion, hrounds, hmaster, hnode⟩ := h.spells hinputs
    obtain rfl := Except.ok.inj (hvalues.symm.trans hinputs.ofVariables_eq)
    have hsome : (Secret.ofBytes? inputs'.master).isSome = (Secret.ofBytes? inputs.master).isSome := by
      rw [Bool.eq_iff_iff, isSome_ofBytes?_iff, isSome_ofBytes?_iff, Ne, hmaster]
    exact Or.inr ⟨hinputs.settings, hinputs'.settings, rfl, hinputs'.ofVariables_eq,
      report_congr hlength hversion hrounds hsome hnode⟩

/-- Other keys and secrets make other settings, and the same report. -/
theorem ofVariables_alike_other_secrets :
    ∃ settings settings', settings' ≠ settings ∧
      ofVariables [("FEISTEL_KEYS", "777, 424242"), ("ACTIVE_FEISTEL_VERSION", "1"),
        ("MASTER_FEISTEL_SECRET", " master "), ("AES_SECRET", "0123456789abcdef0123456789abcdef"),
        ("HMAC_SECRET", "hmac")] = .ok settings ∧
      ofVariables [("FEISTEL_KEYS", "1,2"), ("ACTIVE_FEISTEL_VERSION", "1"),
        ("MASTER_FEISTEL_SECRET", "other"), ("AES_SECRET", "fedcba9876543210fedcba9876543210"),
        ("HMAC_SECRET", " ")] = .ok settings' ∧
      settings'.report = settings.report := by
  let ours := [("FEISTEL_KEYS", "777, 424242"), ("ACTIVE_FEISTEL_VERSION", "1"),
    ("MASTER_FEISTEL_SECRET", " master "), ("AES_SECRET", "0123456789abcdef0123456789abcdef"),
    ("HMAC_SECRET", "hmac")]
  let theirs := [("FEISTEL_KEYS", "1,2"), ("ACTIVE_FEISTEL_VERSION", "1"),
    ("MASTER_FEISTEL_SECRET", "other"), ("AES_SECRET", "fedcba9876543210fedcba9876543210"),
    ("HMAC_SECRET", " ")]
  have hkeys : IsListOfLength "777, 424242" 2 :=
    ⟨"777, 424242", [777, 424242], Text.trim_eq_iff.mp (by decide +kernel),
      readKeys_eq_ok_iff.mp (by decide +kernel), rfl⟩
  have hkeys' : IsListOfLength "1,2" 2 :=
    ⟨"1,2", [1, 2], Text.trim_eq_iff.mp (by decide +kernel),
      readKeys_eq_ok_iff.mp (by decide +kernel), rfl⟩
  have hmaster : ¬IsBlank " master " ∧ ¬IsBlank "other" := by
    rw [← Text.trimsTo_empty_iff, ← Text.trimsTo_empty_iff, ← Text.trim_eq_iff, ← Text.trim_eq_iff]
    decide +kernel
  have hsize : "0123456789abcdef0123456789abcdef".utf8ByteSize
      = "fedcba9876543210fedcba9876543210".utf8ByteSize := by decide +kernel
  have halike : (assigned ours).ShowsAlike (assigned theirs) := by
    intro item
    cases item with
    | feistelKeys => exact .some (Or.inr ⟨2, hkeys, hkeys'⟩)
    | activeVersion => exact .some rfl
    | feistelRounds => exact .none
    | masterSecret => exact .some (Or.inr hmaster)
    | aesSecret => exact .some hsize
    | hmacSecret => exact .some (Or.inr (by decide +kernel))
    | nodeId => exact .none
  have hok : (ofVariables ours).isOk = true := by decide +kernel
  have hne : ofVariables theirs ≠ ofVariables ours := by decide +kernel
  rcases ofVariables_alike halike with ⟨error, herror, -⟩ |
    ⟨settings, settings', hours, htheirs, hreport⟩
  · rw [herror] at hok
    cases hok
  · refine ⟨settings, settings', fun heq => hne ?_, hours, htheirs, hreport⟩
    rw [hours, htheirs, heq]

end ShortLink.Settings
