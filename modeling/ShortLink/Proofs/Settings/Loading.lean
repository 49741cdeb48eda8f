import ShortLink.Proofs.Settings.Builders
import ShortLink.Proofs.Settings.Grammar

/-!
# Which settings are accepted

Settings are made of variables that spell inputs in range, and of no others. Each stage of the
reading is tied to the checks that it makes; the stages put together make all checks in their order.

## Main results

- `Settings.Environment.Spells.ofVariables_eq`, `Settings.exists_spells` — what is accepted
- `Settings.ofVariables_eq_error_iff` — the complaint about all else
- `Settings.ofVariables_outcome` — both, and that nothing but the last values counts
-/

namespace ShortLink.Settings

open Text (IsDecimalOf)

variable {values : List (String × String)} {item : Item} {text : String} {keys : List UInt32}
  {error : SettingsError} {ring : KeyRing} {settings : Settings}

/-! ### Stages -/

theorem requireTrimmed_eq_ok_iff :
    require item (lookupTrimmed? values item) = .ok text ↔ (assigned values).IsSet item text := by
  rw [require_eq_ok_iff, lookupTrimmed?_eq_some_iff]

theorem requireTrimmed_eq_error_iff :
    require item (lookupTrimmed? values item) = .error error ↔
      (assigned values).IsUnset item ∧ error = .missing item := by
  rw [require_eq_error_iff, lookupTrimmed?_eq_none_iff]

theorem requirePlain_eq_ok_iff :
    require item (lookup? values item) = .ok text ↔ assigned values item.name = some text := by
  rw [require_eq_ok_iff, lookup?_eq]

theorem requirePlain_eq_error_iff :
    require item (lookup? values item) = .error error ↔
      assigned values item.name = none ∧ error = .missing item := by
  rw [require_eq_error_iff, lookup?_eq]

/-- A variable is set or not. -/
theorem isUnset_or_exists_isSet (values : List (String × String)) (item : Item) :
    (lookupTrimmed? values item = none ∧ (assigned values).IsUnset item) ∨
      ∃ text, lookupTrimmed? values item = some text ∧ (assigned values).IsSet item text := by
  cases h : lookupTrimmed? values item with
  | none => exact Or.inl ⟨rfl, lookupTrimmed?_eq_none_iff.mp h⟩
  | some text => exact Or.inr ⟨text, rfl, lookupTrimmed?_eq_some_iff.mp h⟩

theorem readRounds_eq_ok_iff {n : UInt8} :
    readRounds values = .ok n ↔ (assigned values).HoldsOr .feistelRounds 3 IsRounds n := by
  rw [readRounds]
  rcases isUnset_or_exists_isSet values .feistelRounds with ⟨hnone, hunset⟩ | ⟨text, hsome, hset⟩
  · rw [hnone, hunset.holdsOr_iff]
    exact ⟨fun h => (Except.ok.inj h).symm, fun h => h ▸ rfl⟩
  · rw [hsome, hset.holdsOr_iff]
    simp only [map_eq_ok_iff, readBelow_eq_ok_iff]
    constructor
    · rintro ⟨m, ⟨hm, hlt⟩, rfl⟩
      rwa [IsRounds, Nat.toUInt8_eq, UInt8.toNat_ofNat_of_lt' hlt]
    · exact fun h => ⟨n.toNat, ⟨h, n.toNat_lt⟩, UInt8.ofNat_toNat⟩

theorem readRounds_eq_error_iff :
    readRounds values = .error error ↔ (assigned values).Fails .roundsRead error := by
  rw [readRounds, Environment.Fails]
  rcases isUnset_or_exists_isSet values .feistelRounds with ⟨hnone, hunset⟩ | ⟨text, hsome, hset⟩
  · rw [hnone]
    constructor
    · intro h
      cases h
    · rintro ⟨_, hset, -⟩
      exact absurd hunset hset.not_isUnset
  · rw [hsome, exists_and_iff hset fun _ => hset.eq, ← readBelow_eq_error_iff]
    exact map_eq_error_iff

theorem withMasterOf_eq {master : Bytes} (hring : ring.master = none)
    (h : (assigned values).HoldsOr .masterSecret [] IsEncoded master) :
    Builders.checked.withMasterOf values ring = ring.withMaster master := by
  rw [Builders.withMasterOf]
  rcases isUnset_or_exists_isSet values .masterSecret with ⟨hnone, hunset⟩ | ⟨text, hsome, hset⟩
  · rw [hnone, hunset.holdsOr_iff.mp h]
    show ring = { ring with master := none }
    rw [← hring]
  · rw [hsome, hset.holdsOr_iff.mp h]
    rfl

theorem exists_master (values : List (String × String)) :
    ∃ master, (assigned values).HoldsOr .masterSecret [] IsEncoded master := by
  rcases isUnset_or_exists_isSet values .masterSecret with ⟨-, hunset⟩ | ⟨text, -, hset⟩
  · exact ⟨[], hunset.holdsOr_iff.mpr rfl⟩
  · exact ⟨Bytes.ofText text, hset.holdsOr_iff.mpr rfl⟩

theorem withNodeOf_eq {n : UInt16} (hsettings : settings.node = default)
    (h : (assigned values).HoldsOr .nodeId 0 IsNode n) :
    Builders.checked.withNodeOf values settings = settings.withNode n := by
  rw [Builders.withNodeOf]
  rcases isUnset_or_exists_isSet values .nodeId with ⟨hnone, hunset⟩ | ⟨text, hsome, hset⟩
  · rw [hnone, hunset.holdsOr_iff.mp h, withNode_eq_ok (by decide)]
    show Except.ok settings = .ok { settings with node := default }
    rw [← hsettings]
  · have hform : IsNode text n := hset.holdsOr_iff.mp h
    have hread : readBelow UInt16.size (.nodeOutOfRange text) text = .ok n.toNat :=
      readBelow_eq_ok_iff.mpr ⟨hform, n.toNat_lt⟩
    rw [hsome]
    show (readBelow UInt16.size (.nodeOutOfRange text) text >>= fun n =>
      settings.withNode n.toUInt16) = _
    rw [hread]
    show settings.withNode n.toNat.toUInt16 = _
    rw [Nat.toUInt16_eq, UInt16.ofNat_toNat]

theorem isNode_of_readBelow {complaint : SettingsError} {n : Nat}
    (h : readBelow UInt16.size complaint text = .ok n) : IsNode text n.toUInt16 := by
  obtain ⟨hform, hlt⟩ := readBelow_eq_ok_iff.mp h
  rwa [IsNode, Nat.toUInt16_eq, UInt16.toNat_ofNat_of_lt' hlt]

theorem exists_node (h : ∃ next, Builders.checked.withNodeOf values settings = .ok next) :
    ∃ n, (assigned values).HoldsOr .nodeId 0 IsNode n ∧ n ≤ 1023 := by
  rw [Builders.withNodeOf] at h
  rcases isUnset_or_exists_isSet values .nodeId with ⟨-, hunset⟩ | ⟨text, hsome, hset⟩
  · exact ⟨0, hunset.holdsOr_iff.mpr rfl, by decide⟩
  · rw [hsome] at h
    obtain ⟨next, h⟩ := h
    obtain ⟨n, hn, hnext⟩ := bind_eq_ok_iff.mp h
    refine ⟨n.toUInt16, hset.holdsOr_iff.mpr (isNode_of_readBelow hn), ?_⟩
    by_contra hle
    cases hnext.symm.trans (withNode_eq_error_iff.mpr ⟨hle, rfl⟩)

/-! ### Complaints -/

theorem readKeys_eq_error_iff_fails (htext : (assigned values).IsSet .feistelKeys text) :
    readKeys text = .error error ↔ (assigned values).Fails .keysRead error := by
  simp only [Environment.Fails, htext.holds_iff, readKeys_eq_error_iff]

theorem readVersion_eq_error_iff_fails
    (hkeys : (assigned values).Holds .feistelKeys IsKeyList keys)
    (htext : (assigned values).IsSet .activeVersion text) :
    readBelow UInt64.size (.versionOutOfRange text keys.length) text = .error error ↔
      (assigned values).Fails .versionRead error := by
  rw [readBelow_eq_error_iff, Environment.Fails,
    exists_and_iff hkeys fun _ => hkeys.eq isKeyList_rightUnique,
    exists_and_iff htext fun _ => htext.eq]

theorem withActive_eq_error_iff_fails {version : Nat}
    (hkeys : (assigned values).Holds .feistelKeys IsKeyList ring.keys)
    (hversion : (assigned values).Holds .activeVersion IsVersion version) :
    ring.withActive version = .error error ↔ (assigned values).Fails .versionInRange error := by
  rw [withActive_eq_error_iff, Environment.Fails,
    exists_and_iff hkeys fun _ => hkeys.eq isKeyList_rightUnique,
    exists_and_iff hversion fun _ => hversion.eq isVersion_rightUnique]

theorem withRounds_eq_error_iff_fails {n : UInt8}
    (h : (assigned values).HoldsOr .feistelRounds 3 IsRounds n) :
    ring.withRounds n = .error error ↔ (assigned values).Fails .roundsInRange error := by
  rw [withRounds_eq_error_iff, Environment.Fails]
  rcases h with ⟨hunset, rfl⟩ | hholds
  · refine iff_of_false (fun h => h.1 (by decide)) ?_
    rintro ⟨_, ⟨_, hset, -⟩, -⟩
    exact hset.not_isUnset hunset
  · rw [exists_and_iff hholds fun _ => hholds.eq isRounds_rightUnique]

theorem tests_withNodeOf :
    Tests (assigned values).Fails [.nodeRead, .nodeInRange]
      (Builders.checked.withNodeOf values settings) := by
  rw [Builders.withNodeOf]
  rcases isUnset_or_exists_isSet values .nodeId with ⟨hnone, hunset⟩ | ⟨text, hsome, hset⟩
  · rw [hnone]
    refine fun error => iff_of_false nofun fun h => ?_
    obtain ⟨check, hmem, hfails⟩ := h.exists_mem
    simp only [List.mem_cons, List.not_mem_nil, or_false] at hmem
    rcases hmem with rfl | rfl
    · obtain ⟨text, hset, -⟩ := hfails
      exact hset.not_isUnset hunset
    · obtain ⟨n, ⟨text, hset, -⟩, -⟩ := hfails
      exact hset.not_isUnset hunset
  · rw [hsome]
    refine Tests.step (fun error => ?_) fun n hn => Tests.single fun error => ?_
    · rw [readBelow_eq_error_iff, Environment.Fails, exists_and_iff hset fun _ => hset.eq]
    · have hnode : (assigned values).Holds .nodeId IsNode n.toUInt16 :=
        hset.holds_iff.mpr (isNode_of_readBelow hn)
      rw [Builders.checked_withNode, withNode_eq_error_iff, Environment.Fails,
        exists_and_iff hnode fun _ => hnode.eq isNode_rightUnique]
      rfl

theorem tests_ofSecrets {aesSecret hmacSecret : String}
    (haes : assigned values Item.aesSecret.name = some aesSecret)
    (hhmac : assigned values Item.hmacSecret.name = some hmacSecret) :
    Tests (assigned values).Fails [.aesSized, .hmacFilled]
      (ofSecrets ring (Bytes.ofText aesSecret) (Bytes.ofText hmacSecret)) := by
  intro error
  have hsized : ∀ e, (assigned values).Fails .aesSized e ↔
      (Bytes.ofText aesSecret).length ≠ aesSecretSize ∧
        e = .aesSecretSize (Bytes.ofText aesSecret).length := by
    intro e
    rw [Environment.Fails, Bytes.length_ofText]
    exact exists_and_iff haes fun _ h => Option.some.inj (h.symm.trans haes)
  have hfilled : (assigned values).Fails .hmacFilled error ↔
      Bytes.ofText hmacSecret = [] ∧ error = .emptyHmacSecret := by
    rw [Environment.Fails, hhmac, Option.some.injEq, Bytes.ofText_eq_nil_iff]
  rw [ofSecrets_eq_error_iff, firstFailure_cons_iff, firstFailure_cons_iff, hsized, hfilled]
  simp only [hsized]
  by_cases h : (Bytes.ofText aesSecret).length = aesSecretSize
  · have hnil : ¬FirstFailure (assigned values).Fails [] error := nofun
    simp [h, hnil]
  · simp [h, -Bytes.length_ofText]

/-! ### Runs -/

/-- Settings are made only of inputs that are spelled and in range. -/
theorem exists_spells (h : ofVariables values = .ok settings) :
    ∃ inputs, (assigned values).Spells inputs := by
  rw [← Builders.load_checked, Builders.load] at h
  simp only [bind_eq_ok_iff, Builders.checked_ofKeys, Builders.checked_withActive,
    Builders.checked_withRounds, Builders.checked_ofSecrets] at h
  obtain ⟨keysText, hkeysText, keys, hkeys, versionText, hversionText, version, hversion, rounds,
    hrounds, ring, hring, active, hactive, counted, hcounted, aesSecret, haes, hmacSecret, hhmac,
    secured, hsecured, hsettings⟩ := h
  rw [requireTrimmed_eq_ok_iff] at hkeysText hversionText
  rw [requirePlain_eq_ok_iff] at haes hhmac
  obtain ⟨master, hmaster⟩ := exists_master values
  obtain ⟨node, hnode, hnode_le⟩ := exists_node ⟨_, hsettings⟩
  have hkeyList : IsKeyList keysText keys := readKeys_eq_ok_iff.mp hkeys
  rw [ofKeys_eq_ok hkeyList.length_pos, Except.ok.injEq] at hring
  subst hring
  have hversion_lt : version < keys.length := by
    by_contra hle
    cases hactive.symm.trans (withActive_eq_error_iff.mpr ⟨Nat.not_lt.mp hle, rfl⟩)
  have hrange : 1 ≤ rounds ∧ rounds ≤ 10 := by
    by_contra hnot
    cases hcounted.symm.trans (withRounds_eq_error_iff.mpr ⟨hnot, rfl⟩)
  have hlength : (Bytes.ofText aesSecret).length = aesSecretSize := by
    by_contra hne
    cases hsecured.symm.trans (ofSecrets_eq_error_iff.mpr (Or.inl ⟨hne, rfl⟩))
  have hfilled : Bytes.ofText hmacSecret ≠ [] := by
    intro hnil
    cases hsecured.symm.trans (ofSecrets_eq_error_iff.mpr (Or.inr ⟨hlength, hnil, rfl⟩))
  exact ⟨⟨keys, version, rounds, master, Bytes.ofText aesSecret, Bytes.ofText hmacSecret, node⟩,
    { keys := ⟨keysText, hkeysText, hkeyList⟩
      version := ⟨versionText, hversionText, readBelow_eq_ok_iff.mp hversion⟩
      version_lt := hversion_lt
      rounds := readRounds_eq_ok_iff.mp hrounds
      one_le_rounds := hrange.1
      rounds_le_ten := hrange.2
      master := hmaster
      aesSecret := ⟨aesSecret, haes, rfl⟩
      length_aesSecret := hlength
      hmacSecret := ⟨hmacSecret, hhmac, rfl⟩
      hmacSecret_ne_nil := hfilled
      node := hnode
      node_le := hnode_le }⟩

/-- Inputs in range pass all builders. -/
theorem Environment.Spells.build_eq {env : Environment} {inputs : Inputs}
    (h : env.Spells inputs) : inputs.build = .ok h.settings := by
  rw [Inputs.build, ofKeys_eq_ok (Nat.zero_lt_of_lt h.version_lt), ok_bind,
    withActive_eq_ok h.version_lt, ok_bind, withRounds_eq_ok ⟨h.one_le_rounds, h.rounds_le_ten⟩,
    ok_bind, ofSecrets_eq_ok h.length_aesSecret h.hmacSecret_ne_nil, ok_bind,
    withNode_eq_ok h.node_le]
  rfl

/-- Settings are made of all inputs that are spelled and in range. -/
theorem Environment.Spells.ofVariables_eq {inputs : Inputs}
    (h : (assigned values).Spells inputs) : ofVariables values = .ok h.settings := by
  obtain ⟨keysText, hkeysText, hkeys⟩ := h.keys
  obtain ⟨versionText, hversionText, hversion⟩ := h.version
  obtain ⟨aesSecret, haes, haesBytes⟩ := h.aesSecret
  obtain ⟨hmacSecret, hhmac, hhmacBytes⟩ := h.hmacSecret
  rw [← Builders.load_checked, Builders.load, requireTrimmed_eq_ok_iff.mpr hkeysText, ok_bind,
    readKeys_eq_ok_iff.mpr hkeys, ok_bind, requireTrimmed_eq_ok_iff.mpr hversionText, ok_bind,
    readBelow_eq_ok_iff.mpr hversion, ok_bind, readRounds_eq_ok_iff.mpr h.rounds, ok_bind,
    Builders.checked_ofKeys, ofKeys_eq_ok hkeys.length_pos, ok_bind,
    Builders.checked_withActive, withActive_eq_ok h.version_lt, ok_bind,
    Builders.checked_withRounds, withRounds_eq_ok ⟨h.one_le_rounds, h.rounds_le_ten⟩, ok_bind,
    requirePlain_eq_ok_iff.mpr haes, ok_bind, requirePlain_eq_ok_iff.mpr hhmac, ok_bind,
    withMasterOf_eq rfl h.master, ← haesBytes, ← hhmacBytes, Builders.checked_ofSecrets,
    ofSecrets_eq_ok h.length_aesSecret h.hmacSecret_ne_nil, ok_bind, withNodeOf_eq rfl h.node,
    withNode_eq_ok h.node_le]
  rfl

/-- The complaint is that of the first check that fails. -/
theorem ofVariables_eq_error_iff :
    ofVariables values = .error error ↔
      FirstFailure (assigned values).Fails Check.inOrder error := by
  revert error
  show Tests (assigned values).Fails Check.inOrder (ofVariables values)
  rw [← Builders.load_checked, Builders.load]
  refine Tests.step (fun _ => requireTrimmed_eq_error_iff) fun keysText hkeysText => ?_
  rw [requireTrimmed_eq_ok_iff] at hkeysText
  refine Tests.step (fun _ => readKeys_eq_error_iff_fails hkeysText) fun keys hkeys => ?_
  rw [readKeys_eq_ok_iff] at hkeys
  have hkeysHold : (assigned values).Holds .feistelKeys IsKeyList keys :=
    hkeysText.holds_iff.mpr hkeys
  refine Tests.step (fun _ => requireTrimmed_eq_error_iff) fun versionText hversionText => ?_
  rw [requireTrimmed_eq_ok_iff] at hversionText
  refine Tests.step (fun _ => readVersion_eq_error_iff_fails hkeysHold hversionText)
    fun version hversion => ?_
  have hversionHolds : (assigned values).Holds .activeVersion IsVersion version :=
    hversionText.holds_iff.mpr (readBelow_eq_ok_iff.mp hversion)
  refine Tests.step (fun _ => readRounds_eq_error_iff) fun rounds hrounds => ?_
  rw [readRounds_eq_ok_iff] at hrounds
  -- A list of keys is never empty, so there is no check of its own for that.
  rw [Builders.checked_ofKeys, ofKeys_eq_ok hkeys.length_pos, ok_bind]
  refine Tests.step (fun _ => withActive_eq_error_iff_fails hkeysHold hversionHolds) fun _ _ => ?_
  refine Tests.step (fun _ => withRounds_eq_error_iff_fails hrounds) fun _ _ => ?_
  refine Tests.step (fun _ => requirePlain_eq_error_iff) fun aesSecret haes => ?_
  refine Tests.step (fun _ => requirePlain_eq_error_iff) fun hmacSecret hhmac => ?_
  rw [requirePlain_eq_ok_iff] at haes hhmac
  exact Tests.bind (tests_ofSecrets haes hhmac) fun _ _ => tests_withNodeOf

/-- Only the last value of each variable counts, and variables of other names do not. -/
theorem ofVariables_congr {others : List (String × String)}
    (h : ∀ item : Item, assigned others item.name = assigned values item.name) :
    ofVariables others = ofVariables values := by
  have hlookup : lookup? others = lookup? values := by
    funext item
    rw [lookup?_eq, lookup?_eq, h]
  simp only [← Builders.load_checked, Builders.load, readRounds, Builders.withMasterOf,
    Builders.withNodeOf, lookupTrimmed?, hlookup]

/-- Settings are made of variables that spell inputs in range, and of no others; they are then what
the builders make of the inputs. Otherwise the complaint is that of the first check that fails. The
values that the variables have in the end decide. -/
theorem ofVariables_outcome (values : List (String × String)) :
    ((∃ settings, ofVariables values = .ok settings) ↔
      ∃ inputs, (assigned values).Spells inputs) ∧
    (∀ inputs, (assigned values).Spells inputs → ofVariables values = inputs.build) ∧
    (∀ error, ofVariables values = .error error ↔
      FirstFailure (assigned values).Fails Check.inOrder error) ∧
    ∀ others, (∀ item : Item, assigned others item.name = assigned values item.name) →
      ofVariables others = ofVariables values := by
  refine ⟨⟨?_, ?_⟩, ?_, fun _ => ofVariables_eq_error_iff, fun _ => ofVariables_congr⟩
  · rintro ⟨settings, h⟩
    exact exists_spells h
  · rintro ⟨inputs, h⟩
    exact ⟨h.settings, h.ofVariables_eq⟩
  · intro inputs h
    rw [h.ofVariables_eq, h.build_eq]

/-- White space and a plus sign do no harm, and of two key lists the second one counts. -/
theorem ofVariables_outcome_padded :
    ∃ settings,
      ofVariables [("FEISTEL_KEYS", "1"), ("HOME", "/"), ("NODE_ID", " "),
        ("FEISTEL_KEYS", " 777,\t+0424242 "), ("ACTIVE_FEISTEL_VERSION", "01 "),
        ("AES_SECRET", "0123456789abcdef0123456789abcdef"), ("HMAC_SECRET", " ")]
        = .ok settings ∧
      Inputs.build ⟨[777, 424242], 1, 3, [], Bytes.ofText "0123456789abcdef0123456789abcdef",
        Bytes.ofText " ", 0⟩ = .ok settings := by
  let values := [("FEISTEL_KEYS", " 777,\t+0424242 "), ("ACTIVE_FEISTEL_VERSION", "01 "),
    ("AES_SECRET", "0123456789abcdef0123456789abcdef"), ("HMAC_SECRET", " "), ("NODE_ID", " ")]
  have hkeys : (assigned values).IsSet .feistelKeys "777,\t+0424242" :=
    lookupTrimmed?_eq_some_iff.mp (by decide +kernel)
  have hversion : (assigned values).IsSet .activeVersion "01" :=
    lookupTrimmed?_eq_some_iff.mp (by decide +kernel)
  have hone : readBelow UInt64.size .noKeys "01" = .ok 1 := by decide +kernel
  have hspells : (assigned values).Spells ⟨[777, 424242], 1, 3, [],
      Bytes.ofText "0123456789abcdef0123456789abcdef", Bytes.ofText " ", 0⟩ :=
    { keys := ⟨_, hkeys, readKeys_eq_ok_iff.mp (by decide +kernel)⟩
      version := ⟨_, hversion, readBelow_eq_ok_iff.mp hone⟩
      version_lt := by decide
      rounds := Or.inl ⟨lookupTrimmed?_eq_none_iff.mp (by decide +kernel), rfl⟩
      one_le_rounds := by decide
      rounds_le_ten := by decide
      master := Or.inl ⟨lookupTrimmed?_eq_none_iff.mp (by decide +kernel), rfl⟩
      aesSecret := ⟨_, by decide +kernel, rfl⟩
      length_aesSecret := by decide +kernel
      hmacSecret := ⟨_, by decide +kernel, rfl⟩
      hmacSecret_ne_nil := by decide +kernel
      node := Or.inl ⟨lookupTrimmed?_eq_none_iff.mp (by decide +kernel), rfl⟩
      node_le := by decide }
  obtain ⟨hok, hbuild, -, hlast⟩ := ofVariables_outcome values
  obtain ⟨settings, hsettings⟩ := hok.mpr ⟨_, hspells⟩
  refine ⟨settings, (hlast _ fun item => ?_).trans hsettings,
    (hbuild _ hspells).symm.trans hsettings⟩
  cases item <;> decide +kernel

end ShortLink.Settings
