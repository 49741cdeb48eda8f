import Mathlib.Data.List.Forall2
import Mathlib.Data.List.Induction
import ShortLink.Proofs.Text.Spelling
import ShortLink.Settings.Variables

/-!
# What variables are set to

Assignments leave each variable with the last value that it was given. A value is read as a text
without the white space around it, as a number, or as a list of keys. Each of these is described by
the values that there are, and what is looked up and read is described in these terms.

## Main definitions

- `Settings.Environment`, `Settings.assigned` — the values of variables, and those after assignments
- `Settings.Environment.IsSet`, `Settings.Environment.IsUnset` — what a variable is set to
- `Settings.IsKeyList`, `Settings.IsFirstBadKey` — lists of keys, and the first element that is no key

## Main results

- `Settings.lookup?_eq`, `Settings.lookupTrimmed?_eq_some_iff` — what is looked up
- `Settings.readBelow_eq_ok_iff`, `Settings.readKeys_eq_ok_iff`, `Settings.readKeys_eq_error_iff` —
  what is read
-/

namespace ShortLink.Settings

open Text (TrimsTo IsBlank IsSeparated IsDecimalOf)

/-- The values of variables, by their names. -/
abbrev Environment := String → Option String

/-- The values of variables after assignments, one after the other. -/
def assigned (values : List (String × String)) : Environment :=
  values.foldl (fun env entry => Function.update env entry.1 (some entry.2)) fun _ => none

/-- A variable is set to a text, with white space around it or not. -/
def Environment.IsSet (env : Environment) (item : Item) (text : String) : Prop :=
  ∃ value, env item.name = some value ∧ TrimsTo value text ∧ text ≠ ""

/-- A variable is not set, or to nothing but white space. -/
def Environment.IsUnset (env : Environment) (item : Item) : Prop :=
  ∀ value, env item.name = some value → IsBlank value

/-- An element of a list of keys is a key, with white space around it or not. -/
def IsKey (element : String) (key : UInt32) : Prop :=
  ∃ text, TrimsTo element text ∧ IsDecimalOf text key.toNat

/-- A text is a list of keys. -/
def IsKeyList (text : String) (keys : List UInt32) : Prop :=
  ∃ elements, IsSeparated ',' text elements ∧ List.Forall₂ IsKey elements keys

/-- A text is a list whose first element that is no key has a text inside its white space. -/
def IsFirstBadKey (text bad : String) : Prop :=
  ∃ before element after, IsSeparated ',' text (before ++ element :: after) ∧
    (∀ e ∈ before, ∃ key, IsKey e key) ∧ TrimsTo element bad ∧ ∀ key, ¬IsKey element key

variable {values : List (String × String)} {item : Item} {text : String} {keys : List UInt32}
  {error complaint : SettingsError} {n bound : Nat}

/-! ### Runs -/

section Runs

variable {ε α β : Type} {first : Except ε α} {next : α → Except ε β} {f : α → Except ε β}
  {xs : List α} {e : ε}

theorem bind_eq_ok_iff {b : β} :
    first >>= next = .ok b ↔ ∃ a, first = .ok a ∧ next a = .ok b := by
  cases first with
  | error e =>
    refine iff_of_false (fun h => nomatch h) ?_
    rintro ⟨a, h, -⟩
    cases h
  | ok a =>
    constructor
    · exact fun h => ⟨a, rfl, h⟩
    · rintro ⟨a', ha, h⟩
      cases ha
      exact h

theorem bind_eq_error_iff :
    first >>= next = .error e ↔ first = .error e ∨ ∃ a, first = .ok a ∧ next a = .error e := by
  cases first with
  | error e' =>
    constructor
    · intro h
      exact Or.inl (congrArg Except.error (Except.error.inj h))
    · rintro (h | ⟨a, h, -⟩)
      · exact congrArg Except.error (Except.error.inj h)
      · cases h
  | ok a =>
    constructor
    · exact fun h => Or.inr ⟨a, rfl, h⟩
    · rintro (h | ⟨a', ha, h⟩)
      · cases h
      · cases ha
        exact h

theorem map_eq_ok_iff {g : α → β} {b : β} :
    first.map g = .ok b ↔ ∃ a, first = .ok a ∧ g a = b := by
  cases first with
  | error e => exact iff_of_false nofun fun ⟨_, h, _⟩ => nomatch h
  | ok a =>
    constructor
    · exact fun h => ⟨a, rfl, Except.ok.inj h⟩
    · rintro ⟨a', ha, rfl⟩
      cases ha
      rfl

theorem map_eq_error_iff {g : α → β} : first.map g = .error e ↔ first = .error e := by
  cases first with
  | error e' =>
    show (Except.error e' : Except ε β) = .error e ↔ _
    rw [Except.error.injEq, Except.error.injEq]
  | ok a => exact iff_of_false nofun nofun

theorem mapM_eq_ok_iff {ys : List β} :
    xs.mapM f = .ok ys ↔ List.Forall₂ (fun x y => f x = .ok y) xs ys := by
  induction xs generalizing ys with
  | nil =>
    rw [List.mapM_nil, List.forall₂_nil_left_iff]
    exact ⟨fun h => (Except.ok.inj h).symm, fun h => h ▸ rfl⟩
  | cons x rest ih =>
    simp only [List.mapM_cons, bind_eq_ok_iff, List.forall₂_cons_left_iff, ih]
    constructor
    · rintro ⟨y, hy, more, hmore, hys⟩
      exact ⟨y, more, hy, hmore, (Except.ok.inj hys).symm⟩
    · rintro ⟨y, more, hy, hmore, rfl⟩
      exact ⟨y, hy, more, hmore, rfl⟩

/-- A run in a list ends at the first element that fails. -/
theorem mapM_eq_error_iff :
    xs.mapM f = .error e ↔ ∃ before x after, xs = before ++ x :: after ∧
      (∀ b ∈ before, ∃ y, f b = .ok y) ∧ f x = .error e := by
  induction xs with
  | nil =>
    refine iff_of_false (fun h => nomatch h) ?_
    rintro ⟨before, x, after, h, -⟩
    exact List.append_ne_nil_of_right_ne_nil before (List.cons_ne_nil x after) h.symm
  | cons x rest ih =>
    simp only [List.mapM_cons, bind_eq_error_iff, ih]
    constructor
    · rintro (hx | ⟨y, hy, ⟨before, z, after, rfl, hbefore, hz⟩ | ⟨more, -, h⟩⟩)
      · exact ⟨[], x, rest, rfl, List.forall_mem_nil _, hx⟩
      · exact ⟨x :: before, z, after, rfl, List.forall_mem_cons.mpr ⟨⟨y, hy⟩, hbefore⟩, hz⟩
      · cases h
    · rintro ⟨before, z, after, hsplit, hbefore, hz⟩
      cases before with
      | nil =>
        obtain ⟨rfl, rfl⟩ := List.cons.inj hsplit
        exact Or.inl hz
      | cons b before =>
        obtain ⟨rfl, rfl⟩ := List.cons.inj hsplit
        rw [List.forall_mem_cons] at hbefore
        obtain ⟨⟨y, hy⟩, hbefore⟩ := hbefore
        exact Or.inr ⟨y, hy, Or.inl ⟨before, z, after, rfl, hbefore, hz⟩⟩

end Runs

/-! ### Values -/

/-- The last value that is given to a variable is the one that counts. -/
theorem lookup?_eq (values : List (String × String)) (item : Item) :
    lookup? values item = assigned values item.name := by
  induction values using List.reverseRecOn with
  | nil => rfl
  | append_singleton values entry ih =>
    have hassigned : assigned (values ++ [entry])
        = Function.update (assigned values) entry.1 (some entry.2) := List.foldl_append
    rw [hassigned, Function.update_apply, ← ih, lookup?, lookup?, List.reverse_append]
    show ((entry :: values.reverse).find? fun entry => entry.1 == item.name).map (·.2) = _
    rw [List.find?_cons]
    by_cases hname : item.name = entry.1
    · simp [hname]
    · rw [beq_eq_false_iff_ne.mpr (Ne.symm hname), if_neg hname]

theorem lookupTrimmed?_eq_some_iff :
    lookupTrimmed? values item = some text ↔ (assigned values).IsSet item text := by
  rw [lookupTrimmed?, lookup?_eq, Option.filter_eq_some_iff, Option.map_eq_some_iff,
    Bool.not_eq_true', ← Bool.not_eq_true, String.isEmpty_iff]
  simp only [Text.trim_eq_iff]
  constructor
  · rintro ⟨⟨value, hvalue, htext⟩, hne⟩
    exact ⟨value, hvalue, htext, hne⟩
  · rintro ⟨value, hvalue, htext, hne⟩
    exact ⟨⟨value, hvalue, htext⟩, hne⟩

theorem lookupTrimmed?_eq_none_iff :
    lookupTrimmed? values item = none ↔ (assigned values).IsUnset item := by
  rw [lookupTrimmed?, lookup?_eq, Environment.IsUnset]
  cases assigned values item.name with
  | none => exact iff_of_true rfl fun _ h => nomatch h
  | some value =>
    have hempty : Text.trim value = "" ↔ IsBlank value := by
      rw [Text.trim_eq_iff, Text.trimsTo_empty_iff]
    rw [Option.map_some, Option.filter_eq_none_iff]
    simp [hempty]

theorem require_eq_ok_iff {value : Option String} :
    require item value = .ok text ↔ value = some text := by
  cases value with
  | none => simp [require]
  | some value => simp [require]

theorem require_eq_error_iff {value : Option String} :
    require item value = .error error ↔ value = none ∧ error = .missing item := by
  cases value with
  | none => simp [require, eq_comm]
  | some value => simp [require]

/-! ### Numbers and keys -/

theorem readBelow_eq_ok_iff :
    readBelow bound complaint text = .ok n ↔ IsDecimalOf text n ∧ n < bound := by
  rw [readBelow, ← Text.readUnsigned?_eq_some_iff]
  cases Text.readUnsigned? bound text with
  | none => simp
  | some m => simp

theorem readBelow_eq_error_iff :
    readBelow bound complaint text = .error error ↔
      (∀ n < bound, ¬IsDecimalOf text n) ∧ error = complaint := by
  have hread : (∀ n < bound, ¬IsDecimalOf text n) ↔ Text.readUnsigned? bound text = none := by
    rw [Option.eq_none_iff_forall_ne_some]
    simp only [Ne, Text.readUnsigned?_eq_some_iff, not_and, Nat.not_lt]
    exact forall_congr' fun n => ⟨fun h hn => Nat.not_lt.mp fun hlt => h hlt hn, fun h hlt hn =>
      Nat.not_lt.mpr (h hn) hlt⟩
  rw [readBelow, hread]
  cases Text.readUnsigned? bound text with
  | none => simp [eq_comm]
  | some m => simp

/-- One element of a list is read. -/
def readKey (element : String) : Except SettingsError UInt32 :=
  (readBelow UInt32.size (.invalidKey element) element).map Nat.toUInt32

theorem readKey_eq_ok_iff {element : String} {key : UInt32} :
    readKey (Text.trim element) = .ok key ↔ IsKey element key := by
  rw [readKey, map_eq_ok_iff]
  simp only [readBelow_eq_ok_iff]
  constructor
  · rintro ⟨n, ⟨hn, hlt⟩, rfl⟩
    refine ⟨Text.trim element, Text.trim_eq_iff.mp rfl, ?_⟩
    rwa [Nat.toUInt32_eq, UInt32.toNat_ofNat_of_lt' hlt]
  · rintro ⟨text, htext, hkey⟩
    rw [Text.trim_eq_iff.mpr htext]
    exact ⟨key.toNat, ⟨hkey, key.toNat_lt⟩, UInt32.ofNat_toNat⟩

theorem readKey_eq_error_iff {element : String} :
    readKey (Text.trim element) = .error error ↔
      (∀ key, ¬IsKey element key) ∧ error = .invalidKey (Text.trim element) := by
  simp only [← readKey_eq_ok_iff]
  rw [readKey, map_eq_error_iff, readBelow]
  cases Text.readUnsigned? UInt32.size (Text.trim element) with
  | none => exact ⟨fun h => ⟨fun _ => nofun, (Except.error.inj h).symm⟩, fun h => by rw [h.2]⟩
  | some n => exact ⟨nofun, fun h => absurd rfl (h.1 n.toUInt32)⟩

theorem exists_isSeparated (text : String) : ∃ parts, IsSeparated ',' text parts :=
  ⟨_, Text.fields_eq_iff.mp rfl⟩

/-- The keys of a list are read from the parts between its commas, one after the other. -/
theorem readKeys_eq {parts : List String} (h : IsSeparated ',' text parts) :
    readKeys text = parts.mapM fun part => readKey (Text.trim part) := by
  have helements : elements text = parts.map Text.trim := by
    rw [elements, ← Text.fields_eq_iff.mpr h, List.map_map]
    rfl
  rw [readKeys, helements, List.mapM_map]
  rfl

theorem readKeys_eq_ok_iff : readKeys text = .ok keys ↔ IsKeyList text keys := by
  constructor
  · intro h
    obtain ⟨parts, hparts⟩ := exists_isSeparated text
    rw [readKeys_eq hparts, mapM_eq_ok_iff] at h
    exact ⟨parts, hparts, h.imp fun _ _ => readKey_eq_ok_iff.mp⟩
  · rintro ⟨parts, hparts, hkeys⟩
    rw [readKeys_eq hparts, mapM_eq_ok_iff]
    exact hkeys.imp fun _ _ => readKey_eq_ok_iff.mpr

theorem readKeys_eq_error_iff :
    readKeys text = .error error ↔ ∃ bad, IsFirstBadKey text bad ∧ error = .invalidKey bad := by
  constructor
  · intro h
    obtain ⟨parts, hparts⟩ := exists_isSeparated text
    rw [readKeys_eq hparts, mapM_eq_error_iff] at h
    obtain ⟨before, element, after, rfl, hbefore, helement⟩ := h
    obtain ⟨hnone, rfl⟩ := readKey_eq_error_iff.mp helement
    refine ⟨Text.trim element, ⟨before, element, after, hparts, ?_, ?_, hnone⟩, rfl⟩
    · exact fun e he => (hbefore e he).imp fun _ => readKey_eq_ok_iff.mp
    · exact Text.trim_eq_iff.mp rfl
  · rintro ⟨bad, ⟨before, element, after, hparts, hbefore, hbad, hnone⟩, rfl⟩
    rw [readKeys_eq hparts, mapM_eq_error_iff]
    refine ⟨before, element, after, rfl, ?_, ?_⟩
    · exact fun e he => (hbefore e he).imp fun _ => readKey_eq_ok_iff.mpr
    · exact readKey_eq_error_iff.mpr ⟨hnone, by rw [Text.trim_eq_iff.mpr hbad]⟩

end ShortLink.Settings
