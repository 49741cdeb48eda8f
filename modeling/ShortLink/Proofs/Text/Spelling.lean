import Mathlib.Data.List.TakeWhile
import Mathlib.Data.Set.List
import ShortLink.Proofs.Bytes.Positional
import ShortLink.Text.Blank
import ShortLink.Text.CodeRange
import ShortLink.Text.Unsigned

/-!
# How texts are spelled

White space around a text, the parts of a list, and the decimal form of a number, each described by
the texts that there are and not by how they are read. What is read is described in these terms: the
text without its white space, the parts between separators, and the number.

## Main definitions

- `Text.TrimsTo` — a text, and the one inside it that has no white space at its ends
- `Text.IsSeparated` — a text as a list of parts
- `Text.IsDecimalOf` — the decimal forms of a number

## Main results

- `Text.trim_eq_iff`, `Text.fields_eq_iff`, `Text.readUnsigned?_eq_some_iff` — what is read
-/

namespace ShortLink.Text

variable {p : Char → Bool} {cs inner : List Char} {text trimmed : String} {n bound : Nat}

/-! ### White space -/

/-- A text is nothing but white space, if anything. -/
def IsBlank (text : String) : Prop := ∀ c ∈ text.toList, isBlank c = true

/-- There is no white space at the ends of a text. -/
structure IsTrimmed (text : String) : Prop where
  head : ∀ c ∈ text.toList.head?, isBlank c = false
  last : ∀ c ∈ text.toList.getLast?, isBlank c = false

/-- A text is another one, without white space at its ends, with white space before and after it. -/
structure TrimsTo (text trimmed : String) : Prop where
  isTrimmed : IsTrimmed trimmed
  exists_blanks : ∃ before after, text = before ++ trimmed ++ after ∧ IsBlank before ∧ IsBlank after

theorem dropWhile_eq_self (h : ∀ c ∈ cs.head?, p c = false) : cs.dropWhile p = cs := by
  cases cs with
  | nil => rfl
  | cons c rest => exact List.dropWhile_cons_of_neg (by simp [h c rfl])

theorem head?_dropWhile : ∀ c ∈ (cs.dropWhile p).head?, p c = false := by
  intro c hc
  have hnot := List.head?_dropWhile_not p cs
  rwa [Option.mem_def.mp hc] at hnot

/-- What has the property at the ends is taken away. -/
theorem trimWhere_append {before after : List Char} (hbefore : ∀ c ∈ before, p c = true)
    (hafter : ∀ c ∈ after, p c = true) (hhead : ∀ c ∈ inner.head?, p c = false)
    (hlast : ∀ c ∈ inner.getLast?, p c = false) :
    trimWhere p (before ++ inner ++ after) = inner := by
  rw [trimWhere, List.append_assoc, List.dropWhile_append_of_pos hbefore]
  cases inner with
  | nil =>
    rw [List.nil_append, List.dropWhile_eq_nil_iff.mpr hafter]
    rfl
  | cons c rest =>
    have hfront : (c :: rest ++ after).dropWhile p = c :: rest ++ after := dropWhile_eq_self hhead
    rw [hfront, List.reverse_append,
      List.dropWhile_append_of_pos fun a ha => hafter a (List.mem_reverse.mp ha),
      dropWhile_eq_self (by rwa [List.head?_reverse]), List.reverse_reverse]

/-- Nothing else is taken away. -/
theorem exists_trimWhere (p : Char → Bool) (cs : List Char) :
    ∃ before after, cs = before ++ trimWhere p cs ++ after ∧
      (∀ c ∈ before, p c = true) ∧ ∀ c ∈ after, p c = true := by
  refine ⟨cs.takeWhile p, ((cs.dropWhile p).reverse.takeWhile p).reverse, ?_, ?_, ?_⟩
  · rw [List.append_assoc, trimWhere, ← List.reverse_append, List.takeWhile_append_dropWhile,
      List.reverse_reverse, List.takeWhile_append_dropWhile]
  · exact fun c hc => List.mem_takeWhile_imp hc
  · exact fun c hc => List.mem_takeWhile_imp (List.mem_reverse.mp hc)

theorem head?_trimWhere : ∀ c ∈ (trimWhere p cs).head?, p c = false := by
  intro c hc
  -- What is left begins as the text did once it had lost its front.
  suffices hfront : c ∈ (cs.dropWhile p).head? from head?_dropWhile c hfront
  have hsplit : cs.dropWhile p
      = trimWhere p cs ++ ((cs.dropWhile p).reverse.takeWhile p).reverse := by
    rw [trimWhere, ← List.reverse_append, List.takeWhile_append_dropWhile, List.reverse_reverse]
  rw [hsplit, List.head?_append, Option.mem_def.mp hc]
  rfl

theorem getLast?_trimWhere : ∀ c ∈ (trimWhere p cs).getLast?, p c = false := by
  intro c hc
  rw [trimWhere, List.getLast?_reverse] at hc
  exact head?_dropWhile c hc

/-- Trimming finds the text inside the white space. -/
theorem trim_eq_iff : trim text = trimmed ↔ TrimsTo text trimmed := by
  constructor
  · rintro rfl
    obtain ⟨before, after, hsplit, hbefore, hafter⟩ := exists_trimWhere isBlank text.toList
    refine ⟨⟨?_, ?_⟩, String.ofList before, String.ofList after, ?_, ?_, ?_⟩
    · rw [trim, String.toList_ofList]
      exact head?_trimWhere
    · rw [trim, String.toList_ofList]
      exact getLast?_trimWhere
    · rw [← String.toList_inj, String.toList_append, String.toList_append, trim]
      simpa only [String.toList_ofList] using hsplit
    · rwa [IsBlank, String.toList_ofList]
    · rwa [IsBlank, String.toList_ofList]
  · rintro ⟨⟨hhead, hlast⟩, before, after, rfl, hbefore, hafter⟩
    rw [trim, ← String.toList_inj, String.toList_ofList, String.toList_append, String.toList_append]
    exact trimWhere_append hbefore hafter hhead hlast

theorem TrimsTo.eq {other : String} (h : TrimsTo text trimmed) (hother : TrimsTo text other) :
    trimmed = other :=
  (trim_eq_iff.mpr h).symm.trans (trim_eq_iff.mpr hother)

/-- Nothing is left of a text that is all white space. -/
theorem trimsTo_empty_iff : TrimsTo text "" ↔ IsBlank text := by
  constructor
  · rintro ⟨-, before, after, rfl, hbefore, hafter⟩
    rw [String.append_empty, IsBlank, String.toList_append, List.forall_mem_append]
    exact ⟨hbefore, hafter⟩
  · intro h
    refine ⟨⟨?_, ?_⟩, text, "", ?_, h, ?_⟩
    · exact fun _ hc => nomatch hc
    · exact fun _ hc => nomatch hc
    · rw [String.append_empty, String.append_empty]
    · exact fun _ hc => nomatch hc

/-! ### Lists -/

/-- A text is a list of parts, at least one, with the separator between them and in none of them. -/
structure IsSeparated (separator : Char) (text : String) (parts : List String) : Prop where
  eq_intercalate : text = (String.singleton separator).intercalate parts
  not_mem : ∀ part ∈ parts, separator ∉ part.toList
  ne_nil : parts ≠ []

theorem exists_fields_eq_cons (separator : Char) (cs : List Char) :
    ∃ part others, fields separator cs = part :: others := by
  cases cs with
  | nil => exact ⟨[], [], rfl⟩
  | cons c rest =>
    rw [fields, List.foldr_cons]
    split
    · exact ⟨_, _, rfl⟩
    · split <;> exact ⟨_, _, rfl⟩

theorem fields_cons (separator c : Char) (rest : List Char) :
    fields separator (c :: rest) =
      if c = separator then [] :: fields separator rest
      else (fields separator rest).modifyHead (c :: ·) := by
  obtain ⟨part, others, hparts⟩ := exists_fields_eq_cons separator rest
  rw [fields] at hparts
  rw [fields, fields, List.foldr_cons, hparts]
  rfl

theorem fields_eq_splitOn (separator : Char) (cs : List Char) :
    fields separator cs = cs.splitOn separator := by
  induction cs with
  | nil => rfl
  | cons c rest ih =>
    rw [fields_cons, List.splitOn_cons_eq_if_modifyHead, ih]
    simp only [beq_iff_eq]

theorem not_mem_of_mem_fields {separator : Char} :
    ∀ part ∈ fields separator cs, separator ∉ part := by
  induction cs with
  | nil => exact List.forall_mem_singleton.mpr List.not_mem_nil
  | cons c rest ih =>
    obtain ⟨part, others, hparts⟩ := exists_fields_eq_cons separator rest
    rw [fields_cons]
    rw [hparts, List.forall_mem_cons] at ih
    split
    · rw [hparts, List.forall_mem_cons, List.forall_mem_cons]
      exact ⟨List.not_mem_nil, ih⟩
    · next hc =>
      rw [hparts, List.modifyHead_cons, List.forall_mem_cons]
      exact ⟨List.not_mem_cons_of_ne_of_not_mem (Ne.symm hc) ih.1, ih.2⟩

/-- The parts of a text are those between its separators. -/
theorem fields_eq_iff {separator : Char} {parts : List String} :
    (fields separator text.toList).map String.ofList = parts ↔ IsSeparated separator text parts := by
  constructor
  · rintro rfl
    refine ⟨?_, ?_, ?_⟩
    · rw [← String.toList_inj, String.toList_intercalate, List.map_map, fields_eq_splitOn]
      simp [Function.comp_def, String.toList_ofList, List.intercalate_splitOn]
    · intro part hpart
      obtain ⟨cs, hcs, rfl⟩ := List.mem_map.mp hpart
      rw [String.toList_ofList]
      exact not_mem_of_mem_fields cs hcs
    · rw [Ne, List.map_eq_nil_iff, fields_eq_splitOn]
      exact List.splitOn_ne_nil _ _
  · rintro ⟨rfl, hnot, hne⟩
    rw [String.toList_intercalate, fields_eq_splitOn, String.toList_singleton,
      List.splitOn_intercalate, List.map_map]
    · simp [Function.comp_def]
    · simpa using hnot
    · simpa using hne

/-! ### Numbers -/

/-- A text is a decimal form of a number: a plus sign or none, and then at least one digit. -/
def IsDecimalOf (text : String) (n : Nat) : Prop :=
  ∃ digits : List (Fin 10), digits ≠ [] ∧
    (text.toList = digits.map (Nat.digitChar ·.val) ∨
      text.toList = '+' :: digits.map (Nat.digitChar ·.val)) ∧
    n = Nat.ofDigits 10 (digits.map Fin.val).reverse

theorem toNat_digitChar (d : Fin 10) : (Nat.digitChar d).toNat = d + 48 := by
  revert d
  decide

theorem digitChar_ne_plus (d : Fin 10) : Nat.digitChar d ≠ '+' := by
  revert d
  decide

theorem isDecimal_iff {c : Char} : isDecimal c = true ↔ ∃ d : Fin 10, Nat.digitChar d = c := by
  constructor
  · intro h
    obtain ⟨hlow, hhigh⟩ := Bool.and_eq_true_iff.mp h
    have hlow : 48 ≤ c.toNat := of_decide_eq_true hlow
    have hhigh : c.toNat ≤ 57 := of_decide_eq_true hhigh
    refine ⟨⟨c.toNat - 48, by omega⟩, ?_⟩
    rw [← Char.toNat_inj, toNat_digitChar]
    exact Nat.sub_add_cancel hlow
  · rintro ⟨d, rfl⟩
    revert d
    decide

theorem readDecimal?_digits {digits : List (Fin 10)} (h : digits ≠ []) :
    readDecimal? (digits.map (Nat.digitChar ·.val))
      = some (Nat.ofDigits 10 (digits.map Fin.val).reverse) := by
  have hall : (digits.map (Nat.digitChar ·.val)).all isDecimal = true := by
    rw [List.all_map, List.all_eq_true]
    exact fun d _ => isDecimal_iff.mpr ⟨d, rfl⟩
  rw [readDecimal?, if_pos ⟨by simpa using h, hall⟩, List.foldl_map]
  simp only [toNat_digitChar, Nat.add_sub_cancel]
  rw [Positional.foldl_zero_eq_ofDigits]

/-- Digits are read from the first to the last. -/
theorem readDecimal?_eq_some_iff :
    readDecimal? cs = some n ↔ ∃ digits : List (Fin 10), digits ≠ [] ∧
      cs = digits.map (Nat.digitChar ·.val) ∧ n = Nat.ofDigits 10 (digits.map Fin.val).reverse := by
  constructor
  · intro h
    by_cases hdigits : cs ≠ [] ∧ cs.all isDecimal = true
    · have hrange : cs ∈ Set.range (List.map fun d : Fin 10 => Nat.digitChar d) := by
        rw [Set.range_list_map]
        exact fun c hc => isDecimal_iff.mp (List.all_eq_true.mp hdigits.2 c hc)
      obtain ⟨digits, rfl⟩ := hrange
      have hne : digits ≠ [] := by simpa using hdigits.1
      rw [readDecimal?_digits hne] at h
      exact ⟨digits, hne, rfl, (Option.some.inj h).symm⟩
    · rw [readDecimal?, if_neg hdigits] at h
      cases h
  · rintro ⟨digits, hne, rfl, rfl⟩
    exact readDecimal?_digits hne

/-- A plus sign is taken away from digits, if there is one. -/
theorem withoutPlus_eq_iff {digits : List (Fin 10)} :
    withoutPlus cs = digits.map (Nat.digitChar ·.val) ↔
      cs = digits.map (Nat.digitChar ·.val) ∨ cs = '+' :: digits.map (Nat.digitChar ·.val) := by
  unfold withoutPlus
  split
  · next rest =>
    have hplus : '+' :: rest ≠ digits.map (Nat.digitChar ·.val) := by
      cases digits with
      | nil => exact List.cons_ne_nil _ _
      | cons d more => exact fun h => digitChar_ne_plus d (List.cons.inj h).1.symm
    rw [or_iff_right hplus, List.cons_inj_right]
  · next hplus => exact (or_iff_left (hplus _)).symm

/-- A number is read from each of its decimal forms, if it is below the bound, and from nothing
else. -/
theorem readUnsigned?_eq_some_iff :
    readUnsigned? bound text = some n ↔ IsDecimalOf text n ∧ n < bound := by
  rw [readUnsigned?, Option.filter_eq_some_iff, decide_eq_true_eq, readDecimal?_eq_some_iff]
  simp only [withoutPlus_eq_iff]
  rfl

theorem IsDecimalOf.eq {m : Nat} (h : IsDecimalOf text n) (hm : IsDecimalOf text m) : n = m := by
  have hread : ∀ k, IsDecimalOf text k → k < n + m + 1 →
      readUnsigned? (n + m + 1) text = some k :=
    fun k hk hlt => readUnsigned?_eq_some_iff.mpr ⟨hk, hlt⟩
  have hboth := (hread n h (by omega)).symm.trans (hread m hm (by omega))
  exact Option.some.inj hboth

end ShortLink.Text
