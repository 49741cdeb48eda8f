import ShortLink.Bytes

/-!
# Texts as byte strings

The UTF-8 form of a text determines the text. Texts of ASCII characters have one byte for each
character.

## Main results

- `Bytes.ofText_injective`, `Bytes.toText?_ofText` — a text is recovered from its bytes
- `Bytes.ofText_ofList_of_ascii` — the bytes of a list of ASCII characters
-/

namespace ShortLink.Bytes

/-- Two texts with the same bytes are the same. -/
theorem ofText_injective {a b : String} (h : ofText a = ofText b) : a = b := by
  apply String.toByteArray_inj.mp
  apply ByteArray.ext
  exact Array.toList_inj.mp h

theorem ofText_eq_nil_iff {text : String} : ofText text = [] ↔ text = "" :=
  ⟨fun h => ofText_injective h, fun h => h ▸ rfl⟩

@[simp] theorem length_ofText (text : String) : (ofText text).length = text.utf8ByteSize := by
  rw [ofText, Array.length_toList]
  rfl

theorem ofText_ofList (chars : List Char) :
    ofText (String.ofList chars) = chars.flatMap String.utf8EncodeChar := by
  show (String.ofList chars).toByteArray.data.toList = _
  rw [String.toByteArray_ofList, List.utf8Encode]
  simp

/-- Reading the bytes of a text gives the text back. -/
@[simp] theorem toText?_ofText (text : String) : toText? (ofText text) = some text := by
  rw [toText?, ofText, Array.toArray_toList, String.fromUTF8?]
  exact dif_pos text.isValidUTF8

theorem ofText_ofList_of_ascii {chars : List Char} (h : ∀ c ∈ chars, c.utf8Size = 1) :
    ofText (String.ofList chars) = chars.map fun c => c.val.toUInt8 := by
  rw [ofText_ofList]
  induction chars with
  | nil => rfl
  | cons c rest ih =>
    rw [List.flatMap_cons, List.map_cons, String.utf8EncodeChar_eq_singleton (h c (by simp)),
      ih fun d hd => h d (List.mem_cons_of_mem c hd)]
    rfl

end ShortLink.Bytes
