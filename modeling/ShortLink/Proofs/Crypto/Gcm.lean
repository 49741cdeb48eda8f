import ShortLink.Crypto.Gcm
import ShortLink.Proofs.Bytes.Xor

/-!
# Galois counter mode decrypts what it encrypts

Under a key of 32 bytes every block of the key stream has sixteen bytes, so the stream is as long as
the text it is combined with, and combining twice gives the text back. The tag over a ciphertext is
computed again on the way back, so it is always the one that stands there.

## Main results

- `Crypto.length_encryptBlock` — the image of a block is a block
- `Crypto.length_gcmEncrypt` — encryption adds sixteen bytes
- `Crypto.gcmDecrypt?_gcmEncrypt` — decryption undoes encryption
-/

namespace ShortLink.Crypto

theorem length_flatMap_of_forall {α : Type} {f : α → Bytes} {l : List α} {n : Nat}
    (h : ∀ a ∈ l, (f a).length = n) : (l.flatMap f).length = l.length * n := by
  rw [List.length_flatMap, List.map_eq_replicate_iff.mpr h, List.sum_replicate_nat]

/-! ### Lengths in the block cipher -/

theorem length_expansionWord {before : Bytes} (h : before.length = 4) (i : Nat) :
    (expansionWord i before).length = 4 := by
  rw [expansionWord]
  split
  · rw [Bytes.length_xor, List.length_map, List.length_append, List.length_drop, List.length_take, h]
    rfl
  · split
    · rw [List.length_map, h]
    · exact h

/-- The words of an expanded key after `n` of its steps. -/
structure IsExpansion (words : Array Bytes) (n : Nat) : Prop where
  size : words.size = 8 + n
  length : ∀ word ∈ words, word.length = 4

theorem IsExpansion.length_getD {words : Array Bytes} {n i : Nat} (h : IsExpansion words n)
    (hi : i < 8 + n) : (words.getD i []).length = 4 := by
  have hsize : i < words.size := by rw [h.size]; exact hi
  rw [Array.getD_eq_getD_getElem?, Array.getElem?_eq_getElem hsize, Option.getD_some]
  exact h.length _ (Array.getElem_mem hsize)

theorem IsExpansion.push {words : Array Bytes} {n : Nat} (h : IsExpansion words n) :
    IsExpansion (words.push (Bytes.xor (words.getD n [])
      (expansionWord (n + 8) (words.getD (n + 7) [])))) (n + 1) where
  size := by rw [Array.size_push, h.size, Nat.add_assoc]
  length := by
    intro word hword
    rw [Array.mem_push] at hword
    rcases hword with hold | rfl
    · exact h.length word hold
    · rw [Bytes.length_xor, h.length_getD (by omega),
        length_expansionWord (h.length_getD (by omega)), Nat.min_self]

theorem isExpansion_start {key : Bytes} (h : key.length = 32) :
    IsExpansion ((List.range 8).map fun i => (key.drop (4 * i)).take 4).toArray 0 where
  size := rfl
  length := by
    intro word hword
    rw [List.mem_toArray] at hword
    obtain ⟨i, hi, rfl⟩ := List.mem_map.mp hword
    rw [List.mem_range] at hi
    rw [List.length_take, List.length_drop, h]
    omega

theorem isExpansion_expandKey {key : Bytes} (h : key.length = 32) :
    IsExpansion (expandKey key) 52 := by
  -- After the first `n` steps the expansion has `n` words more than the key.
  have hsteps : ∀ n, IsExpansion ((List.range n).foldl
      (fun w i => w.push (Bytes.xor (w.getD i []) (expansionWord (i + 8) (w.getD (i + 7) []))))
      ((List.range 8).map fun i => (key.drop (4 * i)).take 4).toArray) n := by
    intro n
    induction n with
    | zero => exact isExpansion_start h
    | succ n ih =>
      have hlast := List.range_succ (n := n)
      rw [hlast, List.foldl_append]
      exact ih.push
  exact hsteps 52

theorem length_of_mem_roundKeys {key : Bytes} (h : key.length = 32) :
    ∀ roundKey ∈ roundKeys key, roundKey.length = 16 := by
  intro roundKey hmem
  obtain ⟨r, hr, rfl⟩ := List.mem_map.mp hmem
  rw [List.mem_range] at hr
  have hword : ∀ c < 4, ((expandKey key).getD (4 * r + c) []).length = 4 := by
    intro c hc
    exact (isExpansion_expandKey h).length_getD (by omega)
  rw [length_flatMap_of_forall fun c hc => hword c (List.mem_range.mp hc), List.length_range]

theorem length_shiftRows (block : Bytes) : (shiftRows block).length = 16 := by
  rw [shiftRows, List.length_map, List.length_range]

variable {keys : List Bytes}

theorem length_rounds (hkeys : ∀ key ∈ keys, key.length = 16) (hne : keys ≠ []) (block : Bytes) :
    (rounds block keys).length = 16 := by
  fun_induction rounds block keys with
  | case1 block => exact absurd rfl hne
  | case2 block key =>
    -- Turning the rows gives sixteen bytes, whatever the block was before.
    rw [Bytes.length_xor, length_shiftRows, hkeys key (List.mem_singleton_self key), Nat.min_self]
  | case3 block key later hlater ih =>
    rw [List.forall_mem_cons] at hkeys
    exact ih hkeys.2 hlater

/-- The image of a block is a block under at least two round keys. -/
theorem length_encryptBlock (hkeys : ∀ key ∈ keys, key.length = 16) (hsize : 1 < keys.length)
    (block : Bytes) : (encryptBlock keys block).length = 16 := by
  match keys, hkeys, hsize with
  | first :: later, hkeys, hsize =>
    rw [List.forall_mem_cons] at hkeys
    rw [List.length_cons] at hsize
    exact length_rounds hkeys.2 (List.length_pos_iff.mp (by omega)) _

/-! ### The mode -/

theorem length_keyStream (hkeys : ∀ key ∈ keys, key.length = 16) (hsize : 1 < keys.length)
    (nonce : Bytes) (n : Nat) : (keyStream keys nonce n).length = n := by
  rw [keyStream, List.length_take,
    length_flatMap_of_forall fun i _ => length_encryptBlock hkeys hsize _, List.length_range]
  omega

theorem length_applyStream (hkeys : ∀ key ∈ keys, key.length = 16) (hsize : 1 < keys.length)
    (nonce text : Bytes) : (applyStream keys nonce text).length = text.length := by
  rw [applyStream, Bytes.length_xor, length_keyStream hkeys hsize, Nat.min_self]

/-- Combining a text with the key stream twice gives the text back. -/
theorem applyStream_applyStream (hkeys : ∀ key ∈ keys, key.length = 16) (hsize : 1 < keys.length)
    (nonce text : Bytes) : applyStream keys nonce (applyStream keys nonce text) = text := by
  rw [applyStream, length_applyStream hkeys hsize]
  exact Bytes.xor_xor (length_keyStream hkeys hsize _ _).symm

theorem length_gcmTag (keys : List Bytes) (nonce ciphertext : Bytes) :
    (gcmTag keys nonce ciphertext).length = tagSize := by
  rw [gcmTag, ofWord128, List.length_map, List.length_range]
  rfl

variable {key : Bytes}

/-- Encryption adds a tag of sixteen bytes. -/
theorem length_gcmEncrypt (h : key.length = 32) (nonce text : Bytes) :
    (gcmEncrypt key nonce text).length = text.length + tagSize := by
  have hsize : 1 < (roundKeys key).length := by simp [roundKeys]
  rw [gcmEncrypt, List.length_append, length_gcmTag,
    length_applyStream (length_of_mem_roundKeys h) hsize]

/-- Decryption undoes encryption. -/
theorem gcmDecrypt?_gcmEncrypt (h : key.length = 32) (nonce text : Bytes) :
    gcmDecrypt? key nonce (gcmEncrypt key nonce text) = some text := by
  have hsize : 1 < (roundKeys key).length := by simp [roundKeys]
  have hlength := length_gcmEncrypt h nonce text
  have hroom : (gcmEncrypt key nonce text).length - tagSize
      = (applyStream (roundKeys key) nonce text).length := by
    rw [hlength, length_applyStream (length_of_mem_roundKeys h) hsize, Nat.add_sub_cancel]
  simp only [gcmDecrypt?, hroom]
  rw [gcmEncrypt, List.take_left, List.drop_left, if_neg,
    applyStream_applyStream (length_of_mem_roundKeys h) hsize]
  rintro (hshort | htag)
  · rw [gcmEncrypt] at hlength
    omega
  · exact htag rfl

end ShortLink.Crypto
