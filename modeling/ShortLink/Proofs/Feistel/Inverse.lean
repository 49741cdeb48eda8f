import ShortLink.Feistel.Stream
import ShortLink.Proofs.Bytes.Xor

/-!
# The byte-string permutation is undone

A Feistel network is undone round by round as long as mixing in the same value twice changes
nothing. For byte strings that holds among halves of one length, which the rounds keep.

## Main definitions

- `Feistel.Cancels` — a set of halves in which an exclusive or undoes itself

## Main results

- `Feistel.Block.decrypt_encrypt`, `Feistel.Block.encrypt_decrypt` — a network and its inverse rounds,
  last to first, undo each other
- `Feistel.unscrambleBytes_scrambleBytes`, `Feistel.scrambleBytes_unscrambleBytes` — a byte string
  comes back both ways, padded to even length
-/

namespace ShortLink.Feistel

/-- A set of halves that the exclusive or does not leave, and in which it undoes itself. -/
structure Cancels {α : Type} [XorOp α] (S : α → Prop) : Prop where
  xor_mem : ∀ {a b : α}, S a → S b → S (a ^^^ b)
  xor_xor : ∀ {a b : α}, S a → S b → a ^^^ b ^^^ b = a

namespace Block

variable {α : Type} [XorOp α] {S : α → Prop} {f : α → α} {schedule : List (α → α)}

/-- Both halves of a block lie in a set. -/
def Within (S : α → Prop) (block : Block α) : Prop := S block.left ∧ S block.right

theorem Within.round (hS : Cancels S) (hf : ∀ a, S a → S (f a)) {block : Block α}
    (h : block.Within S) : (block.round f).Within S :=
  ⟨h.2, hS.xor_mem h.1 (hf _ h.2)⟩

theorem unround_round (hS : Cancels S) (hf : ∀ a, S a → S (f a)) {block : Block α}
    (h : block.Within S) : (block.round f).unround f = block := by
  ext1
  · exact hS.xor_xor h.1 (hf _ h.2)
  · rfl

theorem Within.unround (hS : Cancels S) (hf : ∀ a, S a → S (f a)) {block : Block α}
    (h : block.Within S) : (block.unround f).Within S :=
  ⟨hS.xor_mem h.2 (hf _ h.1), h.1⟩

theorem round_unround (hS : Cancels S) (hf : ∀ a, S a → S (f a)) {block : Block α}
    (h : block.Within S) : (block.unround f).round f = block := by
  ext1
  · rfl
  · exact hS.xor_xor h.2 (hf _ h.1)

theorem Within.encrypt (hS : Cancels S) (hf : ∀ f ∈ schedule, ∀ a, S a → S (f a))
    {block : Block α} (h : block.Within S) : (block.encrypt schedule).Within S := by
  induction schedule generalizing block with
  | nil => exact h
  | cons f later ih =>
    rw [List.forall_mem_cons] at hf
    exact ih hf.2 (h.round hS hf.1)

theorem Within.decrypt (hS : Cancels S) (hf : ∀ f ∈ schedule, ∀ a, S a → S (f a))
    {block : Block α} (h : block.Within S) : (block.decrypt schedule).Within S := by
  induction schedule with
  | nil => exact h
  | cons f later ih =>
    rw [List.forall_mem_cons] at hf
    exact (ih hf.2).unround hS hf.1

/-- The inverse rounds undo a network, whatever its round functions do. -/
theorem decrypt_encrypt (hS : Cancels S) (hf : ∀ f ∈ schedule, ∀ a, S a → S (f a))
    {block : Block α} (h : block.Within S) :
    (block.encrypt schedule).decrypt schedule = block := by
  induction schedule generalizing block with
  | nil => rfl
  | cons f later ih =>
    rw [List.forall_mem_cons] at hf
    show (((block.round f).encrypt later).decrypt later).unround f = block
    rw [ih hf.2 (h.round hS hf.1), unround_round hS hf.1 h]

/-- A network undoes its inverse rounds. -/
theorem encrypt_decrypt (hS : Cancels S) (hf : ∀ f ∈ schedule, ∀ a, S a → S (f a))
    {block : Block α} (h : block.Within S) :
    (block.decrypt schedule).encrypt schedule = block := by
  induction schedule with
  | nil => rfl
  | cons f later ih =>
    rw [List.forall_mem_cons] at hf
    show (((block.decrypt later).unround f).round f).encrypt later = block
    rw [round_unround hS hf.1 (h.decrypt hS hf.2), ih hf.2]

end Block

/-- Among byte strings of one length the exclusive or undoes itself. -/
theorem cancels_length (n : Nat) : Cancels fun half : Bytes => half.length = n where
  xor_mem := by
    intro a b ha hb
    exact (Bytes.length_xor a b).trans (by rw [ha, hb, Nat.min_self])
  xor_xor := by
    intro a b ha hb
    exact Bytes.xor_xor (ha.trans hb.symm)

theorem length_of_mem_streamSchedule {key : Bytes} {rounds : UInt8} {f : Bytes → Bytes}
    (hf : f ∈ streamSchedule key rounds) (half : Bytes) : (f half).length = half.length := by
  obtain ⟨i, -, rfl⟩ := List.mem_map.mp hf
  exact List.length_mapIdx

theorem length_padEven (data : Bytes) : (padEven data).length = data.length + data.length % 2 := by
  rw [padEven]
  split
  · omega
  · rw [List.length_append, List.length_singleton]
    omega

theorem padEven_eq_self {data : Bytes} (h : data.length % 2 = 0) : padEven data = data := if_pos h

theorem splitBytes_padEven (data : Bytes) : splitBytes (padEven data) = splitBytes data := by
  have heven : (padEven data).length % 2 = 0 := by
    rw [length_padEven]
    omega
  rw [splitBytes, splitBytes, padEven_eq_self heven]

theorem exists_padEven_eq (data : Bytes) : ∃ tail, padEven data = data ++ tail := by
  rw [padEven]
  split
  · exact ⟨[], (List.append_nil data).symm⟩
  · exact ⟨[0], rfl⟩

theorem joinBytes_splitBytes (data : Bytes) : joinBytes (splitBytes data) = padEven data :=
  List.take_append_drop _ _

theorem splitBytes_within (data : Bytes) :
    (splitBytes data).Within fun half => half.length = (padEven data).length / 2 := by
  have heven := length_padEven data
  constructor
  · show (List.take _ _).length = _
    rw [List.length_take]
    omega
  · show (List.drop _ _).length = _
    rw [List.length_drop]
    omega

theorem length_joinBytes {block : Block Bytes} {n : Nat}
    (h : block.Within fun half => half.length = n) : (joinBytes block).length = n + n := by
  rw [joinBytes, List.length_append, h.1, h.2]

theorem splitBytes_joinBytes {block : Block Bytes} {n : Nat}
    (h : block.Within fun half => half.length = n) : splitBytes (joinBytes block) = block := by
  have hlen := length_joinBytes h
  have hpad : padEven (joinBytes block) = joinBytes block := padEven_eq_self (by omega)
  have hhalf : (joinBytes block).length / 2 = block.left.length := by
    rw [hlen, h.1]
    omega
  ext1
  · show List.take _ _ = _
    rw [hpad, hhalf, joinBytes, List.take_left]
  · show List.drop _ _ = _
    rw [hpad, hhalf, joinBytes, List.drop_left]

theorem encrypt_splitBytes_within (data key : Bytes) (rounds : UInt8) :
    ((splitBytes data).encrypt (streamSchedule key rounds)).Within
      fun half => half.length = (padEven data).length / 2 :=
  (splitBytes_within data).encrypt (cancels_length _)
    fun _ hf half h => (length_of_mem_streamSchedule hf half).trans h

theorem decrypt_splitBytes_within (data key : Bytes) (rounds : UInt8) :
    ((splitBytes data).decrypt (streamSchedule key rounds)).Within
      fun half => half.length = (padEven data).length / 2 :=
  (splitBytes_within data).decrypt (cancels_length _)
    fun _ hf half h => (length_of_mem_streamSchedule hf half).trans h

/-- A scrambled byte string has even length, at most one byte more than before. -/
theorem length_scrambleBytes (data key : Bytes) (rounds : UInt8) :
    (scrambleBytes data key rounds).length = data.length + data.length % 2 := by
  have hlen := length_padEven data
  rw [scrambleBytes, length_joinBytes (encrypt_splitBytes_within data key rounds)]
  omega

theorem length_unscrambleBytes (data key : Bytes) (rounds : UInt8) :
    (unscrambleBytes data key rounds).length = data.length + data.length % 2 := by
  have hlen := length_padEven data
  rw [unscrambleBytes, length_joinBytes (decrypt_splitBytes_within data key rounds)]
  omega

theorem unscrambleBytes_scrambleBytes (data key : Bytes) (rounds : UInt8) :
    unscrambleBytes (scrambleBytes data key rounds) key rounds = padEven data := by
  rw [unscrambleBytes, scrambleBytes,
    splitBytes_joinBytes (encrypt_splitBytes_within data key rounds),
    Block.decrypt_encrypt (cancels_length _) _ (splitBytes_within data), joinBytes_splitBytes]
  intro f hf half h
  exact (length_of_mem_streamSchedule hf half).trans h

theorem scrambleBytes_unscrambleBytes (data key : Bytes) (rounds : UInt8) :
    scrambleBytes (unscrambleBytes data key rounds) key rounds = padEven data := by
  rw [scrambleBytes, unscrambleBytes,
    splitBytes_joinBytes (decrypt_splitBytes_within data key rounds),
    Block.encrypt_decrypt (cancels_length _) _ (splitBytes_within data), joinBytes_splitBytes]
  intro f hf half h
  exact (length_of_mem_streamSchedule hf half).trans h

end ShortLink.Feistel
