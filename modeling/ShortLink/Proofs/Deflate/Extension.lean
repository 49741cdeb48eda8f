import ShortLink.Deflate.Inflate

/-!
# Streams with more behind them, outputs with more room

What a reader gets from a stream depends only on the bits it takes: whole bytes behind the stream
stay unread, and a larger limit on the output changes nothing once a smaller one was kept.

## Main results

- `Deflate.readBlocks_append` — reading a stream with more behind it and under a larger limit
- `Deflate.size_readBlocks_le` — the output keeps the limit
- `Deflate.length_readBlocks` — the blocks take some of the input
-/

namespace ShortLink.Deflate

namespace Bits

theorem readNat_append {n value : Nat} {bits rest : Bits} (tail : Bits)
    (h : readNat n bits = some (value, rest)) :
    readNat n (bits ++ tail) = some (value, rest ++ tail) := by
  induction n generalizing bits value with
  | zero =>
    cases h
    rfl
  | succ n ih =>
    cases bits with
    | nil => simp [readNat] at h
    | cons b bits =>
      rw [readNat, Option.map_eq_some_iff] at h
      obtain ⟨⟨v, r⟩, hr, heq⟩ := h
      cases heq
      rw [List.cons_append, readNat, ih hr, Option.map_some]

theorem readByte_append {b : UInt8} {bits rest : Bits} (tail : Bits)
    (h : readByte bits = some (b, rest)) :
    readByte (bits ++ tail) = some (b, rest ++ tail) := by
  rw [readByte, Option.map_eq_some_iff] at h
  obtain ⟨⟨v, r⟩, hr, heq⟩ := h
  cases heq
  rw [readByte, readNat_append tail hr, Option.map_some]

theorem readBytes_append {n : Nat} {out result : Array UInt8} {bits rest : Bits} (tail : Bits)
    (h : readBytes out n bits = some (result, rest)) :
    readBytes out n (bits ++ tail) = some (result, rest ++ tail) := by
  induction n generalizing out bits with
  | zero =>
    cases h
    rfl
  | succ n ih =>
    rw [readBytes] at h
    split at h
    · simp at h
    · next b r hr =>
      rw [readBytes, readByte_append tail hr]
      exact ih h

/-- Whole bytes behind a stream do not move its byte boundaries. -/
theorem align_append {bits tail : Bits} (htail : tail.length % 8 = 0) :
    (bits ++ tail).align = bits.align ++ tail := by
  have hmod : (bits ++ tail).length % 8 = bits.length % 8 := by
    rw [List.length_append]
    omega
  rw [align, align, hmod, List.drop_append_of_le_length (Nat.mod_le _ _)]

end Bits

theorem CodeTree.follow_append {tree : CodeTree} {bits rest : Bits} {symbol : Nat} (tail : Bits)
    (h : tree.follow bits = some (symbol, rest)) :
    tree.follow (bits ++ tail) = some (symbol, rest ++ tail) := by
  fun_induction follow tree bits with
  | case1 => simp_all [follow]
  | case2 => simp at h
  | case3 => simp at h
  | case4 zero one b bits ih =>
    rw [List.cons_append, follow]
    exact ih h

theorem CodeTree.readSymbol_append {tree : CodeTree} {bits rest : Bits} {symbol : Nat}
    (tail : Bits) (h : tree.readSymbol bits = some (symbol, rest)) :
    tree.readSymbol (bits ++ tail) = some (symbol, rest ++ tail) := by
  unfold readSymbol at h
  split at h
  · exact follow_append tail h
  · simp at h

theorem readStep_append {steps : Array (Nat × Nat)} {symbol value : Nat} {bits rest : Bits}
    (tail : Bits) (h : readStep steps symbol bits = some (value, rest)) :
    readStep steps symbol (bits ++ tail) = some (value, rest ++ tail) := by
  unfold readStep at h ⊢
  split at h
  · simp at h
  · rw [Option.map_eq_some_iff] at h
    obtain ⟨⟨v, r⟩, hr, heq⟩ := h
    cases heq
    rw [Bits.readNat_append tail hr, Option.map_some]

theorem readCopy_append {distances : CodeTree} {symbol length distance : Nat} {bits rest : Bits}
    (tail : Bits) (h : readCopy distances symbol bits = some (length, distance, rest)) :
    readCopy distances symbol (bits ++ tail) = some (length, distance, rest ++ tail) := by
  unfold readCopy at h
  simp only [Option.bind_eq_bind, Option.bind_eq_some_iff, Option.pure_def, Option.some.injEq,
    Prod.exists, Prod.mk.injEq] at h
  obtain ⟨_, b1, h1, _, b2, h2, _, b3, h3, rfl, rfl, rfl⟩ := h
  simp only [readCopy, Option.bind_eq_bind, Option.pure_def, readStep_append tail h1,
    CodeTree.readSymbol_append tail h2, readStep_append tail h3, Option.bind_some]

theorem readItem_append {literals distances : CodeTree} {bits rest : Bits} {item : Item}
    (tail : Bits) (h : readItem literals distances bits = some (item, rest)) :
    readItem literals distances (bits ++ tail) = some (item, rest ++ tail) := by
  unfold readItem at h ⊢
  split at h
  · simp at h
  · next symbol r hs =>
    rw [CodeTree.readSymbol_append tail hs]
    repeat' split at h
    · simp_all
    · simp_all
    · next hliteral hend =>
      rw [Option.map_eq_some_iff] at h
      obtain ⟨⟨length, distance, r'⟩, hr, heq⟩ := h
      cases heq
      simp only [if_neg hliteral, if_neg hend, readCopy_append tail hr, Option.map_some]

variable {limit limit' : Nat}

/-! ### Larger limits -/

theorem readItems_append {literals distances : CodeTree} {out result : Array UInt8}
    {bits rest : Bits} (tail : Bits) (hlimit : limit ≤ limit')
    (h : readItems limit literals distances out bits = some (result, rest)) :
    readItems limit' literals distances out (bits ++ tail) = some (result, rest ++ tail) := by
  fun_induction readItems limit literals distances out bits with
  | case1 => simp at h
  | case2 out bits r hr =>
    cases h
    rw [readItems]
    split <;> simp_all [readItem_append tail hr]
  | case3 out bits b r hr hroom ih =>
    -- Room under the smaller limit is room under the larger one.
    rw [readItems]
    have hroom' : out.size < limit' := Nat.lt_of_lt_of_le hroom hlimit
    split <;> simp_all [readItem_append tail hr]
  | case4 => simp at h
  | case5 out bits length distance r hr hroom ih =>
    rw [readItems]
    have hroom' : out.size + length ≤ limit' := Nat.le_trans hroom hlimit
    split <;> simp_all [readItem_append tail hr]
  | case6 => simp at h

theorem readTriples_append {n : Nat} {bits rest : Bits} {values : List Nat} (tail : Bits)
    (h : readTriples n bits = some (values, rest)) :
    readTriples n (bits ++ tail) = some (values, rest ++ tail) := by
  induction n generalizing bits values with
  | zero =>
    cases h
    rfl
  | succ n ih =>
    simp only [readTriples, Option.bind_eq_bind, Option.bind_eq_some_iff, Option.pure_def,
      Option.some.injEq, Prod.exists, Prod.mk.injEq] at h
    obtain ⟨_, b1, h1, _, b2, h2, rfl, rfl⟩ := h
    simp only [readTriples, Option.bind_eq_bind, Option.pure_def, Bits.readNat_append tail h1,
      ih h2, Option.bind_some]

theorem readRun_append {before : Option Nat} {symbol length count : Nat} {bits rest : Bits}
    (tail : Bits) (h : readRun before symbol bits = some (length, count, rest)) :
    readRun before symbol (bits ++ tail) = some (length, count, rest ++ tail) := by
  unfold readRun at h ⊢
  repeat' split at h
  · next hlow =>
    cases h
    rw [if_pos hlow]
  · next hlow hrepeat =>
    simp only [Option.bind_eq_bind, Option.bind_eq_some_iff, Option.pure_def, Option.some.injEq,
      Prod.exists, Prod.mk.injEq] at h
    obtain ⟨_, hbefore, _, b, hb, rfl, rfl, rfl⟩ := h
    simp only [if_neg hlow, if_pos hrepeat, hbefore, Bits.readNat_append tail hb,
      Option.bind_eq_bind, Option.bind_some, Option.pure_def]
  all_goals
    rw [Option.map_eq_some_iff] at h
    obtain ⟨⟨v, r⟩, hr, heq⟩ := h
    cases heq
    simp_all [Bits.readNat_append tail hr]

theorem readLengths_append {code : CodeTree} {total : Nat} {lengths result : List Nat}
    {bits rest : Bits} (tail : Bits)
    (h : readLengths code total lengths bits = some (result, rest)) :
    readLengths code total lengths (bits ++ tail) = some (result, rest ++ tail) := by
  fun_induction readLengths code total lengths bits with
  | case1 => simp_all [readLengths]
  | case2 => simp at h
  | case3 => simp at h
  | case4 lengths bits hmore symbol r hs length count r' hr hfit ih =>
    rw [readLengths, if_neg hmore]
    split
    · simp_all [CodeTree.readSymbol_append tail hs]
    · next hs' =>
      rw [CodeTree.readSymbol_append tail hs] at hs'
      cases hs'
      split <;> simp_all [readRun_append tail hr]
  | case5 => simp at h

theorem readCodes_append {literals distances : CodeTree} {bits rest : Bits} (tail : Bits)
    (h : readCodes bits = some (literals, distances, rest)) :
    readCodes (bits ++ tail) = some (literals, distances, rest ++ tail) := by
  unfold readCodes at h
  simp only [Option.bind_eq_bind, Option.bind_eq_some_iff, Option.pure_def, Prod.exists] at h
  obtain ⟨_, b1, h1, _, b2, h2, _, b3, h3, h⟩ := h
  split at h
  · simp at h
  · next hcounts =>
    simp only [Option.bind_eq_some_iff, Option.some.injEq, Prod.exists, Prod.mk.injEq] at h
    obtain ⟨_, b4, h4, _, hcode, _, b5, h5, _, hl, _, hd, rfl, rfl, rfl⟩ := h
    simp only [readCodes, Option.bind_eq_bind, Option.pure_def, Bits.readNat_append tail h1,
      Bits.readNat_append tail h2, Bits.readNat_append tail h3, if_neg hcounts,
      readTriples_append tail h4, hcode, readLengths_append tail h5, hl, hd, Option.bind_some]

theorem readStored_append {out result : Array UInt8} {bits rest tail : Bits}
    (htail : tail.length % 8 = 0) (hlimit : limit ≤ limit')
    (h : readStored limit out bits = some (result, rest)) :
    readStored limit' out (bits ++ tail) = some (result, rest ++ tail) := by
  unfold readStored at h
  simp only [Option.bind_eq_bind, Option.bind_eq_some_iff, Prod.exists] at h
  obtain ⟨_, b1, h1, _, b2, h2, h⟩ := h
  split at h
  · next hroom =>
    simp only [readStored, Option.bind_eq_bind, Bits.align_append htail,
      Bits.readNat_append tail h1, Bits.readNat_append tail h2, Option.bind_some]
    rw [if_pos ⟨hroom.1, Nat.le_trans hroom.2 hlimit⟩]
    exact Bits.readBytes_append tail h
  · simp at h

theorem readContents_append {kind : Nat} {out result : Array UInt8} {bits rest tail : Bits}
    (htail : tail.length % 8 = 0) (hlimit : limit ≤ limit')
    (h : readContents limit kind out bits = some (result, rest)) :
    readContents limit' kind out (bits ++ tail) = some (result, rest ++ tail) := by
  unfold readContents at h ⊢
  split at h
  · exact readStored_append htail hlimit h
  · exact readItems_append tail hlimit h
  · simp only [Option.bind_eq_bind, Option.bind_eq_some_iff, Prod.exists] at h
    obtain ⟨_, _, b1, h1, h⟩ := h
    simp only [Option.bind_eq_bind, readCodes_append tail h1, Option.bind_some]
    exact readItems_append tail hlimit h
  · simp at h

theorem readBlock_append {last : Bool} {out result : Array UInt8} {bits rest tail : Bits}
    (htail : tail.length % 8 = 0) (hlimit : limit ≤ limit')
    (h : readBlock limit out bits = some (last, result, rest)) :
    readBlock limit' out (bits ++ tail) = some (last, result, rest ++ tail) := by
  unfold readBlock at h
  simp only [Option.bind_eq_bind, Option.bind_eq_some_iff, Option.pure_def, Option.some.injEq,
    Prod.exists, Prod.mk.injEq] at h
  obtain ⟨_, b1, h1, _, b2, h2, _, b3, h3, rfl, rfl, rfl⟩ := h
  simp only [readBlock, Option.bind_eq_bind, Option.pure_def, Bits.readNat_append tail h1,
    Bits.readNat_append tail h2, readContents_append htail hlimit h3, Option.bind_some]

/-- Whole bytes behind a stream stay unread, and a larger limit gives the same output. -/
theorem readBlocks_append {out result : Array UInt8} {bits rest tail : Bits}
    (htail : tail.length % 8 = 0) (hlimit : limit ≤ limit')
    (h : readBlocks limit out bits = some (result, rest)) :
    readBlocks limit' out (bits ++ tail) = some (result, rest ++ tail) := by
  fun_induction readBlocks limit out bits with
  | case1 => simp at h
  | case2 out bits out' r hr =>
    cases h
    rw [readBlocks]
    split <;> simp_all [readBlock_append htail hlimit hr]
  | case3 out bits out' r hr ih =>
    rw [readBlocks]
    split <;> simp_all [readBlock_append htail hlimit hr]

/-! ### The size of the output -/

theorem size_copyBack (distance n : Nat) (out : Array UInt8) :
    (copyBack distance n out).size = out.size + n := by
  induction n generalizing out with
  | zero => rfl
  | succ n ih =>
    rw [copyBack, ih, Array.size_push]
    omega

theorem Bits.size_readBytes {n : Nat} {out result : Array UInt8} {bits rest : Bits}
    (h : readBytes out n bits = some (result, rest)) : result.size = out.size + n := by
  induction n generalizing out bits with
  | zero =>
    cases h
    rfl
  | succ n ih =>
    rw [readBytes] at h
    split at h
    · simp at h
    · rw [ih h, Array.size_push]
      omega

theorem size_readItems_le {literals distances : CodeTree} {out result : Array UInt8}
    {bits rest : Bits} (hout : out.size ≤ limit)
    (h : readItems limit literals distances out bits = some (result, rest)) :
    result.size ≤ limit := by
  fun_induction readItems limit literals distances out bits with
  | case1 => simp at h
  | case2 =>
    cases h
    exact hout
  | case3 out bits b r hr hroom ih =>
    apply ih _ h
    rw [Array.size_push]
    exact hroom
  | case4 => simp at h
  | case5 out bits length distance r hr hroom ih =>
    apply ih _ h
    rw [size_copyBack]
    exact hroom
  | case6 => simp at h

theorem size_readContents_le {kind : Nat} {out result : Array UInt8} {bits rest : Bits}
    (hout : out.size ≤ limit) (h : readContents limit kind out bits = some (result, rest)) :
    result.size ≤ limit := by
  unfold readContents at h
  split at h
  · unfold readStored at h
    simp only [Option.bind_eq_bind, Option.bind_eq_some_iff, Prod.exists] at h
    obtain ⟨_, b1, h1, _, b2, h2, h⟩ := h
    split at h
    · next hroom =>
      rw [Bits.size_readBytes h]
      exact hroom.2
    · simp at h
  · exact size_readItems_le hout h
  · simp only [Option.bind_eq_bind, Option.bind_eq_some_iff, Prod.exists] at h
    obtain ⟨_, _, b1, h1, h⟩ := h
    exact size_readItems_le hout h
  · simp at h

theorem size_readBlock_le {last : Bool} {out result : Array UInt8} {bits rest : Bits}
    (hout : out.size ≤ limit) (h : readBlock limit out bits = some (last, result, rest)) :
    result.size ≤ limit := by
  unfold readBlock at h
  simp only [Option.bind_eq_bind, Option.bind_eq_some_iff, Option.pure_def, Option.some.injEq,
    Prod.exists, Prod.mk.injEq] at h
  obtain ⟨_, b1, h1, _, b2, h2, _, b3, h3, _, rfl, _⟩ := h
  exact size_readContents_le hout h3

/-- The output keeps the limit. -/
theorem size_readBlocks_le {out result : Array UInt8} {bits rest : Bits} (hout : out.size ≤ limit)
    (h : readBlocks limit out bits = some (result, rest)) : result.size ≤ limit := by
  fun_induction readBlocks limit out bits with
  | case1 => simp at h
  | case2 out bits out' r hr =>
    cases h
    exact size_readBlock_le hout hr
  | case3 out bits out' r hr ih => exact ih (size_readBlock_le hout hr) h

/-! ### The size of the input -/

theorem Bits.le_length_of_readBytes {n : Nat} {out result : Array UInt8} {bits rest : Bits}
    (h : readBytes out n bits = some (result, rest)) : 8 * n ≤ bits.length := by
  induction n generalizing out bits with
  | zero => exact Nat.zero_le _
  | succ n ih =>
    rw [readBytes] at h
    split at h
    · simp at h
    · next b r hr =>
      have := length_readByte hr
      have := ih h
      omega

theorem length_readBlocks {out result : Array UInt8} {bits rest : Bits}
    (h : readBlocks limit out bits = some (result, rest)) : rest.length < bits.length := by
  fun_induction readBlocks limit out bits with
  | case1 => simp at h
  | case2 out bits out' r hr =>
    cases h
    exact length_readBlock hr
  | case3 out bits out' r hr ih => exact Nat.lt_trans (ih h) (length_readBlock hr)

end ShortLink.Deflate
