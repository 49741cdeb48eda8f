import ShortLink.Deflate.Bits

/-!
# Huffman codes

A code is given by the lengths of its codewords, zero for symbols that have none. Codewords are
assigned in the canonical way: shorter ones first, and among equal lengths in the order of the
symbols. They stand in the stream with their most significant bit first.

## Main definitions

- `Deflate.codewords` — the codewords of all symbols
- `Deflate.CodeTree` — a binary tree with symbols at its leaves
- `Deflate.CodeTree.ofLengths?` — the tree of a code that is complete
- `Deflate.CodeTree.readSymbol` — the next symbol of a stream

## Main results

- `Deflate.CodeTree.length_readSymbol` — a symbol takes at least one bit
-/

namespace ShortLink.Deflate

/-- Longest codeword. -/
def maxLength : Nat := 15

/-- The first codeword of each length from 0 to 15, as a number. -/
def firstCodes (lengths : List Nat) : Array Nat :=
  (List.range maxLength).foldl
    (fun codes i => codes.push (2 * (codes.getD i 0 + if i = 0 then 0 else lengths.count i))) #[0]

/-- The codeword of the given length, most significant bit first. -/
def codeword (length code : Nat) : Bits := (Bits.ofNat length code).reverse

/-- The codewords of all symbols in order; symbols without one have the empty codeword. -/
def codewords (lengths : List Nat) : Array Bits :=
  (lengths.foldl
    (fun (acc : Array Nat × Array Bits) length =>
      let (next, words) := acc
      let code := next.getD length 0
      (next.setIfInBounds length (code + 1), words.push (codeword length code)))
    (firstCodes lengths, #[])).2

/-- A binary tree with symbols at its leaves. -/
inductive CodeTree where
  | empty
  | leaf (symbol : Nat)
  | node (zero one : CodeTree)
  deriving Repr

namespace CodeTree

/-- The tree with one more symbol at the end of a path. -/
def insert (symbol : Nat) : Bits → CodeTree → CodeTree
  | [], _ => leaf symbol
  | false :: path, node zero one => node (insert symbol path zero) one
  | true :: path, node zero one => node zero (insert symbol path one)
  | false :: path, _ => node (insert symbol path empty) empty
  | true :: path, _ => node empty (insert symbol path empty)

/-- The tree of a list of codewords, one for each symbol. -/
def ofCodewords (words : List Bits) : CodeTree :=
  words.zipIdx.foldl
    (fun tree (path, symbol) => if path.isEmpty then tree else tree.insert symbol path) empty

/-- The share of all paths of 15 bits that begin with a codeword. -/
def weight (lengths : List Nat) : Nat :=
  lengths.foldl (fun n length => if length = 0 then n else n + 1 <<< (maxLength - length)) 0

/-- Whether every long path begins with exactly one codeword. -/
def isComplete (lengths : List Nat) : Bool := weight lengths == 1 <<< maxLength

/-- Whether at most one symbol has a codeword, and that of a single bit. -/
def isSparse (lengths : List Nat) : Bool :=
  match lengths.filter (· ≠ 0) with
  | [] => true
  | [length] => length == 1
  | _ => false

/-- The tree of a code with the given lengths, when the code is complete. With `sparse`, a code of
at most one codeword, which has a single bit, is accepted as well. -/
def ofLengths? (sparse : Bool) (lengths : List Nat) : Option CodeTree :=
  if isComplete lengths || (sparse && isSparse lengths) then
    some (ofCodewords (codewords lengths).toList)
  else none

/-- The symbol at the end of the path that the stream takes, and the bits after it. -/
def follow : CodeTree → Bits → Option (Nat × Bits)
  | leaf symbol, bits => some (symbol, bits)
  | empty, _ => none
  | node _ _, [] => none
  | node zero one, b :: bits => (if b then one else zero).follow bits
termination_by _ bits => bits.length

/-- The next symbol, and the bits after its codeword, which has at least one bit. -/
def readSymbol : CodeTree → Bits → Option (Nat × Bits)
  | node zero one, b :: bits => (if b then one else zero).follow bits
  | _, _ => none

theorem length_follow {tree : CodeTree} {bits rest : Bits} {symbol : Nat}
    (h : tree.follow bits = some (symbol, rest)) : rest.length ≤ bits.length := by
  fun_induction follow tree bits with
  | case1 => simp_all
  | case2 => simp at h
  | case3 => simp at h
  | case4 zero one b bits ih =>
    have := ih h
    rw [List.length_cons]
    omega

theorem length_readSymbol {tree : CodeTree} {bits rest : Bits} {symbol : Nat}
    (h : tree.readSymbol bits = some (symbol, rest)) : rest.length < bits.length := by
  unfold readSymbol at h
  split at h
  · rw [List.length_cons]
    exact Nat.lt_succ_of_le (length_follow h)
  · simp at h

end CodeTree

end ShortLink.Deflate
