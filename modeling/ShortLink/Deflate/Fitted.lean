import ShortLink.Deflate.Copy

/-!
# Codes that fit their block

The codeword lengths that make a block shortest follow from how often each symbol occurs: the two
rarest groups of symbols are joined, and their codewords become one bit longer, until one group is
left.

## Main definitions

- `Deflate.joinGroups` — codeword lengths from groups of symbols
- `Deflate.fittedLengths` — codeword lengths for given frequencies, none above a limit
- `Deflate.packRuns` — a list of codeword lengths as the runs that describe it in a block
-/

namespace ShortLink.Deflate

/-- A group of symbols and how often they occur together. -/
structure Group where
  weight : Nat
  symbols : List Nat

/-- The groups, lightest first, with one more group in its place. -/
def insertGroup (group : Group) : List Group → List Group
  | [] => [group]
  | g :: rest => if group.weight ≤ g.weight then group :: g :: rest else g :: insertGroup group rest

theorem length_insertGroup (group : Group) (groups : List Group) :
    (insertGroup group groups).length = groups.length + 1 := by
  induction groups with
  | nil => rfl
  | cons g rest ih =>
    rw [insertGroup]
    split <;> simp [ih]

/-- The codeword lengths after all groups, lightest first, have been joined. -/
def joinGroups (lengths : Array Nat) : List Group → Array Nat
  | a :: b :: rest =>
    let symbols := a.symbols ++ b.symbols
    let lengths := symbols.foldl (fun all s => all.modify s (· + 1)) lengths
    joinGroups lengths (insertGroup ⟨a.weight + b.weight, symbols⟩ rest)
  | _ => lengths
termination_by groups => groups.length
decreasing_by
  rw [length_insertGroup, List.length_cons, List.length_cons]
  omega

/-- The best codeword lengths for given frequencies. -/
def bestLengths (frequencies : List Nat) : List Nat :=
  let used := frequencies.zipIdx.filter fun entry => entry.1 ≠ 0
  let start := Array.replicate frequencies.length 0
  match used with
  | [(_, symbol)] => (start.setIfInBounds symbol 1).toList
  | _ =>
    let groups := used.foldl (fun groups (w, s) => insertGroup ⟨w, [s]⟩ groups) []
    (joinGroups start groups).toList

/-- Codeword lengths for given frequencies, none above `limit`. Frequencies are evened out, at most
`n` times, until the lengths obey the limit; without success all symbols get the same length. -/
def fittedLengths (limit : Nat) (frequencies : List Nat) : Nat → List Nat
  | 0 => frequencies.map fun _ => limit
  | n + 1 =>
    let lengths := bestLengths frequencies
    if lengths.all (· ≤ limit) then lengths
    else fittedLengths limit (frequencies.map fun w => (w + 1) / 2) n

/-- A symbol of the code for codeword lengths, with the number and the value of its extra bits. -/
structure RunSymbol where
  symbol : Nat
  extra : Nat := 0
  value : Nat := 0

/-- The runs of `count` zero lengths. -/
def zeroRuns (count : Nat) : List RunSymbol :=
  if count < 3 then List.replicate count ⟨0, 0, 0⟩
  else if count ≤ 10 then [⟨17, 3, count - 3⟩]
  else
    let n := min count 138
    ⟨18, 7, n - 11⟩ :: zeroRuns (count - n)
termination_by count
decreasing_by omega

/-- The runs of `count` repetitions of the length before. -/
def repeatRuns (length count : Nat) : List RunSymbol :=
  if count < 3 then List.replicate count ⟨length, 0, 0⟩
  else
    let n := min count 6
    ⟨16, 2, n - 3⟩ :: repeatRuns length (count - n)
termination_by count
decreasing_by omega

/-- The maximal runs of equal numbers in a list. -/
def runsOf (lengths : List Nat) : List (Nat × Nat) :=
  lengths.foldr
    (fun length runs => match runs with
      | (l, count) :: rest => if l = length then (l, count + 1) :: rest else (length, 1) :: runs
      | [] => [(length, 1)])
    []

/-- The symbols that describe a list of codeword lengths. -/
def packRuns (lengths : List Nat) : List RunSymbol :=
  (runsOf lengths).flatMap fun (length, count) =>
    if length = 0 then zeroRuns count else ⟨length, 0, 0⟩ :: repeatRuns length (count - 1)

end ShortLink.Deflate
