/-!
# Tokens of JSON texts

A JSON text is a sequence of punctuation marks, words, numbers and strings with white space between
them. A string whose escapes stand for unpaired surrogates is a token without a value: it may be
skipped, but not read. In the same way, only integers have a value among the numbers.

## Main definitions

- `Json.Token` — a token
- `Json.tokens` — the tokens of a text
-/

namespace ShortLink.Json

/-- A token of a JSON text. -/
inductive Token where
  | openBrace
  | closeBrace
  | openBracket
  | closeBracket
  | comma
  | colon
  | null
  | boolean (value : Bool)
  | number (value : Option Int)
  | string (value : Option String)
  deriving DecidableEq, Repr

/-- Whether a character may stand between tokens. -/
def isSpace (c : Char) : Bool := c == ' ' || c == '\n' || c == '\t' || c == '\r'

/-- Whether a character is an ASCII digit. -/
def isDigit (c : Char) : Bool := '0' ≤ c && c ≤ '9'

/-- The value of a hexadecimal digit. -/
def hexDigit? (c : Char) : Option Nat :=
  if '0' ≤ c ∧ c ≤ '9' then some (c.toNat - 48)
  else if 'a' ≤ c ∧ c ≤ 'f' then some (c.toNat - 87)
  else if 'A' ≤ c ∧ c ≤ 'F' then some (c.toNat - 55)
  else none

/-- The number behind four hexadecimal digits, and the text after them. -/
def readUnit : List Char → Option (Nat × List Char)
  | a :: b :: c :: d :: rest => do
    let a ← hexDigit? a
    let b ← hexDigit? b
    let c ← hexDigit? c
    let d ← hexDigit? d
    return (a * 4096 + b * 256 + c * 16 + d, rest)
  | _ => none

/-- The character behind a pair of surrogates. -/
def pairedChar (high low : Nat) : Char :=
  Char.ofNat (0x10000 + (high - 0xd800) * 1024 + (low - 0xdc00))

/-- The low surrogate that is escaped next, and the text after it. -/
def readLow : List Char → Option (Nat × List Char)
  | '\\' :: 'u' :: rest => (readUnit rest).filter fun (unit, _) => 0xdc00 ≤ unit && unit < 0xe000
  | _ => none

/-- The character that an escape by number stands for, and the text after the escape. There is no
character for an unpaired surrogate. -/
def readNumbered (text : List Char) : Option (Option Char × List Char) :=
  match readUnit text with
  | none => none
  | some (unit, rest) =>
    if unit < 0xd800 ∨ 0xe000 ≤ unit then some (some (Char.ofNat unit), rest)
    else if unit < 0xdc00 then
      match readLow rest with
      | some (low, rest) => some (some (pairedChar unit low), rest)
      | none => some (none, rest)
    else some (none, rest)

/-- The character that an escape stands for, and the text after the escape. -/
def readEscape : List Char → Option (Option Char × List Char)
  | '"' :: rest => some (some '"', rest)
  | '\\' :: rest => some (some '\\', rest)
  | '/' :: rest => some (some '/', rest)
  | 'b' :: rest => some (some '\x08', rest)
  | 'f' :: rest => some (some '\x0c', rest)
  | 'n' :: rest => some (some '\n', rest)
  | 'r' :: rest => some (some '\r', rest)
  | 't' :: rest => some (some '\t', rest)
  | 'u' :: rest => readNumbered rest
  | _ => none

theorem length_readUnit {text rest : List Char} {unit : Nat}
    (h : readUnit text = some (unit, rest)) : rest.length < text.length := by
  unfold readUnit at h
  split at h
  · simp only [Option.bind_eq_bind, Option.bind_eq_some_iff, Option.pure_def, Option.some.injEq,
      Prod.mk.injEq] at h
    obtain ⟨_, _, _, _, _, _, _, _, _, rfl⟩ := h
    simp only [List.length_cons]
    omega
  · simp at h

theorem length_readLow {text rest : List Char} {low : Nat}
    (h : readLow text = some (low, rest)) : rest.length < text.length := by
  unfold readLow at h
  split at h
  · rw [Option.filter_eq_some_iff] at h
    have := length_readUnit h.1
    simp only [List.length_cons]
    omega
  · simp at h

theorem length_readNumbered {text rest : List Char} {c : Option Char}
    (h : readNumbered text = some (c, rest)) : rest.length < text.length := by
  unfold readNumbered at h
  split at h
  · simp at h
  · next unit r hu =>
    have hr := length_readUnit hu
    repeat' split at h
    · simp_all
    · next low r' hl =>
      have := length_readLow hl
      cases h
      omega
    · simp_all
    · simp_all

theorem length_readEscape {text rest : List Char} {c : Option Char}
    (h : readEscape text = some (c, rest)) : rest.length < text.length := by
  unfold readEscape at h
  split at h
  all_goals first
    | (cases h; exact Nat.lt_succ_self _)
    | skip
  · have := length_readNumbered h
    rw [List.length_cons]
    omega
  · simp at h

/-- The contents of a string, when all of its characters exist, and the text after its closing
quote. The characters so far are given in reverse. -/
def readString (contents : Option (List Char)) (text : List Char) :
    Option (Option String × List Char) :=
  match text with
  | [] => none
  | '"' :: rest => some (contents.map fun cs => String.ofList cs.reverse, rest)
  | '\\' :: escaped =>
    match _h : readEscape escaped with
    | none => none
    | some (c, rest) => readString (do return (← c) :: (← contents)) rest
  | c :: rest => if c.toNat < 0x20 then none else readString (contents.map (c :: ·)) rest
termination_by text.length
decreasing_by
  · have := length_readEscape _h
    simp only [List.length_cons]
    omega
  · simp

/-- The digits at the start of a text, and the text after them. -/
def spanDigits (text : List Char) : List Char × List Char := text.span isDigit

/-- The text after a fraction, when there is one. -/
def skipFraction : List Char → Option (List Char)
  | '.' :: rest =>
    let (digits, rest) := spanDigits rest
    if digits.isEmpty then none else some rest
  | text => some text

/-- The text after an exponent, when there is one. -/
def skipExponent : List Char → Option (List Char)
  | c :: rest =>
    if c = 'e' ∨ c = 'E' then
      let rest := match rest with
        | '+' :: rest => rest
        | '-' :: rest => rest
        | rest => rest
      let (digits, rest) := spanDigits rest
      if digits.isEmpty then none else some rest
    else some (c :: rest)
  | [] => some []

/-- The number at the start of a text, and the text after it. A fraction, an exponent and a negative
zero make it a number without an integer value. -/
def readNumber (text : List Char) : Option (Option Int × List Char) := do
  let (negative, text) := match text with
    | '-' :: rest => (true, rest)
    | text => (false, text)
  let (digits, rest) := spanDigits text
  if digits.isEmpty ∨ (1 < digits.length ∧ digits.head? = some '0') then none
  let magnitude : Nat := digits.foldl (fun n c => n * 10 + (c.toNat - 48)) 0
  let after ← skipFraction rest
  let after ← skipExponent after
  if after.length ≠ rest.length ∨ (negative ∧ magnitude = 0) then return (none, after)
  return (some (if negative then -(magnitude : Int) else magnitude), after)

/-- The text after a given word at its start. -/
def skipWord (word : String) (text : List Char) : Option (List Char) :=
  if word.toList.isPrefixOf text then some (text.drop word.length) else none

/-- The first token of a text that begins with one, and the text after it. -/
def readToken : List Char → Option (Token × List Char)
  | '\x7b' :: rest => some (.openBrace, rest)
  | '\x7d' :: rest => some (.closeBrace, rest)
  | '[' :: rest => some (.openBracket, rest)
  | ']' :: rest => some (.closeBracket, rest)
  | ',' :: rest => some (.comma, rest)
  | ':' :: rest => some (.colon, rest)
  | 'n' :: rest => (skipWord "ull" rest).map (.null, ·)
  | 't' :: rest => (skipWord "rue" rest).map (.boolean true, ·)
  | 'f' :: rest => (skipWord "alse" rest).map (.boolean false, ·)
  | '"' :: rest => (readString (some []) rest).map fun (value, rest) => (.string value, rest)
  | text => (readNumber text).map fun (value, rest) => (.number value, rest)

/-- The tokens of a text behind those read so far, which are given in reverse. Every token has at
least one character, so there are at most `n` in a text of `n` characters. -/
def tokensFrom (found : List Token) : Nat → List Char → Option (List Token)
  | 0, text => if text.all isSpace then some found.reverse else none
  | n + 1, text =>
    match text.dropWhile isSpace with
    | [] => some found.reverse
    | text =>
      match readToken text with
      | none => none
      | some (token, rest) => tokensFrom (token :: found) n rest

/-- The tokens of a text. -/
def tokens (text : String) : Option (List Token) := tokensFrom [] text.length text.toList

end ShortLink.Json
