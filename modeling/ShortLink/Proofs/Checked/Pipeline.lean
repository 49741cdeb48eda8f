import ShortLink.Proofs.Checked.Conversion
import ShortLink.Proofs.Feistel.Inverse
import ShortLink.Token.Sealed
import ShortLink.Token.TenantCodec

/-!
# Checked reading of codes and tokens

Everything that reads a code or a token once more, over the checked conversions, and with a check
wherever a byte string is cut or a list is indexed. A code that is refused and a check that fails
are two things: the first run ends with a reason, the second one has no outcome at all.

## Main definitions

- `Checked.Guarded` — runs with a reason or without an outcome
- `Checked.read`, `Checked.decode`, `Checked.decodeWord` — codes
- `Checked.key`, `Checked.unscrambleBytes` — the key of a tenant, and the permutation under it
- `Checked.decodeId`, `Checked.decodePayload`, `Checked.resolve` — ids, payloads and sealed tokens

## Main results

- `Checked.no_check_fails` — on every text and byte string, the outcomes are those without the
  checks
-/

namespace ShortLink.Checked

open Radix62 (Digit)

/-- Runs that end with an answer or a reason, or have no outcome because a check fails. -/
abbrev Guarded (ε α : Type) := ExceptT ε Option α

/-- The two parts of a byte string, when it is long enough. -/
def splitAt (n : Nat) (bytes : Bytes) : Option (Bytes × Bytes) :=
  if n ≤ bytes.length then some (bytes.splitAt n) else none

/-- A byte string of a fixed length. -/
def sized (n : Nat) (bytes : Bytes) : Option Bytes := if bytes.length = n then some bytes else none

theorem splitAt_of_le {n : Nat} {bytes : Bytes} (h : n ≤ bytes.length) :
    splitAt n bytes = some (bytes.splitAt n) := if_pos h

theorem sized_of_length {n : Nat} {bytes : Bytes} (h : bytes.length = n) :
    sized n bytes = some bytes := if_pos h

section Runs

variable {ε α β : Type}

theorem lift_bind {checked : Option α} {a : α} (h : checked = some a) (next : α → Guarded ε β) :
    (liftM checked >>= next : Guarded ε β) = next a := by
  rw [h]
  rfl

theorem run_bind {first : Guarded ε α} {answer : Except ε α} {next : α → Guarded ε β}
    {more : α → Except ε β} (hfirst : first.run = some answer)
    (hnext : ∀ a, answer = .ok a → (next a).run = some (more a)) :
    (first >>= next).run = some (answer >>= more) := by
  rw [ExceptT.run_bind, hfirst]
  cases answer with
  | error reason => rfl
  | ok a => exact hnext a rfl

theorem run_map {first : Guarded ε α} {answer : Except ε α} {next : α → Guarded ε β} {f : α → β}
    (hfirst : first.run = some answer) (hnext : ∀ a, (next a).run = some (.ok (f a))) :
    (first >>= next).run = some (answer.map f) := by
  rw [ExceptT.run_bind, hfirst]
  cases answer with
  | error reason => rfl
  | ok a => exact hnext a

theorem run_adapt {run : Guarded Malformed α} {answer : Except Malformed α}
    (h : run.run = some answer) :
    (ExceptT.adapt Fault.malformed run).run = some (answer.mapError Fault.malformed) := by
  rw [ExceptT.run_adapt, h]
  rfl

end Runs

/-! ### Codes

What has the name of something without checks computes the same with them, here and below. -/

/-- The digit of a byte in a range, from the first byte of the range and the digit that it is. -/
def ranked (first start byte : UInt8) : Option (Option Digit) := do
  let place ← subtract byte.toNat first.toNat
  let n ← fit 256 (place + start.toNat)
  return some (← digit n)

def ofByte? (byte : UInt8) : Option (Option Digit) :=
  let b := byte.toNat
  if 48 ≤ b ∧ b ≤ 57 then ranked 48 0 byte
  else if 97 ≤ b ∧ b ≤ 122 then ranked 97 10 byte
  else if 65 ≤ b ∧ b ≤ 90 then ranked 65 36 byte
  else some none

/-- The digits of bytes with `position` others before them, or the first byte that is none. -/
def readFrom (position : Nat) : Bytes → Guarded Malformed (List Digit)
  | [] => pure []
  | b :: rest => do
    let some d ← ofByte? b | throw (.invalidCharacter b position)
    let more ← readFrom (position + 1) rest
    return d :: more

def read (code : String) : Guarded Malformed (List Digit) := readFrom 0 (Bytes.ofText code)

def decode (code : String) : Guarded Malformed Bytes := do
  bytesOf (← read code)

def decodeWord (code : String) : Guarded Malformed UInt64 := do
  if code.utf8ByteSize = 0 ∨ Radix62.maxWordCode < code.utf8ByteSize then throw .invalidLength
  let n ← word128 (← read code)
  if n < UInt64.size then return n.toUInt64 else throw .overflow

def checkToken (token : String) : Guarded Malformed Unit := do
  if token.utf8ByteSize = 0 ∨ Radix62.maxToken < token.utf8ByteSize then throw .invalidLength
  discard (read token)

def contents (token : String) : Guarded Malformed Bytes := do
  checkToken token
  Envelope.unframe (← decode token)

theorem ranked_eq {first start b : UInt8} {d : Digit} (hfirst : first.toNat ≤ b.toNat)
    (hd : b.toNat - first.toNat + start.toNat = d.val) : ranked first start b = some (some d) := by
  have hlt := d.isLt
  rw [ranked, bind_of_eq (subtract_of_le hfirst), hd, bind_of_eq (fit_of_lt (by omega)),
    bind_of_eq (digit_of_lt hlt)]
  rfl

theorem ofByte?_eq (b : UInt8) : ofByte? b = some (Radix62.Digit.ofByte? b) := by
  rw [ofByte?, Radix62.Digit.ofByte?]
  split
  · next h => exact ranked_eq h.1 rfl
  split
  · next h => exact ranked_eq h.1 (show b.toNat - 97 + 10 = b.toNat - 87 by omega)
  split
  · next h => exact ranked_eq h.1 (show b.toNat - 65 + 36 = b.toNat - 29 by omega)
  · rfl

theorem readFrom_eq (position : Nat) (bytes : Bytes) :
    (readFrom position bytes).run = some
      (((bytes.zipIdx position).find? fun entry => (Radix62.Digit.ofByte? entry.1).isNone).elim
        (.ok (bytes.filterMap Radix62.Digit.ofByte?))
        fun entry => .error (.invalidCharacter entry.1 entry.2)) := by
  induction bytes generalizing position with
  | nil => rfl
  | cons b rest ih =>
    rw [readFrom, lift_bind (ofByte?_eq b), List.zipIdx_cons, List.find?_cons]
    cases hb : Radix62.Digit.ofByte? b with
    | none => rfl
    | some d =>
      rw [List.filterMap_cons_some hb]
      simp only [ExceptT.run_bind, ih, Option.isNone_some]
      cases (rest.zipIdx (position + 1)).find? _ <;> rfl

theorem read_eq (code : String) : (read code).run = some (Radix62.read code) := by
  rw [read, readFrom_eq, Radix62.read, Radix62.firstForeign?]
  cases (Bytes.ofText code).zipIdx.find? _ <;> rfl

theorem decode_eq (code : String) : (decode code).run = some (Radix62.decode code) := by
  apply run_map (read_eq code)
  intro digits
  rw [bytesOf_eq]
  rfl

theorem decodeWord_eq (code : String) : (decodeWord code).run = some (Radix62.decodeWord code) := by
  rw [decodeWord, Radix62.decodeWord]
  split
  · rfl
  · next hsize =>
    apply run_bind (read_eq code)
    intro digits hread
    have hlength : digits.length ≤ Radix62.wordDigits := by
      rw [Radix62.read_eq_ok_iff.mp hread, Radix62.utf8ByteSize_write, not_or, Nat.not_lt] at hsize
      exact Nat.le_trans hsize.2 (by decide)
    rw [lift_bind (word128_eq hlength)]
    by_cases hlt : Radix62.value digits < UInt64.size
    · simp only [if_pos hlt]
      rfl
    · simp only [if_neg hlt]
      rfl

theorem checkToken_eq (token : String) :
    (checkToken token).run = some (Radix62.checkToken token) := by
  rw [checkToken, Radix62.checkToken, Radix62.check]
  split
  · rfl
  · exact run_map (read_eq token) fun _ => rfl

theorem contents_eq (token : String) : (contents token).run = some (Envelope.contents token) := by
  apply run_bind (checkToken_eq token)
  intro _ _
  apply run_bind (decode_eq token)
  intro framed _
  rfl

/-! ### Keys and permutations -/

/-- The key of a tenant's own, from the first four bytes that are derived. -/
def derivedKey? (ring : KeyRing) (tenant : String) : Option (Option UInt32) :=
  if tenant.isEmpty then some none
  else match ring.master with
    | none => some none
    | some secret => do
      let derivation := Crypto.hkdfExtract secret.bytes
      let parts ← splitAt 4 (Crypto.hkdfBlock derivation (KeyRing.tenantPurpose tenant))
      return some (Bytes.toWord32 parts.1)

/-- The key of a tenant: the tenant's own, or else the one that stands at the codec's version. -/
def key (codec : TenantCodec) (tenant : String) : Option UInt32 := do
  let base ← codec.ring.keys[codec.version.val]?
  let derived ← derivedKey? codec.ring tenant
  return derived.getD base

/-- Byte `j` of the repeated key. -/
def keyByte (key : Bytes) (j : Nat) : Option UInt8 :=
  if key.isEmpty then some 0 else key[j % key.length]?

def shift (key : Bytes) (round : UInt8) (half : Bytes) : Option Bytes :=
  half.zipIdx.mapM fun entry => do
    let k ← keyByte key entry.2
    return entry.1 + k + round

/-- The inverse of round `i`. -/
def unround (key : Bytes) (i : Nat) (block : Feistel.Block Bytes) :
    Option (Feistel.Block Bytes) := do
  let round ← fit 256 i
  let mixed ← shift key round.toUInt8 block.left
  return ⟨block.right ^^^ mixed, block.left⟩

def unscrambleBytes (data key : Bytes) (rounds : UInt8) : Option Bytes := do
  let padded := Feistel.padEven data
  let halves ← splitAt (padded.length / 2) padded
  let block ← (List.range rounds.toNat).foldrM (unround key) ⟨halves.1, halves.2⟩
  return Feistel.joinBytes block

theorem derivedKey?_eq (ring : KeyRing) (tenant : String) :
    derivedKey? ring tenant = some (ring.derivedKey? tenant) := by
  rw [derivedKey?, KeyRing.derivedKey?]
  split
  · rfl
  cases ring.master with
  | none => rfl
  | some secret =>
    have hlength := Crypto.length_hmac (Crypto.hkdfExtract secret.bytes)
      (KeyRing.tenantPurpose tenant ++ [1])
    dsimp only
    rw [Crypto.hkdfBlock, bind_of_eq (splitAt_of_le (by omega)), List.splitAt_eq]
    rfl

theorem key_eq (codec : TenantCodec) (tenant : String) :
    key codec tenant = some (codec.key tenant) := by
  rw [key, bind_of_eq (List.getElem?_eq_getElem codec.version.isLt),
    bind_of_eq (derivedKey?_eq codec.ring tenant)]
  rfl

theorem keyByte_eq (key : Bytes) (j : Nat) :
    keyByte key j = some (key.toArray.getD (j % key.toArray.size) 0) := by
  rw [keyByte]
  cases key with
  | nil => rfl
  | cons k rest =>
    have hlt : j % (k :: rest).length < (k :: rest).length := Nat.mod_lt _ (by simp)
    rw [if_neg (by simp), List.getElem?_eq_getElem hlt, Array.getD, dif_pos (by exact hlt)]
    rfl

theorem shift_eq (key : Bytes) (round : UInt8) (half : Bytes) :
    shift key round half = some (Feistel.shift key.toArray round half) := by
  have hbytes : (fun entry : UInt8 × Nat => do
        let k ← keyByte key entry.2
        return entry.1 + k + round)
      = fun entry => pure (entry.1 + key.toArray.getD (entry.2 % key.toArray.size) 0 + round) := by
    funext entry
    rw [keyByte_eq]
    rfl
  rw [shift, hbytes, List.mapM_pure, Feistel.shift, List.mapIdx_eq_zipIdx_map]
  rfl

theorem unround_eq (key : Bytes) {i : Nat} (hi : i < 256) (block : Feistel.Block Bytes) :
    unround key i block = some (block.unround (Feistel.shift key.toArray i.toUInt8)) := by
  rw [unround, bind_of_eq (fit_of_lt hi), bind_of_eq (shift_eq key i.toUInt8 block.left)]
  rfl

theorem unscrambleBytes_eq (data key : Bytes) (rounds : UInt8) :
    unscrambleBytes data key rounds = some (Feistel.unscrambleBytes data key rounds) := by
  have hrounds : ∀ schedule : List Nat, (∀ i ∈ schedule, i < 256) → ∀ block : Feistel.Block Bytes,
      schedule.foldrM (unround key) block
        = some (block.decrypt (schedule.map fun i => Feistel.shift key.toArray i.toUInt8)) := by
    intro schedule hschedule block
    induction schedule with
    | nil => rfl
    | cons i rest ih =>
      have hrest := ih fun j hj => hschedule j (List.mem_cons_of_mem i hj)
      rw [List.foldrM_cons, bind_of_eq hrest, unround_eq key (hschedule i List.mem_cons_self)]
      rfl
  have hrange : ∀ i ∈ List.range rounds.toNat, i < 256 := by
    intro i hi
    exact Nat.lt_trans (List.mem_range.mp hi) rounds.toNat_lt
  rw [unscrambleBytes, bind_of_eq (splitAt_of_le (Nat.div_le_self _ _)),
    bind_of_eq (hrounds _ hrange _), List.splitAt_eq]
  rfl

/-! ### Ids, payloads and sealed tokens -/

def decodeId (codec : TenantCodec) (code tenant : String) : Guarded Malformed UInt64 := do
  let word ← decodeWord code
  let key ← key codec tenant
  return Feistel.unscramble word key codec.rounds

def decodePayload (codec : TenantCodec) (token tenant : String) : Guarded Fault Bytes := do
  let scrambled ← (contents token).adapt Fault.malformed
  let key ← key codec tenant
  let compressed ← unscrambleBytes scrambled (Bytes.ofWord32 key) codec.rounds
  Zlib.decompress compressed

def splitTag (contents : Bytes) : Guarded Malformed (Bytes × Bytes) := do
  if contents.length < TokenSealer.tagSize then throw .tooShort
  let cut ← subtract contents.length TokenSealer.tagSize
  splitAt cut contents

def unlock (sealer : TokenSealer) (body : Bytes) : Guarded Fault String := do
  if body.length < TokenSealer.nonceSize then throw .decryptionFailed
  let (nonce, ciphertext) ← splitAt TokenSealer.nonceSize body
  let nonce ← sized TokenSealer.nonceSize nonce
  let some compressed := sealer.decrypt? nonce ciphertext | throw .decryptionFailed
  let some text := Bytes.toText? (← Zlib.decompress compressed) | throw .corrupted
  return text

def resolve (sealer : TokenSealer) (token : String) : Guarded Fault String := do
  let contents ← (contents token).adapt Fault.malformed
  let (body, received) ← (splitTag contents).adapt Fault.malformed
  if sealer.tag body ≠ received then throw .tampered
  unlock sealer body

theorem decodeId_eq (codec : TenantCodec) (code tenant : String) :
    (decodeId codec code tenant).run = some (codec.decodeId code tenant) := by
  apply run_map (decodeWord_eq code)
  intro word
  rw [lift_bind (key_eq codec tenant)]
  rfl

theorem decodePayload_eq (codec : TenantCodec) (token tenant : String) :
    (decodePayload codec token tenant).run = some (codec.decodePayload token tenant) := by
  apply run_bind (run_adapt (contents_eq token))
  intro scrambled _
  rw [lift_bind (key_eq codec tenant), lift_bind (unscrambleBytes_eq _ _ _)]
  rfl

theorem splitTag_eq (contents : Bytes) :
    (splitTag contents).run = some (TokenSealer.splitTag contents) := by
  rw [splitTag, TokenSealer.splitTag]
  split
  · rfl
  · next h =>
    rw [lift_bind (subtract_of_le (Nat.not_lt.mp h)), splitAt_of_le (Nat.sub_le _ _)]
    rfl

theorem unlock_eq (sealer : TokenSealer) (body : Bytes) :
    (unlock sealer body).run = some (sealer.unlock body) := by
  rw [unlock, TokenSealer.unlock]
  split
  · rfl
  · next h =>
    have hsize : (body.take TokenSealer.nonceSize).length = TokenSealer.nonceSize :=
      List.length_take_of_le (Nat.not_lt.mp h)
    dsimp only
    rw [lift_bind (splitAt_of_le (Nat.not_lt.mp h)), List.splitAt_eq]
    dsimp only
    rw [lift_bind (sized_of_length hsize)]
    cases sealer.decrypt? (body.take TokenSealer.nonceSize) (body.drop TokenSealer.nonceSize) with
    | none => rfl
    | some compressed =>
      apply run_bind rfl
      intro plain _
      cases Bytes.toText? plain <;> rfl

theorem resolve_eq (sealer : TokenSealer) (token : String) :
    (resolve sealer token).run = some (sealer.resolve token) := by
  apply run_bind (run_adapt (contents_eq token))
  intro contents _
  apply run_bind (run_adapt (splitTag_eq contents))
  intro parts _
  dsimp only
  split
  · rfl
  · exact unlock_eq sealer parts.1

/-- No sum or product leaves its register, no byte or digit is too large, nothing is looked up or
cut out of range, and every loop ends, whatever is read or written. -/
theorem no_check_fails (codec : TenantCodec) (sealer : TokenSealer) (tenant text : String)
    (data : Bytes) :
    (decode text).run = some (Radix62.decode text) ∧
    (decodeWord text).run = some (Radix62.decodeWord text) ∧
    (decodeId codec text tenant).run = some (codec.decodeId text tenant) ∧
    (decodePayload codec text tenant).run = some (codec.decodePayload text tenant) ∧
    (resolve sealer text).run = some (sealer.resolve text) ∧
    encode data = some (Radix62.encode data) :=
  ⟨decode_eq text, decodeWord_eq text, decodeId_eq codec text tenant,
    decodePayload_eq codec text tenant, resolve_eq sealer text, encode_eq data⟩

end ShortLink.Checked
