/-!
# Faults

Everything that can go wrong while a code is read or a link is issued or resolved.

## Main definitions

- `Malformed` — why a code or token is no code at all
- `Fault` — why an operation gave no answer
- `Fault.kind` — the stable label of a fault, for logs and metrics
- `Fault.message` — the sentence shown to people
-/

namespace ShortLink

/-- Why a code or token was rejected before any cryptographic check. -/
inductive Malformed where
  /-- A byte outside the alphabet, and how many bytes stand before it. -/
  | invalidCharacter (byte : UInt8) (position : Nat)
  /-- An empty input, or one longer than any code that is ever issued. -/
  | invalidLength
  /-- Fewer decoded bytes than the envelope must carry. -/
  | tooShort
  /-- The first decoded byte is not the framing marker. -/
  | markerMismatch (received expected : UInt8)
  /-- The value does not fit in 64 bits. -/
  | overflow
  deriving DecidableEq, Repr

/-- The written form of a rejection: its name, and its data as decimal fields. -/
def Malformed.describe : Malformed → String
  | .invalidCharacter byte position =>
    "InvalidCharacter \x7b byte: " ++ toString byte.toNat ++ ", position: " ++ toString position
      ++ " \x7d"
  | .invalidLength => "InvalidLength"
  | .tooShort => "TooShort"
  | .markerMismatch received expected =>
    "MarkerMismatch \x7b received: " ++ toString received.toNat ++ ", expected: "
      ++ toString expected.toNat ++ " \x7d"
  | .overflow => "Overflow"

/-- Why an operation gave no answer. -/
inductive Fault where
  /-- The code or token is not well-formed. -/
  | malformed (reason : Malformed)
  /-- The integrity tag does not match. -/
  | tampered
  /-- The integrity tag matches, but the content does not decrypt. -/
  | decryptionFailed
  /-- The content could not be encrypted. -/
  | encryptionFailed
  /-- The content does not inflate, or is not text where text is due. -/
  | corrupted
  /-- No link is stored under the code. -/
  | notFound
  /-- A collaborator failed, with its own account of the failure. -/
  | store (account : String)
  deriving DecidableEq, Repr

namespace Fault

/-- The stable label of a fault. No two causes share a label. -/
def kind : Fault → String
  | malformed _ => "malformed_input"
  | tampered => "tamper_detected"
  | decryptionFailed => "decryption_error"
  | encryptionFailed => "encryption_error"
  | corrupted => "corrupted_data"
  | notFound => "not_found"
  | store _ => "store_error"

/-- The sentence that tells of a fault. -/
def message : Fault → String
  | malformed reason => "malformed input: " ++ reason.describe
  | tampered => "integrity check failed"
  | decryptionFailed => "decryption failed"
  | encryptionFailed => "encryption failed"
  | corrupted => "corrupted data"
  | notFound => "link not found"
  | store account => "store error: " ++ account

end Fault

end ShortLink
