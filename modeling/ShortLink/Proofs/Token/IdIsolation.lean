import ShortLink.Proofs.Feistel.WordKey
import ShortLink.Proofs.Token.Id

/-!
# Codes of ids under other keys

The code of an id is meant to give another id under another key: that of another tenant, or another
version. With one round or two it always does. From three rounds on, and three is the standard
number, some ids have the same code under two keys, and such a code gives the same id under both.
Keys that agree on an id in some number of rounds disagree on it in the next two numbers.

## Main results

- `TenantCodec.decodeId_encodeId_eq_iff` — a code gives its id under another key exactly when it is
  the code under that key too
- `TenantCodec.decodeId_foreign` — when a code gives its id under another key, by number of rounds
-/

namespace ShortLink.TenantCodec

open Feistel (Isolates MeetInThree scramble unscramble)

variable {ours theirs : TenantCodec} {our their : String} {id : UInt64}

/-- Codecs with one number of rounds write the same code when their keys scramble the id alike. -/
theorem encodeId_eq_iff (hrounds : ours.rounds = theirs.rounds) :
    theirs.encodeId id their = ours.encodeId id our ↔
      scramble id (ours.key our) ours.rounds = scramble id (theirs.key their) ours.rounds := by
  rw [encodeId, encodeId, Radix62.encodeWord_injective.eq_iff, ← hrounds]
  exact eq_comm

theorem decodeId_encodeId_of_rounds (hrounds : ours.rounds = theirs.rounds) :
    theirs.decodeId (ours.encodeId id our) their =
      .ok (unscramble (scramble id (ours.key our) ours.rounds) (theirs.key their) ours.rounds) := by
  rw [decodeId, encodeId, Radix62.decodeWord_encodeWord, hrounds]
  rfl

/-- A code gives its id under another key exactly when it is the code under that key too. -/
theorem decodeId_encodeId_eq_iff (hrounds : ours.rounds = theirs.rounds) :
    theirs.decodeId (ours.encodeId id our) their = .ok id ↔
      theirs.encodeId id their = ours.encodeId id our := by
  rw [decodeId_encodeId_of_rounds hrounds, Except.ok.injEq, Feistel.unscramble_scramble_eq_iff,
    encodeId_eq_iff hrounds]

/-- With one or two rounds ids are kept apart under all keys, with more of them they are not. Keys
under which an id comes back tell it apart in the next two numbers of rounds. A code gives some id
under every key, and its own exactly when it is the code under that key too, which takes three rounds
or equal keys. At the standard number of rounds, which is three, two equations tell which ids these
are. -/
theorem decodeId_foreign (rounds : Rounds) :
    (Isolates rounds.val ↔ rounds.val ≤ 2) ∧
    (∀ (id : UInt64) (key key' : UInt32), key ≠ key' →
      unscramble (scramble id key rounds.val) key' rounds.val = id →
        unscramble (scramble id key (rounds.val + 1)) key' (rounds.val + 1) ≠ id ∧
        unscramble (scramble id key (rounds.val + 2)) key' (rounds.val + 2) ≠ id) ∧
    (∀ (ours theirs : TenantCodec) (our their : String) (id : UInt64),
      ours.rounds = rounds.val → theirs.rounds = rounds.val →
        (∃ other, theirs.decodeId (ours.encodeId id our) their = .ok other) ∧
        (theirs.decodeId (ours.encodeId id our) their = .ok id ↔
          theirs.encodeId id their = ours.encodeId id our) ∧
        (ours.key our ≠ theirs.key their → rounds.val ≤ 2 →
          theirs.decodeId (ours.encodeId id our) their ≠ .ok id)) ∧
    (rounds = .standard → ∀ (id : UInt64) (key key' : UInt32),
      unscramble (scramble id key rounds.val) key' rounds.val = id ↔ MeetInThree id key key') := by
  have hroom : rounds.val.toNat ≤ 10 := UInt8.le_iff_toNat_le.mp rounds.le_ten
  refine ⟨Feistel.isolates_iff rounds, ?_, ?_, ?_⟩
  · intro id key key' hkeys hback
    have hsame := Feistel.unscramble_scramble_eq_iff.mp hback
    exact ⟨mt Feistel.unscramble_scramble_eq_iff.mp
        (Feistel.scramble_succ_ne hkeys (by omega) hsame),
      mt Feistel.unscramble_scramble_eq_iff.mp (Feistel.scramble_add_two_ne hkeys (by omega) hsame)⟩
  · intro ours theirs our their id hours htheirs
    have hrounds : ours.rounds = theirs.rounds := hours.trans htheirs.symm
    refine ⟨⟨_, decodeId_encodeId_of_rounds hrounds⟩, decodeId_encodeId_eq_iff hrounds, ?_⟩
    intro hkeys htwo hback
    rw [decodeId_encodeId_of_rounds hrounds, Except.ok.injEq, hours] at hback
    exact (Feistel.isolates_iff rounds).mpr htwo id _ _ hkeys hback
  · rintro rfl id key key'
    exact Feistel.unscramble_scramble_eq_iff.trans Feistel.scramble_three_eq_iff

/-- Two versions of the key give the same id for one code at the standard number of rounds, as the
equations say, and different ones with a round more. -/
theorem decodeId_foreign_versions :
    let standard : KeyRing := ⟨[777, 46065874], ⟨0, by decide⟩, .standard, none⟩
    (TenantCodec.mk standard ⟨1, by decide⟩).encodeId 22342106341179392 ""
      = (ofRing standard).encodeId 22342106341179392 "" ∧
    MeetInThree 22342106341179392 777 46065874 ∧
    unscramble (scramble 22342106341179392 777 4) 46065874 4 ≠ 22342106341179392 := by
  intro standard
  let second : TenantCodec := ⟨standard, ⟨1, by decide⟩⟩
  obtain ⟨-, hapart, hforeign, hthree⟩ := decodeId_foreign .standard
  refine ⟨(hforeign (ofRing standard) second "" "" 22342106341179392 rfl rfl).2.1.mp ?_, ?_, ?_⟩
  · decide +kernel
  · exact (hthree rfl 22342106341179392 777 46065874).mp (by decide +kernel)
  · exact (hapart 22342106341179392 777 46065874 (by decide) (by decide +kernel)).1

/-- A code of one version of the key gives its id under another version, whose key differs. The id is
one that a generator issues. -/
theorem decodeId_across_versions :
    let ring : KeyRing := ⟨[777, 46065874], ⟨0, by decide⟩, .standard, none⟩
    (ofRing ring).key "" ≠ (TenantCodec.mk ring ⟨1, by decide⟩).key "" ∧
    (TenantCodec.mk ring ⟨1, by decide⟩).decodeId
      ((ofRing ring).encodeId 22342106341179392 "") "" = .ok 22342106341179392 := by
  decide +kernel

end ShortLink.TenantCodec
