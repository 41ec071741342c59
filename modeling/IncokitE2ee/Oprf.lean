import IncokitE2ee.Bytes
import IncokitE2ee.Framing

set_option autoImplicit false

/- `oprf.rs`: the PIN hashing before and after the server's evaluation. SHA-256
itself is an argument; what it is fed is in the model. -/
namespace IncokitE2ee.Oprf

/-- A `Sha256` hasher, as the bytes it has been fed. -/
structure Sha256 where
  fed : Bytes
  deriving DecidableEq

namespace Sha256

def new : Sha256 := ⟨[]⟩

def update (hasher : Sha256) (data : Bytes) : Sha256 := ⟨hasher.fed ++ data⟩

def finalize (sha256 : Bytes → FixedBytes 32) (hasher : Sha256) : Bytes := (sha256 hasher.fed).val

end Sha256

def blindHasher (userId pin : String) : Sha256 :=
  Sha256.new
    |>.update (asBytes "incokit-oprf-v2")
    |>.update (Framing.toBeBytes (UInt32.ofNat (asBytes userId).length))
    |>.update (asBytes userId)
    |>.update (asBytes pin)

def blind (sha256 : Bytes → FixedBytes 32) (userId pin : String) : Bytes :=
  (blindHasher userId pin).finalize sha256

def finalizeHasher (userId pin : String) (evaluated : Bytes) : Sha256 :=
  Sha256.new
    |>.update (asBytes "incokit-oprf-finalize-v2")
    |>.update (Framing.toBeBytes (UInt32.ofNat (asBytes userId).length))
    |>.update (asBytes userId)
    |>.update (asBytes pin)
    |>.update evaluated

def finalize (sha256 : Bytes → FixedBytes 32) (userId pin : String) (evaluated : Bytes) : Bytes :=
  (finalizeHasher userId pin evaluated).finalize sha256

/-- What `blind` hashes. -/
def blindInput (userId pin : String) : Bytes := (blindHasher userId pin).fed

/-- What `finalize` hashes. -/
def finalizeInput (userId pin : String) (evaluated : Bytes) : Bytes :=
  (finalizeHasher userId pin evaluated).fed

theorem blind_eq (sha256 : Bytes → FixedBytes 32) (userId pin : String) :
    blind sha256 userId pin = (sha256 (blindInput userId pin)).val := rfl

theorem finalize_eq (sha256 : Bytes → FixedBytes 32) (userId pin : String) (evaluated : Bytes) :
    finalize sha256 userId pin evaluated = (sha256 (finalizeInput userId pin evaluated)).val := rfl

theorem blindInput_eq (userId pin : String) :
    blindInput userId pin =
      Framing.frame (asBytes "incokit-oprf-v2") (asBytes userId) (asBytes pin) := by
  simp only [blindInput, blindHasher, Sha256.update, Sha256.new, Framing.frame,
    Framing.lengthPrefix, List.nil_append, List.append_assoc]

theorem finalizeInput_eq (userId pin : String) (evaluated : Bytes) :
    finalizeInput userId pin evaluated =
      Framing.frame (asBytes "incokit-oprf-finalize-v2") (asBytes userId)
        (asBytes pin ++ evaluated) := by
  simp only [finalizeInput, finalizeHasher, Sha256.update, Sha256.new, Framing.frame,
    Framing.lengthPrefix, List.nil_append, List.append_assoc]

theorem blindInput_eq_iff (userId pin userId' pin' : String) :
    blindInput userId pin = blindInput userId' pin' ↔
      (asBytes userId).length % 2 ^ 32 = (asBytes userId').length % 2 ^ 32 ∧
        asBytes userId ++ asBytes pin = asBytes userId' ++ asBytes pin' := by
  rw [blindInput_eq, blindInput_eq, Framing.frame_eq_iff]

theorem finalizeInput_eq_iff (userId pin : String) (evaluated : Bytes) (userId' pin' : String)
    (evaluated' : Bytes) :
    finalizeInput userId pin evaluated = finalizeInput userId' pin' evaluated' ↔
      (asBytes userId).length % 2 ^ 32 = (asBytes userId').length % 2 ^ 32 ∧
        asBytes userId ++ asBytes pin ++ evaluated =
          asBytes userId' ++ asBytes pin' ++ evaluated' := by
  rw [finalizeInput_eq, finalizeInput_eq, Framing.frame_eq_iff, List.append_assoc,
    List.append_assoc]

/-- The labels keep the two hashes apart, whatever is hashed. -/
theorem blindInput_ne_finalizeInput (userId pin userId' pin' : String) (evaluated : Bytes) :
    blindInput userId pin ≠ finalizeInput userId' pin' evaluated := by
  rw [blindInput_eq, finalizeInput_eq]
  exact Framing.frame_ne_of_labels (by decide) (by decide) _ _ _ _

theorem blindInput_injective {userId pin userId' pin' : String}
    (short : (asBytes userId).length < 2 ^ 32) (short' : (asBytes userId').length < 2 ^ 32)
    (same : blindInput userId pin = blindInput userId' pin') : userId = userId' ∧ pin = pin' := by
  rw [blindInput_eq, blindInput_eq] at same
  obtain ⟨users, pins⟩ := Framing.frame_injective short short' same
  exact ⟨asBytes_injective users, asBytes_injective pins⟩

/-- The user id can be read back from what `finalize` hashes. -/
theorem finalizeInput_user {userId pin userId' pin' : String} {evaluated evaluated' : Bytes}
    (short : (asBytes userId).length < 2 ^ 32) (short' : (asBytes userId').length < 2 ^ 32)
    (same : finalizeInput userId pin evaluated = finalizeInput userId' pin' evaluated') :
    userId = userId' := by
  rw [finalizeInput_eq, finalizeInput_eq] at same
  exact asBytes_injective (Framing.frame_injective short short' same).1

/-- User binding and domain separation of the hash inputs. -/
theorem user_binding_and_domain_separation :
    (∀ (sha256 : Bytes → FixedBytes 32) (userId pin : String) (evaluated : Bytes),
      blind sha256 userId pin = (sha256 (blindInput userId pin)).val ∧
        finalize sha256 userId pin evaluated = (sha256 (finalizeInput userId pin evaluated)).val) ∧
    (∀ userId pin userId' pin' : String,
      blindInput userId pin = blindInput userId' pin' ↔
        (asBytes userId).length % 2 ^ 32 = (asBytes userId').length % 2 ^ 32 ∧
          asBytes userId ++ asBytes pin = asBytes userId' ++ asBytes pin') ∧
    (∀ (userId pin : String) (evaluated : Bytes) (userId' pin' : String) (evaluated' : Bytes),
      finalizeInput userId pin evaluated = finalizeInput userId' pin' evaluated' ↔
        (asBytes userId).length % 2 ^ 32 = (asBytes userId').length % 2 ^ 32 ∧
          asBytes userId ++ asBytes pin ++ evaluated =
            asBytes userId' ++ asBytes pin' ++ evaluated') ∧
    (∀ (userId pin userId' pin' : String) (evaluated : Bytes),
      blindInput userId pin ≠ finalizeInput userId' pin' evaluated) ∧
    (∀ userId pin userId' pin' : String,
      (asBytes userId).length < 2 ^ 32 → (asBytes userId').length < 2 ^ 32 →
      blindInput userId pin = blindInput userId' pin' → userId = userId' ∧ pin = pin') ∧
    (∀ (userId userId' : String),
      (asBytes userId).length < 2 ^ 32 → (asBytes userId').length < 2 ^ 32 → userId ≠ userId' →
      ∀ (pin pin' : String) (evaluated evaluated' : Bytes),
        finalizeInput userId pin evaluated ≠ finalizeInput userId' pin' evaluated') := by
  refine ⟨?_, blindInput_eq_iff, finalizeInput_eq_iff, blindInput_ne_finalizeInput, ?_, ?_⟩
  · intro sha256 userId pin evaluated
    exact ⟨blind_eq sha256 userId pin, finalize_eq sha256 userId pin evaluated⟩
  · intro userId pin userId' pin' short short' same
    exact blindInput_injective short short' same
  · intro userId userId' short short' different pin pin' evaluated evaluated' same
    exact different (finalizeInput_user short short' same)

/-- `pin'` is `pin` and some more text, which `evaluated` has in front of `evaluated'`. -/
def Shifted (pin : String) (evaluated : Bytes) (pin' : String) (evaluated' : Bytes) : Prop :=
  ∃ moved : String, moved ≠ "" ∧ pin' = pin ++ moved ∧ evaluated = asBytes moved ++ evaluated'

theorem finalizeInput_of_shifted (userId : String) {pin pin' : String}
    {evaluated evaluated' : Bytes} (shifted : Shifted pin evaluated pin' evaluated') :
    finalizeInput userId pin evaluated = finalizeInput userId pin' evaluated' := by
  obtain ⟨moved, -, rfl, rfl⟩ := shifted
  rw [finalizeInput_eq, finalizeInput_eq, asBytes_append, List.append_assoc]

/-- Only a text of its own can have moved between the two fields. -/
theorem shifted_of_longer {pin pin' : String} {evaluated evaluated' moved : Bytes}
    (longer : asBytes pin' = asBytes pin ++ moved) (rest : evaluated = moved ++ evaluated')
    (different : ¬ (pin = pin' ∧ evaluated = evaluated')) :
    Shifted pin evaluated pin' evaluated' := by
  obtain ⟨tail, whole, rfl⟩ := asBytes_prefix longer
  refine ⟨tail, ?_, whole, rest⟩
  rintro rfl
  exact different ⟨by rw [whole, String.append_empty], rest⟩

/-- Evaluations of one length, such as the server's, leave nothing to move. -/
theorem not_shifted_of_length {pin pin' : String} {evaluated evaluated' : Bytes}
    (length : evaluated.length = evaluated'.length) : ¬ Shifted pin evaluated pin' evaluated' := by
  rintro ⟨moved, nonempty, -, rfl⟩
  apply nonempty
  apply asBytes_injective
  rw [List.length_append] at length
  exact List.length_eq_zero_iff.mp (by omega)

/-- PIN and evaluation are bound separately but for a text moved across the
boundary that is not written down between them. -/
theorem finalize_binds_iff (userId pin : String) (evaluated : Bytes) (pin' : String)
    (evaluated' : Bytes) :
    (∀ sha256 : Bytes → FixedBytes 32,
      finalize sha256 userId pin evaluated = (sha256 (finalizeInput userId pin evaluated)).val ∧
      finalize sha256 userId pin' evaluated' =
        (sha256 (finalizeInput userId pin' evaluated')).val) ∧
    ((finalizeInput userId pin evaluated = finalizeInput userId pin' evaluated' →
      pin = pin' ∧ evaluated = evaluated') ↔
        ¬ Shifted pin evaluated pin' evaluated' ∧ ¬ Shifted pin' evaluated' pin evaluated) := by
  refine ⟨fun sha256 => ⟨finalize_eq sha256 _ _ _, finalize_eq sha256 _ _ _⟩, ?_⟩
  constructor
  · intro binds
    constructor
    · intro shifted
      obtain ⟨rfl, rfl⟩ := binds (finalizeInput_of_shifted userId shifted)
      exact not_shifted_of_length rfl shifted
    · intro shifted
      obtain ⟨rfl, rfl⟩ := binds (finalizeInput_of_shifted userId shifted).symm
      exact not_shifted_of_length rfl shifted
  · rintro ⟨notForward, notBackward⟩ same
    rw [finalizeInput_eq, finalizeInput_eq] at same
    have bodies := ((Framing.frame_eq_iff _ _ _ _ _).mp same).2
    have joined := List.append_cancel_left bodies
    by_cases different : pin = pin' ∧ evaluated = evaluated'
    · exact different
    · rcases List.append_eq_append_iff.mp joined with ⟨moved, longer, rest⟩ | ⟨moved, longer, rest⟩
      · exact absurd (shifted_of_longer longer rest different) notForward
      · exact absurd (shifted_of_longer longer rest
          (fun both => different ⟨both.1.symm, both.2.symm⟩)) notBackward

/-- The last digit of a PIN reads as the first byte of a longer evaluation. -/
theorem pin_digit_moves_into_evaluation :
    ¬ ∀ (userId pin : String) (evaluated : Bytes) (pin' : String) (evaluated' : Bytes),
      finalizeInput userId pin evaluated = finalizeInput userId pin' evaluated' →
        pin = pin' ∧ evaluated = evaluated' := by
  intro binds
  have same : finalizeInput "00000000-0000-0000-0000-000000000001" "12345" (0x36 :: [0xAA, 0xBB]) =
      finalizeInput "00000000-0000-0000-0000-000000000001" "123456" [0xAA, 0xBB] := by
    apply finalizeInput_of_shifted
    exact ⟨"6", by decide, by decide, by decide⟩
  have pins := (binds _ _ _ _ _ same).1
  revert pins
  decide

end IncokitE2ee.Oprf
