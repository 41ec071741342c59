import IncokitE2ee.Keys
import IncokitE2ee.Reference

set_option autoImplicit false

/- The three formats in which a key is stored under another key, and which
reader accepts which. -/
namespace IncokitE2ee.KeyWrapping

inductive Kind where
  | masterKey
  | privateKey
  | profileKey
  deriving DecidableEq

variable (aead : Aead Key Nonce)

def wrap : Kind → (wrappingKey : Key) → Nonce → (payload : Key) → CryptoResult Bytes
  | .masterKey => Encryption.wrapMasterKey aead
  | .privateKey => Keys.encryptPrivateKey aead
  | .profileKey => Keys.wrapProfileKeyWithMaster aead

def unwrap : Kind → (wrappingKey : Key) → (blob : Bytes) → CryptoResult Key
  | .masterKey => Encryption.unwrapMasterKey aead
  | .privateKey => Keys.decryptPrivateKey aead
  | .profileKey => Keys.unwrapProfileKeyWithMaster aead

theorem wrap_eq (kind : Kind) (wrappingKey : Key) (nonce : Nonce) (payload : Key) :
    wrap aead kind wrappingKey nonce payload =
      Encryption.encrypt aead wrappingKey nonce payload.val := by
  cases kind <;> rfl

theorem unwrap_eq (kind : Kind) (wrappingKey : Key) (blob : Bytes) :
    unwrap aead kind wrappingKey blob =
      (Encryption.decrypt aead wrappingKey blob >>= Encryption.toKey) := by
  cases kind <;> rfl

/-- A wrapped key opens as every kind, to the payload it was made of: the kind
is in the caller's choice of function and nowhere in the blob. -/
theorem unwrap_wrap (inverts : aead.Inverts) (overhead : aead.Overhead 16) (made opened : Kind)
    (wrappingKey : Key) (nonce : Nonce) (payload : Key) (blob : Bytes)
    (wrapped : wrap aead made wrappingKey nonce payload = .ok blob) :
    unwrap aead opened wrappingKey blob = .ok payload := by
  have opens := inverts wrappingKey nonce payload.val
  rw [wrap_eq] at wrapped
  rw [unwrap_eq]
  exact Encryption.decrypt_toKey_encrypt aead overhead opens wrapped

theorem unwrap_wrap_reference :
    unwrap (Reference.markedAead Reference.key) .profileKey Reference.key
      (Reference.nonce.val ++ ((FixedBytes.fill 32 9).val ++ List.replicate 16 0)) =
        .ok (FixedBytes.fill 32 9) :=
  unwrap_wrap _ (Reference.markedAead_exact _).inverts (Reference.markedAead_overhead _)
    .privateKey .profileKey Reference.key Reference.nonce (FixedBytes.fill 32 9) _ rfl

/-- A stored private key, put in the place of a wrapped profile key, is not
rejected. -/
theorem private_key_opens_as_profile_key :
    (Reference.markedAead Reference.key).Inverts ∧
    ¬ ∀ (made opened : Kind) (wrappingKey : Key) (nonce : Nonce) (payload : Key) (blob : Bytes),
      made ≠ opened →
      wrap (Reference.markedAead Reference.key) made wrappingKey nonce payload = .ok blob →
      Failed (unwrap (Reference.markedAead Reference.key) opened wrappingKey blob) := by
  refine ⟨(Reference.markedAead_exact _).inverts, ?_⟩
  intro rejected
  have sealing : Encryption.encrypt (Reference.markedAead Reference.key) Reference.key
      Reference.nonce (FixedBytes.fill 32 9).val = .ok (Reference.nonce.val ++
        ((FixedBytes.fill 32 9).val ++ List.replicate 16 0)) := rfl
  have failed := rejected .privateKey .profileKey Reference.key Reference.nonce
    (FixedBytes.fill 32 9) _ (by decide) sealing
  have opened := Encryption.decrypt_toKey_encrypt _ (Reference.markedAead_overhead _)
    ((Reference.markedAead_exact _).inverts _ _ _) sealing
  rw [unwrap_eq, opened] at failed
  exact not_failed_ok _ failed

end IncokitE2ee.KeyWrapping
