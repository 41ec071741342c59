import IncokitE2ee.Panicking
import IncokitE2ee.Reference

set_option autoImplicit false

/- What the four unwrapping functions accept, and how each other blob fails. -/
namespace IncokitE2ee.KeyUnwrapping

variable (aead : Aead Key Nonce)

/-- The blob is `n || AEAD(k, n, x)`. -/
def Wraps (key : Key) (blob : Bytes) (payload : Key) : Prop :=
  ∃ (nonce : Nonce) (ciphertext : Bytes),
    aead.encrypt key nonce payload.val = some ciphertext ∧ blob = nonce.val ++ ciphertext

def Authenticates (key : Key) (blob : Bytes) : Prop :=
  ∃ (nonce : Nonce) (ciphertext plaintext : Bytes),
    blob = nonce.val ++ ciphertext ∧ aead.decrypt key nonce ciphertext = some plaintext

/-- What a result of unwrapping a blob says about the blob, and the blob about it. -/
structure Classified (key : Key) (blob : Bytes) (result : CryptoResult Key) : Prop where
  ok : ∀ payload, result = .ok payload ↔ Wraps aead key blob payload
  width : ∀ payload, result = .ok payload → blob.length = 60
  short : ∀ min actual, result = .error (.ciphertextTooShort min actual) ↔
    min = 28 ∧ actual = blob.length ∧ blob.length < 28
  otherWidth : ∀ expected actual, result = .error (.invalidKeyLength expected actual) ↔
    expected = 32 ∧ actual = blob.length - 28 ∧ Authenticates aead key blob ∧ blob.length ≠ 60
  rejected : result = .error .decrypt ↔ 28 ≤ blob.length ∧ ¬ Authenticates aead key blob
  only : ∀ error, result = .error error → error = .ciphertextTooShort 28 blob.length ∨
    error = .invalidKeyLength 32 (blob.length - 28) ∨ error = .decrypt

section Cases

variable {aead} (exactness : aead.Exact) (overhead : aead.Overhead 16)
include exactness overhead

theorem length_of_opened {key : Key} {nonce : Nonce} {ciphertext plaintext : Bytes}
    (opened : aead.decrypt key nonce ciphertext = some plaintext) :
    (nonce.val ++ ciphertext).length = plaintext.length + 28 := by
  have produced := (exactness key nonce plaintext ciphertext).mp opened
  have width := overhead key nonce plaintext ciphertext produced
  rw [List.length_append, nonce.property, width]
  omega

theorem length_of_authenticates {key : Key} {blob : Bytes}
    (authentic : Authenticates aead key blob) : 28 ≤ blob.length := by
  obtain ⟨nonce, ciphertext, plaintext, rfl, opened⟩ := authentic
  have width := length_of_opened exactness overhead opened
  omega

theorem unwrap_wraps {key : Key} {blob : Bytes} {payload : Key}
    (wraps : Wraps aead key blob payload) :
    Encryption.unwrapMasterKey aead key blob = .ok payload ∧ Authenticates aead key blob ∧
      blob.length = 60 := by
  obtain ⟨nonce, ciphertext, produced, rfl⟩ := wraps
  have opened := (exactness key nonce payload.val ciphertext).mpr produced
  have width := length_of_opened exactness overhead opened
  rw [payload.property] at width
  refine ⟨?_, ⟨nonce, ciphertext, payload.val, rfl, opened⟩, width⟩
  exact Encryption.decrypt_toKey_encrypt aead overhead (exactness.inverts key nonce payload.val)
    ((Encryption.encrypt_eq_ok_iff aead key nonce payload.val _).mpr ⟨ciphertext, produced, rfl⟩)

/-- The two length tests and the tag leave four cases. -/
theorem unwrap_cases (key : Key) (blob : Bytes) :
    (blob.length < 28 ∧ Encryption.unwrapMasterKey aead key blob =
        .error (.ciphertextTooShort 28 blob.length)) ∨
      (28 ≤ blob.length ∧ ¬ Authenticates aead key blob ∧
        Encryption.unwrapMasterKey aead key blob = .error .decrypt) ∨
      (Authenticates aead key blob ∧ blob.length ≠ 60 ∧
        Encryption.unwrapMasterKey aead key blob =
          .error (.invalidKeyLength 32 (blob.length - 28))) ∨
      ∃ payload, Wraps aead key blob payload := by
  by_cases short : blob.length < 28
  · refine .inl ⟨short, ?_⟩
    rw [Encryption.unwrapMasterKey, Encryption.decrypt_short aead key blob short, bind_error]
  · refine .inr ?_
    by_cases authentic : Authenticates aead key blob
    · refine .inr ?_
      obtain ⟨nonce, ciphertext, plaintext, rfl, opened⟩ := authentic
      have width := length_of_opened exactness overhead opened
      by_cases sized : plaintext.length = 32
      · exact .inr ⟨⟨plaintext, sized⟩, nonce, ciphertext,
          (exactness key nonce plaintext ciphertext).mp opened, rfl⟩
      · have long : 16 ≤ ciphertext.length := by
          rw [List.length_append, nonce.property] at width
          omega
        refine .inl ⟨⟨nonce, ciphertext, plaintext, rfl, opened⟩, by omega, ?_⟩
        rw [Encryption.unwrapMasterKey, Encryption.decrypt_append aead key nonce ciphertext long,
          opened, bind_ok, Encryption.toKey, dif_neg sized, width, Nat.add_sub_cancel]
    · refine .inl ⟨by omega, authentic, ?_⟩
      obtain ⟨nonce, ciphertext, rfl, long⟩ := Encryption.exists_split blob (by omega)
      rw [Encryption.unwrapMasterKey, Encryption.decrypt_append aead key nonce ciphertext long]
      cases opened : aead.decrypt key nonce ciphertext with
      | none => rw [bind_error]
      | some plaintext => exact absurd ⟨nonce, ciphertext, plaintext, rfl, opened⟩ authentic

/-- The four cases exclude one another, so each result belongs to one of them. -/
theorem unwrap_classified (key : Key) (blob : Bytes) :
    Classified aead key blob (Encryption.unwrapMasterKey aead key blob) := by
  have wrapped := @unwrap_wraps aead exactness overhead key blob
  have long := @length_of_authenticates aead exactness overhead key blob
  rcases unwrap_cases exactness overhead key blob with
    ⟨short, result⟩ | ⟨enough, unauthentic, result⟩ | ⟨authentic, width, result⟩ | ⟨payload, wraps⟩
  · have unauthentic : ¬ Authenticates aead key blob := fun authentic => by
      have enough := long authentic
      omega
    have unwrapped : ∀ payload, ¬ Wraps aead key blob payload := fun payload wraps =>
      unauthentic (wrapped wraps).2.1
    rw [result]
    constructor <;> simp [short, unauthentic, unwrapped, eq_comm]
  · have unwrapped : ∀ payload, ¬ Wraps aead key blob payload := fun payload wraps =>
      unauthentic (wrapped wraps).2.1
    have notShort : ¬ blob.length < 28 := by omega
    rw [result]
    constructor <;> simp [notShort, enough, unauthentic, unwrapped]
  · have unwrapped : ∀ payload, ¬ Wraps aead key blob payload := fun payload wraps =>
      width (wrapped wraps).2.2
    have notShort : ¬ blob.length < 28 := by
      have enough := long authentic
      omega
    rw [result]
    constructor <;> simp [notShort, authentic, width, unwrapped, eq_comm]
  · obtain ⟨result, authentic, width⟩ := wrapped wraps
    have same : ∀ other, Wraps aead key blob other ↔ payload = other := by
      intro other
      constructor
      · intro wraps'
        exact Except.ok.inj (result.symm.trans (wrapped wraps').1)
      · rintro rfl
        exact wraps
    rw [result]
    constructor <;> simp [authentic, width, same]

end Cases

/-- The four functions are one, it accepts what the wrappers write and nothing
else, and no blob makes any of them panic. -/
theorem unwrapping_exact (exactness : aead.Exact) (overhead : aead.Overhead 16) :
    ∀ (key : Key) (blob : Bytes),
      Classified aead key blob (Encryption.unwrapMasterKey aead key blob) ∧
      Keys.decryptPrivateKey aead key blob = Encryption.unwrapMasterKey aead key blob ∧
      Keys.unwrapProfileKeyWithMaster aead key blob = Encryption.unwrapMasterKey aead key blob ∧
      Encryption.unwrapMasterKeyOrPanic aead key blob =
        some (Encryption.unwrapMasterKey aead key blob) ∧
      Keys.decryptPrivateKeyOrPanic aead key blob =
        some (Encryption.unwrapMasterKey aead key blob) ∧
      Keys.unwrapProfileKeyWithMasterOrPanic aead key blob =
        some (Encryption.unwrapMasterKey aead key blob) ∧
      (∀ (hkdf : Hkdf) (x25519 : X25519) (recipientPrivate senderPublic : Key),
        Keys.deriveSharingKey hkdf
            (Keys.x25519DiffieHellman x25519 recipientPrivate senderPublic) = .ok key →
          Keys.decryptSharedProfileKey aead hkdf x25519 recipientPrivate senderPublic blob =
              Encryption.unwrapMasterKey aead key blob ∧
            Keys.decryptSharedProfileKeyOrPanic aead hkdf x25519 recipientPrivate senderPublic
              blob = some (Encryption.unwrapMasterKey aead key blob)) := by
  intro key blob
  refine ⟨unwrap_classified exactness overhead key blob, rfl, rfl,
    Encryption.unwrapMasterKeyOrPanic_eq aead key blob,
    Keys.decryptPrivateKeyOrPanic_eq aead key blob,
    Keys.unwrapProfileKeyWithMasterOrPanic_eq aead key blob, ?_⟩
  intro hkdf x25519 recipientPrivate senderPublic derived
  have shared : Keys.decryptSharedProfileKey aead hkdf x25519 recipientPrivate senderPublic blob =
      Encryption.unwrapMasterKey aead key blob := by
    rw [Keys.decryptSharedProfileKey, Keys.decryptSharedBlob, derived]
    rfl
  exact ⟨shared, by rw [Keys.decryptSharedProfileKeyOrPanic_eq, shared]⟩

theorem unwrapping_exact_half :
    Encryption.unwrapMasterKey (Reference.markedAead Reference.key) Reference.key
      (Reference.nonce.val ++ (List.replicate 16 9 ++ List.replicate 16 0)) =
        .error (.invalidKeyLength 32 16) := by
  apply ((unwrapping_exact _ (Reference.markedAead_exact _) (Reference.markedAead_overhead _)
    Reference.key _).1.otherWidth 32 16).mpr
  exact ⟨rfl, rfl, ⟨Reference.nonce, _, List.replicate 16 9, rfl, by decide⟩, by decide⟩

end IncokitE2ee.KeyUnwrapping
