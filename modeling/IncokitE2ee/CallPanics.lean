import IncokitE2ee.CallErrors
import IncokitE2ee.KeyUnwrapping

set_option autoImplicit false

/- Every decrypting call on every input: it returns without a panic, and each of
its errors names the first stage that broke. -/
namespace IncokitE2ee

section Readers

variable (aead : Aead Key Nonce) (base64 : Base64.Engine) (hkdf : Hkdf)

def Keys.decryptSharedBlobOrPanic (x25519 : X25519) (recipientPrivate senderPublic : Key)
    (ciphertext : Bytes) : Option (CryptoResult Bytes) :=
  match deriveSharingKey hkdf (x25519DiffieHellman x25519 recipientPrivate senderPublic) with
  | .error error => some (.error error)
  | .ok encKey => Encryption.decryptOrPanic aead encKey ciphertext

theorem Keys.decryptSharedBlobOrPanic_eq (x25519 : X25519) (recipientPrivate senderPublic : Key)
    (ciphertext : Bytes) :
    decryptSharedBlobOrPanic aead hkdf x25519 recipientPrivate senderPublic ciphertext =
      some (decryptSharedBlob aead hkdf x25519 recipientPrivate senderPublic ciphertext) := by
  rw [decryptSharedBlobOrPanic, decryptSharedBlob]
  cases derived : deriveSharingKey hkdf
      (x25519DiffieHellman x25519 recipientPrivate senderPublic) with
  | error error => rfl
  | ok encKey =>
      simp only [Encryption.decryptOrPanic_eq]
      rfl

theorem Sealed.tryUnsealBytesOrPanic_eq (entityKey : Key) (stored : String) :
    tryUnsealBytesOrPanic aead base64 entityKey stored =
      some (tryUnsealBytes aead base64 entityKey stored) := by
  rw [tryUnsealBytesOrPanic, tryUnsealBytes]
  by_cases sealed : startsWith e2eePrefix stored
  · rw [if_pos sealed, if_pos sealed, unsealBytesOrPanic_eq]
  · rw [if_neg sealed, if_neg sealed]

variable {E : Type} [EncryptedEntity E] {R : Type}

/-- The four entity readers: the key, and then a reader that may panic. -/
def readEntityOrPanic (reader : Key → String → Option (CryptoResult R)) (session : SessionKey)
    (entity : E) (stored : String) : Option (CryptoResult R) :=
  match session.entityKey hkdf entity with
  | .error error => some (.error error)
  | .ok key => reader key stored

theorem readEntityOrPanic_eq {reader : Key → String → Option (CryptoResult R)}
    {plain : Key → String → CryptoResult R}
    (same : ∀ key stored, reader key stored = some (plain key stored)) (session : SessionKey)
    (entity : E) (stored : String) :
    readEntityOrPanic hkdf reader session entity stored =
      some (session.entityKey hkdf entity >>= fun key => plain key stored) := by
  rw [readEntityOrPanic]
  cases session.entityKey hkdf entity with
  | error error => rfl
  | ok key => exact same key stored

def unsealEntityStringOrPanic (session : SessionKey) (entity : E) (stored : String) :
    Option (CryptoResult String) :=
  readEntityOrPanic hkdf (Sealed.unsealStringOrPanic aead base64) session entity stored

def tryUnsealEntityStringOrPanic (session : SessionKey) (entity : E) (stored : String) :
    Option (CryptoResult String) :=
  readEntityOrPanic hkdf (Sealed.tryUnsealStringOrPanic aead base64) session entity stored

variable {V : Type} (json : SerdeJson V)

def unsealEntityJsonOrPanic (session : SessionKey) (entity : E) (stored : String) :
    Option (CryptoResult V) :=
  readEntityOrPanic hkdf (Sealed.unsealJsonOrPanic aead base64 json) session entity stored

def tryUnsealEntityJsonOrPanic (session : SessionKey) (entity : E) (stored : String) :
    Option (CryptoResult V) :=
  readEntityOrPanic hkdf (Sealed.tryUnsealJsonOrPanic aead base64 json) session entity stored

end Readers

variable {Kind Shape : Type} {E : Kind → Type} {T : Shape → Type}
variable [∀ kind, EncryptedEntity (E kind)]
variable (aead : Aead Key Nonce) (base64 : Base64.Engine) (hkdf : Hkdf) (x25519 : X25519)
variable (json : ∀ shape, SerdeJson (T shape))

/-- A call with the panicking operations left in. -/
def Opening.runOrPanic : (call : Opening E T) → Option (CryptoResult call.form.Value)
  | .decrypt key data => Encryption.decryptOrPanic aead key data
  | .unwrapMasterKey derivedKey wrapped => Encryption.unwrapMasterKeyOrPanic aead derivedKey wrapped
  | .decryptPrivateKey masterKey encrypted =>
      Keys.decryptPrivateKeyOrPanic aead masterKey encrypted
  | .unwrapProfileKeyWithMaster masterKey wrapped =>
      Keys.unwrapProfileKeyWithMasterOrPanic aead masterKey wrapped
  | .decryptSharedBlob recipientPrivate senderPublic ciphertext =>
      Keys.decryptSharedBlobOrPanic aead hkdf x25519 recipientPrivate senderPublic ciphertext
  | .decryptSharedProfileKey recipientPrivate senderPublic encrypted =>
      Keys.decryptSharedProfileKeyOrPanic aead hkdf x25519 recipientPrivate senderPublic encrypted
  | .unsealBytes entityKey stored => Sealed.unsealBytesOrPanic aead base64 entityKey stored
  | .tryUnsealBytes entityKey stored => Sealed.tryUnsealBytesOrPanic aead base64 entityKey stored
  | .unsealString entityKey stored => Sealed.unsealStringOrPanic aead base64 entityKey stored
  | .tryUnsealString entityKey stored => Sealed.tryUnsealStringOrPanic aead base64 entityKey stored
  | .unsealJson entityKey shape stored =>
      Sealed.unsealJsonOrPanic aead base64 (json shape) entityKey stored
  | .tryUnsealJson entityKey shape stored =>
      Sealed.tryUnsealJsonOrPanic aead base64 (json shape) entityKey stored
  | .unsealEntityString session _ entity stored =>
      IncokitE2ee.unsealEntityStringOrPanic aead base64 hkdf session entity stored
  | .tryUnsealEntityString session _ entity stored =>
      IncokitE2ee.tryUnsealEntityStringOrPanic aead base64 hkdf session entity stored
  | .unsealEntityJson session _ entity shape stored =>
      IncokitE2ee.unsealEntityJsonOrPanic aead base64 hkdf (json shape) session entity stored
  | .tryUnsealEntityJson session _ entity shape stored =>
      IncokitE2ee.tryUnsealEntityJsonOrPanic aead base64 hkdf (json shape) session entity stored

theorem Opening.runOrPanic_eq (call : Opening E T) :
    call.runOrPanic aead base64 hkdf x25519 json =
      some (call.run aead base64 hkdf x25519 json) := by
  cases call with
  | decrypt key data => exact Encryption.decryptOrPanic_eq aead key data
  | unwrapMasterKey key wrapped => exact Encryption.unwrapMasterKeyOrPanic_eq aead key wrapped
  | decryptPrivateKey key encrypted => exact Keys.decryptPrivateKeyOrPanic_eq aead key encrypted
  | unwrapProfileKeyWithMaster key wrapped =>
      exact Keys.unwrapProfileKeyWithMasterOrPanic_eq aead key wrapped
  | decryptSharedBlob mine theirs ciphertext =>
      exact Keys.decryptSharedBlobOrPanic_eq aead hkdf x25519 mine theirs ciphertext
  | decryptSharedProfileKey mine theirs encrypted =>
      exact Keys.decryptSharedProfileKeyOrPanic_eq aead hkdf x25519 mine theirs encrypted
  | unsealBytes key text => exact Sealed.unsealBytesOrPanic_eq aead base64 key text
  | tryUnsealBytes key text => exact Sealed.tryUnsealBytesOrPanic_eq aead base64 key text
  | unsealString key text => exact Sealed.unsealStringOrPanic_eq aead base64 key text
  | tryUnsealString key text => exact Sealed.tryUnsealStringOrPanic_eq aead base64 key text
  | unsealJson key shape text =>
      exact Sealed.unsealJsonOrPanic_eq aead base64 (json shape) key text
  | tryUnsealJson key shape text =>
      exact Sealed.tryUnsealJsonOrPanic_eq aead base64 (json shape) key text
  | unsealEntityString session kind entity text =>
      exact readEntityOrPanic_eq hkdf (Sealed.unsealStringOrPanic_eq aead base64) session entity text
  | tryUnsealEntityString session kind entity text =>
      exact readEntityOrPanic_eq hkdf (Sealed.tryUnsealStringOrPanic_eq aead base64) session entity
        text
  | unsealEntityJson session kind entity shape text =>
      exact readEntityOrPanic_eq hkdf (Sealed.unsealJsonOrPanic_eq aead base64 (json shape)) session
        entity text
  | tryUnsealEntityJson session kind entity shape text =>
      exact readEntityOrPanic_eq hkdf (Sealed.tryUnsealJsonOrPanic_eq aead base64 (json shape))
        session entity text

/-- No decrypting call panics, and it fails with an error exactly when its first
broken stage has that error; none reports a lock, another user, a failed
encryption or a failed stretching. -/
theorem openings_located (call : Opening E T) :
    call.runOrPanic aead base64 hkdf x25519 json = some (call.run aead base64 hkdf x25519 json) ∧
    (∀ error, call.run aead base64 hkdf x25519 json = .error error ↔
      call.Fails aead base64 hkdf x25519 json error) ∧
    ∀ error, call.run aead base64 hkdf x25519 json = .error error →
      error ≠ .notUnlocked ∧ error ≠ .userIdMismatch ∧ error ≠ .encrypt ∧
        ∀ message, error ≠ .argon2Params message ∧ error ≠ .argon2Hash message := by
  refine ⟨call.runOrPanic_eq aead base64 hkdf x25519 json,
    call.run_eq_error_iff aead base64 hkdf x25519 json, ?_⟩
  intro error failed
  cases (call.run_eq_error_iff aead base64 hkdf x25519 json error).mp failed with
  | unreadable key found bytes error derived parsed opened unreadable =>
      generalize call.form = form at unreadable
      cases unreadable <;> simp
  | _ => simp

end IncokitE2ee
