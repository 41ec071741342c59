import IncokitE2ee.Encryption
import IncokitE2ee.Namespace

set_option autoImplicit false

/- `keys.rs`: X25519 sharing envelopes and the wrapping of private and profile
keys with the master key. A drawn private key is an argument. -/
namespace IncokitE2ee.Keys

section Sharing

variable (aead : Aead Key Nonce) (hkdf : Hkdf) (x25519 : X25519)

/-- `(private_key_bytes, public_key_bytes)`. -/
def generateX25519Keypair (drawn : Key) : Key × Key := (drawn, x25519.publicKey drawn)

def x25519DiffieHellman (myPrivate theirPublic : Key) : Key :=
  x25519.diffieHellman myPrivate theirPublic

def sharingInfo : Bytes := asBytes "incokit-profile-sharing-v1"

def deriveSharingKey (sharedSecret : Key) : CryptoResult Key :=
  match hkdf.expand sharedSecret sharingInfo with
  | .error message => .error (.hkdf message)
  | .ok key => .ok key

def encryptBlobForSharing (senderPrivate recipientPublic : Key) (nonce : Nonce)
    (plaintext : Bytes) : CryptoResult Bytes := do
  let sharedSecret := x25519DiffieHellman x25519 senderPrivate recipientPublic
  let encKey ← deriveSharingKey hkdf sharedSecret
  Encryption.encrypt aead encKey nonce plaintext

def decryptSharedBlob (recipientPrivate senderPublic : Key) (ciphertext : Bytes) :
    CryptoResult Bytes := do
  let sharedSecret := x25519DiffieHellman x25519 recipientPrivate senderPublic
  let encKey ← deriveSharingKey hkdf sharedSecret
  Encryption.decrypt aead encKey ciphertext

def encryptProfileKeyForSharing (senderPrivate recipientPublic : Key) (nonce : Nonce)
    (profileKey : Key) : CryptoResult Bytes :=
  encryptBlobForSharing aead hkdf x25519 senderPrivate recipientPublic nonce profileKey.val

def decryptSharedProfileKey (recipientPrivate senderPublic : Key) (encrypted : Bytes) :
    CryptoResult Key := do
  let plaintext ← decryptSharedBlob aead hkdf x25519 recipientPrivate senderPublic encrypted
  Encryption.toKey plaintext

end Sharing

section Wrapping

variable (aead : Aead Key Nonce)

/-- Alias of the profile namespace's derivation. -/
def deriveProfileKey (hkdf : Hkdf) (masterKey : Key) (profileId : Int64) : CryptoResult Key :=
  KeyNamespace.profile.deriveKey hkdf masterKey profileId

def encryptPrivateKey (masterKey : Key) (nonce : Nonce) (privateKey : Key) : CryptoResult Bytes :=
  Encryption.encrypt aead masterKey nonce privateKey.val

def decryptPrivateKey (masterKey : Key) (encrypted : Bytes) : CryptoResult Key := do
  let plaintext ← Encryption.decrypt aead masterKey encrypted
  Encryption.toKey plaintext

/-- The same primitive as `encryptPrivateKey` under another name. -/
def wrapProfileKeyWithMaster (masterKey : Key) (nonce : Nonce) (profileKey : Key) :
    CryptoResult Bytes :=
  Encryption.encrypt aead masterKey nonce profileKey.val

def unwrapProfileKeyWithMaster (masterKey : Key) (wrapped : Bytes) : CryptoResult Key := do
  let plaintext ← Encryption.decrypt aead masterKey wrapped
  Encryption.toKey plaintext

end Wrapping

theorem deriveSharingKey_eq_ok_iff (hkdf : Hkdf) (sharedSecret key : Key) :
    deriveSharingKey hkdf sharedSecret = .ok key ↔
      hkdf.expand sharedSecret sharingInfo = .ok key := by
  rw [deriveSharingKey]
  cases hkdf.expand sharedSecret sharingInfo <;> simp

theorem exists_deriveSharingKey (hkdf : Hkdf) (total : hkdf.Total) (sharedSecret : Key) :
    ∃ key, deriveSharingKey hkdf sharedSecret = .ok key := by
  obtain ⟨key, expanded⟩ := total sharedSecret sharingInfo
  exact ⟨key, (deriveSharingKey_eq_ok_iff hkdf sharedSecret key).mpr expanded⟩

/-- Secrets on which the expansion does not collide have different sharing keys. -/
theorem deriveSharingKey_injective (hkdf : Hkdf) {secrets : Key → Prop}
    (collisionFree : hkdf.CollisionFree secrets (· = sharingInfo)) {secret other key : Key}
    (known : secrets secret) (known' : secrets other)
    (first : deriveSharingKey hkdf secret = .ok key)
    (second : deriveSharingKey hkdf other = .ok key) : secret = other :=
  (collisionFree secret other _ _ key known known' rfl rfl
    ((deriveSharingKey_eq_ok_iff hkdf secret key).mp first)
    ((deriveSharingKey_eq_ok_iff hkdf other key).mp second)).1

end IncokitE2ee.Keys
