import IncokitE2ee.Namespace
import IncokitE2ee.Sealed

set_option autoImplicit false

/- `session.rs` and `entity.rs`: the session's master key, and the sealing of an
entity's fields under the key derived for it. -/
namespace IncokitE2ee

/-- The in-memory master key. Wiping it on drop is outside the model. -/
structure SessionKey where
  new ::
  asBytes : Key

def SessionKey.derive (hkdf : Hkdf) (session : SessionKey) (ns : KeyNamespace) (id : Int64) :
    CryptoResult Key :=
  ns.deriveKey hkdf session.asBytes id

class EncryptedEntity (E : Type) where
  NAMESPACE : KeyNamespace
  entityId : E → Int64

open EncryptedEntity (NAMESPACE entityId)

section Helpers

variable (aead : Aead Key Nonce) (base64 : Base64.Engine) (hkdf : Hkdf)
variable {E : Type} [EncryptedEntity E]

def SessionKey.entityKey (session : SessionKey) (entity : E) : CryptoResult Key :=
  session.derive hkdf (NAMESPACE E) (entityId entity)

def sealEntityString (session : SessionKey) (entity : E) (nonce : Nonce) (plaintext : String) :
    CryptoResult String := do
  let key ← session.entityKey hkdf entity
  Sealed.sealString aead base64 key nonce plaintext

def unsealEntityString (session : SessionKey) (entity : E) (stored : String) :
    CryptoResult String := do
  let key ← session.entityKey hkdf entity
  Sealed.unsealString aead base64 key stored

def tryUnsealEntityString (session : SessionKey) (entity : E) (stored : String) :
    CryptoResult String := do
  let key ← session.entityKey hkdf entity
  Sealed.tryUnsealString aead base64 key stored

variable {T : Type} (json : SerdeJson T)

def sealEntityJson (session : SessionKey) (entity : E) (nonce : Nonce) (value : T) :
    CryptoResult String := do
  let key ← session.entityKey hkdf entity
  Sealed.sealJson aead base64 json key nonce value

def unsealEntityJson (session : SessionKey) (entity : E) (stored : String) : CryptoResult T := do
  let key ← session.entityKey hkdf entity
  Sealed.unsealJson aead base64 json key stored

def tryUnsealEntityJson (session : SessionKey) (entity : E) (stored : String) :
    CryptoResult T := do
  let key ← session.entityKey hkdf entity
  Sealed.tryUnsealJson aead base64 json key stored

end Helpers

end IncokitE2ee
