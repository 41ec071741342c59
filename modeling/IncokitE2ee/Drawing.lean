import IncokitE2ee.Calls

set_option autoImplicit false

/- The crate with its generator: `rand::thread_rng()` as a state that is passed
on, and every function that draws from it. -/
namespace IncokitE2ee

/-- What a thread's generator fills a buffer with, and what it becomes. -/
structure Rng where
  State : Type
  fillBytes : State → (width : Nat) → FixedBytes width × State

/-- A computation that may draw, and may fail; a failure keeps the draws. -/
abbrev Drawing (rng : Rng) (α : Type) : Type := ExceptT CryptoError (StateM rng.State) α

namespace Drawing

variable (rng : Rng)

/-- `rand::thread_rng().fill_bytes(&mut buffer)`. -/
def fill (width : Nat) : StateM rng.State (FixedBytes width) :=
  fun generator => rng.fillBytes generator width

/-- A step that draws nothing. -/
def lift {α : Type} (result : CryptoResult α) : Drawing rng α := fun generator => (result, generator)

def generateMasterKey : StateM rng.State Key := fill rng 32

def generateSalt : StateM rng.State (FixedBytes 32) := fill rng 32

def generateRecoveryKey : StateM rng.State Key := fill rng 32

def generateProfileKey : StateM rng.State Key := fill rng 32

/-- The secret is 32 bytes of the generator, kept as they were drawn. -/
def generateX25519Keypair (x25519 : X25519) : StateM rng.State (Key × Key) := do
  let secret ← fill rng 32
  return Keys.generateX25519Keypair x25519 secret

variable (aead : Aead Key Nonce) (base64 : Base64.Engine) (hkdf : Hkdf) (x25519 : X25519)

/-- The cipher is made before the nonce is drawn. -/
def encrypt (key : Key) (plaintext : Bytes) : Drawing rng Bytes :=
  match Encryption.newFromSlice key.val with
  | none => lift rng (.error (.invalidKeyLength 32 key.val.length))
  | some cipher => do
      let nonce : Nonce ← (fill rng 12 : StateM rng.State (FixedBytes 12))
      match aead.encrypt cipher nonce plaintext with
      | none => throw .encrypt
      | some ciphertext => return nonce.val ++ ciphertext

def wrapMasterKey (derivedKey masterKey : Key) : Drawing rng Bytes :=
  encrypt rng aead derivedKey masterKey.val

def encryptBlobForSharing (senderPrivate recipientPublic : Key) (plaintext : Bytes) :
    Drawing rng Bytes := do
  let sharedSecret := Keys.x25519DiffieHellman x25519 senderPrivate recipientPublic
  let encKey ← lift rng (Keys.deriveSharingKey hkdf sharedSecret)
  encrypt rng aead encKey plaintext

def encryptProfileKeyForSharing (senderPrivate recipientPublic profileKey : Key) :
    Drawing rng Bytes :=
  encryptBlobForSharing rng aead hkdf x25519 senderPrivate recipientPublic profileKey.val

def encryptPrivateKey (masterKey privateKey : Key) : Drawing rng Bytes :=
  encrypt rng aead masterKey privateKey.val

def wrapProfileKeyWithMaster (masterKey profileKey : Key) : Drawing rng Bytes :=
  encrypt rng aead masterKey profileKey.val

def sealBytes (entityKey : Key) (plaintext : Bytes) : Drawing rng String := do
  let raw ← encrypt rng aead entityKey plaintext
  let b64 := base64.encode raw
  return Sealed.e2eePrefix ++ b64

def sealString (entityKey : Key) (plaintext : String) : Drawing rng String :=
  sealBytes rng aead base64 entityKey (asBytes plaintext)

def sealJson {V : Type} (json : SerdeJson V) (entityKey : Key) (value : V) :
    Drawing rng String :=
  match json.toString value with
  | .error error => lift rng (.error (.json error))
  | .ok text => sealString rng aead base64 entityKey text

def sealEntityString {E : Type} [EncryptedEntity E] (session : SessionKey) (entity : E)
    (plaintext : String) : Drawing rng String := do
  let key ← lift rng (session.entityKey hkdf entity)
  sealString rng aead base64 key plaintext

def sealEntityJson {E V : Type} [EncryptedEntity E] (json : SerdeJson V) (session : SessionKey)
    (entity : E) (value : V) : Drawing rng String := do
  let key ← lift rng (session.entityKey hkdf entity)
  sealJson rng aead base64 json key value

theorem run_lift_bind {α β : Type} (result : CryptoResult α) (next : α → Drawing rng β)
    (generator : rng.State) :
    (lift rng result >>= next).run.run generator =
      match result with
      | .error error => (.error error, generator)
      | .ok value => (next value).run.run generator := by
  cases result <;> rfl

theorem run_fill_bind {β : Type} (width : Nat) (next : FixedBytes width → Drawing rng β)
    (generator : rng.State) :
    ((do
      let drawn ← (fill rng width : StateM rng.State (FixedBytes width))
      next drawn) : Drawing rng β).run.run generator =
      (next (rng.fillBytes generator width).1).run.run (rng.fillBytes generator width).2 := rfl

/-- The one draw of an encryption is its nonce. -/
theorem run_encrypt (key : Key) (plaintext : Bytes) (generator : rng.State) :
    (encrypt rng aead key plaintext).run.run generator =
      (Encryption.encrypt aead key (rng.fillBytes generator 12).1 plaintext,
        (rng.fillBytes generator 12).2) := by
  rw [encrypt, Encryption.newFromSlice_key, Encryption.encrypt_eq]
  refine (run_fill_bind rng 12 _ generator).trans ?_
  cases aead.encrypt key (rng.fillBytes generator 12).1 plaintext <;> rfl

theorem run_map {α β : Type} (f : α → β) (drawn : Drawing rng α) (generator : rng.State) :
    (f <$> drawn).run.run generator =
      (f <$> (drawn.run.run generator).1, (drawn.run.run generator).2) := by
  rw [ExceptT.run_map, StateT.run_map]
  rfl

theorem run_sealBytes (key : Key) (plaintext : Bytes) (generator : rng.State) :
    (sealBytes rng aead base64 key plaintext).run.run generator =
      (Sealed.sealBytes aead base64 key (rng.fillBytes generator 12).1 plaintext,
        (rng.fillBytes generator 12).2) := by
  have mapped : sealBytes rng aead base64 key plaintext =
      (fun raw => Sealed.e2eePrefix ++ base64.encode raw) <$> encrypt rng aead key plaintext :=
    (map_eq_pure_bind _ _).symm
  rw [mapped, run_map, run_encrypt, Sealed.sealBytes, map_eq_pure_bind]

/-- Without a text nothing is drawn. -/
theorem run_sealJson {V : Type} (json : SerdeJson V) (key : Key) (value : V)
    (generator : rng.State) :
    (sealJson rng aead base64 json key value).run.run generator =
      (Sealed.sealJson aead base64 json key (rng.fillBytes generator 12).1 value,
        if (Producing.writeJson json value).isOk then (rng.fillBytes generator 12).2
        else generator) := by
  rw [sealJson, Sealed.sealJson, Producing.writeJson]
  cases json.toString value with
  | error error => rfl
  | ok text => exact run_sealBytes rng aead base64 key (asBytes text) generator

/-- Without a key nothing is drawn. -/
theorem run_encryptBlobForSharing (mine theirs : Key) (plaintext : Bytes)
    (generator : rng.State) :
    (encryptBlobForSharing rng aead hkdf x25519 mine theirs plaintext).run.run generator =
      (Keys.encryptBlobForSharing aead hkdf x25519 mine theirs (rng.fillBytes generator 12).1
          plaintext,
        if (Keys.deriveSharingKey hkdf (Keys.x25519DiffieHellman x25519 mine theirs)).isOk then
          (rng.fillBytes generator 12).2
        else generator) := by
  rw [encryptBlobForSharing, run_lift_bind, Keys.encryptBlobForSharing]
  cases Keys.deriveSharingKey hkdf (Keys.x25519DiffieHellman x25519 mine theirs) with
  | error error => rfl
  | ok key => exact run_encrypt rng aead key plaintext generator

variable {E : Type} [EncryptedEntity E]

theorem run_sealEntityString (session : SessionKey) (entity : E) (plaintext : String)
    (generator : rng.State) :
    (sealEntityString rng aead base64 hkdf session entity plaintext).run.run generator =
      (IncokitE2ee.sealEntityString aead base64 hkdf session entity (rng.fillBytes generator 12).1
          plaintext,
        if (session.entityKey hkdf entity).isOk then (rng.fillBytes generator 12).2
        else generator) := by
  rw [sealEntityString, run_lift_bind, IncokitE2ee.sealEntityString]
  cases session.entityKey hkdf entity with
  | error error => rfl
  | ok key => exact run_sealBytes rng aead base64 key (asBytes plaintext) generator

theorem run_sealEntityJson {V : Type} (json : SerdeJson V) (session : SessionKey) (entity : E)
    (value : V) (generator : rng.State) :
    (sealEntityJson rng aead base64 hkdf json session entity value).run.run generator =
      (IncokitE2ee.sealEntityJson aead base64 hkdf json session entity
          (rng.fillBytes generator 12).1 value,
        if (session.entityKey hkdf entity).isOk && (Producing.writeJson json value).isOk then
          (rng.fillBytes generator 12).2
        else generator) := by
  rw [sealEntityJson, run_lift_bind, IncokitE2ee.sealEntityJson]
  cases session.entityKey hkdf entity with
  | error error => rfl
  | ok key => exact run_sealJson rng aead base64 json key value generator

end Drawing

namespace Producing

variable {Kind Shape : Type} {E : Kind → Type} {T : Shape → Type}
variable [∀ kind, EncryptedEntity (E kind)]
variable (rng : Rng) (aead : Aead Key Nonce) (base64 : Base64.Engine) (hkdf : Hkdf)
variable (x25519 : X25519) (json : ∀ shape, SerdeJson (T shape))

/-- The function of the crate, with its draw. -/
def draw : Producing E T → Drawing rng Output
  | .encrypt key plaintext => .blob <$> Drawing.encrypt rng aead key plaintext
  | .wrapMasterKey derivedKey masterKey =>
      .blob <$> Drawing.wrapMasterKey rng aead derivedKey masterKey
  | .encryptPrivateKey masterKey privateKey =>
      .blob <$> Drawing.encryptPrivateKey rng aead masterKey privateKey
  | .wrapProfileKeyWithMaster masterKey profileKey =>
      .blob <$> Drawing.wrapProfileKeyWithMaster rng aead masterKey profileKey
  | .encryptBlobForSharing senderPrivate recipientPublic plaintext =>
      .blob <$> Drawing.encryptBlobForSharing rng aead hkdf x25519 senderPrivate recipientPublic
        plaintext
  | .encryptProfileKeyForSharing senderPrivate recipientPublic profileKey =>
      .blob <$> Drawing.encryptProfileKeyForSharing rng aead hkdf x25519 senderPrivate
        recipientPublic profileKey
  | .sealBytes entityKey plaintext => .row <$> Drawing.sealBytes rng aead base64 entityKey plaintext
  | .sealString entityKey plaintext =>
      .row <$> Drawing.sealString rng aead base64 entityKey plaintext
  | .sealJson entityKey shape value =>
      .row <$> Drawing.sealJson rng aead base64 (json shape) entityKey value
  | .sealEntityString session _ entity plaintext =>
      .row <$> Drawing.sealEntityString rng aead base64 hkdf session entity plaintext
  | .sealEntityJson session _ entity shape value =>
      .row <$> Drawing.sealEntityJson rng aead base64 hkdf (json shape) session entity value

/-- A call reaches its draw when it has a key and a plaintext. -/
def draws (call : Producing E T) : Bool :=
  (call.source.key hkdf x25519).isOk && (call.plaintext json).isOk

/-- A call with its draw is the call at the nonce that comes next. The draw is
made once, and only behind the derivation and the serialisation. -/
theorem draw_eq (call : Producing E T) (generator : rng.State) :
    (call.draw rng aead base64 hkdf x25519 json).run.run generator =
      (call.run aead base64 hkdf x25519 json (rng.fillBytes generator 12).1,
        if call.draws hkdf x25519 json then (rng.fillBytes generator 12).2 else generator) := by
  cases call with
  | encrypt key plaintext =>
      rw [draw, Drawing.run_map, Drawing.run_encrypt]
      rfl
  | wrapMasterKey key masterKey =>
      rw [draw, Drawing.run_map, Drawing.wrapMasterKey, Drawing.run_encrypt]
      rfl
  | encryptPrivateKey key privateKey =>
      rw [draw, Drawing.run_map, Drawing.encryptPrivateKey, Drawing.run_encrypt]
      rfl
  | wrapProfileKeyWithMaster key profileKey =>
      rw [draw, Drawing.run_map, Drawing.wrapProfileKeyWithMaster, Drawing.run_encrypt]
      rfl
  | encryptBlobForSharing mine theirs plaintext =>
      rw [draw, Drawing.run_map, Drawing.run_encryptBlobForSharing, draws]
      exact (Bool.and_true _).symm ▸ rfl
  | encryptProfileKeyForSharing mine theirs profileKey =>
      rw [draw, Drawing.run_map, Drawing.encryptProfileKeyForSharing,
        Drawing.run_encryptBlobForSharing, draws]
      exact (Bool.and_true _).symm ▸ rfl
  | sealBytes key plaintext =>
      rw [draw, Drawing.run_map, Drawing.run_sealBytes]
      rfl
  | sealString key plaintext =>
      rw [draw, Drawing.run_map, Drawing.sealString, Drawing.run_sealBytes]
      rfl
  | sealJson key shape value =>
      rw [draw, Drawing.run_map, Drawing.run_sealJson]
      rfl
  | sealEntityString session kind entity plaintext =>
      rw [draw, Drawing.run_map, Drawing.run_sealEntityString, draws]
      exact (Bool.and_true _).symm ▸ rfl
  | sealEntityJson session kind entity shape value =>
      rw [draw, Drawing.run_map, Drawing.run_sealEntityJson]
      rfl

end Producing

end IncokitE2ee
