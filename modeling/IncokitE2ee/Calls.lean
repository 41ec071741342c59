import IncokitE2ee.Entity
import IncokitE2ee.Keys
import IncokitE2ee.SealedWire

set_option autoImplicit false

/- Every function of the crate that encrypts and every one that decrypts, as
calls with their arguments, and the stages each of them goes through. -/
namespace IncokitE2ee

open EncryptedEntity (NAMESPACE entityId)

/-- A call that encrypts. The callers' entity types and JSON types are two
families of any size. -/
inductive Producing {Kind Shape : Type} (E : Kind → Type) (T : Shape → Type) where
  | encrypt (key : Key) (plaintext : Bytes)
  | wrapMasterKey (derivedKey masterKey : Key)
  | encryptPrivateKey (masterKey privateKey : Key)
  | wrapProfileKeyWithMaster (masterKey profileKey : Key)
  | encryptBlobForSharing (senderPrivate recipientPublic : Key) (plaintext : Bytes)
  | encryptProfileKeyForSharing (senderPrivate recipientPublic profileKey : Key)
  | sealBytes (entityKey : Key) (plaintext : Bytes)
  | sealString (entityKey : Key) (plaintext : String)
  | sealJson (entityKey : Key) (shape : Shape) (value : T shape)
  | sealEntityString (session : SessionKey) (kind : Kind) (entity : E kind) (plaintext : String)
  | sealEntityJson (session : SessionKey) (kind : Kind) (entity : E kind) (shape : Shape)
      (value : T shape)

/-- A call that decrypts, with the blob or the stored text it is given. -/
inductive Opening {Kind Shape : Type} (E : Kind → Type) (T : Shape → Type) where
  | decrypt (key : Key) (data : Bytes)
  | unwrapMasterKey (derivedKey : Key) (wrapped : Bytes)
  | decryptPrivateKey (masterKey : Key) (encrypted : Bytes)
  | unwrapProfileKeyWithMaster (masterKey : Key) (wrapped : Bytes)
  | decryptSharedBlob (recipientPrivate senderPublic : Key) (ciphertext : Bytes)
  | decryptSharedProfileKey (recipientPrivate senderPublic : Key) (encrypted : Bytes)
  | unsealBytes (entityKey : Key) (stored : String)
  | tryUnsealBytes (entityKey : Key) (stored : String)
  | unsealString (entityKey : Key) (stored : String)
  | tryUnsealString (entityKey : Key) (stored : String)
  | unsealJson (entityKey : Key) (shape : Shape) (stored : String)
  | tryUnsealJson (entityKey : Key) (shape : Shape) (stored : String)
  | unsealEntityString (session : SessionKey) (kind : Kind) (entity : E kind) (stored : String)
  | tryUnsealEntityString (session : SessionKey) (kind : Kind) (entity : E kind) (stored : String)
  | unsealEntityJson (session : SessionKey) (kind : Kind) (entity : E kind) (shape : Shape)
      (stored : String)
  | tryUnsealEntityJson (session : SessionKey) (kind : Kind) (entity : E kind) (shape : Shape)
      (stored : String)

/-- What an encrypting call returns: a blob, or the text of a row. -/
inductive Output where
  | blob (raw : Bytes)
  | row (stored : String)
  deriving DecidableEq

/-- What a decrypting call is given. The two modes read a text differently. -/
inductive Stored where
  | blob (raw : Bytes)
  | strict (text : String)
  | lenient (text : String)

/-- What is found in it: a blob to decrypt, or the bytes of a legacy row. -/
inductive Found where
  | sealed (raw : Bytes)
  | legacy (bytes : Bytes)

/-- What the bytes are read as in the end. -/
inductive Form {Shape : Type} (T : Shape → Type) where
  | bytes
  | key
  | text
  | json (shape : Shape)

/-- Where a call takes the key of its encryption from. -/
inductive KeySource where
  | given (key : Key)
  | entity (session : SessionKey) (ns : KeyNamespace) (id : Int64)
  | sharing (mine theirs : Key)

variable {Kind Shape : Type} {E : Kind → Type} {T : Shape → Type}
variable [∀ kind, EncryptedEntity (E kind)]
variable (aead : Aead Key Nonce) (base64 : Base64.Engine) (hkdf : Hkdf) (x25519 : X25519)
variable (json : ∀ shape, SerdeJson (T shape))

namespace KeySource

def key : KeySource → CryptoResult Key
  | .given key => .ok key
  | .entity session ns id => session.derive hkdf ns id
  | .sharing mine theirs =>
      Keys.deriveSharingKey hkdf (Keys.x25519DiffieHellman x25519 mine theirs)

end KeySource

namespace Form

def Value : Form T → Type
  | .bytes => Bytes
  | .key => Key
  | .text => String
  | .json shape => T shape

def read : (form : Form T) → Bytes → CryptoResult form.Value
  | .bytes => .ok
  | .key => Encryption.toKey
  | .text => Sealed.toText
  | .json shape => fun bytes => Sealed.toText bytes >>= Sealed.parseJson (json shape)

end Form

namespace Producing

/-- The function of the crate, at the nonce it draws. -/
def run (nonce : Nonce) : Producing E T → CryptoResult Output
  | .encrypt key plaintext => .blob <$> Encryption.encrypt aead key nonce plaintext
  | .wrapMasterKey derivedKey masterKey =>
      .blob <$> Encryption.wrapMasterKey aead derivedKey nonce masterKey
  | .encryptPrivateKey masterKey privateKey =>
      .blob <$> Keys.encryptPrivateKey aead masterKey nonce privateKey
  | .wrapProfileKeyWithMaster masterKey profileKey =>
      .blob <$> Keys.wrapProfileKeyWithMaster aead masterKey nonce profileKey
  | .encryptBlobForSharing senderPrivate recipientPublic plaintext =>
      .blob <$> Keys.encryptBlobForSharing aead hkdf x25519 senderPrivate recipientPublic nonce
        plaintext
  | .encryptProfileKeyForSharing senderPrivate recipientPublic profileKey =>
      .blob <$> Keys.encryptProfileKeyForSharing aead hkdf x25519 senderPrivate recipientPublic
        nonce profileKey
  | .sealBytes entityKey plaintext => .row <$> Sealed.sealBytes aead base64 entityKey nonce plaintext
  | .sealString entityKey plaintext =>
      .row <$> Sealed.sealString aead base64 entityKey nonce plaintext
  | .sealJson entityKey shape value =>
      .row <$> Sealed.sealJson aead base64 (json shape) entityKey nonce value
  | .sealEntityString session _ entity plaintext =>
      .row <$> IncokitE2ee.sealEntityString aead base64 hkdf session entity nonce plaintext
  | .sealEntityJson session _ entity shape value =>
      .row <$> IncokitE2ee.sealEntityJson aead base64 hkdf (json shape) session entity nonce value

def source : Producing E T → KeySource
  | .encrypt key _ => .given key
  | .wrapMasterKey derivedKey _ => .given derivedKey
  | .encryptPrivateKey masterKey _ => .given masterKey
  | .wrapProfileKeyWithMaster masterKey _ => .given masterKey
  | .encryptBlobForSharing senderPrivate recipientPublic _ => .sharing senderPrivate recipientPublic
  | .encryptProfileKeyForSharing senderPrivate recipientPublic _ =>
      .sharing senderPrivate recipientPublic
  | .sealBytes entityKey _ => .given entityKey
  | .sealString entityKey _ => .given entityKey
  | .sealJson entityKey _ _ => .given entityKey
  | .sealEntityString session kind entity _ => .entity session (NAMESPACE (E kind)) (entityId entity)
  | .sealEntityJson session kind entity _ _ => .entity session (NAMESPACE (E kind)) (entityId entity)

/-- `serde_json::to_string(value)?`. -/
def writeJson {V : Type} (json : SerdeJson V) (value : V) : CryptoResult Bytes :=
  match json.toString value with
  | .error error => .error (.json error)
  | .ok text => .ok (asBytes text)

/-- The bytes that are encrypted. Only a serialisation can fail. -/
def plaintext : Producing E T → CryptoResult Bytes
  | .encrypt _ plaintext => .ok plaintext
  | .wrapMasterKey _ masterKey => .ok masterKey.val
  | .encryptPrivateKey _ privateKey => .ok privateKey.val
  | .wrapProfileKeyWithMaster _ profileKey => .ok profileKey.val
  | .encryptBlobForSharing _ _ plaintext => .ok plaintext
  | .encryptProfileKeyForSharing _ _ profileKey => .ok profileKey.val
  | .sealBytes _ plaintext => .ok plaintext
  | .sealString _ plaintext => .ok (asBytes plaintext)
  | .sealJson _ shape value => writeJson (json shape) value
  | .sealEntityString _ _ _ plaintext => .ok (asBytes plaintext)
  | .sealEntityJson _ _ _ shape value => writeJson (json shape) value

/-- The form in which the blob is returned. -/
def present : Producing E T → Bytes → Output
  | .encrypt .. | .wrapMasterKey .. | .encryptPrivateKey .. | .wrapProfileKeyWithMaster ..
  | .encryptBlobForSharing .. | .encryptProfileKeyForSharing .. => .blob
  | .sealBytes .. | .sealString .. | .sealJson .. | .sealEntityString .. | .sealEntityJson .. =>
      fun raw => .row (Sealed.wire base64 raw)

theorem map_sealString (key : Key) (nonce : Nonce) (text : String) :
    Output.row <$> Sealed.sealString aead base64 key nonce text = (do
      let raw ← Encryption.encrypt aead key nonce (asBytes text)
      return .row (Sealed.wire base64 raw)) := by
  rw [Sealed.sealString, Sealed.sealBytes]
  cases Encryption.encrypt aead key nonce (asBytes text) <;> rfl

theorem map_sealJson {V : Type} (json : SerdeJson V) (key : Key) (nonce : Nonce) (value : V) :
    Output.row <$> Sealed.sealJson aead base64 json key nonce value = (do
      let plaintext ← writeJson json value
      let raw ← Encryption.encrypt aead key nonce plaintext
      return .row (Sealed.wire base64 raw)) := by
  rw [Sealed.sealJson, writeJson]
  cases json.toString value with
  | error error => rfl
  | ok text => exact map_sealString aead base64 key nonce text

/-- Every encrypting call makes one encryption, of its plaintext and under its key. -/
theorem run_eq (call : Producing E T) (nonce : Nonce) :
    call.run aead base64 hkdf x25519 json nonce = (do
      let key ← call.source.key hkdf x25519
      let plaintext ← call.plaintext json
      let raw ← Encryption.encrypt aead key nonce plaintext
      return call.present base64 raw) := by
  cases call with
  | encrypt key plaintext => exact map_eq_pure_bind _ _
  | wrapMasterKey derivedKey masterKey => exact map_eq_pure_bind _ _
  | encryptPrivateKey masterKey privateKey => exact map_eq_pure_bind _ _
  | wrapProfileKeyWithMaster masterKey profileKey => exact map_eq_pure_bind _ _
  | encryptBlobForSharing mine theirs plaintext =>
      rw [run, Keys.encryptBlobForSharing, map_eq_pure_bind, bind_assoc]
      rfl
  | encryptProfileKeyForSharing mine theirs profileKey =>
      rw [run, Keys.encryptProfileKeyForSharing, Keys.encryptBlobForSharing, map_eq_pure_bind,
        bind_assoc]
      rfl
  | sealBytes key plaintext =>
      rw [run, Sealed.sealBytes, map_eq_pure_bind, bind_assoc]
      rfl
  | sealString key plaintext => exact map_sealString aead base64 key nonce plaintext
  | sealJson key shape value => exact map_sealJson aead base64 (json shape) key nonce value
  | sealEntityString session kind entity plaintext =>
      rw [run, IncokitE2ee.sealEntityString, map_bind]
      simp only [map_sealString]
      rfl
  | sealEntityJson session kind entity shape value =>
      rw [run, IncokitE2ee.sealEntityJson, map_bind]
      simp only [map_sealJson]
      rfl

/-- A call succeeds exactly when its stages do. -/
theorem run_eq_ok_iff (call : Producing E T) (nonce : Nonce) (output : Output) :
    call.run aead base64 hkdf x25519 json nonce = .ok output ↔
      ∃ key plaintext raw, call.source.key hkdf x25519 = .ok key ∧
        call.plaintext json = .ok plaintext ∧
        Encryption.encrypt aead key nonce plaintext = .ok raw ∧
        output = call.present base64 raw := by
  rw [run_eq]
  simp only [bind_eq_ok_iff, pure, Except.pure, Except.ok.injEq]
  constructor
  · rintro ⟨key, derived, plaintext, written, raw, encrypted, rfl⟩
    exact ⟨key, plaintext, raw, derived, written, encrypted, rfl⟩
  · rintro ⟨key, plaintext, raw, derived, written, encrypted, rfl⟩
    exact ⟨key, derived, plaintext, written, raw, encrypted, rfl⟩

end Producing

namespace Opening

/-- How a call reads the bytes it arrives at. -/
def form : Opening E T → Form T
  | .decrypt .. | .decryptSharedBlob .. | .unsealBytes .. | .tryUnsealBytes .. => .bytes
  | .unwrapMasterKey .. | .decryptPrivateKey .. | .unwrapProfileKeyWithMaster ..
  | .decryptSharedProfileKey .. => .key
  | .unsealString .. | .tryUnsealString .. | .unsealEntityString .. | .tryUnsealEntityString .. =>
      .text
  | .unsealJson _ shape _ | .tryUnsealJson _ shape _ | .unsealEntityJson _ _ _ shape _
  | .tryUnsealEntityJson _ _ _ shape _ => .json shape

/-- The function of the crate. -/
def run : (call : Opening E T) → CryptoResult call.form.Value
  | .decrypt key data => Encryption.decrypt aead key data
  | .unwrapMasterKey derivedKey wrapped => Encryption.unwrapMasterKey aead derivedKey wrapped
  | .decryptPrivateKey masterKey encrypted => Keys.decryptPrivateKey aead masterKey encrypted
  | .unwrapProfileKeyWithMaster masterKey wrapped =>
      Keys.unwrapProfileKeyWithMaster aead masterKey wrapped
  | .decryptSharedBlob recipientPrivate senderPublic ciphertext =>
      Keys.decryptSharedBlob aead hkdf x25519 recipientPrivate senderPublic ciphertext
  | .decryptSharedProfileKey recipientPrivate senderPublic encrypted =>
      Keys.decryptSharedProfileKey aead hkdf x25519 recipientPrivate senderPublic encrypted
  | .unsealBytes entityKey stored => Sealed.unsealBytes aead base64 entityKey stored
  | .tryUnsealBytes entityKey stored => Sealed.tryUnsealBytes aead base64 entityKey stored
  | .unsealString entityKey stored => Sealed.unsealString aead base64 entityKey stored
  | .tryUnsealString entityKey stored => Sealed.tryUnsealString aead base64 entityKey stored
  | .unsealJson entityKey shape stored => Sealed.unsealJson aead base64 (json shape) entityKey stored
  | .tryUnsealJson entityKey shape stored =>
      Sealed.tryUnsealJson aead base64 (json shape) entityKey stored
  | .unsealEntityString session _ entity stored =>
      IncokitE2ee.unsealEntityString aead base64 hkdf session entity stored
  | .tryUnsealEntityString session _ entity stored =>
      IncokitE2ee.tryUnsealEntityString aead base64 hkdf session entity stored
  | .unsealEntityJson session _ entity shape stored =>
      IncokitE2ee.unsealEntityJson aead base64 hkdf (json shape) session entity stored
  | .tryUnsealEntityJson session _ entity shape stored =>
      IncokitE2ee.tryUnsealEntityJson aead base64 hkdf (json shape) session entity stored

def source : Opening E T → KeySource
  | .decrypt key _ | .unwrapMasterKey key _ | .decryptPrivateKey key _
  | .unwrapProfileKeyWithMaster key _ | .unsealBytes key _ | .tryUnsealBytes key _
  | .unsealString key _ | .tryUnsealString key _ | .unsealJson key _ _
  | .tryUnsealJson key _ _ => .given key
  | .decryptSharedBlob recipientPrivate senderPublic _
  | .decryptSharedProfileKey recipientPrivate senderPublic _ =>
      .sharing recipientPrivate senderPublic
  | .unsealEntityString session kind entity _ | .tryUnsealEntityString session kind entity _
  | .unsealEntityJson session kind entity _ _ | .tryUnsealEntityJson session kind entity _ _ =>
      .entity session (NAMESPACE (E kind)) (entityId entity)

def stored : Opening E T → Stored
  | .decrypt _ raw | .unwrapMasterKey _ raw | .decryptPrivateKey _ raw
  | .unwrapProfileKeyWithMaster _ raw | .decryptSharedBlob _ _ raw
  | .decryptSharedProfileKey _ _ raw => .blob raw
  | .unsealBytes _ text | .unsealString _ text | .unsealJson _ _ text
  | .unsealEntityString _ _ _ text | .unsealEntityJson _ _ _ _ text => .strict text
  | .tryUnsealBytes _ text | .tryUnsealString _ text | .tryUnsealJson _ _ text
  | .tryUnsealEntityString _ _ _ text | .tryUnsealEntityJson _ _ _ _ text => .lenient text

end Opening

namespace Stored

/-- The prefix test and the base64 decoding. -/
def find : Stored → CryptoResult Found
  | .blob raw => .ok (.sealed raw)
  | .strict text =>
      match stripPrefix Sealed.e2eePrefix text with
      | none => .error .missingE2eePrefix
      | some b64 =>
          match base64.decode b64 with
          | .error error => .error (.base64 error)
          | .ok raw => .ok (.sealed raw)
  | .lenient text =>
      match stripPrefix Sealed.e2eePrefix text with
      | none => .ok (.legacy (asBytes text))
      | some b64 =>
          match base64.decode b64 with
          | .error error => .error (.base64 error)
          | .ok raw => .ok (.sealed raw)

end Stored

namespace Stored

/-- The texts and blobs in which a call finds this blob. -/
def Holds (stored : Stored) (raw : Bytes) : Prop :=
  stored = .blob raw ∨ stored = .strict (Sealed.wire base64 raw) ∨
    stored = .lenient (Sealed.wire base64 raw)

/-- Behind the prefix both modes decode the rest. -/
theorem decoded_eq_sealed_iff (b64 : String) (raw : Bytes) :
    (match base64.decode b64 with
      | .error message => .error (.base64 message)
      | .ok raw => .ok (.sealed raw) : CryptoResult Found) = .ok (.sealed raw) ↔
      base64.decode b64 = .ok raw := by
  cases base64.decode b64 <;> simp

theorem find_eq_sealed_iff (standard : base64.Standard) (stored : Stored) (raw : Bytes) :
    stored.find base64 = .ok (.sealed raw) ↔ stored.Holds base64 raw := by
  have text_iff (text : String) :
      (∃ b64, stripPrefix Sealed.e2eePrefix text = some b64 ∧ base64.decode b64 = .ok raw) ↔
        text = Sealed.wire base64 raw := Sealed.carries_iff base64 standard text raw
  cases stored with
  | blob data => simp [find, Holds]
  | strict text =>
      simp only [Holds, reduceCtorEq, false_or, or_false, strict.injEq, ← text_iff]
      cases stripped : stripPrefix Sealed.e2eePrefix text with
      | none => simp [find, stripped]
      | some b64 =>
          rw [find, stripped]
          refine (decoded_eq_sealed_iff base64 b64 raw).trans ?_
          simp
  | lenient text =>
      simp only [Holds, reduceCtorEq, false_or, lenient.injEq, ← text_iff]
      cases stripped : stripPrefix Sealed.e2eePrefix text with
      | none => simp [find, stripped]
      | some b64 =>
          rw [find, stripped]
          refine (decoded_eq_sealed_iff base64 b64 raw).trans ?_
          simp

theorem find_eq_legacy_iff (stored : Stored) (bytes : Bytes) :
    stored.find base64 = .ok (.legacy bytes) ↔
      ∃ text, stored = .lenient text ∧ startsWith Sealed.e2eePrefix text = false ∧
        bytes = asBytes text := by
  cases stored with
  | blob data => simp [find]
  | strict text =>
      cases stripped : stripPrefix Sealed.e2eePrefix text with
      | none => simp [find, stripped]
      | some b64 => cases decoded : base64.decode b64 <;> simp [find, stripped, decoded]
  | lenient text =>
      cases stripped : stripPrefix Sealed.e2eePrefix text with
      | none =>
          have bare := (stripPrefix_eq_none_iff Sealed.e2eePrefix text).mp stripped
          simp [find, stripped, bare, @eq_comm _ bytes]
      | some b64 =>
          have starts := (startsWith_iff Sealed.e2eePrefix text).mpr
            ⟨b64, (stripPrefix_eq_some_iff Sealed.e2eePrefix text b64).mp stripped⟩
          cases decoded : base64.decode b64 <;> simp [find, stripped, decoded, starts]

end Stored

/-- The decryption of what was found; a legacy row is returned as it stands. -/
def Found.bytes (key : Key) : Found → CryptoResult Bytes
  | .sealed raw => Encryption.decrypt aead key raw
  | .legacy bytes => .ok bytes

/-- The strict reader of bytes, in stages. -/
theorem Stored.strict_eq (key : Key) (text : String) :
    Sealed.unsealBytes aead base64 key text = (do
      let found ← (Stored.strict text).find base64
      found.bytes aead key) := by
  rw [Sealed.unsealBytes, find]
  cases stripPrefix Sealed.e2eePrefix text with
  | none => rfl
  | some b64 => cases decoded : base64.decode b64 <;> simp only [decoded] <;> rfl

/-- The lenient one. -/
theorem Stored.lenient_eq (key : Key) (text : String) :
    Sealed.tryUnsealBytes aead base64 key text = (do
      let found ← (Stored.lenient text).find base64
      found.bytes aead key) := by
  rw [Sealed.tryUnsealBytes, find]
  cases starts : startsWith Sealed.e2eePrefix text with
  | false =>
      rw [(stripPrefix_eq_none_iff Sealed.e2eePrefix text).mpr starts]
      rfl
  | true =>
      rw [if_pos rfl, strict_eq, find]
      cases stripped : stripPrefix Sealed.e2eePrefix text with
      | none =>
          rw [(stripPrefix_eq_none_iff Sealed.e2eePrefix text).mp stripped] at starts
          cases starts
      | some b64 => rfl

namespace Opening

theorem unsealString_eq (key : Key) (text : String) :
    Sealed.unsealString aead base64 key text = (do
      let found ← (Stored.strict text).find base64
      let bytes ← found.bytes aead key
      Sealed.toText bytes) := by
  rw [Sealed.unsealString, Stored.strict_eq, bind_assoc]

theorem tryUnsealString_eq (key : Key) (text : String) :
    Sealed.tryUnsealString aead base64 key text = (do
      let found ← (Stored.lenient text).find base64
      let bytes ← found.bytes aead key
      Sealed.toText bytes) := by
  rw [Sealed.tryUnsealString, Stored.lenient_eq, bind_assoc]

variable {V : Type} (reader : SerdeJson V)

theorem unsealJson_eq (key : Key) (text : String) :
    Sealed.unsealJson aead base64 reader key text = (do
      let found ← (Stored.strict text).find base64
      let bytes ← found.bytes aead key
      Sealed.toText bytes >>= Sealed.parseJson reader) := by
  rw [Sealed.unsealJson, unsealString_eq]
  simp only [bind_assoc]

theorem tryUnsealJson_eq (key : Key) (text : String) :
    Sealed.tryUnsealJson aead base64 reader key text = (do
      let found ← (Stored.lenient text).find base64
      let bytes ← found.bytes aead key
      Sealed.toText bytes >>= Sealed.parseJson reader) := by
  rw [Sealed.tryUnsealJson, tryUnsealString_eq]
  simp only [bind_assoc]

/-- Every decrypting call derives its key, finds its blob, decrypts it and reads
the plaintext, in this order. -/
theorem run_eq (call : Opening E T) :
    call.run aead base64 hkdf x25519 json = (do
      let key ← call.source.key hkdf x25519
      let found ← call.stored.find base64
      let bytes ← found.bytes aead key
      call.form.read json bytes) := by
  cases call with
  | decrypt key data => exact (bind_pure _).symm
  | unwrapMasterKey derivedKey wrapped => rfl
  | decryptPrivateKey masterKey encrypted => rfl
  | unwrapProfileKeyWithMaster masterKey wrapped => rfl
  | decryptSharedBlob mine theirs ciphertext =>
      rw [run, Keys.decryptSharedBlob]
      exact bind_congr fun key => (bind_pure _).symm
  | decryptSharedProfileKey mine theirs encrypted =>
      rw [run, Keys.decryptSharedProfileKey, Keys.decryptSharedBlob, bind_assoc]
      rfl
  | unsealBytes key text =>
      rw [run, Stored.strict_eq]
      exact bind_congr fun found => (bind_pure _).symm
  | tryUnsealBytes key text =>
      rw [run, Stored.lenient_eq]
      exact bind_congr fun found => (bind_pure _).symm
  | unsealString key text => exact unsealString_eq aead base64 key text
  | tryUnsealString key text => exact tryUnsealString_eq aead base64 key text
  | unsealJson key shape text => exact unsealJson_eq aead base64 (json shape) key text
  | tryUnsealJson key shape text => exact tryUnsealJson_eq aead base64 (json shape) key text
  | unsealEntityString session kind entity text =>
      exact bind_congr fun key => unsealString_eq aead base64 key text
  | tryUnsealEntityString session kind entity text =>
      exact bind_congr fun key => tryUnsealString_eq aead base64 key text
  | unsealEntityJson session kind entity shape text =>
      exact bind_congr fun key => unsealJson_eq aead base64 (json shape) key text
  | tryUnsealEntityJson session kind entity shape text =>
      exact bind_congr fun key => tryUnsealJson_eq aead base64 (json shape) key text

theorem run_eq_ok_iff (call : Opening E T) (value : call.form.Value) :
    call.run aead base64 hkdf x25519 json = .ok value ↔
      ∃ key found bytes, call.source.key hkdf x25519 = .ok key ∧
        call.stored.find base64 = .ok found ∧ found.bytes aead key = .ok bytes ∧
        call.form.read json bytes = .ok value := by
  rw [run_eq]
  simp only [bind_eq_ok_iff]
  constructor
  · rintro ⟨key, derived, found, parsed, bytes, opened, read⟩
    exact ⟨key, found, bytes, derived, parsed, opened, read⟩
  · rintro ⟨key, found, bytes, derived, parsed, opened, read⟩
    exact ⟨key, derived, found, parsed, bytes, opened, read⟩

end Opening

end IncokitE2ee
