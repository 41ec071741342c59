import IncokitE2ee.CallErrors
import IncokitE2ee.ErrorTexts
import IncokitE2ee.KeychainMap
import IncokitE2ee.Unlock

set_option autoImplicit false

/- Where each call of the crate failed, read off the text that its error is
flattened to. -/
namespace IncokitE2ee

/-- A conversion of the error keeps a failure's text and nothing else. -/
theorem mapError_eq_error_iff {ε ε' α : Type} (toText : ε → ε') (result : Except ε α)
    (text : ε') :
    result.mapError toText = .error text ↔
      ∃ error, result = .error error ∧ toText error = text := by
  cases result with
  | error broken =>
      constructor
      · intro failed
        exact ⟨broken, rfl, Except.error.inj failed⟩
      · rintro ⟨_, ⟨⟩, told⟩
        exact congrArg Except.error told
  | ok value =>
      constructor
      · intro impossible
        cases impossible
      · rintro ⟨_, ⟨⟩, _⟩

section Producing

variable {Kind Shape : Type} {E : Kind → Type} {T : Shape → Type}
variable [∀ kind, EncryptedEntity (E kind)]
variable (aead : Aead Key Nonce) (base64 : Base64.Engine) (hkdf : Hkdf) (x25519 : X25519)
variable (json : ∀ shape, SerdeJson (T shape))

/-- The value that an encrypting call writes as JSON is refused. -/
inductive Producing.Unwritable : Producing E T → String → Prop where
  | sealJson (key : Key) (shape : Shape) (value : T shape) (error : String)
      (refused : (json shape).toString value = .error error) :
      Unwritable (.sealJson key shape value) error
  | sealEntityJson (session : SessionKey) (kind : Kind) (entity : E kind) (shape : Shape)
      (value : T shape) (error : String) (refused : (json shape).toString value = .error error) :
      Unwritable (.sealEntityJson session kind entity shape value) error

/-- The first stage of an encrypting call that breaks. -/
inductive Producing.Fails (call : Producing E T) (nonce : Nonce) : CryptoError → Prop where
  | derivation (message : String)
      (failed : call.source.key hkdf x25519 = .error (.hkdf message)) :
      Fails call nonce (.hkdf message)
  | unwritable (key : Key) (error : String) (derived : call.source.key hkdf x25519 = .ok key)
      (refused : call.Unwritable json error) : Fails call nonce (.json error)
  | encryption (key : Key) (plaintext : Bytes) (derived : call.source.key hkdf x25519 = .ok key)
      (written : call.plaintext json = .ok plaintext)
      (refused : aead.encrypt key nonce plaintext = none) : Fails call nonce .encrypt

namespace Producing

theorem writeJson_eq_error_iff {V : Type} (json : SerdeJson V) (value : V) (error : CryptoError) :
    writeJson json value = .error error ↔
      ∃ message, json.toString value = .error message ∧ error = .json message := by
  rw [writeJson]
  cases json.toString value <;> simp [eq_comm]

omit [∀ kind, EncryptedEntity (E kind)] in
theorem plaintext_eq_error_iff (call : Producing E T) (error : CryptoError) :
    call.plaintext json = .error error ↔
      ∃ message, call.Unwritable json message ∧ error = .json message := by
  cases call with
  | sealJson key shape value =>
      refine (writeJson_eq_error_iff (json shape) value error).trans ⟨?_, ?_⟩
      · rintro ⟨message, refused, rfl⟩
        exact ⟨message, .sealJson key shape value message refused, rfl⟩
      · rintro ⟨message, ⟨_, _, _, _, refused⟩, rfl⟩
        exact ⟨message, refused, rfl⟩
  | sealEntityJson session kind entity shape value =>
      refine (writeJson_eq_error_iff (json shape) value error).trans ⟨?_, ?_⟩
      · rintro ⟨message, refused, rfl⟩
        exact ⟨message, .sealEntityJson session kind entity shape value message refused, rfl⟩
      · rintro ⟨message, _ | ⟨_, _, _, _, _, _, refused⟩, rfl⟩
        exact ⟨message, refused, rfl⟩
  | _ =>
      constructor
      · intro impossible
        cases impossible
      · rintro ⟨message, ⟨⟩, -⟩

theorem run_eq_error_iff (call : Producing E T) (nonce : Nonce) (error : CryptoError) :
    call.run aead base64 hkdf x25519 json nonce = .error error ↔
      call.Fails aead hkdf x25519 json nonce error := by
  have encrypt_error : ∀ key plaintext, Encryption.encrypt aead key nonce plaintext =
      .error error ↔ aead.encrypt key nonce plaintext = none ∧ error = .encrypt := by
    intro key plaintext
    rw [Encryption.encrypt_eq]
    cases aead.encrypt key nonce plaintext <;> simp [eq_comm]
  rw [run_eq]
  simp only [Outcome.bind_eq_error_iff, plaintext_eq_error_iff, encrypt_error]
  constructor
  · rintro (failed | ⟨key, derived, ⟨message, refused, rfl⟩ | ⟨plaintext, written,
      ⟨refused, rfl⟩ | ⟨raw, -, ⟨⟩⟩⟩⟩)
    · obtain ⟨message, rfl⟩ := KeySource.key_error hkdf x25519 failed
      exact .derivation message failed
    · exact .unwritable key message derived refused
    · exact .encryption key plaintext derived written refused
  · intro fails
    cases fails with
    | derivation message failed => exact .inl failed
    | unwritable key message derived refused =>
        exact .inr ⟨key, derived, .inl ⟨message, refused, rfl⟩⟩
    | encryption key plaintext derived written refused =>
        exact .inr ⟨key, derived, .inr ⟨plaintext, written, .inl ⟨refused, rfl⟩⟩⟩

end Producing

end Producing

theorem Keys.parseRecoveryKey_eq_error_iff (utf8Text : Bytes → String) (text message : String) :
    parseRecoveryKey text = .error message ↔
      (Keys.cleaned text).len ≠ 64 ∧
        (Failure.recoveryKey (Keys.cleaned text).len).toText utf8Text = message := by
  by_cases width : (Keys.cleaned text).len = 64
  · obtain ⟨bytes, parsed, -⟩ := Keys.exists_parseRecoveryKey text width
    simp [parsed, width]
  · rw [Keys.parseRecoveryKey_other_length text width, Except.error.injEq]
    exact ⟨fun same => ⟨width, same⟩, fun same => same.2⟩

theorem Encryption.deriveKey_eq_error_iff (argon2 : Argon2) (input salt : Bytes)
    (error : CryptoError) :
    deriveKey argon2 input salt = .error error ↔
      (∃ message, argon2.newParams 65536 3 4 (some 32) = .error message ∧
        error = .argon2Params message) ∨
      ∃ params message, argon2.newParams 65536 3 4 (some 32) = .ok params ∧
        argon2.hashPasswordInto .argon2id .v0x13 params input salt = .error message ∧
          error = .argon2Hash message := by
  rw [deriveKey]
  cases built : argon2.newParams 65536 3 4 (some 32) with
  | error message => simp [eq_comm]
  | ok params =>
      cases hashed : argon2.hashPasswordInto .argon2id .v0x13 params input salt <;>
        simp [hashed, eq_comm]

namespace Unlock

variable (utf8Text : Bytes → String) (sha256 : Bytes → FixedBytes 32)
variable (aead : Aead Key Nonce) (argon2 : Argon2)

/-- The first stage of an attempt that breaks. -/
inductive Attempt.Fails (attempt : Attempt) (salt wrapped : Bytes) : Failure → Prop where
  | mistyped (text : String) (typed : attempt = .typed text)
      (count : (Keys.cleaned text).len ≠ 64) :
      Fails attempt salt wrapped (.recoveryKey (Keys.cleaned text).len)
  | params (input : Bytes) (message : String) (given : attempt.input sha256 = .ok input)
      (refused : argon2.newParams 65536 3 4 (some 32) = .error message) :
      Fails attempt salt wrapped (.crypto (.argon2Params message))
  | hash (input : Bytes) (params : argon2.Params) (message : String)
      (given : attempt.input sha256 = .ok input)
      (accepted : argon2.newParams 65536 3 4 (some 32) = .ok params)
      (refused : argon2.hashPasswordInto .argon2id .v0x13 params input salt = .error message) :
      Fails attempt salt wrapped (.crypto (.argon2Hash message))
  | truncated (input : Bytes) (key : Key) (given : attempt.input sha256 = .ok input)
      (derived : Encryption.deriveKey argon2 input salt = .ok key) (short : wrapped.length < 28) :
      Fails attempt salt wrapped (.crypto (.ciphertextTooShort 28 wrapped.length))
  | unauthenticated (input : Bytes) (key : Key) (nonce : Nonce) (ciphertext : Bytes)
      (given : attempt.input sha256 = .ok input)
      (derived : Encryption.deriveKey argon2 input salt = .ok key)
      (split : wrapped = nonce.val ++ ciphertext) (long : 16 ≤ ciphertext.length)
      (refused : aead.decrypt key nonce ciphertext = none) :
      Fails attempt salt wrapped (.crypto .decrypt)
  | width (input : Bytes) (key : Key) (plaintext : Bytes)
      (given : attempt.input sha256 = .ok input)
      (derived : Encryption.deriveKey argon2 input salt = .ok key)
      (opened : Encryption.decrypt aead key wrapped = .ok plaintext)
      (other : plaintext.length ≠ 32) :
      Fails attempt salt wrapped (.crypto (.invalidKeyLength 32 plaintext.length))

theorem Attempt.input_eq_error_iff (attempt : Attempt) (message : String) :
    attempt.input sha256 = .error message ↔
      ∃ text, attempt = .typed text ∧ (Keys.cleaned text).len ≠ 64 ∧
        (Failure.recoveryKey (Keys.cleaned text).len).toText utf8Text = message := by
  cases attempt with
  | typed text => simp [input, Keys.parseRecoveryKey_eq_error_iff utf8Text]
  | plainPin => simp [input]
  | blindedPin => simp [input]

/-- An attempt fails with the text of its first broken stage. -/
theorem unlock_eq_error_iff (attempt : Attempt) (salt wrapped : Bytes) (text : String) :
    unlock utf8Text sha256 aead argon2 attempt salt wrapped = .error text ↔
      ∃ failure, attempt.Fails sha256 aead argon2 salt wrapped failure ∧
        failure.toText utf8Text = text := by
  simp only [unlock, Encryption.unwrapMasterKey, Outcome.bind_eq_error_iff, mapError_eq_error_iff,
    Recovery.mapError_eq_ok_iff, Attempt.input_eq_error_iff utf8Text sha256,
    Encryption.deriveKey_eq_error_iff, Encryption.decrypt_eq_error_iff, toKey_eq_error_iff]
  constructor
  · rintro (⟨typed, rfl, count, rfl⟩ | ⟨input, given, ⟨error, ⟨message, refused, rfl⟩ |
      ⟨params, message, accepted, refused, rfl⟩, rfl⟩ | ⟨key, derived, error,
        (⟨short, rfl⟩ | ⟨nonce, ciphertext, split, long, refused, rfl⟩) |
          ⟨plaintext, opened, other, rfl⟩, rfl⟩⟩)
    · exact ⟨_, .mistyped typed rfl count, rfl⟩
    · exact ⟨_, .params input message given refused, rfl⟩
    · exact ⟨_, .hash input params message given accepted refused, rfl⟩
    · exact ⟨_, .truncated input key given derived short, rfl⟩
    · exact ⟨_, .unauthenticated input key nonce ciphertext given derived split long refused, rfl⟩
    · exact ⟨_, .width input key plaintext given derived opened other, rfl⟩
  · rintro ⟨failure, fails, rfl⟩
    cases fails with
    | mistyped typed same count => exact .inl ⟨typed, same, count, rfl⟩
    | params input message given refused =>
        exact .inr ⟨input, given, .inl ⟨_, .inl ⟨message, refused, rfl⟩, rfl⟩⟩
    | hash input params message given accepted refused =>
        exact .inr ⟨input, given, .inl ⟨_, .inr ⟨params, message, accepted, refused, rfl⟩, rfl⟩⟩
    | truncated input key given derived short =>
        exact .inr ⟨input, given, .inr ⟨key, derived, _, .inl (.inl ⟨short, rfl⟩), rfl⟩⟩
    | unauthenticated input key nonce ciphertext given derived split long refused =>
        exact .inr ⟨input, given, .inr ⟨key, derived, _,
          .inl (.inr ⟨nonce, ciphertext, split, long, refused, rfl⟩), rfl⟩⟩
    | width input key plaintext given derived opened other =>
        exact .inr ⟨input, given, .inr ⟨key, derived, _,
          .inr ⟨plaintext, opened, other, rfl⟩, rfl⟩⟩

end Unlock

namespace Keychain

variable (utf8Text : Bytes → String) (keyring : Keyring) (base64 : Base64.Engine)

/-- The text that a call replies with, if it fails. A presence test never does. -/
def Reply.error : Reply → Option String
  | .done (.error text) => some text
  | .loaded (.error text) => some text
  | _ => none

inductive Operation.Fails (opened : keyring.Entry) (store : keyring.Store) :
    Operation → Failure → Prop where
  | save (masterKey : Key) (error : Keyring.Error) (after : keyring.Store)
      (refused : keyring.setPassword opened (base64.encode masterKey.val) store =
        (.error error, after)) :
      Fails opened store (.save masterKey) (.keychainSave (keyring.display error))
  | load (text : String) (after : keyring.Store)
      (refused : keyring.getPassword opened store = (.error (.other text), after)) :
      Fails opened store .load (.keychainLoad text)
  | decode (encoded error : String) (after : keyring.Store)
      (read : keyring.getPassword opened store = (.ok encoded, after))
      (malformed : base64.decode encoded = .error error) :
      Fails opened store .load (.keychainDecode error)
  | width (encoded : String) (bytes : Bytes) (after : keyring.Store)
      (read : keyring.getPassword opened store = (.ok encoded, after))
      (decoded : base64.decode encoded = .ok bytes) (other : bytes.length ≠ 32) :
      Fails opened store .load (.keychainWidth bytes.length)
  | delete (text : String) (after : keyring.Store)
      (refused : keyring.deleteCredential opened store = (.error (.other text), after)) :
      Fails opened store .delete (.keychainDelete text)

/-- What breaks in a call: the opening of its entry, or what it does there. -/
inductive Call.Fails (call : Call) (store : keyring.Store) : Failure → Prop where
  | entry (error : Keyring.Error) (after : keyring.Store) (speaks : call.operation ≠ .has)
      (refused : keyring.new call.pair.1 call.pair.2 store = (.error error, after)) :
      Fails call store (.keychainEntry (keyring.display error))
  | opened (opened : keyring.Entry) (middle : keyring.Store) (failure : Failure)
      (made : keyring.new call.pair.1 call.pair.2 store = (.ok opened, middle))
      (fails : call.operation.Fails keyring base64 opened middle failure) :
      Fails call store failure

theorem decodeKey_error (encoded : String) :
    (∃ error, base64.decode encoded = .error error ∧
      decodeKey base64 encoded = .error ((Failure.keychainDecode error).toText utf8Text)) ∨
    (∃ bytes, base64.decode encoded = .ok bytes ∧ bytes.length ≠ 32 ∧
      decodeKey base64 encoded = .error ((Failure.keychainWidth bytes.length).toText utf8Text)) ∨
    ∃ key : Key, base64.decode encoded = .ok key.val ∧ decodeKey base64 encoded = .ok key := by
  cases decoded : base64.decode encoded with
  | error error =>
      refine .inl ⟨error, rfl, ?_⟩
      rw [decodeKey, decoded]
      rfl
  | ok bytes =>
      by_cases width : bytes.length = 32
      · refine .inr (.inr ⟨⟨bytes, width⟩, rfl, ?_⟩)
        simp only [decodeKey, decoded, dif_pos width]
      · refine .inr (.inl ⟨bytes, rfl, width, ?_⟩)
        simp only [decodeKey, decoded, dif_neg width]
        rfl

theorem performAt_unopened {operation : Operation} {pair : String × String}
    {store middle : keyring.Store} {error : Keyring.Error}
    (made : keyring.new pair.1 pair.2 store = (.error error, middle)) (text : String) :
    (performAt keyring base64 operation pair store).1.error = some text ↔
      operation ≠ .has ∧
        (Failure.keychainEntry (keyring.display error)).toText utf8Text = text := by
  have opening : entry keyring pair.1 pair.2 store =
      (.error ((Failure.keychainEntry (keyring.display error)).toText utf8Text), middle) := by
    rw [entry, made]
    rfl
  generalize (Failure.keychainEntry (keyring.display error)).toText utf8Text = told at opening
  cases operation <;>
    simp [performAt, saveMasterKeyInService, loadMasterKeyInService, deleteMasterKeyInService,
      hasMasterKeyInService, opening, Reply.error]

section Opened

variable {keyring} {operation : Operation} {pair : String × String} {store middle : keyring.Store}
variable {opened : keyring.Entry}
variable (made : keyring.new pair.1 pair.2 store = (.ok opened, middle))
include made

/-- An operation says what it breaks at. -/
theorem error_of_fails {failure : Failure}
    (fails : operation.Fails keyring base64 opened middle failure) :
    (performAt keyring base64 operation pair store).1.error =
      some (failure.toText utf8Text) := by
  have opening : entry keyring pair.1 pair.2 store = (.ok opened, middle) := by
    rw [entry, made]
  cases fails with
  | save masterKey error after refused =>
      simp only [performAt, saveMasterKeyInService, opening, refused]
      rfl
  | load text after refused =>
      rw [performAt, load_opened keyring base64 made refused]
      rfl
  | decode encoded error after read malformed =>
      rw [performAt, load_opened keyring base64 made read, loadResult, decodeKey, malformed]
      rfl
  | width encoded bytes after read decoded other =>
      rw [performAt, load_opened keyring base64 made read, loadResult, decodeKey, decoded]
      simp only [dif_neg other]
      rfl
  | delete text after refused =>
      simp only [performAt, deleteMasterKeyInService, opening, refused]
      rfl

/-- An operation that fails breaks at something. -/
theorem exists_fails {text : String}
    (told : (performAt keyring base64 operation pair store).1.error = some text) :
    ∃ failure, operation.Fails keyring base64 opened middle failure ∧
      failure.toText utf8Text = text := by
  have opening : entry keyring pair.1 pair.2 store = (.ok opened, middle) := by
    rw [entry, made]
  cases operation with
  | save masterKey =>
      cases setting : keyring.setPassword opened (base64.encode masterKey.val) middle with
      | mk result after =>
          simp only [performAt, saveMasterKeyInService, opening, setting] at told
          cases result with
          | error error => exact ⟨_, .save masterKey error after setting, Option.some.inj told⟩
          | ok written => cases told
  | load =>
      cases reading : keyring.getPassword opened middle with
      | mk reply after =>
          rw [performAt, load_opened keyring base64 made reading] at told
          rcases reply with (_ | text) | encoded
          · cases told
          · exact ⟨_, .load text after reading, Option.some.inj told⟩
          · rw [loadResult] at told
            rcases decodeKey_error utf8Text base64 encoded with ⟨error, malformed, broken⟩ |
              ⟨bytes, decoded, other, broken⟩ | ⟨key, decoded, read⟩
            · rw [broken] at told
              exact ⟨_, .decode encoded error after reading malformed, Option.some.inj told⟩
            · rw [broken] at told
              exact ⟨_, .width encoded bytes after reading decoded other, Option.some.inj told⟩
            · rw [read] at told
              cases told
  | delete =>
      cases deleting : keyring.deleteCredential opened middle with
      | mk result after =>
          simp only [performAt, deleteMasterKeyInService, opening, deleting] at told
          rcases result with (_ | text) | deleted
          · cases told
          · exact ⟨_, .delete text after deleting, Option.some.inj told⟩
          · cases told
  | has => cases told

end Opened

/-- A call of the keychain fails with the text of what breaks in it. -/
theorem perform_eq_error_iff (call : Call) (store : keyring.Store) (text : String) :
    (perform keyring base64 call store).1.error = some text ↔
      ∃ failure, call.Fails keyring base64 store failure ∧ failure.toText utf8Text = text := by
  rw [perform_eq]
  cases made : keyring.new call.pair.1 call.pair.2 store with
  | mk result middle =>
      cases result with
      | error error =>
          rw [performAt_unopened utf8Text keyring base64 made]
          constructor
          · rintro ⟨speaks, told⟩
            exact ⟨_, .entry error middle speaks made, told⟩
          · rintro ⟨failure, fails, told⟩
            cases fails with
            | entry error' after speaks refused =>
                cases made.symm.trans refused
                exact ⟨speaks, told⟩
            | opened opened middle' _ made' _ => cases made.symm.trans made'
      | ok opened =>
          constructor
          · intro told
            obtain ⟨failure, fails, reads⟩ := exists_fails utf8Text base64 made told
            exact ⟨failure, .opened opened middle failure made fails, reads⟩
          · rintro ⟨failure, fails, rfl⟩
            cases fails with
            | entry error after speaks refused => cases made.symm.trans refused
            | opened opened' middle' _ made' fails =>
                cases made.symm.trans made'
                exact error_of_fails utf8Text base64 made fails

end Keychain

/-- A call fails with a text exactly when its first broken stage has that text:
encrypting and decrypting calls, attempts to unlock and calls of the keychain.
And the text tells the stage with its details, whichever call it came from; only
two invalid buffers may be written alike. -/
theorem texts_located {Kind Shape : Type} {E : Kind → Type} {T : Shape → Type}
    [∀ kind, EncryptedEntity (E kind)] (utf8Text : Bytes → String) (aead : Aead Key Nonce)
    (base64 : Base64.Engine) (hkdf : Hkdf) (x25519 : X25519) (json : ∀ shape, SerdeJson (T shape))
    (sha256 : Bytes → FixedBytes 32) (argon2 : Argon2) (keyring : Keyring) (text : String) :
    (∀ (call : Producing E T) nonce,
      (call.run aead base64 hkdf x25519 json nonce).mapError (CryptoError.toText utf8Text) =
          .error text ↔
        ∃ error, call.Fails aead hkdf x25519 json nonce error ∧
          (Failure.crypto error).toText utf8Text = text) ∧
    (∀ call : Opening E T,
      (call.run aead base64 hkdf x25519 json).mapError (CryptoError.toText utf8Text) =
          .error text ↔
        ∃ error, call.Fails aead base64 hkdf x25519 json error ∧
          (Failure.crypto error).toText utf8Text = text) ∧
    (∀ attempt salt wrapped,
      Unlock.unlock utf8Text sha256 aead argon2 attempt salt wrapped = .error text ↔
        ∃ failure, attempt.Fails sha256 aead argon2 salt wrapped failure ∧
          failure.toText utf8Text = text) ∧
    (∀ (call : Keychain.Call) store,
      (Keychain.perform keyring base64 call store).1.error = some text ↔
        ∃ failure, call.Fails keyring base64 store failure ∧ failure.toText utf8Text = text) ∧
    ∀ failure other : Failure, failure.toText utf8Text = text → other.toText utf8Text = text →
      failure = other ∨ ∃ bytes bytes', failure = .crypto (.utf8 bytes) ∧
        other = .crypto (.utf8 bytes') ∧ utf8Text bytes = utf8Text bytes' := by
  refine ⟨?_, ?_, ?_, ?_, ?_⟩
  · intro call nonce
    simp only [mapError_eq_error_iff, Producing.run_eq_error_iff]
    rfl
  · intro call
    simp only [mapError_eq_error_iff, Opening.run_eq_error_iff]
    rfl
  · intro attempt salt wrapped
    exact Unlock.unlock_eq_error_iff utf8Text sha256 aead argon2 attempt salt wrapped text
  · intro call store
    exact Keychain.perform_eq_error_iff utf8Text keyring base64 call store text
  · intro failure other told told'
    exact (Failure.toText_eq_toText_iff utf8Text failure other).mp (told.trans told'.symm)

end IncokitE2ee
