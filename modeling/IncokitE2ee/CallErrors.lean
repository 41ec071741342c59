import IncokitE2ee.Calls

set_option autoImplicit false

/- How decrypting calls fail: in the first stage that breaks, with that stage's
error. -/
namespace IncokitE2ee

variable {Kind Shape : Type} {E : Kind → Type} {T : Shape → Type}
variable [∀ kind, EncryptedEntity (E kind)]
variable (aead : Aead Key Nonce) (base64 : Base64.Engine) (hkdf : Hkdf) (x25519 : X25519)
variable (json : ∀ shape, SerdeJson (T shape))

/-- The bytes cannot be read in this form. -/
inductive Form.Unreadable : Form T → Bytes → CryptoError → Prop where
  | width (bytes : Bytes) (other : bytes.length ≠ 32) :
      Unreadable .key bytes (.invalidKeyLength 32 bytes.length)
  | notText (bytes : Bytes) (invalid : fromUtf8 bytes = none) : Unreadable .text bytes (.utf8 bytes)
  | notJsonText (shape : Shape) (bytes : Bytes) (invalid : fromUtf8 bytes = none) :
      Unreadable (.json shape) bytes (.utf8 bytes)
  | notJson (shape : Shape) (text error : String)
      (refused : (json shape).fromStr text = .error error) :
      Unreadable (.json shape) (asBytes text) (.json error)

/-- The first stage of a call that breaks, and its error. -/
inductive Opening.Fails (call : Opening E T) : CryptoError → Prop where
  | derivation (message : String)
      (failed : call.source.key hkdf x25519 = .error (.hkdf message)) :
      Fails call (.hkdf message)
  | unprefixed (key : Key) (text : String) (derived : call.source.key hkdf x25519 = .ok key)
      (given : call.stored = .strict text) (bare : startsWith Sealed.e2eePrefix text = false) :
      Fails call .missingE2eePrefix
  | encoding (key : Key) (b64 error : String) (derived : call.source.key hkdf x25519 = .ok key)
      (given : call.stored = .strict (Sealed.e2eePrefix ++ b64) ∨
        call.stored = .lenient (Sealed.e2eePrefix ++ b64))
      (malformed : base64.decode b64 = .error error) :
      Fails call (.base64 error)
  | truncated (key : Key) (raw : Bytes) (derived : call.source.key hkdf x25519 = .ok key)
      (found : call.stored.find base64 = .ok (.sealed raw)) (short : raw.length < 28) :
      Fails call (.ciphertextTooShort 28 raw.length)
  | unauthenticated (key : Key) (nonce : Nonce) (ciphertext : Bytes)
      (derived : call.source.key hkdf x25519 = .ok key)
      (found : call.stored.find base64 = .ok (.sealed (nonce.val ++ ciphertext)))
      (long : 16 ≤ ciphertext.length) (refused : aead.decrypt key nonce ciphertext = none) :
      Fails call .decrypt
  | unreadable (key : Key) (found : Found) (bytes : Bytes) (error : CryptoError)
      (derived : call.source.key hkdf x25519 = .ok key)
      (parsed : call.stored.find base64 = .ok found) (opened : found.bytes aead key = .ok bytes)
      (failed : call.form.Unreadable json bytes error) :
      Fails call error

theorem toText_eq_error_iff (bytes : Bytes) (error : CryptoError) :
    Sealed.toText bytes = .error error ↔ fromUtf8 bytes = none ∧ error = .utf8 bytes := by
  rw [Sealed.toText]
  cases fromUtf8 bytes <;> simp [eq_comm]

theorem parseJson_eq_error_iff {V : Type} (reader : SerdeJson V) (text : String)
    (error : CryptoError) :
    Sealed.parseJson reader text = .error error ↔
      ∃ message, reader.fromStr text = .error message ∧ error = .json message := by
  rw [Sealed.parseJson]
  cases reader.fromStr text <;> simp [eq_comm]

theorem toKey_eq_error_iff (bytes : Bytes) (error : CryptoError) :
    Encryption.toKey bytes = .error error ↔
      bytes.length ≠ 32 ∧ error = .invalidKeyLength 32 bytes.length := by
  rw [Encryption.toKey]
  by_cases width : bytes.length = 32 <;> simp [width, eq_comm]

namespace Form

/-- Text fails before JSON does. -/
theorem readJson_eq_error_iff (shape : Shape) (bytes : Bytes) (error : CryptoError) :
    (Sealed.toText bytes >>= Sealed.parseJson (json shape)) = .error error ↔
      (fromUtf8 bytes = none ∧ error = .utf8 bytes) ∨
        ∃ text message, bytes = asBytes text ∧ (json shape).fromStr text = .error message ∧
          error = .json message := by
  cases decoded : Sealed.toText bytes with
  | error broken =>
      obtain ⟨invalid, rfl⟩ := (toText_eq_error_iff bytes broken).mp decoded
      have notText : ∀ text, bytes ≠ asBytes text := by
        intro text same
        rw [same, fromUtf8_asBytes] at invalid
        cases invalid
      simp [invalid, notText, eq_comm]
  | ok text =>
      obtain rfl := (Sealed.toText_eq_ok_iff bytes text).mp decoded
      rw [bind_ok, parseJson_eq_error_iff]
      constructor
      · rintro ⟨message, refused, rfl⟩
        exact .inr ⟨text, message, rfl, refused, rfl⟩
      · rintro (⟨invalid, -⟩ | ⟨other, message, same, refused, rfl⟩)
        · rw [fromUtf8_asBytes] at invalid
          cases invalid
        · rw [asBytes_injective same]
          exact ⟨message, refused, rfl⟩

theorem read_eq_error_iff (form : Form T) (bytes : Bytes) (error : CryptoError) :
    form.read json bytes = .error error ↔ form.Unreadable json bytes error := by
  cases form with
  | bytes =>
      constructor
      · intro impossible
        cases impossible
      · intro impossible
        cases impossible
  | key =>
      refine (toKey_eq_error_iff bytes error).trans ⟨?_, ?_⟩
      · rintro ⟨other, rfl⟩
        exact .width bytes other
      · rintro ⟨_, other⟩
        exact ⟨other, rfl⟩
  | text =>
      refine (toText_eq_error_iff bytes error).trans ⟨?_, ?_⟩
      · rintro ⟨invalid, rfl⟩
        exact .notText bytes invalid
      · rintro (_ | ⟨_, invalid⟩)
        exact ⟨invalid, rfl⟩
  | json shape =>
      refine (readJson_eq_error_iff json shape bytes error).trans ⟨?_, ?_⟩
      · rintro (⟨invalid, rfl⟩ | ⟨text, message, rfl, refused, rfl⟩)
        · exact .notJsonText shape bytes invalid
        · exact .notJson shape text message refused
      · rintro (_ | _ | ⟨_, _, invalid⟩ | ⟨_, text, message, refused⟩)
        · exact .inl ⟨invalid, rfl⟩
        · exact .inr ⟨text, message, rfl, refused, rfl⟩

end Form

/-- Only an expansion can keep a call from its key. -/
theorem KeySource.key_error {source : KeySource} {error : CryptoError}
    (failed : source.key hkdf x25519 = .error error) : ∃ message, error = .hkdf message := by
  cases source with
  | given key => cases failed
  | entity session ns id =>
      simp only [key, SessionKey.derive, KeyNamespace.deriveKey] at failed
      split at failed
      · exact ⟨_, (Except.error.inj failed).symm⟩
      · cases failed
  | sharing mine theirs =>
      simp only [key, Keys.deriveSharingKey] at failed
      split at failed
      · exact ⟨_, (Except.error.inj failed).symm⟩
      · cases failed

/-- Behind the prefix both modes decode, and fail only in that. -/
theorem decoded_eq_error_iff (b64 : String) (error : CryptoError) :
    (match base64.decode b64 with
      | .error message => .error (.base64 message)
      | .ok raw => .ok (.sealed raw) : CryptoResult Found) = .error error ↔
      ∃ message, base64.decode b64 = .error message ∧ error = .base64 message := by
  cases base64.decode b64 <;> simp [eq_comm]

theorem Stored.find_eq_error_iff (stored : Stored) (error : CryptoError) :
    stored.find base64 = .error error ↔
      (∃ text, stored = .strict text ∧ startsWith Sealed.e2eePrefix text = false ∧
        error = .missingE2eePrefix) ∨
      ∃ b64 message, (stored = .strict (Sealed.e2eePrefix ++ b64) ∨
        stored = .lenient (Sealed.e2eePrefix ++ b64)) ∧ base64.decode b64 = .error message ∧
          error = .base64 message := by
  cases stored with
  | blob raw => simp [find]
  | strict text =>
      cases stripped : stripPrefix Sealed.e2eePrefix text with
      | none =>
          have bare := (stripPrefix_eq_none_iff Sealed.e2eePrefix text).mp stripped
          have unprefixed : ∀ b64, text ≠ Sealed.e2eePrefix ++ b64 := by
            intro b64 same
            rw [same, stripPrefix_append] at stripped
            cases stripped
          have missing : (Stored.strict text).find base64 = .error .missingE2eePrefix := by
            simp only [find, stripped]
          rw [missing, Except.error.injEq]
          simp [bare, unprefixed, @eq_comm _ CryptoError.missingE2eePrefix]
      | some b64 =>
          obtain rfl := (stripPrefix_eq_some_iff Sealed.e2eePrefix text b64).mp stripped
          have starts := (startsWith_iff Sealed.e2eePrefix _).mpr ⟨b64, rfl⟩
          rw [find, stripped]
          refine (decoded_eq_error_iff base64 b64 error).trans ?_
          simp [starts]
  | lenient text =>
      cases stripped : stripPrefix Sealed.e2eePrefix text with
      | none =>
          have unprefixed : ∀ b64, text ≠ Sealed.e2eePrefix ++ b64 := by
            intro b64 same
            rw [same, stripPrefix_append] at stripped
            cases stripped
          simp [find, stripped, unprefixed]
      | some b64 =>
          obtain rfl := (stripPrefix_eq_some_iff Sealed.e2eePrefix text b64).mp stripped
          rw [find, stripped]
          refine (decoded_eq_error_iff base64 b64 error).trans ?_
          simp

theorem Found.bytes_eq_error_iff (found : Found) (key : Key) (error : CryptoError) :
    found.bytes aead key = .error error ↔
      ∃ raw, found = .sealed raw ∧ Encryption.decrypt aead key raw = .error error := by
  cases found with
  | sealed raw => simp [bytes]
  | legacy raw => simp [bytes]

/-- A call fails with an error exactly when its first broken stage has that error. -/
theorem Opening.run_eq_error_iff (call : Opening E T) (error : CryptoError) :
    call.run aead base64 hkdf x25519 json = .error error ↔
      call.Fails aead base64 hkdf x25519 json error := by
  rw [run_eq]
  simp only [Outcome.bind_eq_error_iff, Stored.find_eq_error_iff, Found.bytes_eq_error_iff,
    Form.read_eq_error_iff, Encryption.decrypt_eq_error_iff]
  constructor
  · rintro (failed | ⟨key, derived, (⟨text, given, bare, rfl⟩ |
      ⟨b64, message, given, malformed, rfl⟩) | ⟨found, parsed, (⟨raw, rfl, ⟨short, rfl⟩ |
        ⟨nonce, ciphertext, rfl, long, refused, rfl⟩⟩ | ⟨bytes, opened, unreadable⟩)⟩⟩)
    · obtain ⟨message, rfl⟩ := KeySource.key_error hkdf x25519 failed
      exact .derivation message failed
    · exact .unprefixed key text derived given bare
    · exact .encoding key b64 message derived given malformed
    · exact .truncated key raw derived parsed short
    · exact .unauthenticated key nonce ciphertext derived parsed long refused
    · exact .unreadable key found bytes error derived parsed opened unreadable
  · intro fails
    cases fails with
    | derivation message failed => exact .inl failed
    | unprefixed key text derived given bare =>
        exact .inr ⟨key, derived, .inl (.inl ⟨text, given, bare, rfl⟩)⟩
    | encoding key b64 message derived given malformed =>
        exact .inr ⟨key, derived, .inl (.inr ⟨b64, message, given, malformed, rfl⟩)⟩
    | truncated key raw derived found short =>
        exact .inr ⟨key, derived, .inr ⟨_, found, .inl ⟨raw, rfl, .inl ⟨short, rfl⟩⟩⟩⟩
    | unauthenticated key nonce ciphertext derived found long refused =>
        exact .inr ⟨key, derived, .inr ⟨_, found, .inl ⟨_, rfl, .inr
          ⟨nonce, ciphertext, rfl, long, refused, rfl⟩⟩⟩⟩
    | unreadable key found bytes error derived parsed opened failed =>
        exact .inr ⟨key, derived, .inr ⟨found, parsed, .inr ⟨bytes, opened, failed⟩⟩⟩

end IncokitE2ee
