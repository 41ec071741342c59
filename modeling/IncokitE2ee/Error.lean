import IncokitE2ee.Bytes
import IncokitE2ee.Outcome

set_option autoImplicit false

/- The error type of the crypto layer. An error of another crate is kept as its
`Display` text, an invalid UTF-8 buffer as the buffer. -/
namespace IncokitE2ee

inductive CryptoError where
  | notUnlocked
  | userIdMismatch
  | invalidKeyLength (expected actual : Nat)
  | encrypt
  | decrypt
  | ciphertextTooShort (min actual : Nat)
  | argon2Params (message : String)
  | argon2Hash (message : String)
  | hkdf (message : String)
  | base64 (error : String)
  | json (error : String)
  | utf8 (bytes : Bytes)
  | missingE2eePrefix
  deriving DecidableEq

abbrev CryptoResult (α : Type) := Except CryptoError α

/-- `Display`, and so `From<CryptoError> for String`. The text of a UTF-8 error
is the standard library's, as a function of the buffer it rejected. -/
def CryptoError.toText (utf8Text : Bytes → String) : CryptoError → String
  | .notUnlocked => "encryption is locked — unlock before retrying"
  | .userIdMismatch => "session belongs to a different user"
  | .invalidKeyLength expected actual =>
      "invalid key length: expected " ++ toString expected ++ ", got " ++ toString actual
  | .encrypt => "AES-GCM encrypt failed"
  | .decrypt => "AES-GCM decrypt failed (wrong key or corrupted data)"
  | .ciphertextTooShort min actual =>
      "ciphertext too short: need at least " ++ toString min ++ " bytes, got " ++ toString actual
  | .argon2Params message => "Argon2 parameters error: " ++ message
  | .argon2Hash message => "Argon2 hash failed: " ++ message
  | .hkdf message => "HKDF expand failed: " ++ message
  | .base64 error => "base64 decode: " ++ error
  | .json error => "json: " ++ error
  | .utf8 bytes => "utf-8: " ++ utf8Text bytes
  | .missingE2eePrefix => "missing e2ee prefix — data is not encrypted"

export Outcome (Failed failed_error not_failed_ok bind_eq_ok_iff bind_ok bind_error)

end IncokitE2ee
