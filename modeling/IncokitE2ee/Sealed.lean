import IncokitE2ee.Base64
import IncokitE2ee.Encryption

set_option autoImplicit false

/- `sealed.rs`: the stored form `"e2ee:" + base64(nonce || ciphertext || tag)`,
for bytes, strings and JSON values. -/
namespace IncokitE2ee.Sealed

variable (aead : Aead Key Nonce) (base64 : Base64.Engine)

def e2eePrefix : String := "e2ee:"

def sealBytes (entityKey : Key) (nonce : Nonce) (plaintext : Bytes) : CryptoResult String := do
  let raw ← Encryption.encrypt aead entityKey nonce plaintext
  let b64 := base64.encode raw
  return e2eePrefix ++ b64

/-- Strict: a text without the prefix is refused. -/
def unsealBytes (entityKey : Key) (stored : String) : CryptoResult Bytes :=
  match stripPrefix e2eePrefix stored with
  | none => .error .missingE2eePrefix
  | some b64 =>
      match base64.decode b64 with
      | .error error => .error (.base64 error)
      | .ok raw => Encryption.decrypt aead entityKey raw

/-- Lenient: a text without the prefix is returned as it stands. -/
def tryUnsealBytes (entityKey : Key) (stored : String) : CryptoResult Bytes :=
  if startsWith e2eePrefix stored then unsealBytes aead base64 entityKey stored
  else .ok (asBytes stored)

/-- `String::from_utf8(bytes)?`. -/
def toText (bytes : Bytes) : CryptoResult String :=
  match fromUtf8 bytes with
  | none => .error (.utf8 bytes)
  | some text => .ok text

def sealString (entityKey : Key) (nonce : Nonce) (plaintext : String) : CryptoResult String :=
  sealBytes aead base64 entityKey nonce (asBytes plaintext)

def unsealString (entityKey : Key) (stored : String) : CryptoResult String := do
  let bytes ← unsealBytes aead base64 entityKey stored
  toText bytes

def tryUnsealString (entityKey : Key) (stored : String) : CryptoResult String := do
  let bytes ← tryUnsealBytes aead base64 entityKey stored
  toText bytes

variable {T : Type} (json : SerdeJson T)

/-- `serde_json::from_str(text)?`. -/
def parseJson (text : String) : CryptoResult T :=
  match json.fromStr text with
  | .error error => .error (.json error)
  | .ok value => .ok value

def sealJson (entityKey : Key) (nonce : Nonce) (value : T) : CryptoResult String :=
  match json.toString value with
  | .error error => .error (.json error)
  | .ok text => sealString aead base64 entityKey nonce text

def unsealJson (entityKey : Key) (stored : String) : CryptoResult T := do
  let text ← unsealString aead base64 entityKey stored
  parseJson json text

def tryUnsealJson (entityKey : Key) (stored : String) : CryptoResult T := do
  let text ← tryUnsealString aead base64 entityKey stored
  parseJson json text

@[simp] theorem toText_asBytes (text : String) : toText (asBytes text) = .ok text := by
  rw [toText, fromUtf8_asBytes]

theorem toText_ne_missing (bytes : Bytes) : toText bytes ≠ .error .missingE2eePrefix := by
  rw [toText]
  cases fromUtf8 bytes <;> simp

theorem toText_eq_ok_iff (bytes : Bytes) (text : String) :
    toText bytes = .ok text ↔ bytes = asBytes text := by
  rw [← fromUtf8_eq_some_iff, toText]
  cases fromUtf8 bytes <;> simp

theorem sealBytes_eq_ok_iff (key : Key) (nonce : Nonce) (plaintext : Bytes) (stored : String) :
    sealBytes aead base64 key nonce plaintext = .ok stored ↔
      ∃ raw, Encryption.encrypt aead key nonce plaintext = .ok raw ∧
        stored = e2eePrefix ++ base64.encode raw := by
  rw [sealBytes, bind_eq_ok_iff]
  simp only [pure, Except.pure, Except.ok.injEq, eq_comm]

theorem unsealBytes_unprefixed (key : Key) (stored : String)
    (bare : startsWith e2eePrefix stored = false) :
    unsealBytes aead base64 key stored = .error .missingE2eePrefix := by
  rw [unsealBytes, (stripPrefix_eq_none_iff e2eePrefix stored).mpr bare]

theorem unsealBytes_prefixed (key : Key) (b64 : String) :
    unsealBytes aead base64 key (e2eePrefix ++ b64) =
      match base64.decode b64 with
      | .error error => .error (.base64 error)
      | .ok raw => Encryption.decrypt aead key raw := by
  cases decoded : base64.decode b64 <;> simp only [unsealBytes, stripPrefix_append, decoded]

theorem unsealBytes_eq_ok_iff (key : Key) (stored : String) (plaintext : Bytes) :
    unsealBytes aead base64 key stored = .ok plaintext ↔
      ∃ b64 raw, stored = e2eePrefix ++ b64 ∧ base64.decode b64 = .ok raw ∧
        Encryption.decrypt aead key raw = .ok plaintext := by
  simp only [← stripPrefix_eq_some_iff, unsealBytes]
  cases stripPrefix e2eePrefix stored with
  | none => simp
  | some b64 => cases decoded : base64.decode b64 <;> simp [decoded]

theorem unsealString_eq_ok_iff (key : Key) (stored text : String) :
    unsealString aead base64 key stored = .ok text ↔
      unsealBytes aead base64 key stored = .ok (asBytes text) := by
  rw [unsealString, bind_eq_ok_iff]
  constructor
  · rintro ⟨bytes, opened, decoded⟩
    rwa [(toText_eq_ok_iff bytes text).mp decoded] at opened
  · intro opened
    exact ⟨asBytes text, opened, toText_asBytes text⟩

/-- On a prefixed text the two modes are one function. -/
theorem tryUnsealString_prefixed (key : Key) (stored : String)
    (sealed : startsWith e2eePrefix stored = true) :
    tryUnsealString aead base64 key stored = unsealString aead base64 key stored := by
  rw [tryUnsealString, tryUnsealBytes, if_pos sealed]
  rfl

theorem tryUnsealString_unprefixed (key : Key) (stored : String)
    (bare : startsWith e2eePrefix stored = false) :
    tryUnsealString aead base64 key stored = .ok stored := by
  rw [tryUnsealString, tryUnsealBytes, bare]
  exact toText_asBytes stored

theorem unsealString_unprefixed (key : Key) (stored : String)
    (bare : startsWith e2eePrefix stored = false) :
    unsealString aead base64 key stored = .error .missingE2eePrefix := by
  rw [unsealString, unsealBytes_unprefixed aead base64 key stored bare]
  rfl

/-- Behind the prefix nothing is reported as missing it. -/
theorem unsealBytes_ne_missing (key : Key) (stored : String)
    (sealed : startsWith e2eePrefix stored = true) :
    unsealBytes aead base64 key stored ≠ .error .missingE2eePrefix := by
  obtain ⟨b64, rfl⟩ := (startsWith_iff e2eePrefix stored).mp sealed
  rw [unsealBytes_prefixed]
  cases base64.decode b64 with
  | error error => simp
  | ok raw =>
      intro missing
      rcases Encryption.decrypt_error aead missing with short | refused
      · cases short
      · cases refused

/-- The lenient reader never asks for the prefix. -/
theorem tryUnsealString_ne_missing (key : Key) (stored : String) :
    tryUnsealString aead base64 key stored ≠ .error .missingE2eePrefix := by
  cases starts : startsWith e2eePrefix stored with
  | false =>
      rw [tryUnsealString_unprefixed aead base64 key stored starts]
      simp
  | true =>
      rw [tryUnsealString_prefixed aead base64 key stored starts, unsealString]
      have present := unsealBytes_ne_missing aead base64 key stored starts
      cases opened : unsealBytes aead base64 key stored with
      | error error =>
          intro missing
          rw [bind_error, Except.error.injEq] at missing
          rw [opened, missing] at present
          exact present rfl
      | ok bytes => exact toText_ne_missing bytes

theorem sealString_startsWith {key : Key} {nonce : Nonce} {plaintext stored : String}
    (sealing : sealString aead base64 key nonce plaintext = .ok stored) :
    startsWith e2eePrefix stored = true := by
  obtain ⟨raw, -, rfl⟩ := (sealBytes_eq_ok_iff aead base64 key nonce _ stored).mp sealing
  exact (startsWith_iff _ _).mpr ⟨_, rfl⟩

end IncokitE2ee.Sealed
