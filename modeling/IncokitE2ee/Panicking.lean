import IncokitE2ee.Keys
import IncokitE2ee.Panics
import IncokitE2ee.RecoveryKey
import IncokitE2ee.Sealed

set_option autoImplicit false

/- The readers again, with the standard library's panicking operations left in
as they are written. None of them ever panics: each is its plain form. -/
namespace IncokitE2ee

/-- `str::is_char_boundary`, of a text's bytes. -/
def isCharBoundary (bytes : Bytes) (index : Nat) : Bool :=
  index = 0 ||
    match bytes[index]? with
    | none => index = bytes.length
    | some byte => byte < 128 || 192 ≤ byte

/-- `&text[start..stop]`. -/
def sliceStr (text : String) (start stop : Nat) : Option String :=
  if isCharBoundary (asBytes text) start ∧ isCharBoundary (asBytes text) stop then
    (Panics.slice (asBytes text) start stop).bind fromUtf8
  else none

/-- In a text of ASCII characters every position is a boundary. -/
theorem isCharBoundary_ascii (text : Ascii) (index : Nat) (within : index ≤ text.len) :
    isCharBoundary (asBytes text.toText) index = true := by
  have width := text.length_asBytes
  rw [isCharBoundary, Bool.or_eq_true]
  apply Or.inr
  cases found : (asBytes text.toText)[index]? with
  | none =>
      have past := List.getElem?_eq_none_iff.mp found
      exact decide_eq_true (by omega)
  | some byte =>
      have member := List.mem_of_getElem? found
      rw [text.asBytes_toText] at member
      obtain ⟨char, here, rfl⟩ := List.mem_map.mp member
      have low := text.property char here
      have small : UInt8.ofNat char.toNat < 128 := by
        rw [UInt8.lt_iff_toNat_lt, UInt8.toNat_ofNat_of_lt' (by simp only [UInt8.size]; omega)]
        exact low
      simp only [small, decide_true, Bool.true_or]

theorem sliceStr_ascii (text : Ascii) (start stop : Nat) (ordered : start ≤ stop)
    (within : stop ≤ text.len) :
    sliceStr text.toText start stop = some (text.slice start stop ordered within).toText := by
  have starts := isCharBoundary_ascii text start (Nat.le_trans ordered within)
  have stops := isCharBoundary_ascii text stop within
  have bounds : start ≤ stop ∧ stop ≤ (asBytes text.toText).length :=
    ⟨ordered, by rwa [text.length_asBytes]⟩
  rw [sliceStr, if_pos ⟨starts, stops⟩, Panics.slice, if_pos bounds, Option.bind_some,
    ← text.asBytes_slice start stop ordered within, fromUtf8_asBytes]

section Unwrapping

variable (aead : Aead Key Nonce)

/-- `encryption::decrypt`. -/
def Encryption.decryptOrPanic (key : Key) (data : Bytes) : Option (CryptoResult Bytes) :=
  if data.length < 12 + 16 then some (.error (.ciphertextTooShort (12 + 16) data.length))
  else
    match newFromSlice key.val with
    | none => some (.error (.invalidKeyLength 32 key.val.length))
    | some cipher => do
        let front ← Panics.sliceTo data 12
        let nonce ← Panics.toArray 12 front
        let ciphertext ← Panics.sliceFrom data 12
        match aead.decrypt cipher nonce ciphertext with
        | none => some (.error .decrypt)
        | some plaintext => some (.ok plaintext)

theorem Encryption.decryptOrPanic_eq (key : Key) (data : Bytes) :
    decryptOrPanic aead key data = some (decrypt aead key data) := by
  by_cases short : data.length < 12 + 16
  · rw [decryptOrPanic, if_pos short, decrypt, dif_pos short]
  · have long : 12 ≤ data.length := by omega
    have front : (data.take 12).length = 12 := by
      rw [List.length_take]
      omega
    rw [decryptOrPanic, if_neg short, decrypt, dif_neg short, newFromSlice_key]
    simp only [Panics.sliceTo_eq data 12 long, Panics.sliceFrom_eq data 12 long,
      Panics.toArray_eq 12 _ front, Option.bind_eq_bind, Option.bind_some]
    cases aead.decrypt key ⟨data.take 12, front⟩ (data.drop 12) <;> rfl

/-- The length check, and the copy over a fresh array, after a decryption. -/
def copyOut (opened : Option (CryptoResult Bytes)) : Option (CryptoResult Key) := do
  match ← opened with
  | .error error => some (.error error)
  | .ok plaintext =>
      if plaintext.length ≠ 32 then some (.error (.invalidKeyLength 32 plaintext.length))
      else
        let key ← Panics.toArray 32 plaintext
        some (.ok key)

theorem copyOut_eq (opened : CryptoResult Bytes) :
    copyOut (some opened) = some (opened >>= Encryption.toKey) := by
  cases opened with
  | error error => rfl
  | ok plaintext =>
      by_cases width : plaintext.length = 32
      · simp only [copyOut, Option.bind_eq_bind, Option.bind_some, width, ne_eq, not_true_eq_false,
          if_false, Panics.toArray_eq 32 plaintext width, bind_ok, Encryption.toKey, dite_true]
      · simp only [copyOut, Option.bind_eq_bind, Option.bind_some, ne_eq, width, not_false_eq_true,
          if_true, bind_ok, Encryption.toKey, dite_false]

def Encryption.unwrapMasterKeyOrPanic (derivedKey : Key) (wrapped : Bytes) :
    Option (CryptoResult Key) :=
  copyOut (decryptOrPanic aead derivedKey wrapped)

def Keys.decryptPrivateKeyOrPanic (masterKey : Key) (encrypted : Bytes) :
    Option (CryptoResult Key) :=
  copyOut (Encryption.decryptOrPanic aead masterKey encrypted)

def Keys.unwrapProfileKeyWithMasterOrPanic (masterKey : Key) (wrapped : Bytes) :
    Option (CryptoResult Key) :=
  copyOut (Encryption.decryptOrPanic aead masterKey wrapped)

def Keys.decryptSharedProfileKeyOrPanic (hkdf : Hkdf) (x25519 : X25519)
    (recipientPrivate senderPublic : Key) (encrypted : Bytes) : Option (CryptoResult Key) :=
  match deriveSharingKey hkdf (x25519DiffieHellman x25519 recipientPrivate senderPublic) with
  | .error error => some (.error error)
  | .ok encKey => copyOut (Encryption.decryptOrPanic aead encKey encrypted)

theorem Encryption.unwrapMasterKeyOrPanic_eq (derivedKey : Key) (wrapped : Bytes) :
    unwrapMasterKeyOrPanic aead derivedKey wrapped =
      some (unwrapMasterKey aead derivedKey wrapped) := by
  rw [unwrapMasterKeyOrPanic, decryptOrPanic_eq, copyOut_eq, unwrapMasterKey]

theorem Keys.decryptPrivateKeyOrPanic_eq (masterKey : Key) (encrypted : Bytes) :
    decryptPrivateKeyOrPanic aead masterKey encrypted =
      some (decryptPrivateKey aead masterKey encrypted) := by
  rw [decryptPrivateKeyOrPanic, Encryption.decryptOrPanic_eq, copyOut_eq, decryptPrivateKey]

theorem Keys.unwrapProfileKeyWithMasterOrPanic_eq (masterKey : Key) (wrapped : Bytes) :
    unwrapProfileKeyWithMasterOrPanic aead masterKey wrapped =
      some (unwrapProfileKeyWithMaster aead masterKey wrapped) := by
  rw [unwrapProfileKeyWithMasterOrPanic, Encryption.decryptOrPanic_eq, copyOut_eq,
    unwrapProfileKeyWithMaster]

theorem Keys.decryptSharedProfileKeyOrPanic_eq (hkdf : Hkdf) (x25519 : X25519)
    (recipientPrivate senderPublic : Key) (encrypted : Bytes) :
    decryptSharedProfileKeyOrPanic aead hkdf x25519 recipientPrivate senderPublic encrypted =
      some (decryptSharedProfileKey aead hkdf x25519 recipientPrivate senderPublic encrypted) := by
  rw [decryptSharedProfileKeyOrPanic, decryptSharedProfileKey, decryptSharedBlob]
  cases derived : deriveSharingKey hkdf
      (x25519DiffieHellman x25519 recipientPrivate senderPublic) with
  | error error => rfl
  | ok encKey =>
      simp only [Encryption.decryptOrPanic_eq, copyOut_eq]
      rfl

end Unwrapping

section Unsealing

variable (aead : Aead Key Nonce) (base64 : Base64.Engine)

def Sealed.unsealBytesOrPanic (entityKey : Key) (stored : String) : Option (CryptoResult Bytes) :=
  match stripPrefix e2eePrefix stored with
  | none => some (.error .missingE2eePrefix)
  | some b64 =>
      match base64.decode b64 with
      | .error error => some (.error (.base64 error))
      | .ok raw => Encryption.decryptOrPanic aead entityKey raw

theorem Sealed.unsealBytesOrPanic_eq (entityKey : Key) (stored : String) :
    unsealBytesOrPanic aead base64 entityKey stored =
      some (unsealBytes aead base64 entityKey stored) := by
  rw [unsealBytesOrPanic, unsealBytes]
  cases stripPrefix e2eePrefix stored with
  | none => rfl
  | some b64 =>
      cases decoded : base64.decode b64 with
      | error error => simp only [decoded]
      | ok raw => simp only [decoded, Encryption.decryptOrPanic_eq]

def Sealed.tryUnsealBytesOrPanic (entityKey : Key) (stored : String) :
    Option (CryptoResult Bytes) :=
  if startsWith e2eePrefix stored then unsealBytesOrPanic aead base64 entityKey stored
  else some (.ok (asBytes stored))

def Sealed.unsealStringOrPanic (entityKey : Key) (stored : String) :
    Option (CryptoResult String) := do
  let bytes ← unsealBytesOrPanic aead base64 entityKey stored
  some (bytes >>= toText)

def Sealed.tryUnsealStringOrPanic (entityKey : Key) (stored : String) :
    Option (CryptoResult String) := do
  let bytes ← tryUnsealBytesOrPanic aead base64 entityKey stored
  some (bytes >>= toText)

def Sealed.unsealJsonOrPanic {T : Type} (json : SerdeJson T) (entityKey : Key)
    (stored : String) : Option (CryptoResult T) := do
  let text ← unsealStringOrPanic aead base64 entityKey stored
  some (text >>= parseJson json)

def Sealed.tryUnsealJsonOrPanic {T : Type} (json : SerdeJson T) (entityKey : Key)
    (stored : String) : Option (CryptoResult T) := do
  let text ← tryUnsealStringOrPanic aead base64 entityKey stored
  some (text >>= parseJson json)

theorem Sealed.unsealStringOrPanic_eq (entityKey : Key) (stored : String) :
    unsealStringOrPanic aead base64 entityKey stored =
      some (unsealString aead base64 entityKey stored) := by
  rw [unsealStringOrPanic, unsealBytesOrPanic_eq]
  rfl

theorem Sealed.tryUnsealStringOrPanic_eq (entityKey : Key) (stored : String) :
    tryUnsealStringOrPanic aead base64 entityKey stored =
      some (tryUnsealString aead base64 entityKey stored) := by
  rw [tryUnsealStringOrPanic, tryUnsealBytesOrPanic, tryUnsealString, tryUnsealBytes]
  by_cases sealed : startsWith e2eePrefix stored
  · rw [if_pos sealed, if_pos sealed, unsealBytesOrPanic_eq]
    rfl
  · rw [if_neg sealed, if_neg sealed]
    rfl

theorem Sealed.unsealJsonOrPanic_eq {T : Type} (json : SerdeJson T) (entityKey : Key)
    (stored : String) :
    unsealJsonOrPanic aead base64 json entityKey stored =
      some (unsealJson aead base64 json entityKey stored) := by
  rw [unsealJsonOrPanic, unsealStringOrPanic_eq]
  rfl

theorem Sealed.tryUnsealJsonOrPanic_eq {T : Type} (json : SerdeJson T) (entityKey : Key)
    (stored : String) :
    tryUnsealJsonOrPanic aead base64 json entityKey stored =
      some (tryUnsealJson aead base64 json entityKey stored) := by
  rw [tryUnsealJsonOrPanic, tryUnsealStringOrPanic_eq]
  rfl

end Unsealing

/-- `parse_recovery_key`: each pair of digits is sliced out of the filtered text. -/
def Keys.parseRecoveryKeyOrPanic (formatted : String) : Option (Except String Bytes) :=
  let clean := String.ofList (formatted.toList.filter Hex.isAsciiHexdigit)
  let width := (asBytes clean).length
  if width ≠ 64 then
    some (.error ("Invalid recovery key: expected 64 hex chars, got " ++ toString width))
  else do
    let pair (index : Fin 32) : ExceptT ParseIntError Option UInt8 :=
      (sliceStr clean (index.val * 2) (index.val * 2 + 2)).map fun digits =>
        fromStrRadix digits.toList 16
    let bytes ← ((List.finRange 32).mapM pair).run
    match bytes with
    | .error e => some (.error ("Invalid recovery key hex: " ++ e.toText))
    | .ok bytes => some (.ok bytes)

theorem Keys.parseRecoveryKeyOrPanic_eq (formatted : String) :
    parseRecoveryKeyOrPanic formatted = some (parseRecoveryKey formatted) := by
  have width : (asBytes (String.ofList (formatted.toList.filter Hex.isAsciiHexdigit))).length =
      (cleaned formatted).len := (cleaned formatted).length_asBytes
  by_cases sixtyFour : (cleaned formatted).len = 64
  · -- The filtered text is ASCII, so each of its 32 slices starts and stops on a boundary.
    have loop := Panics.mapM_some
      (fun index : Fin 32 => (sliceStr (cleaned formatted).toText (index.val * 2)
        (index.val * 2 + 2)).map fun digits => fromStrRadix digits.toList 16)
      (fun index : Fin 32 => fromStrRadix ((cleaned formatted).slice (index.val * 2)
        (index.val * 2 + 2) (by omega) (by omega)).val 16)
      (fun index => by
        rw [sliceStr_ascii _ _ _ (by omega) (by omega), Option.map_some, Ascii.toText,
          String.toList_ofList]
        rfl)
      (List.finRange 32)
    rw [parseRecoveryKey, dif_neg (not_not_intro sixtyFour), parseRecoveryKeyOrPanic]
    simp only [width, sixtyFour, ne_eq, not_true_eq_false, if_false]
    refine (congrArg (fun read => Option.bind read _) loop).trans ?_
    cases (List.finRange 32).mapM fun index : Fin 32 =>
        fromStrRadix ((cleaned formatted).slice (index.val * 2) (index.val * 2 + 2) (by omega)
          (by omega)).val 16 <;> rfl
  · rw [parseRecoveryKey_other_length formatted sixtyFour, parseRecoveryKeyOrPanic]
    simp only [width, ne_eq, sixtyFour, not_false_eq_true, if_true]

end IncokitE2ee
