import IncokitE2ee.Crates
import IncokitE2ee.Error

set_option autoImplicit false

/- `encryption.rs`: AES-256-GCM framing, Argon2id stretching and the wrapping
of the master key. The nonce drawn from the thread's generator is an argument. -/
namespace IncokitE2ee.Encryption

variable (aead : Aead Key Nonce)

/-- `Aes256Gcm::new_from_slice`: a cipher for a 32-byte slice, nothing else. -/
def newFromSlice (key : Bytes) : Option Key :=
  if width : key.length = 32 then some ⟨key, width⟩ else none

@[simp] theorem newFromSlice_key (key : Key) : newFromSlice key.val = some key := by
  rw [newFromSlice, dif_pos key.property]

/-- Returns `nonce (12 bytes) || ciphertext || tag (16 bytes)`. -/
def encrypt (key : Key) (nonce : Nonce) (plaintext : Bytes) : CryptoResult Bytes :=
  match newFromSlice key.val with
  | none => .error (.invalidKeyLength 32 key.val.length)
  | some cipher =>
      match aead.encrypt cipher nonce plaintext with
      | none => .error .encrypt
      | some ciphertext => .ok (nonce.val ++ ciphertext)

/-- The length test comes first, and is what makes the nonce a full one. -/
def decrypt (key : Key) (data : Bytes) : CryptoResult Bytes :=
  if short : data.length < 12 + 16 then
    .error (.ciphertextTooShort (12 + 16) data.length)
  else
    match newFromSlice key.val with
    | none => .error (.invalidKeyLength 32 key.val.length)
    | some cipher =>
        let nonce : Nonce := ⟨data.take 12, by simp; omega⟩
        let ciphertext := data.drop 12
        match aead.decrypt cipher nonce ciphertext with
        | none => .error .decrypt
        | some plaintext => .ok plaintext

/-- The length check and `copy_from_slice` that every unwrapping function makes. -/
def toKey (plaintext : Bytes) : CryptoResult Key :=
  if width : plaintext.length = 32 then .ok ⟨plaintext, width⟩
  else .error (.invalidKeyLength 32 plaintext.length)

/-- Argon2id: 64 MiB of memory, 3 iterations, 4 lanes, 32 bytes out. -/
def deriveKey (argon2 : Argon2) (input salt : Bytes) : CryptoResult Key :=
  match argon2.newParams 65536 3 4 (some 32) with
  | .error message => .error (.argon2Params message)
  | .ok params =>
      match argon2.hashPasswordInto .argon2id .v0x13 params input salt with
      | .error message => .error (.argon2Hash message)
      | .ok key => .ok key

def wrapMasterKey (derivedKey : Key) (nonce : Nonce) (masterKey : Key) : CryptoResult Bytes :=
  encrypt aead derivedKey nonce masterKey.val

def unwrapMasterKey (derivedKey : Key) (wrapped : Bytes) : CryptoResult Key := do
  let plaintext ← decrypt aead derivedKey wrapped
  toKey plaintext

theorem encrypt_eq (key : Key) (nonce : Nonce) (plaintext : Bytes) :
    encrypt aead key nonce plaintext =
      match aead.encrypt key nonce plaintext with
      | none => .error .encrypt
      | some ciphertext => .ok (nonce.val ++ ciphertext) := by
  rw [encrypt, newFromSlice_key]

theorem encrypt_eq_ok_iff (key : Key) (nonce : Nonce) (plaintext data : Bytes) :
    encrypt aead key nonce plaintext = .ok data ↔
      ∃ ciphertext, aead.encrypt key nonce plaintext = some ciphertext ∧
        data = nonce.val ++ ciphertext := by
  rw [encrypt_eq]
  cases aead.encrypt key nonce plaintext <;> simp [eq_comm]

theorem decrypt_short (key : Key) (data : Bytes) (short : data.length < 28) :
    decrypt aead key data = .error (.ciphertextTooShort 28 data.length) := by
  rw [decrypt, dif_pos short]

/-- Past the length test the first twelve bytes are the nonce. -/
theorem decrypt_append (key : Key) (nonce : Nonce) (ciphertext : Bytes)
    (long : 16 ≤ ciphertext.length) :
    decrypt aead key (nonce.val ++ ciphertext) =
      match aead.decrypt key nonce ciphertext with
      | none => .error .decrypt
      | some plaintext => .ok plaintext := by
  have width := nonce.property
  have notShort : ¬ (nonce.val ++ ciphertext).length < 12 + 16 := by
    simp only [List.length_append]
    omega
  have front : (⟨(nonce.val ++ ciphertext).take 12, by simp; omega⟩ : Nonce) = nonce :=
    Subtype.ext (List.take_left' width)
  rw [decrypt, dif_neg notShort, newFromSlice_key]
  simp only [front, List.drop_left' width]

/-- Any data past the length test splits into a nonce and a ciphertext. -/
theorem exists_split (data : Bytes) (long : 28 ≤ data.length) :
    ∃ (nonce : Nonce) (ciphertext : Bytes), data = nonce.val ++ ciphertext ∧
      16 ≤ ciphertext.length :=
  ⟨⟨data.take 12, by simp; omega⟩, data.drop 12, (List.take_append_drop 12 data).symm,
    by simp; omega⟩

/-- Decryption fails in two ways only. -/
theorem decrypt_error {key : Key} {data : Bytes} {error : CryptoError}
    (failed : decrypt aead key data = .error error) :
    error = .ciphertextTooShort 28 data.length ∨ error = .decrypt := by
  by_cases short : data.length < 28
  · rw [decrypt_short aead key data short, Except.error.injEq] at failed
    exact .inl failed.symm
  · obtain ⟨nonce, ciphertext, rfl, long⟩ := exists_split data (Nat.le_of_not_lt short)
    rw [decrypt_append aead key nonce ciphertext long] at failed
    cases opened : aead.decrypt key nonce ciphertext with
    | none =>
        simp only [opened, Except.error.injEq] at failed
        exact .inr failed.symm
    | some plaintext => simp [opened] at failed

theorem decrypt_eq_ok_iff (key : Key) (data plaintext : Bytes) :
    decrypt aead key data = .ok plaintext ↔
      ∃ (nonce : Nonce) (ciphertext : Bytes), data = nonce.val ++ ciphertext ∧
        16 ≤ ciphertext.length ∧ aead.decrypt key nonce ciphertext = some plaintext := by
  constructor
  · intro opened
    by_cases short : data.length < 28
    · rw [decrypt_short aead key data short] at opened
      cases opened
    · obtain ⟨nonce, ciphertext, rfl, long⟩ := exists_split data (by omega)
      refine ⟨nonce, ciphertext, rfl, long, ?_⟩
      rw [decrypt_append aead key nonce ciphertext long] at opened
      cases inner : aead.decrypt key nonce ciphertext with
      | none => simp [inner] at opened
      | some found =>
          simp only [inner, Except.ok.injEq] at opened
          rw [opened]
  · rintro ⟨nonce, ciphertext, rfl, long, opened⟩
    rw [decrypt_append aead key nonce ciphertext long, opened]

/-- The length decides which of the two it is. -/
theorem decrypt_eq_error_iff (key : Key) (data : Bytes) (error : CryptoError) :
    decrypt aead key data = .error error ↔
      (data.length < 28 ∧ error = .ciphertextTooShort 28 data.length) ∨
        ∃ (nonce : Nonce) (ciphertext : Bytes), data = nonce.val ++ ciphertext ∧
          16 ≤ ciphertext.length ∧ aead.decrypt key nonce ciphertext = none ∧ error = .decrypt := by
  by_cases short : data.length < 28
  · rw [decrypt_short aead key data short, Except.error.injEq]
    constructor
    · intro same
      exact .inl ⟨short, same.symm⟩
    · rintro (⟨-, same⟩ | ⟨nonce, ciphertext, rfl, long, -⟩)
      · exact same.symm
      · have width := nonce.property
        rw [List.length_append] at short
        omega
  · obtain ⟨nonce, ciphertext, rfl, long⟩ := exists_split data (Nat.le_of_not_lt short)
    rw [decrypt_append aead key nonce ciphertext long]
    constructor
    · intro failed
      refine .inr ⟨nonce, ciphertext, rfl, long, ?_⟩
      cases opened : aead.decrypt key nonce ciphertext with
      | none =>
          simp only [opened, Except.error.injEq] at failed
          exact ⟨rfl, failed.symm⟩
      | some plaintext => simp [opened] at failed
    · rintro (⟨short', -⟩ | ⟨nonce', ciphertext', same, -, refused, rfl⟩)
      · exact absurd short' short
      · obtain ⟨rfl, rfl⟩ := FixedBytes.append_inj same
        rw [refused]

/-- What `encrypt` returns opens to what it was given. -/
theorem decrypt_encrypt (overhead : aead.Overhead 16) {key : Key} {nonce : Nonce}
    {plaintext data : Bytes} (opens : aead.OpensBack key nonce plaintext)
    (sealing : encrypt aead key nonce plaintext = .ok data) :
    decrypt aead key data = .ok plaintext := by
  obtain ⟨ciphertext, produced, rfl⟩ := (encrypt_eq_ok_iff aead key nonce plaintext data).mp sealing
  have width := overhead key nonce plaintext ciphertext produced
  exact (decrypt_eq_ok_iff aead key _ plaintext).mpr
    ⟨nonce, ciphertext, rfl, by omega, opens ciphertext produced⟩

/-- Opening is exact whenever the AEAD is. -/
theorem decrypt_eq_ok_iff_encrypt (exactness : aead.Exact) (overhead : aead.Overhead 16)
    (key : Key) (data plaintext : Bytes) :
    decrypt aead key data = .ok plaintext ↔
      ∃ nonce, encrypt aead key nonce plaintext = .ok data := by
  constructor
  · intro opened
    obtain ⟨nonce, ciphertext, rfl, -, inner⟩ :=
      (decrypt_eq_ok_iff aead key data plaintext).mp opened
    refine ⟨nonce, (encrypt_eq_ok_iff aead key nonce plaintext _).mpr ⟨ciphertext, ?_, rfl⟩⟩
    exact (exactness key nonce plaintext ciphertext).mp inner
  · rintro ⟨nonce, sealing⟩
    exact decrypt_encrypt aead overhead (exactness.inverts key nonce plaintext) sealing

/-- Where an AEAD opens only what the ledger records, so does `decrypt`. -/
theorem recorded_of_decrypt {aead : Aead.Symbolic Key Nonce} (produced : aead.OpensOnlyProduced)
    {ledger : List (Aead.Encryption Key Nonce)} {key : Key} {data plaintext : Bytes}
    (opened : decrypt (aead.after ledger) key data = .ok plaintext) :
    ∃ nonce, ⟨key, nonce, plaintext⟩ ∈ ledger ∧
      encrypt (aead.after ledger) key nonce plaintext = .ok data := by
  obtain ⟨nonce, ciphertext, rfl, -, inner⟩ := (decrypt_eq_ok_iff _ key data plaintext).mp opened
  have recorded := produced ledger key nonce plaintext ciphertext inner
  exact ⟨nonce, recorded.1, (encrypt_eq_ok_iff _ key nonce plaintext _).mpr
    ⟨ciphertext, recorded.2, rfl⟩⟩

/-- A key the AEAD's ciphertext does not open under gives `Decrypt`. -/
theorem decrypt_other_key (overhead : aead.Overhead 16) {key other : Key} {nonce : Nonce}
    {plaintext data : Bytes} (rejects : aead.RejectsElsewhere key nonce plaintext)
    (sealing : encrypt aead key nonce plaintext = .ok data) (different : other ≠ key) :
    decrypt aead other data = .error .decrypt := by
  obtain ⟨ciphertext, produced, rfl⟩ := (encrypt_eq_ok_iff aead key nonce plaintext data).mp sealing
  have width := overhead key nonce plaintext ciphertext produced
  rw [decrypt_append aead other nonce ciphertext (by omega),
    rejects ciphertext produced other different]

@[simp] theorem toKey_val (key : Key) : toKey key.val = .ok key := by
  rw [toKey, dif_pos key.property]

theorem toKey_eq_ok_iff (plaintext : Bytes) (key : Key) :
    toKey plaintext = .ok key ↔ plaintext = key.val := by
  constructor
  · intro copied
    unfold toKey at copied
    split at copied
    · cases copied
      rfl
    · cases copied
  · rintro rfl
    exact toKey_val key

/-- A key that was encrypted as a plaintext is decrypted and copied back. -/
theorem decrypt_toKey_encrypt (overhead : aead.Overhead 16) {wrappingKey payload : Key}
    {nonce : Nonce} {data : Bytes} (opens : aead.OpensBack wrappingKey nonce payload.val)
    (wrapping : encrypt aead wrappingKey nonce payload.val = .ok data) :
    (decrypt aead wrappingKey data >>= toKey) = .ok payload := by
  have decrypted := decrypt_encrypt aead overhead opens wrapping
  rw [decrypted, bind_ok, toKey_val]

/-- Unwrapping gives the wrapped master key under the same derived key. -/
theorem unwrapMasterKey_wrapMasterKey (inverts : aead.Inverts) (overhead : aead.Overhead 16)
    {key masterKey : Key} {nonce : Nonce} {wrapped : Bytes}
    (wrapping : wrapMasterKey aead key nonce masterKey = .ok wrapped) :
    unwrapMasterKey aead key wrapped = .ok masterKey :=
  decrypt_toKey_encrypt aead overhead (inverts key nonce masterKey.val) wrapping

/-- Under any other derived key the wrapped master key does not open. -/
theorem unwrapMasterKey_other_key (overhead : aead.Overhead 16) {key other masterKey : Key}
    {nonce : Nonce} {wrapped : Bytes} (rejects : aead.RejectsElsewhere key nonce masterKey.val)
    (wrapping : wrapMasterKey aead key nonce masterKey = .ok wrapped)
    (different : other ≠ key) :
    unwrapMasterKey aead other wrapped = .error .decrypt := by
  have refused := decrypt_other_key aead overhead rejects wrapping different
  rw [unwrapMasterKey, refused, bind_error]

end IncokitE2ee.Encryption
