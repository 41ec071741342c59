import IncokitE2ee.Encryption
import IncokitE2ee.RecoveryKey
import IncokitE2ee.Reference

set_option autoImplicit false

/- The recovery path: a typed recovery key, stretched and used to unwrap the
master key. -/
namespace IncokitE2ee.Recovery

variable (utf8Text : Bytes → String) (aead : Aead Key Nonce) (argon2 : Argon2)

/-- `parse_recovery_key`, `derive_key` and `unwrap_master_key` in turn. The
first fails with a text, so the others' errors are turned into theirs. -/
def recover (salt wrapped : Bytes) (typed : String) : Except String Key := do
  let recoveryKey ← Keys.parseRecoveryKey typed
  let derivedKey ← (Encryption.deriveKey argon2 recoveryKey salt).mapError
    (CryptoError.toText utf8Text)
  (Encryption.unwrapMasterKey aead derivedKey wrapped).mapError (CryptoError.toText utf8Text)

/-- For this salt no two 32-byte inputs stretch to one key. -/
def DeriveInjective (salt : Bytes) : Prop :=
  ∀ input other key, input.length = 32 → other.length = 32 →
    Encryption.deriveKey argon2 input salt = .ok key →
    Encryption.deriveKey argon2 other salt = .ok key → input = other

theorem mapError_eq_ok_iff {ε ε' α : Type} (toText : ε → ε') (result : Except ε α) (value : α) :
    result.mapError toText = .ok value ↔ result = .ok value := by
  cases result with
  | error error =>
      constructor
      · intro impossible
        cases impossible
      · intro impossible
        cases impossible
  | ok found =>
      constructor
      · intro success
        cases success
        rfl
      · intro success
        cases success
        rfl

theorem recover_eq_ok_iff (salt wrapped : Bytes) (typed : String) (masterKey : Key) :
    recover utf8Text aead argon2 salt wrapped typed = .ok masterKey ↔
      ∃ input key, Keys.parseRecoveryKey typed = .ok input ∧
        Encryption.deriveKey argon2 input salt = .ok key ∧
        Encryption.unwrapMasterKey aead key wrapped = .ok masterKey := by
  rw [recover, bind_eq_ok_iff]
  simp only [bind_eq_ok_iff, mapError_eq_ok_iff]
  constructor
  · rintro ⟨input, parsed, key, derived, unwrapped⟩
    exact ⟨input, key, parsed, derived, unwrapped⟩
  · rintro ⟨input, key, parsed, derived, unwrapped⟩
    exact ⟨input, parsed, key, derived, unwrapped⟩

/-- Recovery succeeds only with the digits of the recovery key. -/
theorem hexDigits_of_recover (inverts : aead.Inverts) (overhead : aead.Overhead 16)
    {recoveryKey derivedKey masterKey : Key} {salt wrapped : Bytes} {nonce : Nonce}
    (derived : Encryption.deriveKey argon2 recoveryKey.val salt = .ok derivedKey)
    (injective : DeriveInjective argon2 salt)
    (rejects : aead.RejectsElsewhere derivedKey nonce masterKey.val)
    (wrapping : Encryption.wrapMasterKey aead derivedKey nonce masterKey = .ok wrapped)
    {typed : String} {found : Key}
    (recovered : recover utf8Text aead argon2 salt wrapped typed = .ok found) :
    Keys.hexDigits typed = Keys.hexDigits (Keys.formatRecoveryKey recoveryKey) ∧
      found = masterKey := by
  obtain ⟨input, key, parsed, stretched, unwrapped⟩ :=
    (recover_eq_ok_iff utf8Text aead argon2 salt wrapped typed found).mp recovered
  obtain ⟨size, digits⟩ := (Keys.parseRecoveryKey_eq_ok_iff typed input).mp parsed
  by_cases sameKey : key = derivedKey
  · subst sameKey
    have sameInput := injective input recoveryKey.val key size recoveryKey.property stretched
      derived
    rw [Encryption.unwrapMasterKey_wrapMasterKey aead inverts overhead wrapping] at unwrapped
    rw [digits, sameInput, Keys.hexDigits_formatRecoveryKey]
    exact ⟨rfl, (Except.ok.inj unwrapped).symm⟩
  · rw [Encryption.unwrapMasterKey_other_key aead overhead rejects wrapping sameKey] at unwrapped
    cases unwrapped

/-- The recovery path, over every text that may be typed. -/
theorem recovery_path (inverts : aead.Inverts) (overhead : aead.Overhead 16)
    (recoveryKey derivedKey masterKey : Key) (salt wrapped : Bytes) (nonce : Nonce)
    (derived : Encryption.deriveKey argon2 recoveryKey.val salt = .ok derivedKey)
    (injective : DeriveInjective argon2 salt)
    (rejects : aead.RejectsElsewhere derivedKey nonce masterKey.val)
    (wrapping : Encryption.wrapMasterKey aead derivedKey nonce masterKey = .ok wrapped) :
    ∀ typed : String,
      (recover utf8Text aead argon2 salt wrapped typed = .ok masterKey ↔
        Keys.hexDigits typed = Keys.hexDigits (Keys.formatRecoveryKey recoveryKey)) ∧
      (Keys.hexDigits typed ≠ Keys.hexDigits (Keys.formatRecoveryKey recoveryKey) →
        Failed (recover utf8Text aead argon2 salt wrapped typed)) := by
  intro typed
  have only : ∀ found, recover utf8Text aead argon2 salt wrapped typed = .ok found →
      Keys.hexDigits typed = Keys.hexDigits (Keys.formatRecoveryKey recoveryKey) := by
    intro found recovered
    exact (hexDigits_of_recover utf8Text aead argon2 inverts overhead derived injective rejects
      wrapping recovered).1
  refine ⟨⟨only masterKey, ?_⟩, ?_⟩
  · intro digits
    rw [Keys.hexDigits_formatRecoveryKey] at digits
    apply (recover_eq_ok_iff utf8Text aead argon2 salt wrapped typed masterKey).mpr
    exact ⟨recoveryKey.val, derivedKey,
      (Keys.parseRecoveryKey_eq_ok_iff typed _).mpr ⟨recoveryKey.property, digits⟩, derived,
      Encryption.unwrapMasterKey_wrapMasterKey aead inverts overhead wrapping⟩
  · intro mistyped
    cases outcome : recover utf8Text aead argon2 salt wrapped typed with
    | error error => exact failed_error error
    | ok found => exact absurd (only found outcome) mistyped

theorem passwordArgon2_injective (salt : Bytes) :
    DeriveInjective Reference.passwordArgon2 salt := by
  intro input other key size size' first second
  simp only [Encryption.deriveKey, Reference.passwordArgon2, dif_pos size, dif_pos size',
    Except.ok.injEq] at first second
  exact congrArg Subtype.val (first.trans second.symm)

/-- The recovery key `ABAB…`, typed in lower case, ungrouped and between blanks. -/
def typedSample : String :=
  " abababababababababababababababab abababababababababababababababab\n"

theorem recovery_path_sample :
    recover (fun _ => "") (Reference.markedAead (FixedBytes.fill 32 0xAB)) Reference.passwordArgon2
      (List.replicate 32 1)
      (Reference.nonce.val ++ (Reference.key.val ++ List.replicate 16 0)) typedSample =
        .ok Reference.key := by
  have digits : Keys.hexDigits typedSample =
      Keys.hexDigits (Keys.formatRecoveryKey (FixedBytes.fill 32 0xAB)) := by
    rw [Keys.hexDigits_formatRecoveryKey]
    decide
  exact ((recovery_path (fun _ => "") _ _ (Reference.markedAead_exact _).inverts
    (Reference.markedAead_overhead _) (FixedBytes.fill 32 0xAB) (FixedBytes.fill 32 0xAB)
    Reference.key _ _ Reference.nonce rfl (passwordArgon2_injective _)
    (Reference.markedAead_rejectsElsewhere _ _ _) rfl) typedSample).1.mpr digits

end IncokitE2ee.Recovery
