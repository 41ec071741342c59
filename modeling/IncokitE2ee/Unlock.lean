import IncokitE2ee.Oprf
import IncokitE2ee.Recovery
import IncokitE2ee.Transition

set_option autoImplicit false

/- Master keys wrapped for PINs and recovery keys, and unlocked again by any
user, with a salt, an evaluation and a blob that the server chooses. -/
namespace IncokitE2ee.Unlock

/-- What a master key is wrapped for. -/
inductive Secret where
  | plainPin (pin : String)
  | blindedPin (userId pin : String) (evaluated : Bytes)
  | recoveryKey (key : Key)

/-- What is at hand when it is unwrapped. -/
inductive Attempt where
  | plainPin (pin : String)
  | blindedPin (userId pin : String) (evaluated : Bytes)
  | typed (text : String)

section Calls

variable (utf8Text : Bytes → String) (sha256 : Bytes → FixedBytes 32)
variable (aead : Aead Key Nonce) (argon2 : Argon2)

/-- The bytes that Argon2 stretches. -/
def Secret.input : Secret → Bytes
  | .plainPin pin => asBytes pin
  | .blindedPin userId pin evaluated => Oprf.finalize sha256 userId pin evaluated
  | .recoveryKey key => key.val

def Attempt.input : Attempt → Except String Bytes
  | .plainPin pin => .ok (asBytes pin)
  | .blindedPin userId pin evaluated => .ok (Oprf.finalize sha256 userId pin evaluated)
  | .typed text => Keys.parseRecoveryKey text

/-- `derive_key`, then `wrap_master_key`. -/
def enrol (secret : Secret) (salt : Bytes) (nonce : Nonce) (masterKey : Key) :
    CryptoResult Bytes := do
  let derivedKey ← Encryption.deriveKey argon2 (secret.input sha256) salt
  Encryption.wrapMasterKey aead derivedKey nonce masterKey

/-- `derive_key`, then `unwrap_master_key`, with their errors as texts. -/
def unlock (attempt : Attempt) (salt wrapped : Bytes) : Except String Key := do
  let input ← attempt.input sha256
  let derivedKey ← (Encryption.deriveKey argon2 input salt).mapError (CryptoError.toText utf8Text)
  (Encryption.unwrapMasterKey aead derivedKey wrapped).mapError (CryptoError.toText utf8Text)

/-- With a typed recovery key it is the recovery path. -/
theorem unlock_typed (salt wrapped : Bytes) (text : String) :
    unlock utf8Text sha256 aead argon2 (.typed text) salt wrapped =
      Recovery.recover utf8Text aead argon2 salt wrapped text := rfl

theorem unlock_eq_ok_iff (attempt : Attempt) (salt wrapped : Bytes) (masterKey : Key) :
    unlock utf8Text sha256 aead argon2 attempt salt wrapped = .ok masterKey ↔
      ∃ input key, attempt.input sha256 = .ok input ∧
        Encryption.deriveKey argon2 input salt = .ok key ∧
        Encryption.decrypt aead key wrapped = .ok masterKey.val := by
  simp only [unlock, Encryption.unwrapMasterKey, bind_eq_ok_iff, Recovery.mapError_eq_ok_iff,
    Encryption.toKey_eq_ok_iff]
  constructor
  · rintro ⟨input, read, key, derived, _, decrypted, rfl⟩
    exact ⟨input, key, read, derived, decrypted⟩
  · rintro ⟨input, key, read, derived, decrypted⟩
    exact ⟨input, read, key, derived, _, decrypted, rfl⟩

end Calls

/-- The attempts that open what was wrapped for a secret. Argon2 takes bare bytes,
so a plain PIN and the recovery key of the same 32 bytes open each other's
wrappings. Where a blinded PIN ends and its evaluation begins is not told. -/
def Attempt.Opens : Attempt → Secret → Prop
  | .plainPin pin, .plainPin enrolled => pin = enrolled
  | .plainPin pin, .recoveryKey key => asBytes pin = key.val
  | .blindedPin userId pin evaluated, .blindedPin userId' pin' evaluated' =>
      userId = userId' ∧ asBytes pin ++ evaluated = asBytes pin' ++ evaluated'
  | .typed text, .recoveryKey key =>
      Keys.hexDigits text = Keys.hexDigits (Keys.formatRecoveryKey key)
  | .typed text, .plainPin enrolled =>
      (asBytes enrolled).length = 32 ∧ Keys.hexDigits text = Hex.encodeUpper (asBytes enrolled)
  | _, _ => False

/-- The secret that an attempt is made with, if it is one. -/
inductive Attempt.MadeWith : Attempt → Secret → Prop where
  | plainPin (pin : String) : MadeWith (.plainPin pin) (.plainPin pin)
  | blindedPin (userId pin : String) (evaluated : Bytes) :
      MadeWith (.blindedPin userId pin evaluated) (.blindedPin userId pin evaluated)
  | typed (text : String) (key : Key) (parsed : Keys.parseRecoveryKey text = .ok key.val) :
      MadeWith (.typed text) (.recoveryKey key)

/-- The secrets and the salts that are in use. -/
structure Domain where
  secrets : Secret → Prop
  salts : Bytes → Prop

def Domain.Covers (domain : Domain) (attempt : Attempt) : Prop :=
  ∀ secret, attempt.MadeWith secret → domain.secrets secret

/-- The hashes do not collide on a domain, no PIN or recovery key in it is what
`finalize` returns for one in it, and the lengths of its user ids fit their prefix. -/
structure Separated (sha256 : Bytes → FixedBytes 32) (argon2 : Argon2) (domain : Domain) :
    Prop where
  short : ∀ userId pin evaluated, domain.secrets (.blindedPin userId pin evaluated) →
    (asBytes userId).length < 2 ^ 32
  hashed : ∀ userId pin evaluated userId' pin' evaluated',
    domain.secrets (.blindedPin userId pin evaluated) →
    domain.secrets (.blindedPin userId' pin' evaluated') →
    Oprf.finalize sha256 userId pin evaluated = Oprf.finalize sha256 userId' pin' evaluated' →
    Oprf.finalizeInput userId pin evaluated = Oprf.finalizeInput userId' pin' evaluated'
  unhashed : ∀ userId pin evaluated secret,
    domain.secrets (.blindedPin userId pin evaluated) → domain.secrets secret →
    secret.input sha256 = Oprf.finalize sha256 userId pin evaluated →
    ∃ userId' pin' evaluated', secret = .blindedPin userId' pin' evaluated'
  stretched : ∀ secret other salt salt' key, domain.secrets secret → domain.secrets other →
    domain.salts salt → domain.salts salt' →
    Encryption.deriveKey argon2 (secret.input sha256) salt = .ok key →
    Encryption.deriveKey argon2 (other.input sha256) salt' = .ok key →
    secret.input sha256 = other.input sha256 ∧ salt = salt'

section Inputs

variable (sha256 : Bytes → FixedBytes 32)

theorem finalizeInput_of_opens {userId pin userId' pin' : String} {evaluated evaluated' : Bytes}
    (opens : (Attempt.blindedPin userId pin evaluated).Opens
      (.blindedPin userId' pin' evaluated')) :
    Oprf.finalizeInput userId pin evaluated = Oprf.finalizeInput userId' pin' evaluated' := by
  obtain ⟨rfl, joined⟩ := opens
  rw [Oprf.finalizeInput_eq, Oprf.finalizeInput_eq, joined]

/-- What opens a secret's wrapping is stretched from the secret's own bytes. -/
theorem input_of_opens {attempt : Attempt} {secret : Secret} (opens : attempt.Opens secret) :
    attempt.input sha256 = .ok (secret.input sha256) := by
  cases attempt with
  | plainPin pin =>
      cases secret with
      | plainPin enrolled =>
          obtain rfl : pin = enrolled := opens
          rfl
      | recoveryKey key =>
          have bytes : asBytes pin = key.val := opens
          rw [Attempt.input, Secret.input, bytes]
      | blindedPin _ _ _ => cases opens
  | blindedPin userId pin evaluated =>
      cases secret with
      | blindedPin userId' pin' evaluated' =>
          rw [Attempt.input, Secret.input, Oprf.finalize_eq, Oprf.finalize_eq,
            finalizeInput_of_opens opens]
      | _ => cases opens
  | typed text =>
      cases secret with
      | recoveryKey key =>
          apply (Keys.parseRecoveryKey_eq_ok_iff text key.val).mpr
          exact ⟨key.property, opens.trans (Keys.hexDigits_formatRecoveryKey key)⟩
      | plainPin enrolled => exact (Keys.parseRecoveryKey_eq_ok_iff text _).mpr opens
      | blindedPin _ _ _ => cases opens

/-- An attempt that has bytes to stretch is made with a secret of these bytes. -/
theorem madeWith_of_input {attempt : Attempt} {input : Bytes}
    (read : attempt.input sha256 = .ok input) :
    ∃ secret, attempt.MadeWith secret ∧ secret.input sha256 = input := by
  cases attempt with
  | plainPin pin =>
      cases read
      exact ⟨_, .plainPin pin, rfl⟩
  | blindedPin userId pin evaluated =>
      cases read
      exact ⟨_, .blindedPin userId pin evaluated, rfl⟩
  | typed text =>
      have size := ((Keys.parseRecoveryKey_eq_ok_iff text input).mp read).1
      exact ⟨.recoveryKey ⟨input, size⟩, .typed text ⟨input, size⟩ read, rfl⟩

variable {sha256} {argon2 : Argon2} {domain : Domain} (separated : Separated sha256 argon2 domain)
include separated

/-- Equal bytes open, by cases on both kinds. The hash of a blinded PIN is told
from the bytes of the other two, which are told apart by nothing. -/
theorem opens_of_input {attempt : Attempt} {secret enrolled : Secret}
    (made : attempt.MadeWith secret) (known : domain.secrets secret)
    (known' : domain.secrets enrolled) (same : secret.input sha256 = enrolled.input sha256) :
    attempt.Opens enrolled := by
  cases enrolled with
  | blindedPin userId' pin' evaluated' =>
      obtain ⟨userId, pin, evaluated, rfl⟩ := separated.unhashed _ _ _ secret known' known same
      cases made
      have inputs := separated.hashed _ _ _ _ _ _ known known' same
      rw [Oprf.finalizeInput_eq, Oprf.finalizeInput_eq] at inputs
      have framed := Framing.frame_injective (separated.short _ _ _ known)
        (separated.short _ _ _ known') inputs
      exact ⟨asBytes_injective framed.1, framed.2⟩
  | plainPin enrolled =>
      cases made with
      | plainPin pin => exact asBytes_injective same
      | blindedPin userId pin evaluated =>
          obtain ⟨_, _, _, impossible⟩ := separated.unhashed _ _ _ _ known known' same.symm
          cases impossible
      | typed text key parsed =>
          have bytes : key.val = asBytes enrolled := same
          rw [bytes] at parsed
          exact (Keys.parseRecoveryKey_eq_ok_iff text _).mp parsed
  | recoveryKey key' =>
      cases made with
      | plainPin pin => exact same
      | blindedPin userId pin evaluated =>
          obtain ⟨_, _, _, impossible⟩ := separated.unhashed _ _ _ _ known known' same.symm
          cases impossible
      | typed text key parsed =>
          have digits := ((Keys.parseRecoveryKey_eq_ok_iff text key.val).mp parsed).2
          have bytes : key.val = key'.val := same
          show Keys.hexDigits text = Keys.hexDigits (Keys.formatRecoveryKey key')
          rw [Keys.hexDigits_formatRecoveryKey, digits, bytes]

end Inputs

/-- A master key that was wrapped. -/
structure Enrolment where
  secret : Secret
  salt : Bytes
  masterKey : Key
  wrapped : Bytes

structure State where
  ledger : List (Aead.Encryption Key Nonce)
  /-- The enrolments, newest first. -/
  enrolled : List Enrolment

variable (utf8Text : Bytes → String) (sha256 : Bytes → FixedBytes 32)
variable (aead : Aead.Symbolic Key Nonce) (argon2 : Argon2) (domain : Domain)

/-- An enrolment, or an encryption elsewhere, under a key that is stretched from
no secret of the domain. -/
inductive Step : State → State → Prop where
  | enrol (state : State) (secret : Secret) (salt : Bytes) (nonce : Nonce) (masterKey key : Key)
      (wrapped : Bytes) (known : domain.secrets secret) (salted : domain.salts salt)
      (derived : Encryption.deriveKey argon2 (secret.input sha256) salt = .ok key)
      (enrolled : Unlock.enrol sha256 (aead.after state.ledger) argon2 secret salt nonce masterKey =
        .ok wrapped) :
      Step state
        { ledger := ⟨key, nonce, masterKey.val⟩ :: state.ledger
          enrolled := ⟨secret, salt, masterKey, wrapped⟩ :: state.enrolled }
  | encryptElsewhere (state : State) (entry : Aead.Encryption Key Nonce)
      (apart : ∀ secret salt, domain.secrets secret → domain.salts salt →
        Encryption.deriveKey argon2 (secret.input sha256) salt ≠ .ok entry.key) :
      Step state { state with ledger := entry :: state.ledger }

def system : Transition State where
  start state := state.ledger = [] ∧ state.enrolled = []
  step := Step sha256 aead argon2 domain

structure Wraps (entry : Aead.Encryption Key Nonce) (enrolment : Enrolment) : Prop where
  known : domain.secrets enrolment.secret
  salted : domain.salts enrolment.salt
  derived : Encryption.deriveKey argon2 (enrolment.secret.input sha256) enrolment.salt =
    .ok entry.key
  plaintext : entry.plaintext = enrolment.masterKey.val
  produced : Encryption.encrypt (aead.after []) entry.key entry.nonce entry.plaintext =
    .ok enrolment.wrapped

structure Inv (state : State) : Prop where
  recorded : ∀ entry ∈ state.ledger, ∀ secret salt,
    domain.secrets secret → domain.salts salt →
    Encryption.deriveKey argon2 (secret.input sha256) salt = .ok entry.key →
    ∃ enrolment ∈ state.enrolled, Wraps sha256 aead argon2 domain entry enrolment
  logged : ∀ enrolment ∈ state.enrolled, ∃ entry ∈ state.ledger,
    Wraps sha256 aead argon2 domain entry enrolment

theorem inv_start (state : State) (starts : state.ledger = [] ∧ state.enrolled = []) :
    Inv sha256 aead argon2 domain state := by
  obtain ⟨noLedger, noneEnrolled⟩ := starts
  constructor <;> simp [noLedger, noneEnrolled]

theorem inv_step (state after : State) (inv : Inv sha256 aead argon2 domain state)
    (step : Step sha256 aead argon2 domain state after) : Inv sha256 aead argon2 domain after := by
  cases step with
  | enrol secret salt nonce masterKey key wrapped known salted derived enrolled =>
      have wrapping : Encryption.encrypt (aead.after []) key nonce masterKey.val = .ok wrapped := by
        rw [Unlock.enrol, derived, bind_ok] at enrolled
        exact enrolled
      have wraps : Wraps sha256 aead argon2 domain ⟨key, nonce, masterKey.val⟩
          ⟨secret, salt, masterKey, wrapped⟩ := ⟨known, salted, derived, rfl, wrapping⟩
      constructor
      · intro entry member secret' salt' known' salted' derived'
        rcases List.mem_cons.mp member with rfl | older
        · exact ⟨_, List.mem_cons_self, wraps⟩
        · obtain ⟨enrolment, listed, wraps'⟩ :=
            inv.recorded entry older secret' salt' known' salted' derived'
          exact ⟨enrolment, List.mem_cons_of_mem _ listed, wraps'⟩
      · intro enrolment member
        rcases List.mem_cons.mp member with rfl | older
        · exact ⟨_, List.mem_cons_self, wraps⟩
        · obtain ⟨entry, logged, wraps'⟩ := inv.logged enrolment older
          exact ⟨entry, List.mem_cons_of_mem _ logged, wraps'⟩
  | encryptElsewhere entry apart =>
      constructor
      · intro entry' member secret salt known salted derived
        rcases List.mem_cons.mp member with rfl | older
        · exact absurd derived (apart secret salt known salted)
        · exact inv.recorded entry' older secret salt known salted derived
      · intro enrolment listed
        obtain ⟨entry', logged, wraps⟩ := inv.logged enrolment listed
        exact ⟨entry', List.mem_cons_of_mem _ logged, wraps⟩

theorem inv_reachable (state : State)
    (reachable : (system sha256 aead argon2 domain).Reachable state) :
    Inv sha256 aead argon2 domain state :=
  reachable.invariant (inv_start sha256 aead argon2 domain) (inv_step sha256 aead argon2 domain)

section Unlocking

variable {sha256 aead argon2 domain} (symbolic : aead.OpensProduced) {state : State}
variable (inv : Inv sha256 aead argon2 domain state)
include symbolic inv

/-- An attempt returns what was enrolled for the secret that it is made with. -/
theorem enrolment_of_unlock (separated : Separated sha256 argon2 domain) {attempt : Attempt}
    {salt wrapped : Bytes} {masterKey : Key} (covered : domain.Covers attempt)
    (salted : domain.salts salt)
    (unlocked : unlock utf8Text sha256 (aead.after state.ledger) argon2 attempt salt wrapped =
      .ok masterKey) :
    ∃ enrolment ∈ state.enrolled, attempt.Opens enrolment.secret ∧ enrolment.salt = salt ∧
      enrolment.wrapped = wrapped ∧ enrolment.masterKey = masterKey := by
  obtain ⟨input, key, read, derived, decrypted⟩ :=
    (unlock_eq_ok_iff utf8Text sha256 _ argon2 attempt salt wrapped masterKey).mp unlocked
  obtain ⟨secret, made, rfl⟩ := madeWith_of_input sha256 read
  have known := covered secret made
  obtain ⟨nonce, member, produced⟩ :=
    Encryption.recorded_of_decrypt symbolic.opensOnlyProduced decrypted
  obtain ⟨enrolment, listed, wraps⟩ := inv.recorded _ member secret salt known salted derived
  obtain ⟨sameInput, sameSalt⟩ := separated.stretched secret enrolment.secret salt
    enrolment.salt key known wraps.known salted wraps.salted derived wraps.derived
  exact ⟨enrolment, listed, opens_of_input separated made known wraps.known sameInput,
    sameSalt.symm, Except.ok.inj (wraps.produced.symm.trans produced),
    Subtype.ext wraps.plaintext.symm⟩

/-- What was enrolled is never lost, however many enrolments there were since. -/
theorem unlock_of_enrolment (overhead : aead.Overhead 16) {attempt : Attempt}
    {enrolment : Enrolment} (listed : enrolment ∈ state.enrolled)
    (opens : attempt.Opens enrolment.secret) :
    unlock utf8Text sha256 (aead.after state.ledger) argon2 attempt enrolment.salt
      enrolment.wrapped = .ok enrolment.masterKey := by
  obtain ⟨entry, logged, wraps⟩ := inv.logged enrolment listed
  have decrypted := Encryption.decrypt_encrypt (aead.after state.ledger) (overhead.after _)
    (symbolic.opensBack logged) wraps.produced
  rw [wraps.plaintext] at decrypted
  exact (unlock_eq_ok_iff utf8Text sha256 _ argon2 attempt _ _ _).mpr
    ⟨enrolment.secret.input sha256, entry.key, input_of_opens sha256 opens, wraps.derived,
      decrypted⟩

end Unlocking

/-- With evaluations of one width the PIN is told from the evaluation. -/
theorem opens_iff_of_evaluated (evaluate : Bytes → Bytes) (width : Nat)
    (fixed : ∀ blinded, (evaluate blinded).length = width) (userId pin userId' pin' : String) :
    (Attempt.blindedPin userId pin (evaluate (Oprf.blind sha256 userId pin))).Opens
        (.blindedPin userId' pin' (evaluate (Oprf.blind sha256 userId' pin'))) ↔
      userId = userId' ∧ pin = pin' := by
  constructor
  · rintro ⟨users, joined⟩
    have widths := (fixed (Oprf.blind sha256 userId pin)).trans
      (fixed (Oprf.blind sha256 userId' pin')).symm
    exact ⟨users, asBytes_injective (List.append_inj' joined widths).1⟩
  · rintro ⟨rfl, rfl⟩
    exact ⟨rfl, rfl⟩

/-- Over any run, whatever the server hands over: an attempt returns a master key
exactly when it was enrolled for a secret that it opens, with this salt, as this
blob. With a server whose evaluations have one width, a blinded PIN opens what was
enrolled for this user and this PIN. -/
theorem unlock_exact (symbolic : aead.OpensProduced) (overhead : aead.Overhead 16)
    (separated : Separated sha256 argon2 domain) (state : State)
    (reachable : (system sha256 aead argon2 domain).Reachable state) :
    (∀ attempt salt wrapped masterKey, domain.Covers attempt → domain.salts salt →
      (unlock utf8Text sha256 (aead.after state.ledger) argon2 attempt salt wrapped =
          .ok masterKey ↔
        ∃ enrolment ∈ state.enrolled, attempt.Opens enrolment.secret ∧ enrolment.salt = salt ∧
          enrolment.wrapped = wrapped ∧ enrolment.masterKey = masterKey)) ∧
    ∀ (evaluate : Bytes → Bytes) (width : Nat), (∀ blinded, (evaluate blinded).length = width) →
      (∀ enrolment ∈ state.enrolled, ∀ userId pin evaluated,
        enrolment.secret = .blindedPin userId pin evaluated →
          evaluated = evaluate (Oprf.blind sha256 userId pin)) →
      ∀ userId pin salt wrapped masterKey,
        domain.Covers (.blindedPin userId pin (evaluate (Oprf.blind sha256 userId pin))) →
        domain.salts salt →
        (unlock utf8Text sha256 (aead.after state.ledger) argon2
            (.blindedPin userId pin (evaluate (Oprf.blind sha256 userId pin))) salt wrapped =
              .ok masterKey ↔
          ⟨.blindedPin userId pin (evaluate (Oprf.blind sha256 userId pin)), salt, masterKey,
            wrapped⟩ ∈ state.enrolled) := by
  have inv := inv_reachable sha256 aead argon2 domain state reachable
  have exactly : ∀ attempt salt wrapped masterKey, domain.Covers attempt → domain.salts salt →
      (unlock utf8Text sha256 (aead.after state.ledger) argon2 attempt salt wrapped =
          .ok masterKey ↔
        ∃ enrolment ∈ state.enrolled, attempt.Opens enrolment.secret ∧ enrolment.salt = salt ∧
          enrolment.wrapped = wrapped ∧ enrolment.masterKey = masterKey) := by
    intro attempt salt wrapped masterKey covered salted
    constructor
    · intro unlocked
      exact enrolment_of_unlock utf8Text symbolic inv separated covered salted unlocked
    · rintro ⟨enrolment, listed, opens, rfl, rfl, rfl⟩
      exact unlock_of_enrolment utf8Text symbolic inv overhead listed opens
  refine ⟨exactly, ?_⟩
  intro evaluate width fixed evaluations userId pin salt wrapped masterKey covered salted
  rw [exactly _ salt wrapped masterKey covered salted]
  constructor
  · rintro ⟨⟨secret, salt, masterKey, wrapped⟩, listed, opens, rfl, rfl, rfl⟩
    cases secret with
    | blindedPin userId' pin' evaluated =>
        obtain rfl := evaluations _ listed userId' pin' evaluated rfl
        obtain ⟨rfl, rfl⟩ := (opens_iff_of_evaluated sha256 evaluate width fixed _ _ _ _).mp opens
        exact listed
    | _ => cases opens
  · intro listed
    exact ⟨_, listed, (opens_iff_of_evaluated sha256 evaluate width fixed _ _ _ _).mpr ⟨rfl, rfl⟩,
      rfl, rfl, rfl⟩

section ReferenceRun

/-- The last 32 bytes of what it is fed. -/
def lastBytes (fed : Bytes) : FixedBytes 32 :=
  ⟨(List.replicate 32 0 ++ fed).drop fed.length, by
    rw [List.length_drop, List.length_append, List.length_replicate]
    omega⟩

/-- Two users with one PIN, and a server that answers everybody the same. -/
def sampleSecret (second : Bool) : Secret :=
  .blindedPin (if second then "bob" else "alice") "1" [9]

def sampleDomain : Domain where
  secrets secret := ∃ second, secret = sampleSecret second
  salts salt := salt = [1]

theorem sampleDomain_separated : Separated lastBytes Reference.passwordArgon2 sampleDomain where
  short := by
    rintro _ _ _ ⟨second, same⟩
    cases same
    cases second <;> decide
  hashed := by
    rintro _ _ _ _ _ _ ⟨second, same⟩ ⟨second', same'⟩
    cases same
    cases same'
    cases second <;> cases second' <;> decide
  unhashed := by
    intro _ _ _ secret _ known _
    obtain ⟨second, same⟩ := known
    exact ⟨_, _, _, same⟩
  stretched := by
    rintro _ _ _ _ key ⟨second, rfl⟩ ⟨second', rfl⟩ rfl rfl derived derived'
    exact ⟨Recovery.passwordArgon2_injective [1] _ _ key (lastBytes _).property
      (lastBytes _).property derived derived', rfl⟩

def sampleKey (second : Bool) : Key :=
  lastBytes (Oprf.finalizeInput (if second then "bob" else "alice") "1" [9])

def sampleMaster (second : Bool) : Key := FixedBytes.fill 32 (if second then 2 else 1)

def sampleWrapped (second : Bool) : Bytes :=
  Reference.nonce.val ++ ((sampleMaster second).val ++ List.replicate 16 0)

def sampleEnrolment (second : Bool) : Enrolment :=
  ⟨sampleSecret second, [1], sampleMaster second, sampleWrapped second⟩

theorem sampleKey_derived (second : Bool) :
    Encryption.deriveKey Reference.passwordArgon2 ((sampleSecret second).input lastBytes) [1] =
      .ok (sampleKey second) := by
  have size : ((sampleSecret second).input lastBytes).length = 32 := (sampleKey second).property
  simp only [Encryption.deriveKey, Reference.passwordArgon2, dif_pos size]
  rfl

def enrolled : State where
  ledger := [⟨sampleKey true, Reference.nonce, (sampleMaster true).val⟩,
    ⟨sampleKey false, Reference.nonce, (sampleMaster false).val⟩]
  enrolled := [sampleEnrolment true, sampleEnrolment false]

theorem enrolled_reachable :
    (system lastBytes Reference.symbolicAead Reference.passwordArgon2 sampleDomain).Reachable
      enrolled := by
  have wrapping : ∀ ledger second, Unlock.enrol lastBytes (Reference.symbolicAead.after ledger)
      Reference.passwordArgon2 (sampleSecret second) [1] Reference.nonce (sampleMaster second) =
        .ok (sampleWrapped second) := by
    intro ledger second
    rw [enrol, sampleKey_derived, bind_ok]
    exact (Encryption.encrypt_eq_ok_iff _ _ _ _ _).mpr ⟨_, rfl, rfl⟩
  have start : (system lastBytes Reference.symbolicAead Reference.passwordArgon2
      sampleDomain).Reachable ⟨[], []⟩ := .of_start ⟨rfl, rfl⟩
  have first := start.next (.enrol _ (sampleSecret false) [1] Reference.nonce (sampleMaster false)
    _ _ ⟨false, rfl⟩ rfl (sampleKey_derived false) (wrapping [] false))
  have second := first.next (.enrol _ (sampleSecret true) [1] Reference.nonce (sampleMaster true)
    _ _ ⟨true, rfl⟩ rfl (sampleKey_derived true) (wrapping _ true))
  exact second

/-- The second user's PIN does not open the first user's blob. -/
theorem unlock_exact_users :
    unlock (fun _ => "") lastBytes (Reference.symbolicAead.after enrolled.ledger)
        Reference.passwordArgon2 (.blindedPin "alice" "1" [9]) [1] (sampleWrapped false) =
          .ok (sampleMaster false) ∧
      ∀ masterKey, unlock (fun _ => "") lastBytes (Reference.symbolicAead.after enrolled.ledger)
        Reference.passwordArgon2 (.blindedPin "bob" "1" [9]) [1] (sampleWrapped false) ≠
          .ok masterKey := by
  have exactly := (unlock_exact (fun _ => "") _ _ _ _ Reference.symbolicAead_opensProduced
    Reference.symbolicAead_overhead sampleDomain_separated enrolled enrolled_reachable).1
  have covered : ∀ second : Bool, sampleDomain.Covers
      (.blindedPin (if second then "bob" else "alice") "1" [9]) := by
    intro second secret made
    cases made
    exact ⟨second, rfl⟩
  constructor
  · exact (exactly (.blindedPin "alice" "1" [9]) [1] _ _ (covered false) rfl).mpr
      ⟨sampleEnrolment false, .tail _ (.head _), ⟨rfl, rfl⟩, rfl, rfl, rfl⟩
  · intro masterKey unlocked
    obtain ⟨enrolment, listed, opens, -, wrapped, -⟩ :=
      (exactly (.blindedPin "bob" "1" [9]) [1] _ masterKey (covered true) rfl).mp unlocked
    simp only [enrolled, List.mem_cons, List.not_mem_nil, or_false] at listed
    rcases listed with rfl | rfl
    · revert wrapped
      decide
    · exact absurd opens.1 (by decide)

end ReferenceRun

end IncokitE2ee.Unlock
