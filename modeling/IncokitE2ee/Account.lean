import IncokitE2ee.DomainSeparation
import IncokitE2ee.Unlock

set_option autoImplicit false

/- Accounts from the PIN or recovery key that is typed to the fields that are
read: enrolments, sessions that are unlocked with them, and what these encrypt,
on one server that keeps everything and hands out anything. -/
namespace IncokitE2ee.Account

open Unlock (Attempt Enrolment unlock)
open Vault (Made Separated origin)

/-- A successful unlock and the session that it opened. -/
structure Login where
  attempt : Attempt
  session : SessionKey

structure State {Kind Shape : Type} (E : Kind → Type) (T : Shape → Type) where
  vault : Vault.State E T
  enrolled : List Enrolment
  /-- The successful unlocks, newest first. -/
  logins : List Login

variable {Kind Shape : Type} {E : Kind → Type} {T : Shape → Type}
variable [∀ kind, EncryptedEntity (E kind)]
variable (utf8Text : Bytes → String) (sha256 : Bytes → FixedBytes 32)
variable (aead : Aead.Symbolic Key Nonce) (argon2 : Argon2) (base64 : Base64.Engine)
variable (hkdf : Hkdf) (x25519 : X25519) (json : ∀ shape, SerdeJson (T shape))
variable (domain : Unlock.Domain) (keys : Vault.Domain)

/-- A key that PINs and recovery keys are stretched to. -/
def Stretched (key : Key) : Prop :=
  ∃ secret salt, domain.secrets secret ∧ domain.salts salt ∧
    Encryption.deriveKey argon2 (secret.input sha256) salt = .ok key

/-- Entities are sealed with sessions that were unlocked. A stretched key wraps
master keys and is passed to no other call. -/
structure Legal (state : State E T) (call : Producing E T) : Prop where
  covered : keys.Covers (origin x25519 call.source)
  unlocked : ∀ session ns id, call.source = .entity session ns id →
    ∃ login ∈ state.logins, login.session = session
  unstretched : ∀ key, call.source = .given key → ¬ Stretched sha256 argon2 domain key

inductive Step : State E T → State E T → Prop where
  | enrol (state : State E T) (secret : Unlock.Secret) (salt : Bytes) (nonce : Nonce)
      (masterKey key : Key) (wrapped : Bytes) (known : domain.secrets secret)
      (salted : domain.salts salt)
      (derived : Encryption.deriveKey argon2 (secret.input sha256) salt = .ok key)
      (success : Unlock.enrol sha256 (aead.after state.vault.ledger) argon2 secret salt nonce
        masterKey = .ok wrapped) :
      Step state
        { state with
          vault :=
            { ledger := ⟨key, nonce, masterKey.val⟩ :: state.vault.ledger
              made := ⟨.wrapMasterKey key masterKey, nonce, .blob wrapped⟩ :: state.vault.made }
          enrolled := ⟨secret, salt, masterKey, wrapped⟩ :: state.enrolled }
  | logIn (state : State E T) (attempt : Attempt) (salt wrapped : Bytes) (masterKey : Key)
      (covered : domain.Covers attempt) (salted : domain.salts salt)
      (success : unlock utf8Text sha256 (aead.after state.vault.ledger) argon2 attempt salt
        wrapped = .ok masterKey) :
      Step state { state with logins := ⟨attempt, .new masterKey⟩ :: state.logins }
  | produce (state : State E T) (call : Producing E T) (nonce : Nonce) (output : Output)
      (key : Key) (plaintext : Bytes)
      (legal : Legal sha256 argon2 x25519 domain keys state call)
      (success : call.run (aead.after state.vault.ledger) base64 hkdf x25519 json nonce =
        .ok output)
      (derived : call.source.key hkdf x25519 = .ok key)
      (written : call.plaintext json = .ok plaintext) :
      Step state
        { state with
          vault :=
            { ledger := ⟨key, nonce, plaintext⟩ :: state.vault.ledger
              made := ⟨call, nonce, output⟩ :: state.vault.made } }

def system : Transition (State E T) where
  start state := state.vault.ledger = [] ∧ state.vault.made = [] ∧ state.enrolled = [] ∧
    state.logins = []
  step := Step utf8Text sha256 aead argon2 base64 hkdf x25519 json domain keys

/-- The hashes and HKDF do not collide. Stretched keys are among those that callers
pass in, which HKDF never returns. -/
structure Apart : Prop where
  unlocking : Unlock.Separated sha256 argon2 domain
  expanded : Separated hkdf keys
  stretched : ∀ key, Stretched sha256 argon2 domain key → keys.given key

/-- A login has the master key that was enrolled for what was typed. -/
def Login.Entitled (enrolled : List Enrolment) (login : Login) (enrolment : Enrolment) : Prop :=
  enrolment ∈ enrolled ∧ login.attempt.Opens enrolment.secret ∧
    login.session = .new enrolment.masterKey

structure Inv (state : State E T) : Prop where
  vault : (Vault.system aead base64 hkdf x25519 json fun call =>
    keys.Covers (origin x25519 call.source)).Reachable state.vault
  unlocking : (Unlock.system sha256 aead argon2 domain).Reachable
    ⟨state.vault.ledger, state.enrolled⟩
  entitled : ∀ login ∈ state.logins, ∃ enrolment, login.Entitled state.enrolled enrolment
  unlocked : ∀ made ∈ state.vault.made, ∀ session ns id,
    made.call.source = .entity session ns id → ∃ login ∈ state.logins, login.session = session

theorem inv_start (state : State E T)
    (starts : state.vault.ledger = [] ∧ state.vault.made = [] ∧ state.enrolled = [] ∧
      state.logins = []) :
    Inv sha256 aead argon2 base64 hkdf x25519 json domain keys state := by
  obtain ⟨noLedger, noneMade, noneEnrolled, noLogins⟩ := starts
  constructor
  · exact .of_start ⟨noLedger, noneMade⟩
  · exact .of_start ⟨noLedger, noneEnrolled⟩
  · simp [noLogins]
  · simp [noneMade]

section Steps

variable {sha256 aead argon2 base64 hkdf x25519 json domain keys}

/-- What a legal call encrypts under is stretched from nothing. -/
theorem Legal.apart (separated : Apart sha256 argon2 hkdf domain keys) {state : State E T}
    {call : Producing E T} (legal : Legal sha256 argon2 x25519 domain keys state call) {key : Key}
    (derived : call.source.key hkdf x25519 = .ok key) :
    ¬ Stretched sha256 argon2 domain key := by
  intro stretched
  have given := separated.stretched key stretched
  have from_origin := (Vault.key_eq_ok_iff hkdf x25519 call.source key).mp derived
  have covered := legal.covered
  cases source : call.source with
  | given key' =>
      rw [source] at derived
      cases derived
      exact legal.unstretched key source stretched
  | entity session ns id =>
      rw [source] at from_origin covered
      exact separated.expanded.apart _ _ key covered.1 covered.2 from_origin given
  | sharing mine theirs =>
      rw [source] at from_origin covered
      exact separated.expanded.apart _ _ key covered.1 covered.2 from_origin given

theorem inv_step (symbolic : aead.OpensProduced)
    (separated : Apart sha256 argon2 hkdf domain keys) (state after : State E T)
    (inv : Inv sha256 aead argon2 base64 hkdf x25519 json domain keys state)
    (step : Step utf8Text sha256 aead argon2 base64 hkdf x25519 json domain keys state after) :
    Inv sha256 aead argon2 base64 hkdf x25519 json domain keys after := by
  cases step with
  | enrol secret salt nonce masterKey key wrapped known salted derived success =>
      have wrapping : Encryption.encrypt (aead.after state.vault.ledger) key nonce masterKey.val =
          .ok wrapped := by
        rw [Unlock.enrol, derived, bind_ok] at success
        exact success
      have called : (Producing.wrapMasterKey key masterKey : Producing E T).run
          (aead.after state.vault.ledger) base64 hkdf x25519 json nonce = .ok (.blob wrapped) :=
        (Producing.run_eq_ok_iff _ base64 hkdf x25519 json _ nonce _).mpr
          ⟨key, masterKey.val, wrapped, rfl, rfl, wrapping, rfl⟩
      have stretched := separated.stretched key ⟨secret, salt, known, salted, derived⟩
      constructor
      · exact inv.vault.next (.produce _ _ nonce _ key _ stretched called rfl rfl)
      · exact inv.unlocking.next (.enrol _ secret salt nonce masterKey key wrapped known salted
          derived success)
      · intro login member
        obtain ⟨enrolment, listed, entitled⟩ := inv.entitled login member
        exact ⟨enrolment, List.mem_cons_of_mem _ listed, entitled⟩
      · intro made member session ns id source
        rcases List.mem_cons.mp member with rfl | older
        · cases source
        · exact inv.unlocked made older session ns id source
  | logIn attempt salt wrapped masterKey covered salted success =>
      have unlocking := Unlock.inv_reachable sha256 aead argon2 domain _ inv.unlocking
      obtain ⟨enrolment, listed, opens, -, -, rfl⟩ := Unlock.enrolment_of_unlock utf8Text symbolic
        unlocking separated.unlocking covered salted success
      constructor
      · exact inv.vault
      · exact inv.unlocking
      · intro login member
        rcases List.mem_cons.mp member with rfl | older
        · exact ⟨enrolment, listed, opens, rfl⟩
        · exact inv.entitled login older
      · intro made member session ns id source
        obtain ⟨login, opened, same⟩ := inv.unlocked made member session ns id source
        exact ⟨login, List.mem_cons_of_mem _ opened, same⟩
  | produce call nonce output key plaintext legal success derived written =>
      have apart := legal.apart separated derived
      constructor
      · exact inv.vault.next (.produce _ call nonce output key plaintext legal.covered success
          derived written)
      · -- For the unlocking runs this is an encryption elsewhere.
        exact inv.unlocking.next (.encryptElsewhere _ ⟨key, nonce, plaintext⟩
          fun secret salt known salted stretched => apart ⟨secret, salt, known, salted, stretched⟩)
      · exact inv.entitled
      · intro made member session ns id source
        rcases List.mem_cons.mp member with rfl | older
        · exact legal.unlocked session ns id source
        · exact inv.unlocked made older session ns id source

end Steps

theorem inv_reachable (symbolic : aead.OpensProduced)
    (separated : Apart sha256 argon2 hkdf domain keys) (state : State E T)
    (reachable : (system utf8Text sha256 aead argon2 base64 hkdf x25519 json domain
      keys).Reachable state) :
    Inv sha256 aead argon2 base64 hkdf x25519 json domain keys state :=
  reachable.invariant (inv_start sha256 aead argon2 base64 hkdf x25519 json domain keys)
    (inv_step utf8Text symbolic separated)

section Reading

variable {sha256 aead argon2 base64 hkdf x25519 json domain keys}
variable (symbolic : aead.OpensProduced) (overhead : aead.Overhead 16)
  (standard : base64.Standard) {state : State E T}
  (inv : Inv sha256 aead argon2 base64 hkdf x25519 json domain keys state)
include symbolic overhead standard inv

/-- What is read of an entity was sealed by a session with the same master key. -/
theorem sealer_of_run (separated : Apart sha256 argon2 hkdf domain keys) {session : SessionKey}
    {ns : KeyNamespace} {id : Int64} {call : Opening E T} {value : call.form.Value}
    (bearing : ns.IdBearing) (source : call.source = .entity session ns id)
    (covered : keys.Covers (origin x25519 call.source))
    (sealed : ∀ text, call.stored = .lenient text → startsWith Sealed.e2eePrefix text = true)
    (returned : call.run (aead.after state.vault.ledger) base64 hkdf x25519 json = .ok value) :
    ∃ made ∈ state.vault.made, ∃ sealer ∈ state.logins,
      made.call.source = .entity sealer.session ns id ∧
      sealer.session.asBytes = session.asBytes ∧
      ∃ plaintext, made.call.plaintext json = .ok plaintext ∧
        call.form.read json plaintext = .ok value := by
  have vault := Vault.inv_reachable aead base64 hkdf x25519 json state.vault inv.vault
  obtain ⟨key, derived, ⟨text, given, bare, -⟩ |
    ⟨made, called, raw, plaintext, derived', -, -, written, read⟩⟩ :=
    Vault.made_of_run aead base64 hkdf x25519 json symbolic overhead standard vault returned
  · rw [sealed text given] at bare
    cases bare
  · have same := Vault.origin_injective hkdf separated.expanded (vault.legal made called) covered
      ((Vault.key_eq_ok_iff hkdf x25519 _ key).mp derived')
      ((Vault.key_eq_ok_iff hkdf x25519 _ key).mp derived)
    rw [source] at same
    obtain ⟨other, sealing, masters⟩ := Vault.origin_eq_entity x25519 bearing same
    obtain ⟨sealer, opened, rfl⟩ := inv.unlocked made called other ns id sealing
    exact ⟨made, called, sealer, opened, sealing, masters, plaintext, written, read⟩

end Reading

/-- From what is typed to what is read, over any run: a session is opened only
with what a master key was enrolled for. What it reads of an entity was sealed by
a session with the same master key. And what one session sealed, everyone reads
who types a secret that this master key was enrolled for, now or later. -/
theorem account_exact (symbolic : aead.OpensProduced) (overhead : aead.Overhead 16)
    (standard : base64.Standard) (separated : Apart sha256 argon2 hkdf domain keys)
    (state : State E T)
    (reachable : (system utf8Text sha256 aead argon2 base64 hkdf x25519 json domain
      keys).Reachable state) :
    (∀ login ∈ state.logins, ∃ enrolment, login.Entitled state.enrolled enrolment) ∧
    (∀ login ∈ state.logins, ∀ ns id (call : Opening E T) (value : call.form.Value),
      ns.IdBearing → call.source = .entity login.session ns id →
      keys.Covers (origin x25519 call.source) →
      (∀ text, call.stored = .lenient text → startsWith Sealed.e2eePrefix text = true) →
      call.run (aead.after state.vault.ledger) base64 hkdf x25519 json = .ok value →
        ∃ made ∈ state.vault.made, ∃ sealer ∈ state.logins, ∃ enrolment enrolment',
          made.call.source = .entity sealer.session ns id ∧
          (∃ plaintext, made.call.plaintext json = .ok plaintext ∧
            call.form.read json plaintext = .ok value) ∧
          login.Entitled state.enrolled enrolment ∧ sealer.Entitled state.enrolled enrolment' ∧
          enrolment.masterKey = enrolment'.masterKey) ∧
    ∀ made ∈ state.vault.made, ∀ session ns id, made.call.source = .entity session ns id →
      ∀ enrolment ∈ state.enrolled, enrolment.masterKey = session.asBytes →
      ∀ attempt : Attempt, attempt.Opens enrolment.secret →
        unlock utf8Text sha256 (aead.after state.vault.ledger) argon2 attempt enrolment.salt
            enrolment.wrapped = .ok session.asBytes ∧
          ∀ (call : Opening E T) raw plaintext (value : call.form.Value),
            call.source = .entity (.new session.asBytes) ns id →
            made.output = made.call.present base64 raw → call.stored.Holds base64 raw →
            made.call.plaintext json = .ok plaintext →
            call.form.read json plaintext = .ok value →
              call.run (aead.after state.vault.ledger) base64 hkdf x25519 json = .ok value := by
  have inv := inv_reachable utf8Text sha256 aead argon2 base64 hkdf x25519 json domain keys
    symbolic separated state reachable
  refine ⟨inv.entitled, ?_, ?_⟩
  · intro login opened ns id call value bearing source covered sealed returned
    obtain ⟨made, called, sealer, opened', sealing, masters, read⟩ :=
      sealer_of_run symbolic overhead standard inv separated bearing source covered sealed returned
    obtain ⟨enrolment, entitled⟩ := inv.entitled login opened
    obtain ⟨enrolment', entitled'⟩ := inv.entitled sealer opened'
    rw [entitled.2.2, entitled'.2.2] at masters
    exact ⟨made, called, sealer, opened', enrolment, enrolment', sealing, read, entitled,
      entitled', masters.symm⟩
  · intro made called session ns id sealing enrolment listed same attempt opens
    have vault := Vault.inv_reachable aead base64 hkdf x25519 json state.vault inv.vault
    have unlocking := Unlock.inv_reachable sha256 aead argon2 domain _ inv.unlocking
    have unlocked := Unlock.unlock_of_enrolment utf8Text symbolic unlocking overhead listed opens
    rw [same] at unlocked
    refine ⟨unlocked, ?_⟩
    intro call raw plaintext value source presented holds written read
    obtain ⟨entry, -, records⟩ := vault.logged made called
    have derived : call.source.key hkdf x25519 = .ok entry.key := by
      rw [source, ← sealing]
      exact records.derived
    exact Vault.run_of_made aead base64 hkdf x25519 json symbolic overhead standard vault called
      records.derived presented written derived holds read

section ReferenceRun

open Vault (Rows Values entityCall sampleReader secretBlob)

def zeroKey : Key := FixedBytes.fill 32 0

/-- One recovery key. -/
def zeroDomain : Unlock.Domain where
  secrets secret := secret = .recoveryKey zeroKey
  salts salt := salt = [1]

theorem stretched_zero {key : Key}
    (stretched : Stretched Unlock.lastBytes Reference.passwordArgon2 zeroDomain key) :
    key = zeroKey := by
  obtain ⟨secret, salt, rfl, rfl, derived⟩ := stretched
  exact (Except.ok.inj derived).symm

theorem zeroDomain_apart :
    Apart Unlock.lastBytes Reference.passwordArgon2 Reference.packedHkdf zeroDomain
      Vault.sampleDomain where
  unlocking :=
    { short := by
        intro userId pin evaluated impossible
        cases impossible
      hashed := by
        intro userId pin evaluated userId' pin' evaluated' impossible
        cases impossible
      unhashed := by
        intro userId pin evaluated secret impossible
        cases impossible
      stretched := by
        intro secret other salt salt' key known known' salted salted' _ _
        rw [known, known', salted, salted']
        exact ⟨rfl, rfl⟩ }
  expanded := Vault.sampleDomain_separated
  stretched _ stretched := stretched_zero stretched

def typed : String := Keys.formatRecoveryKey zeroKey

/-- The same digits, as they may be typed another time. -/
def retyped : String := String.ofList (List.replicate 64 '0')

def masterKey : Key := FixedBytes.fill 32 1

def wrapped : Bytes := Reference.nonce.val ++ (masterKey.val ++ List.replicate 16 0)

def enrolment : Enrolment := ⟨.recoveryKey zeroKey, [1], masterKey, wrapped⟩

def enrolledVault : Vault.State Rows Values where
  ledger := [⟨zeroKey, Reference.nonce, masterKey.val⟩]
  made := [⟨.wrapMasterKey zeroKey masterKey, Reference.nonce, .blob wrapped⟩]

/-- Enrolled, unlocked and sealed with. -/
def sealedState : State Rows Values where
  vault :=
    { ledger := ⟨Vault.sampleKey, Reference.nonce, asBytes "secret"⟩ :: enrolledVault.ledger
      made := ⟨entityCall, Reference.nonce, .row (Sealed.wire Reference.base64 secretBlob)⟩ ::
        enrolledVault.made }
  enrolled := [enrolment]
  logins := [⟨.typed typed, .new masterKey⟩]

theorem typed_opens : (Attempt.typed typed).Opens enrolment.secret := rfl

theorem retyped_opens : (Attempt.typed retyped).Opens enrolment.secret := by
  rw [enrolment, Attempt.Opens, Keys.hexDigits_formatRecoveryKey]
  rfl

theorem typed_covered : zeroDomain.Covers (.typed typed) := by
  intro secret made
  cases made with
  | typed _ key parsed =>
      rw [typed, Keys.parseRecoveryKey_formatRecoveryKey] at parsed
      rw [zeroDomain, Subtype.ext (Except.ok.inj parsed)]

theorem sealedState_reachable :
    (system (fun _ => "") Unlock.lastBytes Reference.symbolicAead Reference.passwordArgon2
      Reference.base64 Reference.packedHkdf Reference.productX25519
      (fun _ => Sealed.referenceJson) zeroDomain Vault.sampleDomain).Reachable sealedState := by
  have start : (system (fun _ => "") Unlock.lastBytes Reference.symbolicAead
      Reference.passwordArgon2 Reference.base64 Reference.packedHkdf Reference.productX25519
      (fun _ => Sealed.referenceJson) zeroDomain Vault.sampleDomain).Reachable
        (⟨⟨[], []⟩, [], []⟩ : State Rows Values) := .of_start ⟨rfl, rfl, rfl, rfl⟩
  have first := start.next (.enrol _ (.recoveryKey zeroKey) [1] Reference.nonce masterKey zeroKey
    wrapped rfl rfl rfl rfl)
  have unlocking := Unlock.inv_reachable _ _ _ _ _ (inv_reachable _ _ _ _ _ _ _ _ _ _
    Reference.symbolicAead_opensProduced zeroDomain_apart _ first).unlocking
  have unlocked := Unlock.unlock_of_enrolment (fun _ => "") Reference.symbolicAead_opensProduced
    unlocking Reference.symbolicAead_overhead (List.mem_cons_self : enrolment ∈ [enrolment])
    typed_opens
  have second := first.next (.logIn _ (.typed typed) [1] wrapped masterKey typed_covered rfl
    unlocked)
  have legal : Legal Unlock.lastBytes Reference.passwordArgon2 Reference.productX25519 zeroDomain
      Vault.sampleDomain (⟨enrolledVault, [enrolment], [⟨.typed typed, .new masterKey⟩]⟩ :
        State Rows Values) entityCall := by
    constructor
    · exact ⟨rfl, .profile, 5, rfl⟩
    · intro session ns id source
      cases source
      exact ⟨_, List.mem_cons_self, rfl⟩
    · intro key source
      cases source
  have third := second.next (.produce _ entityCall Reference.nonce
    (.row (Sealed.wire Reference.base64 secretBlob)) Vault.sampleKey (asBytes "secret") legal rfl
    rfl rfl)
  exact third

/-- The recovery key, typed anew, opens the account and what was sealed in it. -/
theorem account_exact_retyped :
    unlock (fun _ => "") Unlock.lastBytes
        (Reference.symbolicAead.after sealedState.vault.ledger) Reference.passwordArgon2
        (.typed retyped) [1] wrapped = .ok masterKey ∧
      sampleReader.run (Reference.symbolicAead.after sealedState.vault.ledger) Reference.base64
        Reference.packedHkdf Reference.productX25519 (fun _ => Sealed.referenceJson) =
          .ok "secret" := by
  obtain ⟨-, -, reads⟩ := account_exact (fun _ => "") _ _ _ _ _ _ (fun _ => Sealed.referenceJson)
    _ _ Reference.symbolicAead_opensProduced Reference.symbolicAead_overhead
    Reference.base64_standard zeroDomain_apart sealedState sealedState_reachable
  obtain ⟨unlocked, read⟩ := reads _ List.mem_cons_self (.new masterKey) .profile 5 rfl enrolment
    List.mem_cons_self rfl (.typed retyped) retyped_opens
  exact ⟨unlocked, read sampleReader secretBlob (asBytes "secret") "secret" rfl rfl
    (.inr (.inl rfl)) rfl (Sealed.toText_asBytes "secret")⟩

end ReferenceRun

end IncokitE2ee.Account
