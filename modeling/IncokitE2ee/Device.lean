import IncokitE2ee.EntityIsolation
import IncokitE2ee.Keychain
import IncokitE2ee.ReferenceKeyring

set_option autoImplicit false

/- A device over its restarts: the session in memory, the master keys in the
keychain, and the rows sealed with whichever session was open at the time. -/
namespace IncokitE2ee.Device

open EncryptedEntity (NAMESPACE entityId)
open Keychain (Answered defaultService deleteMasterKey hasMasterKey loadMasterKey saveMasterKey)

structure State (keyring : Keyring) (Row : Type) where
  store : keyring.Store
  /-- The account that is unlocked. -/
  session : Option (String × SessionKey)
  /-- The accounts whose key was saved and not deleted since. -/
  saved : String → Prop
  vault : EntityIsolation.State Row String

variable {keyring : Keyring} {Row : Type} [DecidableEq Row]
variable (view : keyring.View (String × String)) (aead : Aead.Symbolic Key Nonce)
variable (base64 : Base64.Engine) (hkdf : Hkdf) (masterKey : String → Key)

/-- Calls on the keychain may fail and change what the backend will do next.
Unlocking is with a PIN or a recovery key, and gives the account's master key. -/
inductive Step : State keyring Row → State keyring Row → Prop where
  | unlock (state : State keyring Row) (account : String) :
      Step state { state with session := some (account, .new (masterKey account)) }
  | restart (state : State keyring Row) : Step state { state with session := none }
  | saved (state : State keyring Row) (account : String) (session : SessionKey)
      (after : keyring.Store) (unlocked : state.session = some (account, session))
      (saving : saveMasterKey keyring base64 account session.asBytes state.store =
        (.ok (), after)) :
      Step state
        { state with
          store := after
          saved := fun other => other = account ∨ state.saved other }
  | notSaved (state : State keyring Row) (account error : String) (session : SessionKey)
      (after : keyring.Store) (unlocked : state.session = some (account, session))
      (saving : saveMasterKey keyring base64 account session.asBytes state.store =
        (.error error, after)) :
      Step state { state with store := after }
  | resumed (state : State keyring Row) (account : String) (key : Key) (after : keyring.Store)
      (loading : loadMasterKey keyring base64 account state.store = (.ok (some key), after)) :
      Step state { state with store := after, session := some (account, .new key) }
  | notResumed (state : State keyring Row) (account : String) (result : Except String (Option Key))
      (after : keyring.Store)
      (loading : loadMasterKey keyring base64 account state.store = (result, after)) :
      Step state { state with store := after }
  | asked (state : State keyring Row) (account : String) (present : Bool) (after : keyring.Store)
      (asking : hasMasterKey keyring base64 account state.store = (present, after)) :
      Step state { state with store := after }
  | deleted (state : State keyring Row) (account : String) (after : keyring.Store)
      (deleting : deleteMasterKey keyring account state.store = (.ok (), after)) :
      Step state
        { state with
          store := after
          saved := fun other => other ≠ account ∧ state.saved other }
  | notDeleted (state : State keyring Row) (account error : String) (after : keyring.Store)
      (deleting : deleteMasterKey keyring account state.store = (.error error, after)) :
      Step state { state with store := after }
  | sealRow {E : Type} [EncryptedEntity E] (state : State keyring Row) (row : Row)
      (account : String) (session : SessionKey) (entity : E) (nonce : Nonce)
      (plaintext stored : String) (key : Key)
      (unlocked : state.session = some (account, session))
      (bearing : (NAMESPACE E).IdBearing)
      (derived : session.entityKey hkdf entity = .ok key)
      (success : sealEntityString (aead.after state.vault.ledger) base64 hkdf session entity nonce
        plaintext = .ok stored) :
      Step state
        { state with
          vault :=
            { rows := Function.update state.vault.rows row stored
              ledger := ⟨key, nonce, asBytes plaintext⟩ :: state.vault.ledger
              calls := ⟨account, NAMESPACE E, entityId entity, plaintext⟩ :: state.vault.calls
              latest := Function.update state.vault.latest row
                (some ⟨account, NAMESPACE E, entityId entity, plaintext⟩) } }
  | overwriteRow (state : State keyring Row) (row : Row) (stored : String) :
      Step state
        { state with
          vault :=
            { state.vault with
              rows := Function.update state.vault.rows row stored
              latest := Function.update state.vault.latest row none } }

/-- A device without keys: locked, its keychain empty under the default service. -/
def Unused (state : State keyring Row) : Prop :=
  (∀ account, view.contents state.store (defaultService, account) = none) ∧
    state.session = none ∧ (∀ account, ¬ state.saved account) ∧
    EntityIsolation.Unused state.vault

def system : Transition (State keyring Row) where
  start := Unused view
  step := Step aead base64 hkdf masterKey

/-- The session that an account always has. -/
def sessions (account : String) : SessionKey := .new (masterKey account)

/-- The keychain holds the accounts' own keys and nothing else. -/
structure OwnKeys (store : keyring.Store) (saved : String → Prop) : Prop where
  own : ∀ account text, view.contents store (defaultService, account) = some text →
    text = base64.encode (masterKey account).val
  kept : ∀ account, saved account →
    view.contents store (defaultService, account) = some (base64.encode (masterKey account).val)

structure Inv (state : State keyring Row) : Prop where
  keys : OwnKeys view base64 masterKey state.store state.saved
  session : ∀ account session, state.session = some (account, session) →
    session = sessions masterKey account
  /-- Restarts leave no trace in the rows. -/
  vault : (EntityIsolation.system aead base64 hkdf (sessions masterKey)).Reachable state.vault

section Keychain

variable {view base64 masterKey} {store after : keyring.Store} {saved : String → Prop}
variable (keys : OwnKeys view base64 masterKey store saved)
include keys

theorem OwnKeys.of_kept (same : view.contents after = view.contents store) :
    OwnKeys view base64 masterKey after saved := by
  constructor
  · rw [same]
    exact keys.own
  · rw [same]
    exact keys.kept

theorem OwnKeys.of_saved {account : String}
    (written : view.contents after = Function.update (view.contents store)
      (defaultService, account) (some (base64.encode (masterKey account).val))) :
    OwnKeys view base64 masterKey after fun other => other = account ∨ saved other := by
  constructor
  · intro other text held
    rw [written] at held
    by_cases same : other = account
    · subst same
      rw [Function.update_self] at held
      exact (Option.some.inj held).symm
    · rw [Function.update_of_ne (fun pairs => same (Prod.mk.inj pairs).2)] at held
      exact keys.own other text held
  · intro other listed
    rw [written]
    by_cases same : other = account
    · subst same
      exact Function.update_self ..
    · rw [Function.update_of_ne (fun pairs => same (Prod.mk.inj pairs).2)]
      exact keys.kept other (listed.resolve_left same)

theorem OwnKeys.of_deleted {account : String}
    (written : view.contents after =
      Function.update (view.contents store) (defaultService, account) none) :
    OwnKeys view base64 masterKey after fun other => other ≠ account ∧ saved other := by
  constructor
  · intro other text held
    rw [written] at held
    by_cases same : other = account
    · subst same
      rw [Function.update_self] at held
      cases held
    · rw [Function.update_of_ne (fun pairs => same (Prod.mk.inj pairs).2)] at held
      exact keys.own other text held
  · rintro other ⟨different, listed⟩
    rw [written, Function.update_of_ne (fun pairs => different (Prod.mk.inj pairs).2)]
    exact keys.kept other listed

/-- Whatever key is loaded is the account's own. -/
theorem OwnKeys.of_loaded (native : view.Native) (standard : base64.Standard) {account : String}
    {key : Key}
    (loaded : (loadMasterKey keyring base64 account store).1 = .ok (some key)) :
    key = masterKey account := by
  have read := Keychain.load_ok base64 native loaded
  obtain ⟨text, held, decoded⟩ := (Keychain.storedKey_eq_some_iff base64 _ key).mp read
  rw [keys.own account text held, Keychain.decodeKey_encode base64 standard] at decoded
  exact (Except.ok.inj decoded).symm

end Keychain

variable {view aead base64 hkdf masterKey}

theorem inv_start (state : State keyring Row) (starts : Unused view state) :
    Inv view aead base64 hkdf masterKey state := by
  obtain ⟨empty, locked, noneSaved, unused⟩ := starts
  constructor
  · constructor
    · intro account text held
      rw [empty] at held
      cases held
    · intro account listed
      exact absurd listed (noneSaved account)
  · intro account session unlocked
    rw [locked] at unlocked
    cases unlocked
  · exact .of_start unused

theorem inv_step (native : view.Native) (standard : base64.Standard)
    (state after : State keyring Row) (inv : Inv view aead base64 hkdf masterKey state)
    (step : Step aead base64 hkdf masterKey state after) :
    Inv view aead base64 hkdf masterKey after := by
  cases step with
  | unlock _ account =>
      refine ⟨inv.keys, ?_, inv.vault⟩
      rintro other session ⟨⟩
      rfl
  | restart =>
      refine ⟨inv.keys, ?_, inv.vault⟩
      rintro other session ⟨⟩
  | saved _ account session last unlocked saving =>
      obtain rfl := inv.session account session unlocked
      rcases Keychain.save_cases base64 native saving with ⟨-, written⟩ | ⟨failed, -⟩
      · exact ⟨inv.keys.of_saved written, inv.session, inv.vault⟩
      · exact absurd failed (not_failed_ok ())
  | notSaved _ account error session last unlocked saving =>
      rcases Keychain.save_cases base64 native saving with ⟨impossible, -⟩ | ⟨-, kept⟩
      · cases impossible
      · exact ⟨inv.keys.of_kept kept, inv.session, inv.vault⟩
  | resumed _ account key last loading =>
      have kept := Keychain.load_keeps base64 native defaultService account state.store
      have own := inv.keys.of_loaded native standard (congrArg Prod.fst loading)
      rw [← loadMasterKey, loading] at kept
      refine ⟨inv.keys.of_kept kept, ?_, inv.vault⟩
      rintro other session ⟨⟩
      rw [own]
      rfl
  | notResumed _ account result last loading =>
      have kept := Keychain.load_keeps base64 native defaultService account state.store
      rw [← loadMasterKey, loading] at kept
      exact ⟨inv.keys.of_kept kept, inv.session, inv.vault⟩
  | asked _ account present last asking =>
      have kept := Keychain.load_keeps base64 native defaultService account state.store
      rw [hasMasterKey, Keychain.has_eq, Prod.mk.injEq] at asking
      rw [asking.2] at kept
      exact ⟨inv.keys.of_kept kept, inv.session, inv.vault⟩
  | deleted _ account last deleting =>
      rcases Keychain.delete_cases native deleting with ⟨-, written⟩ | ⟨failed, -⟩
      · exact ⟨inv.keys.of_deleted written, inv.session, inv.vault⟩
      · exact absurd failed (not_failed_ok ())
  | notDeleted _ account error last deleting =>
      rcases Keychain.delete_cases native deleting with ⟨impossible, -⟩ | ⟨-, kept⟩
      · cases impossible
      · exact ⟨inv.keys.of_kept kept, inv.session, inv.vault⟩
  | sealRow _ row account session entity nonce plaintext stored key unlocked bearing derived
      success =>
      obtain rfl := inv.session account session unlocked
      exact ⟨inv.keys, inv.session, inv.vault.next (.sealRow _ row account entity nonce plaintext
        stored key bearing derived success)⟩
  | overwriteRow _ row stored =>
      exact ⟨inv.keys, inv.session, inv.vault.next (.overwriteRow _ row stored)⟩

section ReferenceRun

open EntityIsolation (ProfileRow sealedSecret)

end ReferenceRun

end IncokitE2ee.Device
