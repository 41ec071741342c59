import IncokitE2ee.FallibleMap
import IncokitE2ee.Keychain
import IncokitE2ee.Reference
import IncokitE2ee.ReferenceKeyring

set_option autoImplicit false

/- The keychain module refines a map from services and accounts to keys, over
any calls, any interleaving of them and any failures of the backend. -/
namespace IncokitE2ee.Keychain

inductive Call where
  | saveMasterKeyInService (service account : String) (masterKey : Key)
  | loadMasterKeyInService (service account : String)
  | deleteMasterKeyInService (service account : String)
  | hasMasterKeyInService (service account : String)
  | saveMasterKey (account : String) (masterKey : Key)
  | loadMasterKey (account : String)
  | deleteMasterKey (account : String)
  | hasMasterKey (account : String)
  deriving DecidableEq

inductive Reply where
  | done (result : Except String Unit)
  | loaded (result : Except String (Option Key))
  | found (present : Bool)

inductive Operation where
  | save (masterKey : Key)
  | load
  | delete
  | has

def Call.operation : Call → Operation
  | .saveMasterKeyInService _ _ masterKey => .save masterKey
  | .loadMasterKeyInService _ _ => .load
  | .deleteMasterKeyInService _ _ => .delete
  | .hasMasterKeyInService _ _ => .has
  | .saveMasterKey _ masterKey => .save masterKey
  | .loadMasterKey _ => .load
  | .deleteMasterKey _ => .delete
  | .hasMasterKey _ => .has

/-- The entry that a call is about. -/
def Call.pair : Call → String × String
  | .saveMasterKeyInService service account _ => (service, account)
  | .loadMasterKeyInService service account => (service, account)
  | .deleteMasterKeyInService service account => (service, account)
  | .hasMasterKeyInService service account => (service, account)
  | .saveMasterKey account _ => (defaultService, account)
  | .loadMasterKey account => (defaultService, account)
  | .deleteMasterKey account => (defaultService, account)
  | .hasMasterKey account => (defaultService, account)

/-- The operation may leave its entry with another text, or with none. -/
def Operation.Writes : Operation → Prop
  | .save _ => True
  | .delete => True
  | .load => False
  | .has => False

def Reply.Failed : Reply → Prop
  | .done result => Outcome.Failed result
  | .loaded result => Outcome.Failed result
  | .found _ => False

variable (keyring : Keyring) (base64 : Base64.Engine)

def perform (call : Call) (store : keyring.Store) : Reply × keyring.Store :=
  match call with
  | .saveMasterKeyInService service account masterKey =>
      (saveMasterKeyInService keyring base64 service account masterKey store).map .done id
  | .loadMasterKeyInService service account =>
      (loadMasterKeyInService keyring base64 service account store).map .loaded id
  | .deleteMasterKeyInService service account =>
      (deleteMasterKeyInService keyring service account store).map .done id
  | .hasMasterKeyInService service account =>
      (hasMasterKeyInService keyring base64 service account store).map .found id
  | .saveMasterKey account masterKey =>
      (saveMasterKey keyring base64 account masterKey store).map .done id
  | .loadMasterKey account => (loadMasterKey keyring base64 account store).map .loaded id
  | .deleteMasterKey account => (deleteMasterKey keyring account store).map .done id
  | .hasMasterKey account => (hasMasterKey keyring base64 account store).map .found id

/-- What an operation does at an entry, by whichever of its two forms. -/
def performAt (operation : Operation) (pair : String × String) (store : keyring.Store) :
    Reply × keyring.Store :=
  match operation with
  | .save masterKey =>
      (saveMasterKeyInService keyring base64 pair.1 pair.2 masterKey store).map .done id
  | .load => (loadMasterKeyInService keyring base64 pair.1 pair.2 store).map .loaded id
  | .delete => (deleteMasterKeyInService keyring pair.1 pair.2 store).map .done id
  | .has => (hasMasterKeyInService keyring base64 pair.1 pair.2 store).map .found id

theorem perform_eq (call : Call) (store : keyring.Store) :
    perform keyring base64 call store =
      performAt keyring base64 call.operation call.pair store := by
  cases call <;> rfl

/-- What a call with its reply says about the keys. -/
def event (operation : Operation) (pair : String × String) :
    Reply → FallibleMap.Event (String × String) Key
  | .done (.ok ()) =>
      match operation with
      | .save masterKey => .put pair masterKey
      | .delete => .removed pair
      | _ => .failed
  | .loaded (.ok found) => .got pair found
  | .found true => .seen pair
  | _ => .failed

/-- The store holds the keys' base 64 texts and nothing else. -/
def Holds {keyring : Keyring} (view : keyring.View (String × String)) (store : keyring.Store)
    (keys : String × String → Option Key) : Prop :=
  view.contents store = Option.map (fun key => base64.encode key.val) ∘ keys

theorem storedKey_map (standard : base64.Standard) (key : Option Key) :
    storedKey base64 (key.map fun key => base64.encode key.val) = .ok key := by
  cases key with
  | none => rfl
  | some key =>
      apply (storedKey_eq_some_iff base64 _ key).mpr
      exact ⟨_, rfl, decodeKey_encode base64 standard key⟩

/-- Each call with its reply, on the store as it stands. Nobody else writes. -/
def system {keyring : Keyring} (view : keyring.View (String × String)) :
    Labelled keyring.Store (Call × Reply) where
  start store := view.contents store = fun _ => none
  step store label after := perform keyring base64 label.1 store = (label.2, after)

theorem trace_perform {keyring : Keyring} {view : keyring.View (String × String)}
    {labels : List (Call × Reply)} {store : keyring.Store}
    (run : (system base64 view).Trace labels store) (call : Call) :
    (system base64 view).Trace (labels ++ [(call, (perform keyring base64 call store).1)])
      (perform keyring base64 call store).2 :=
  .next labels store _ _ run rfl

/-- The backend lets the entry be made and deleted, or says that it is absent. -/
def DeletionAnswered (service account : String) (store : keyring.Store) : Prop :=
  ∃ opened middle, keyring.new service account store = (.ok opened, middle) ∧
    ∀ text, (keyring.deleteCredential opened middle).1 ≠ .error (.other text)

theorem delete_ok_iff (service account : String) (store : keyring.Store) :
    (deleteMasterKeyInService keyring service account store).1 = .ok () ↔
      DeletionAnswered keyring service account store := by
  rw [deleteMasterKeyInService, entry, DeletionAnswered]
  cases made : keyring.new service account store with
  | mk result middle =>
      cases result with
      | error error => simp
      | ok opened =>
          have only : (∃ opened' middle', (Except.ok opened, middle) =
                ((.ok opened', middle') : Except Keyring.Error keyring.Entry × keyring.Store) ∧
                  ∀ text, (keyring.deleteCredential opened' middle').1 ≠ .error (.other text)) ↔
              ∀ text, (keyring.deleteCredential opened middle).1 ≠ .error (.other text) := by
            constructor
            · rintro ⟨_, _, ⟨⟩, answers⟩
              exact answers
            · intro answers
              exact ⟨opened, middle, rfl, answers⟩
          rw [only]
          cases removing : keyring.deleteCredential opened middle with
          | mk reply last =>
              cases reply with
              | ok done => simp [removing]
              | error error => cases error <;> simp [removing]

/-- The call of the backend that refused a deletion, as the text it is reported with. -/
inductive DeletionRefused (service account : String) (store : keyring.Store) : String → Prop where
  | entry (error : Keyring.Error) (middle : keyring.Store)
      (unopened : keyring.new service account store = (.error error, middle)) :
      DeletionRefused service account store ("Keychain entry error: " ++ keyring.display error)
  | delete (opened : keyring.Entry) (middle : keyring.Store) (reason : String)
      (made : keyring.new service account store = (.ok opened, middle))
      (refused : (keyring.deleteCredential opened middle).1 = .error (.other reason)) :
      DeletionRefused service account store ("Keychain delete error: " ++ reason)

theorem delete_eq_error_iff (service account : String) (store : keyring.Store) (text : String) :
    (deleteMasterKeyInService keyring service account store).1 = .error text ↔
      DeletionRefused keyring service account store text := by
  constructor
  · intro failed
    rw [deleteMasterKeyInService, entry] at failed
    cases made : keyring.new service account store with
    | mk result middle =>
        cases result with
        | error error =>
            simp only [made, Except.error.injEq] at failed
            subst failed
            exact .entry error middle made
        | ok opened =>
            cases removing : keyring.deleteCredential opened middle with
            | mk reply last =>
                simp only [made, removing] at failed
                rcases reply with (_ | reason) | done
                · cases failed
                · cases failed
                  exact .delete opened middle reason made (by rw [removing])
                · cases failed
  · intro refused
    cases refused with
    | entry error middle unopened => simp only [deleteMasterKeyInService, entry, unopened]
    | delete opened middle reason made refused =>
        cases removing : keyring.deleteCredential opened middle with
        | mk reply last =>
            obtain rfl : reply = .error (.other reason) := by rw [← refused, removing]
            simp only [deleteMasterKeyInService, entry, made, removing, Keyring.display]

section Steps

variable {keyring} {view : keyring.View (String × String)} (native : view.Native)
variable {store after : keyring.Store} {reply : Reply} {keys : String × String → Option Key}
include native

/-- A load reads what the map holds. -/
theorem load_holds (standard : base64.Standard) (holds : Holds base64 view store keys)
    {service account : String} {found : Option Key}
    (loaded : (loadMasterKeyInService keyring base64 service account store).1 = .ok found) :
    keys (service, account) = found := by
  have read := load_ok base64 native loaded
  rw [holds] at read
  exact Except.ok.inj ((storedKey_map base64 standard _).symm.trans read)

/-- One case for each operation, and in it one for success and one for failure. -/
theorem performAt_step (standard : base64.Standard) (holds : Holds base64 view store keys)
    (operation : Operation) (pair : String × String)
    (performed : performAt keyring base64 operation pair store = (reply, after)) :
    ∃ keys', FallibleMap.Step keys (event operation pair reply) keys' ∧
      Holds base64 view after keys' := by
  cases operation with
  | save masterKey =>
      cases saving : saveMasterKeyInService keyring base64 pair.1 pair.2 masterKey store with
      | mk result last =>
          simp only [performAt, saving] at performed
          cases performed
          rcases save_cases base64 native saving with ⟨rfl, written⟩ | ⟨⟨error, rfl⟩, kept⟩
          · refine ⟨Function.update keys pair (some masterKey), .put keys pair masterKey, ?_⟩
            rw [Holds, Function.comp_update, ← holds]
            exact written
          · exact ⟨keys, .failed keys, kept.trans holds⟩
  | load =>
      have kept := load_keeps base64 native pair.1 pair.2 store
      cases loading : loadMasterKeyInService keyring base64 pair.1 pair.2 store with
      | mk result last =>
          simp only [performAt, loading] at performed
          cases performed
          rw [loading] at kept
          refine ⟨keys, ?_, kept.trans holds⟩
          cases result with
          | error error => exact .failed keys
          | ok found =>
              have held : keys pair = found :=
                load_holds base64 native standard holds (congrArg Prod.fst loading)
              rw [← held]
              exact .got keys pair
  | delete =>
      cases deleting : deleteMasterKeyInService keyring pair.1 pair.2 store with
      | mk result last =>
          simp only [performAt, deleting] at performed
          cases performed
          rcases delete_cases native deleting with ⟨rfl, written⟩ | ⟨⟨error, rfl⟩, kept⟩
          · refine ⟨Function.update keys pair none, .removed keys pair, ?_⟩
            rw [Holds, Function.comp_update, ← holds]
            exact written
          · exact ⟨keys, .failed keys, kept.trans holds⟩
  | has =>
      have kept := load_keeps base64 native pair.1 pair.2 store
      cases loading : loadMasterKeyInService keyring base64 pair.1 pair.2 store with
      | mk result last =>
          simp only [performAt, has_eq, loading] at performed
          cases performed
          rw [loading] at kept
          refine ⟨keys, ?_, kept.trans holds⟩
          cases result with
          | error error => exact .failed keys
          | ok found =>
              have held : keys pair = found :=
                load_holds base64 native standard holds (congrArg Prod.fst loading)
              cases found with
              | none => exact .failed keys
              | some key => exact .seen keys pair (by rw [held]; exact Option.some_ne_none key)

theorem simulates (standard : base64.Standard) :
    (system base64 view).Simulates FallibleMap.system
      (fun label => event label.1.operation label.1.pair label.2) (Holds base64 view) where
  starts := by
    intro store empty
    exact ⟨fun _ => none, rfl, empty⟩
  steps := by
    rintro store after ⟨call, reply⟩ keys holds performed
    change perform keyring base64 call store = (reply, after) at performed
    rw [perform_eq] at performed
    exact performAt_step base64 native standard holds call.operation call.pair performed

/-- Only a successful save or delete changes the store, and only at its pair. -/
theorem performAt_contents (operation : Operation) (pair : String × String)
    (store : keyring.Store) :
    view.contents (performAt keyring base64 operation pair store).2 = view.contents store ∨
      (operation.Writes ∧ ¬ (performAt keyring base64 operation pair store).1.Failed ∧
        ∃ password, view.contents (performAt keyring base64 operation pair store).2 =
          Function.update (view.contents store) pair password) := by
  cases operation with
  | save masterKey =>
      cases saving : saveMasterKeyInService keyring base64 pair.1 pair.2 masterKey store with
      | mk result last =>
          simp only [performAt, saving]
          rcases save_cases base64 native saving with ⟨rfl, written⟩ | ⟨-, kept⟩
          · exact .inr ⟨trivial, not_failed_ok (), _, written⟩
          · exact .inl kept
  | load => exact .inl (load_keeps base64 native pair.1 pair.2 store)
  | delete =>
      cases deleting : deleteMasterKeyInService keyring pair.1 pair.2 store with
      | mk result last =>
          simp only [performAt, deleting]
          rcases delete_cases native deleting with ⟨rfl, written⟩ | ⟨-, kept⟩
          · exact .inr ⟨trivial, not_failed_ok (), _, written⟩
          · exact .inl kept
  | has =>
      simp only [performAt, has_eq]
      exact .inl (load_keeps base64 native pair.1 pair.2 store)

theorem perform_failed (call : Call) (store : keyring.Store)
    (failed : (perform keyring base64 call store).1.Failed) :
    view.contents (perform keyring base64 call store).2 = view.contents store := by
  rw [perform_eq] at failed ⊢
  rcases performAt_contents base64 native call.operation call.pair store with kept | ⟨-, worked, -⟩
  · exact kept
  · exact absurd failed worked

/-- A call keeps what it does not write: every other entry, and all of them if
it only reads. -/
theorem perform_keeps (call : Call) (store : keyring.Store) (pair : String × String)
    (unwritten : ¬ (call.pair = pair ∧ call.operation.Writes)) :
    view.contents (perform keyring base64 call store).2 pair = view.contents store pair := by
  rw [perform_eq]
  rcases performAt_contents base64 native call.operation call.pair store with
    kept | ⟨writes, -, password, written⟩
  · rw [kept]
  · have different : pair ≠ call.pair := fun same => unwritten ⟨same.symm, writes⟩
    rw [written, Function.update_of_ne different]

/-- Deleting what is absent changes nothing, whatever the backend says. -/
theorem delete_absent (service account : String)
    (absent : view.contents store (service, account) = none) :
    view.contents (deleteMasterKeyInService keyring service account store).2 =
      view.contents store := by
  cases deleting : deleteMasterKeyInService keyring service account store with
  | mk result last =>
      rcases delete_cases native deleting with ⟨-, written⟩ | ⟨-, kept⟩
      · rw [written, ← absent, Function.update_eq_self]
      · exact kept

end Steps

/-- What the replies of a run say about the keys. -/
def history (labels : List (Call × Reply)) : List (FallibleMap.Event (String × String) Key) :=
  labels.map fun label => event label.1.operation label.1.pair label.2

/-- The refinement, and what a caller may take from each reply. -/
theorem keychain_refines_map (view : keyring.View (String × String)) (native : view.Native)
    (standard : base64.Standard) :
    (∀ labels store, (system base64 view).Trace labels store →
      (∃ keys, FallibleMap.system.Trace (history labels) keys ∧ Holds base64 view store keys) ∧
      (∀ service account key,
        (loadMasterKeyInService keyring base64 service account store).1 = .ok (some key) →
          FallibleMap.Stored (history labels) (service, account) key) ∧
      (∀ service account,
        (loadMasterKeyInService keyring base64 service account store).1 = .ok none →
          view.contents store (service, account) = none ∧
            ∀ key, ¬ FallibleMap.Stored (history labels) (service, account) key)) ∧
    (∀ service account store, view.contents store (service, account) = none →
      view.contents (deleteMasterKeyInService keyring service account store).2 =
          view.contents store ∧
        ((deleteMasterKeyInService keyring service account store).1 = .ok () ↔
          DeletionAnswered keyring service account store) ∧
        ∀ text, (deleteMasterKeyInService keyring service account store).1 = .error text ↔
          DeletionRefused keyring service account store text) ∧
    (∀ call store, (perform keyring base64 call store).1.Failed →
      view.contents (perform keyring base64 call store).2 = view.contents store) ∧
    (∀ call store pair, pair ≠ call.pair →
      view.contents (perform keyring base64 call store).2 pair = view.contents store pair) ∧
    (∀ account masterKey store,
      saveMasterKey keyring base64 account masterKey store =
          saveMasterKeyInService keyring base64 defaultService account masterKey store ∧
        loadMasterKey keyring base64 account store =
          loadMasterKeyInService keyring base64 defaultService account store ∧
        deleteMasterKey keyring account store =
          deleteMasterKeyInService keyring defaultService account store ∧
        hasMasterKey keyring base64 account store =
          hasMasterKeyInService keyring base64 defaultService account store) := by
  refine ⟨?_, ?_, ?_, ?_, ?_⟩
  · intro labels store run
    obtain ⟨keys, run', holds⟩ := (simulates base64 native standard).trace run
    have stored := FallibleMap.holds_iff_stored run'
    refine ⟨⟨keys, run', holds⟩, ?_, ?_⟩
    · intro service account key loaded
      exact (stored _ _).mp (load_holds base64 native standard holds loaded)
    · intro service account loaded
      have absent := load_holds base64 native standard holds loaded
      refine ⟨(storedKey_eq_none_iff base64 _).mp (load_ok base64 native loaded), ?_⟩
      intro key present
      rw [(stored _ _).mpr present] at absent
      cases absent
  · intro service account store absent
    exact ⟨delete_absent native service account absent, delete_ok_iff keyring service account store,
      delete_eq_error_iff keyring service account store⟩
  · intro call store failed
    exact perform_failed base64 native call store failed
  · intro call store pair different
    exact perform_keeps base64 native call store pair (fun both => different both.1.symm)
  · intro account masterKey store
    exact ⟨rfl, rfl, rfl, rfl⟩

/-- A save, and a load while the keychain is locked: what the next load returns
was the saved key. -/
theorem keychain_refines_map_sample :
    FallibleMap.Stored
      (history [(.saveMasterKey "alice" Reference.key, .done (.ok ())),
        (.loadMasterKeyInService defaultService "alice",
          .loaded (.error "Keychain load error: locked"))])
      (defaultService, "alice") Reference.key := by
  have start : (system Reference.base64 Reference.faultyView).Trace []
      ((fun _ => none, [none, none, none, some "locked"]) : Reference.faultyKeyring.Store) :=
    .start _ rfl
  have run := trace_perform _ (trace_perform _ start (.saveMasterKey "alice" Reference.key))
    (.loadMasterKeyInService defaultService "alice")
  exact ((keychain_refines_map _ _ Reference.faultyView Reference.faultyView_native
    Reference.base64_standard).1 _ _ run).2.1 defaultService "alice" Reference.key rfl

/-- Where nothing was ever saved, a delete fails while the keychain is locked. -/
theorem absent_delete_fails :
    Reference.faultyView.Native ∧ Reference.base64.Standard ∧
    ¬ ∀ labels store, (system Reference.base64 Reference.faultyView).Trace labels store →
      ∀ service account, Reference.faultyView.contents store (service, account) = none →
        (deleteMasterKeyInService Reference.faultyKeyring service account store).1 = .ok () := by
  refine ⟨Reference.faultyView_native, Reference.base64_standard, ?_⟩
  intro succeeds
  have start : (system Reference.base64 Reference.faultyView).Trace []
      ((fun _ => none, [none, some "locked"]) : Reference.faultyKeyring.Store) :=
    .start _ rfl
  have deleted := succeeds _ _ start defaultService "alice" rfl
  cases deleted

end IncokitE2ee.Keychain
