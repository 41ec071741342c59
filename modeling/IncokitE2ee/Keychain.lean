import IncokitE2ee.Base64
import IncokitE2ee.Bytes
import IncokitE2ee.Error
import IncokitE2ee.Keyring

set_option autoImplicit false

/- `keychain.rs`: the master key in the operating system's keychain, as base 64
text under a service and an account. -/
namespace IncokitE2ee.Keychain

variable (keyring : Keyring) (base64 : Base64.Engine)

def defaultService : String := "com.incokit.encryption"

def entry (service account : String) (store : keyring.Store) :
    Except String keyring.Entry × keyring.Store :=
  match keyring.new service account store with
  | (.error e, store) => (.error ("Keychain entry error: " ++ keyring.display e), store)
  | (.ok entry, store) => (.ok entry, store)

/-- A stored text back into a key, its length checked. -/
def decodeKey (encoded : String) : Except String Key :=
  match base64.decode encoded with
  | .error e => .error ("Keychain decode error: " ++ e)
  | .ok bytes =>
      if width : bytes.length = 32 then .ok ⟨bytes, width⟩
      else .error ("Invalid key length in keychain: expected 32, got " ++ toString bytes.length)

def saveMasterKeyInService (service account : String) (masterKey : Key) (store : keyring.Store) :
    Except String Unit × keyring.Store :=
  let encoded := base64.encode masterKey.val
  match entry keyring service account store with
  | (.error e, store) => (.error e, store)
  | (.ok entry, store) =>
      match keyring.setPassword entry encoded store with
      | (.error e, store) => (.error ("Keychain save error: " ++ keyring.display e), store)
      | (.ok (), store) => (.ok (), store)

/-- `Ok(None)` if absent. -/
def loadMasterKeyInService (service account : String) (store : keyring.Store) :
    Except String (Option Key) × keyring.Store :=
  match entry keyring service account store with
  | (.error e, store) => (.error e, store)
  | (.ok entry, store) =>
      match keyring.getPassword entry store with
      | (.ok encoded, store) =>
          match decodeKey base64 encoded with
          | .error e => (.error e, store)
          | .ok key => (.ok (some key), store)
      | (.error .noEntry, store) => (.ok none, store)
      | (.error e, store) => (.error ("Keychain load error: " ++ keyring.display e), store)

/-- An absent entry is a no-op. -/
def deleteMasterKeyInService (service account : String) (store : keyring.Store) :
    Except String Unit × keyring.Store :=
  match entry keyring service account store with
  | (.error e, store) => (.error e, store)
  | (.ok entry, store) =>
      match keyring.deleteCredential entry store with
      | (.ok (), store) => (.ok (), store)
      | (.error .noEntry, store) => (.ok (), store)
      | (.error e, store) => (.error ("Keychain delete error: " ++ keyring.display e), store)

/-- Whatever the load says, but for a key that was found, is a `false`. -/
def hasMasterKeyInService (service account : String) (store : keyring.Store) :
    Bool × keyring.Store :=
  match loadMasterKeyInService keyring base64 service account store with
  | (.ok (some _), store) => (true, store)
  | (_, store) => (false, store)

def saveMasterKey (account : String) (masterKey : Key) (store : keyring.Store) :
    Except String Unit × keyring.Store :=
  saveMasterKeyInService keyring base64 defaultService account masterKey store

def loadMasterKey (account : String) (store : keyring.Store) :
    Except String (Option Key) × keyring.Store :=
  loadMasterKeyInService keyring base64 defaultService account store

def deleteMasterKey (account : String) (store : keyring.Store) :
    Except String Unit × keyring.Store :=
  deleteMasterKeyInService keyring defaultService account store

def hasMasterKey (account : String) (store : keyring.Store) : Bool × keyring.Store :=
  hasMasterKeyInService keyring base64 defaultService account store

/-- What a load makes of the backend's reply. -/
def loadResult : Except Keyring.Error String → Except String (Option Key)
  | .ok encoded => (decodeKey base64 encoded).map some
  | .error .noEntry => .ok none
  | .error e => .error ("Keychain load error: " ++ keyring.display e)

theorem load_unopened {service account : String} {store middle : keyring.Store}
    {error : Keyring.Error} (made : keyring.new service account store = (.error error, middle)) :
    loadMasterKeyInService keyring base64 service account store =
      (.error ("Keychain entry error: " ++ keyring.display error), middle) := by
  simp only [loadMasterKeyInService, entry, made]

theorem load_opened {service account : String} {store middle last : keyring.Store}
    {opened : keyring.Entry} {reply : Except Keyring.Error String}
    (made : keyring.new service account store = (.ok opened, middle))
    (reading : keyring.getPassword opened middle = (reply, last)) :
    loadMasterKeyInService keyring base64 service account store =
      (loadResult keyring base64 reply, last) := by
  simp only [loadMasterKeyInService, entry, made, reading]
  cases reply with
  | ok encoded => cases decoded : decodeKey base64 encoded <;> simp [loadResult, decoded, Except.map]
  | error error => cases error <;> rfl

/-- The key that an entry's text stands for, if there is an entry. -/
def storedKey : Option String → Except String (Option Key)
  | none => .ok none
  | some password => (decodeKey base64 password).map some

theorem storedKey_eq_none_iff (password : Option String) :
    storedKey base64 password = .ok none ↔ password = none := by
  cases password with
  | none => exact iff_of_true rfl rfl
  | some password => cases decoded : decodeKey base64 password <;> simp [storedKey, decoded, Except.map]

theorem storedKey_eq_some_iff (password : Option String) (key : Key) :
    storedKey base64 password = .ok (some key) ↔
      ∃ text, password = some text ∧ decodeKey base64 text = .ok key := by
  cases password with
  | none => simp [storedKey]
  | some password => cases decoded : decodeKey base64 password <;> simp [storedKey, decoded, Except.map]

/-- The backend lets the entry be made and read, or says that it is absent. -/
def Answered (service account : String) (store : keyring.Store) : Prop :=
  ∃ opened middle, keyring.new service account store = (.ok opened, middle) ∧
    ∀ text, (keyring.getPassword opened middle).1 ≠ .error (.other text)

theorem load_unanswered {service account : String} {store : keyring.Store}
    (unanswered : ¬ Answered keyring service account store) :
    Failed (loadMasterKeyInService keyring base64 service account store).1 := by
  cases made : keyring.new service account store with
  | mk result middle =>
      cases result with
      | error error =>
          rw [load_unopened keyring base64 made]
          exact failed_error _
      | ok opened =>
          cases reading : keyring.getPassword opened middle with
          | mk reply last =>
              rw [load_opened keyring base64 made reading]
              by_cases other : ∃ text, reply = .error (.other text)
              · obtain ⟨text, rfl⟩ := other
                exact failed_error _
              · refine absurd ⟨opened, middle, made, ?_⟩ unanswered
                intro text impossible
                rw [reading] at impossible
                exact other ⟨text, impossible⟩

section Entries

variable {keyring} {view : keyring.View (String × String)} (native : view.Native)
include native

/-- Opening an entry leaves the store as it was, and an opened entry stands for
its pair. -/
theorem entry_cases {service account : String} {store after : keyring.Store}
    {result : Except String keyring.Entry}
    (opening : entry keyring service account store = (result, after)) :
    view.contents after = view.contents store ∧
      ∀ opened, result = .ok opened → view.cell opened = (service, account) := by
  rw [entry] at opening
  split at opening
  · rename_i error middle made
    cases opening
    refine ⟨native.new_error _ _ _ _ _ made, ?_⟩
    rintro _ ⟨⟩
  · rename_i opened middle made
    cases opening
    obtain ⟨cell, kept⟩ := native.new_ok _ _ _ _ _ made
    refine ⟨kept, ?_⟩
    rintro _ ⟨⟩
    exact cell

theorem save_cases {service account : String} {masterKey : Key} {store after : keyring.Store}
    {result : Except String Unit}
    (saving : saveMasterKeyInService keyring base64 service account masterKey store =
      (result, after)) :
    (result = .ok () ∧ view.contents after = Function.update (view.contents store)
        (service, account) (some (base64.encode masterKey.val))) ∨
      (Failed result ∧ view.contents after = view.contents store) := by
  rw [saveMasterKeyInService] at saving
  split at saving
  · rename_i error middle opening
    cases saving
    exact .inr ⟨failed_error _, (entry_cases native opening).1⟩
  · rename_i opened middle opening
    obtain ⟨kept, cell⟩ := entry_cases native opening
    split at saving
    · rename_i error last setting
      cases saving
      exact .inr ⟨failed_error _, (native.set_error _ _ _ _ _ setting).trans kept⟩
    · rename_i last setting
      cases saving
      have written := native.set_ok _ _ _ _ setting
      rw [kept, cell opened rfl] at written
      exact .inl ⟨rfl, written⟩

theorem delete_cases {service account : String} {store after : keyring.Store}
    {result : Except String Unit}
    (deleting : deleteMasterKeyInService keyring service account store = (result, after)) :
    (result = .ok () ∧ view.contents after =
        Function.update (view.contents store) (service, account) none) ∨
      (Failed result ∧ view.contents after = view.contents store) := by
  rw [deleteMasterKeyInService] at deleting
  split at deleting
  · rename_i error middle opening
    cases deleting
    exact .inr ⟨failed_error _, (entry_cases native opening).1⟩
  · rename_i opened middle opening
    obtain ⟨kept, cell⟩ := entry_cases native opening
    split at deleting
    · rename_i last removing
      cases deleting
      have written := native.delete_ok _ _ _ removing
      rw [kept, cell opened rfl] at written
      exact .inl ⟨rfl, written⟩
    · rename_i last removing
      cases deleting
      have absent := native.delete_noEntry opened middle (by rw [removing])
      have same := native.delete_error _ _ _ _ removing
      rw [kept, cell opened rfl] at absent
      refine .inl ⟨rfl, ?_⟩
      rw [same, kept, ← absent, Function.update_eq_self]
    · rename_i error last _ removing
      cases deleting
      exact .inr ⟨failed_error _, (native.delete_error _ _ _ _ removing).trans kept⟩

/-- A load that is answered returns what the store holds, decoded. -/
theorem load_answered {service account : String} {store : keyring.Store}
    (answered : Answered keyring service account store) :
    (loadMasterKeyInService keyring base64 service account store).1 =
      storedKey base64 (view.contents store (service, account)) := by
  obtain ⟨opened, middle, made, answers⟩ := answered
  obtain ⟨cell, kept⟩ := native.new_ok _ _ _ _ _ made
  rw [← kept, ← cell]
  cases reading : keyring.getPassword opened middle with
  | mk reply last =>
      have first := congrArg Prod.fst reading
      rw [load_opened keyring base64 made reading]
      cases reply with
      | ok encoded =>
          rw [native.get_ok opened middle encoded first]
          rfl
      | error error =>
          cases error with
          | noEntry =>
              rw [native.get_noEntry opened middle first]
              rfl
          | other text => exact absurd first (answers text)

theorem load_keeps (service account : String) (store : keyring.Store) :
    view.contents (loadMasterKeyInService keyring base64 service account store).2 =
      view.contents store := by
  cases made : keyring.new service account store with
  | mk result middle =>
      cases result with
      | error error =>
          rw [load_unopened keyring base64 made]
          exact native.new_error _ _ _ _ _ made
      | ok opened =>
          have kept := native.get_keeps opened middle
          cases reading : keyring.getPassword opened middle with
          | mk reply last =>
              rw [load_opened keyring base64 made reading]
              rw [reading] at kept
              exact kept.trans (native.new_ok _ _ _ _ _ made).2

/-- A load that succeeds has read the store. -/
theorem load_ok {service account : String} {store : keyring.Store} {found : Option Key}
    (loaded : (loadMasterKeyInService keyring base64 service account store).1 = .ok found) :
    storedKey base64 (view.contents store (service, account)) = .ok found := by
  by_cases answered : Answered keyring service account store
  · rw [← load_answered base64 native answered, loaded]
  · obtain ⟨error, failed⟩ := load_unanswered keyring base64 answered
    rw [loaded] at failed
    cases failed

end Entries

/-- `has` is the load with three of its four outcomes taken together. -/
theorem has_eq (service account : String) (store : keyring.Store) :
    hasMasterKeyInService keyring base64 service account store =
      (match (loadMasterKeyInService keyring base64 service account store).1 with
        | .ok (some _) => true
        | _ => false,
      (loadMasterKeyInService keyring base64 service account store).2) := by
  rw [hasMasterKeyInService]
  cases loadMasterKeyInService keyring base64 service account store with
  | mk result after =>
      cases result with
      | error error => rfl
      | ok found => cases found <;> rfl

/-- A saved text decodes to the key it was saved for. -/
theorem decodeKey_encode (standard : base64.Standard) (key : Key) :
    decodeKey base64 (base64.encode key.val) = .ok key := by
  rw [decodeKey, standard.decode_encode]
  exact dif_pos key.property

end IncokitE2ee.Keychain
