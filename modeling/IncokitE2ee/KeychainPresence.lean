import IncokitE2ee.Keychain
import IncokitE2ee.Reference
import IncokitE2ee.ReferenceKeyring

set_option autoImplicit false

/- What may be concluded when the keychain is asked whether it has a key. -/
namespace IncokitE2ee.Keychain

/-- Absence is reported only where nothing is stored, and just when a load
would report it. -/
def Truthful (present : Bool) (loaded : Except String (Option Key)) (stored : Option String) :
    Prop :=
  (present = false → stored = none) ∧ (present = false ↔ loaded = .ok none)

variable (keyring : Keyring) (base64 : Base64.Engine)

theorem has_truthful_iff {view : keyring.View (String × String)} (native : view.Native)
    (service account : String) (store : keyring.Store) :
    Truthful (hasMasterKeyInService keyring base64 service account store).1
        (loadMasterKeyInService keyring base64 service account store).1
        (view.contents store (service, account)) ↔
      Answered keyring service account store ∧
        ∀ password, view.contents store (service, account) = some password →
          ∃ key, decodeKey base64 password = .ok key := by
  rw [has_eq]
  by_cases answered : Answered keyring service account store
  · rw [load_answered base64 native answered]
    cases held : view.contents store (service, account) with
    | none => simp [Truthful, storedKey, answered]
    | some password =>
        cases decoded : decodeKey base64 password with
        | error error => simp [Truthful, storedKey, decoded, Except.map]
        | ok key =>
            refine iff_of_true (by simp [Truthful, storedKey, decoded, Except.map]) ⟨answered, ?_⟩
            rintro _ ⟨⟩
            exact ⟨key, decoded⟩
  · obtain ⟨error, failed⟩ := load_unanswered keyring base64 answered
    simp [Truthful, failed, answered]

/-- Failures and texts that are no key are the outcomes told apart by a load
but not by the question, in either form. -/
theorem presence_truthful_iff (view : keyring.View (String × String)) (native : view.Native) :
    (∀ service account store,
      Truthful (hasMasterKeyInService keyring base64 service account store).1
          (loadMasterKeyInService keyring base64 service account store).1
          (view.contents store (service, account)) ↔
        Answered keyring service account store ∧
          ∀ password, view.contents store (service, account) = some password →
            ∃ key, decodeKey base64 password = .ok key) ∧
    (∀ account store,
      Truthful (hasMasterKey keyring base64 account store).1
          (loadMasterKey keyring base64 account store).1
          (view.contents store (defaultService, account)) ↔
        Answered keyring defaultService account store ∧
          ∀ password, view.contents store (defaultService, account) = some password →
            ∃ key, decodeKey base64 password = .ok key) :=
  ⟨has_truthful_iff keyring base64 native,
    fun account => has_truthful_iff keyring base64 native defaultService account⟩

/-- A keychain that holds one user's key, with the faults its next calls meet. -/
def aliceStore (faults : List (Option String)) : Reference.faultyKeyring.Store :=
  (Function.update (fun _ => none) (defaultService, "alice")
    (some (Reference.base64.encode Reference.key.val)), faults)

theorem aliceStore_contents (faults : List (Option String)) :
    Reference.faultyView.contents (aliceStore faults) (defaultService, "alice") =
      some (Reference.base64.encode Reference.key.val) := by
  change Function.update (fun _ => none) (defaultService, "alice") (some _)
    (defaultService, "alice") = some _
  rw [Function.update_self]

theorem presence_truthful_unlocked :
    Truthful (hasMasterKey Reference.faultyKeyring Reference.base64 "alice" (aliceStore [])).1
      (loadMasterKey Reference.faultyKeyring Reference.base64 "alice" (aliceStore [])).1
      (Reference.faultyView.contents (aliceStore []) (defaultService, "alice")) := by
  apply ((presence_truthful_iff _ Reference.base64 Reference.faultyView
    Reference.faultyView_native).2 "alice" (aliceStore [])).mpr
  refine ⟨⟨_, _, rfl, fun text failed => nomatch failed⟩, ?_⟩
  intro password held
  rw [aliceStore_contents, Option.some.injEq] at held
  rw [← held]
  exact ⟨Reference.key, decodeKey_encode _ Reference.base64_standard Reference.key⟩

/-- Locked, it says of the key that is there that there is none. -/
theorem locked_key_reported_absent :
    Reference.faultyView.Native ∧
    ¬ ∀ service account store,
      Truthful (hasMasterKeyInService Reference.faultyKeyring Reference.base64 service account
          store).1
        (loadMasterKeyInService Reference.faultyKeyring Reference.base64 service account store).1
        (Reference.faultyView.contents store (service, account)) := by
  refine ⟨Reference.faultyView_native, ?_⟩
  intro truthful
  have absent := (truthful defaultService "alice" (aliceStore [none, some "locked"])).1 rfl
  rw [aliceStore_contents] at absent
  cases absent

end IncokitE2ee.Keychain
