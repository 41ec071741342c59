import IncokitE2ee.KeychainMap

set_option autoImplicit false

/- On which platforms a saved key can be loaded again, with the features of the
`keyring` crate that the manifest enables. -/
namespace IncokitE2ee.Keychain

open Keyring (Platform Feature Served Selects)

/-- `features = ["apple-native", "windows-native"]` in `Cargo.toml`. -/
def keyringFeatures : List Feature := [.appleNative, .windowsNative]

variable (keyring : Keyring) (base64 : Base64.Engine)

def performAll (calls : List Call) (store : keyring.Store) : keyring.Store :=
  calls.foldl (fun store call => (perform keyring base64 call store).2) store

/-- A saved key is loaded again, whatever calls come between that neither save
nor delete at its pair. -/
def KeepsKeys : Prop :=
  ∀ service account masterKey store after calls,
    saveMasterKeyInService keyring base64 service account masterKey store = (.ok (), after) →
    (∀ call ∈ calls, ¬ (Call.pair call = (service, account) ∧ call.operation.Writes)) →
    (loadMasterKeyInService keyring base64 service account
      (performAll keyring base64 calls after)).1 = .ok (some masterKey)

variable {keyring}

/-- An entry of a native store outlives the calls that do not write it. -/
theorem performAll_keeps {view : keyring.View (String × String)} (native : view.Native)
    (calls : List Call) (store : keyring.Store) (pair : String × String)
    (unwritten : ∀ call ∈ calls, ¬ (Call.pair call = pair ∧ call.operation.Writes)) :
    view.contents (performAll keyring base64 calls store) pair = view.contents store pair := by
  induction calls generalizing store with
  | nil => rfl
  | cons call calls ih =>
      have first := perform_keeps base64 native call store pair
        (unwritten call List.mem_cons_self)
      have rest := ih (perform keyring base64 call store).2
        (fun other member => unwritten other (List.mem_cons_of_mem _ member))
      exact rest.trans first

theorem keepsKeys_of_native {view : keyring.View (String × String)} (native : view.Native)
    (answers : keyring.Answers) (standard : base64.Standard) : KeepsKeys keyring base64 := by
  intro service account masterKey store after calls saving unwritten
  have written : view.contents after (service, account) = some (base64.encode masterKey.val) := by
    rcases save_cases base64 native saving with ⟨-, written⟩ | ⟨failed, -⟩
    · rw [written, Function.update_self]
    · exact absurd failed (not_failed_ok ())
  have held := (performAll_keeps base64 native calls after (service, account) unwritten).trans written
  have answered : Answered keyring service account (performAll keyring base64 calls after) := by
    obtain ⟨opened, middle, made⟩ := answers.new service account (performAll keyring base64 calls after)
    exact ⟨opened, middle, made, answers.get opened middle⟩
  rw [load_answered base64 native answered, held]
  exact (storedKey_eq_some_iff base64 _ masterKey).mpr
    ⟨_, rfl, decodeKey_encode base64 standard masterKey⟩

section Mock

variable {Cell : Type} [DecidableEq Cell] {view : keyring.View Cell} (mock : view.Mock)
include mock

theorem save_mock (service account : String) (masterKey : Key) (store : keyring.Store) :
    ∃ after, saveMasterKeyInService keyring base64 service account masterKey store =
      (.ok (), after) := by
  obtain ⟨opened, middle, made⟩ := mock.new service account store
  obtain ⟨after, set⟩ := mock.set opened (base64.encode masterKey.val) middle
  exact ⟨after, by simp only [saveMasterKeyInService, entry, made, set]⟩

/-- A load makes an entry of its own, which nothing was ever saved in. -/
theorem load_mock (service account : String) (store : keyring.Store) :
    (loadMasterKeyInService keyring base64 service account store).1 = .ok none := by
  obtain ⟨opened, middle, made⟩ := mock.new service account store
  have empty : view.contents middle (view.cell opened) = none := by
    rw [mock.fresh service account store opened middle made, Function.update_self]
  cases reading : keyring.getPassword opened middle with
  | mk reply last =>
      have first := congrArg Prod.fst reading
      rw [load_opened keyring base64 made reading]
      cases reply with
      | ok password =>
          rw [mock.get_ok opened middle password first] at empty
          cases empty
      | error error =>
          cases error with
          | noEntry => rfl
          | other text => exact absurd first (mock.get opened middle text)

theorem not_keepsKeys_of_mock : ¬ KeepsKeys keyring base64 := by
  intro keeps
  obtain ⟨store⟩ := mock.starts
  obtain ⟨after, saving⟩ :=
    save_mock base64 mock defaultService "alice" (FixedBytes.fill 32 7) store
  have loaded := keeps _ _ _ store after [] saving (fun _ member => nomatch member)
  rw [load_mock base64 mock] at loaded
  cases loaded

end Mock

/-- A key is kept just on the platforms with a native store among the enabled
features: on macOS and Windows, and not on Linux. -/
theorem keychain_keeps_iff (crate : List Feature → Platform → Keyring) (selects : Selects crate)
    (standard : base64.Standard) :
    ∀ platform, KeepsKeys (crate keyringFeatures platform) base64 ↔
      Served keyringFeatures platform := by
  intro platform
  constructor
  · intro keeps
    by_cases served : Served keyringFeatures platform
    · exact served
    · obtain ⟨Cell, _, view, mock⟩ := selects.mock keyringFeatures platform served
      exact absurd keeps (not_keepsKeys_of_mock base64 mock)
  · intro served
    obtain ⟨answers, view, native⟩ := selects.native keyringFeatures platform served
    exact keepsKeys_of_native base64 native answers standard

theorem keychain_keeps_windows :
    KeepsKeys (Reference.keyringCrate keyringFeatures .windows) Reference.base64 :=
  (keychain_keeps_iff Reference.base64 Reference.keyringCrate Reference.keyringCrate_selects
    Reference.base64_standard .windows).mpr (by decide)

/-- On Linux a saved key is gone when it is loaded. -/
theorem linux_loses_keys :
    Selects Reference.keyringCrate ∧ Reference.base64.Standard ∧
    ¬ ∀ platform, KeepsKeys (Reference.keyringCrate keyringFeatures platform)
      Reference.base64 := by
  refine ⟨Reference.keyringCrate_selects, Reference.base64_standard, ?_⟩
  intro keeps
  obtain ⟨Cell, _, view, mock⟩ :=
    Reference.keyringCrate_selects.mock keyringFeatures .linux (by decide)
  exact not_keepsKeys_of_mock Reference.base64 mock (keeps .linux)

end IncokitE2ee.Keychain
