import IncokitE2ee.Outcome
import Mathlib.Logic.Function.Basic

set_option autoImplicit false

/- The `keyring` crate, version 3: handles to password entries, over whatever
store the crate was built for. -/
namespace IncokitE2ee

/-- `keyring::Error`. Its caller tells `NoEntry` from the others only. -/
inductive Keyring.Error where
  | noEntry
  | other (text : String)
  deriving DecidableEq

/-- What a call reads and changes is all in the store, its failures included. -/
structure Keyring where
  Store : Type
  Entry : Type
  noEntryText : String
  new : (service user : String) → Store → Except Keyring.Error Entry × Store
  setPassword : Entry → (password : String) → Store → Except Keyring.Error Unit × Store
  getPassword : Entry → Store → Except Keyring.Error String × Store
  deleteCredential : Entry → Store → Except Keyring.Error Unit × Store

namespace Keyring

def display (keyring : Keyring) : Keyring.Error → String
  | .noEntry => keyring.noEntryText
  | .other text => text

/-- What a store holds, cell by cell, and the cell that an entry stands for. -/
structure View (keyring : Keyring) (Cell : Type) where
  contents : keyring.Store → Cell → Option String
  cell : keyring.Entry → Cell

namespace View

variable {keyring : Keyring} {Cell : Type} [DecidableEq Cell]

/-- A call on an entry acts on its cell. Any call may fail, and then changes
nothing; `NoEntry` is the failure that means an empty cell. -/
structure Cells (view : keyring.View Cell) : Prop where
  set_ok : ∀ entry password store after, keyring.setPassword entry password store = (.ok (), after) →
    view.contents after =
      Function.update (view.contents store) (view.cell entry) (some password)
  set_error : ∀ entry password store error after,
    keyring.setPassword entry password store = (.error error, after) →
      view.contents after = view.contents store
  get_keeps : ∀ entry store, view.contents (keyring.getPassword entry store).2 = view.contents store
  get_ok : ∀ entry store password, (keyring.getPassword entry store).1 = .ok password →
    view.contents store (view.cell entry) = some password
  get_noEntry : ∀ entry store, (keyring.getPassword entry store).1 = .error .noEntry →
    view.contents store (view.cell entry) = none
  delete_ok : ∀ entry store after, keyring.deleteCredential entry store = (.ok (), after) →
    view.contents after = Function.update (view.contents store) (view.cell entry) none
  delete_noEntry : ∀ entry store, (keyring.deleteCredential entry store).1 = .error .noEntry →
    view.contents store (view.cell entry) = none
  delete_error : ∀ entry store error after,
    keyring.deleteCredential entry store = (.error error, after) →
      view.contents after = view.contents store

/-- A native store: the cells are the pairs of a service and an account, and
outlive the entries. -/
structure Native (view : keyring.View (String × String)) : Prop extends view.Cells where
  new_ok : ∀ service user store entry after, keyring.new service user store = (.ok entry, after) →
    view.cell entry = (service, user) ∧ view.contents after = view.contents store
  new_error : ∀ service user store error after,
    keyring.new service user store = (.error error, after) →
      view.contents after = view.contents store

end View

structure Answers (keyring : Keyring) : Prop where
  new : ∀ service user store, ∃ entry after, keyring.new service user store = (.ok entry, after)
  get : ∀ entry store text, (keyring.getPassword entry store).1 ≠ .error (.other text)

/-- The in-memory mock: an entry comes with a cell of its own, empty at first. -/
structure View.Mock {keyring : Keyring} {Cell : Type} [DecidableEq Cell]
    (view : keyring.View Cell) : Prop extends view.Cells, keyring.Answers where
  starts : Nonempty keyring.Store
  set : ∀ entry password store, ∃ after, keyring.setPassword entry password store = (.ok (), after)
  fresh : ∀ service user store entry after, keyring.new service user store = (.ok entry, after) →
    view.contents after = Function.update (view.contents store) (view.cell entry) none

inductive Platform where
  | macOS
  | windows
  | linux
  deriving DecidableEq

inductive Feature where
  | appleNative
  | windowsNative
  | syncSecretService
  | asyncSecretService
  | linuxNative
  deriving DecidableEq

def Feature.platform : Feature → Platform
  | .appleNative => .macOS
  | .windowsNative => .windows
  | .syncSecretService => .linux
  | .asyncSecretService => .linux
  | .linuxNative => .linux

def Served (features : List Feature) (platform : Platform) : Prop :=
  ∃ feature ∈ features, feature.platform = platform

instance (features : List Feature) (platform : Platform) : Decidable (Served features platform) :=
  inferInstanceAs (Decidable (∃ feature ∈ features, feature.platform = platform))

/-- The crate as built with some features for a platform: without a native
store it falls back to the mock. -/
structure Selects (crate : List Feature → Platform → Keyring) : Prop where
  native : ∀ features platform, Served features platform →
    (crate features platform).Answers ∧
      ∃ view : (crate features platform).View (String × String), view.Native
  mock : ∀ features platform, ¬ Served features platform →
    ∃ (Cell : Type) (_ : DecidableEq Cell) (view : (crate features platform).View Cell), view.Mock

end Keyring

end IncokitE2ee
