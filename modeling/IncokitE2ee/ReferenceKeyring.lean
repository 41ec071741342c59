import IncokitE2ee.Keyring

set_option autoImplicit false

/- Small keyrings: a persistent map whose calls may be made to fail, the mock,
and the crate that chooses between them. -/
namespace IncokitE2ee.Reference

open Keyring

section Faults

variable {Store Fault α : Type} (text : Fault → String)
variable (call : Store → Except Keyring.Error α × Store)
variable {store after : Store × List (Option Fault)} {value : α} {error : Keyring.Error}

/-- A call that fails if a fault is next, and does nothing then. -/
def attempt (store : Store × List (Option Fault)) :
    Except Keyring.Error α × Store × List (Option Fault) :=
  match store.2.head?.join with
  | some fault => (.error (.other (text fault)), store.1, store.2.tail)
  | none => ((call store.1).1, (call store.1).2, store.2.tail)

theorem attempt_cases (store : Store × List (Option Fault)) :
    (∃ fault, attempt text call store =
        (.error (.other (text fault)), store.1, store.2.tail)) ∨
      attempt text call store = ((call store.1).1, (call store.1).2, store.2.tail) := by
  rw [attempt]
  cases store.2.head?.join with
  | some fault => exact .inl ⟨fault, rfl⟩
  | none => exact .inr rfl

theorem attempt_ok (done : attempt text call store = (.ok value, after)) :
    call store.1 = (.ok value, after.1) := by
  rcases attempt_cases text call store with ⟨fault, failed⟩ | worked
  · cases failed.symm.trans done
  · have parts := Prod.mk.inj (worked.symm.trans done)
    rw [← parts.1, ← parts.2]

theorem attempt_noEntry (absent : (attempt text call store).1 = .error .noEntry) :
    (call store.1).1 = .error .noEntry := by
  rcases attempt_cases text call store with ⟨fault, failed⟩ | worked
  · rw [failed] at absent
    cases absent
  · rwa [worked] at absent

/-- A call that leaves the store alone when it fails does so here. -/
theorem attempt_error (keeps : ∀ error last, call store.1 = (.error error, last) → last = store.1)
    (failed : attempt text call store = (.error error, after)) : after.1 = store.1 := by
  rcases attempt_cases text call store with ⟨fault, faulty⟩ | worked
  · cases faulty.symm.trans failed
    rfl
  · have parts := Prod.mk.inj (worked.symm.trans failed)
    rw [← parts.2]
    exact keeps error _ (by rw [← parts.1])

end Faults

section Passwords

variable {Cell : Type} [DecidableEq Cell] {cell : Cell} {password : String}
variable {passwords after : Cell → Option String} {error : Keyring.Error}

def enter (cell : Cell) (password : String) (passwords : Cell → Option String) :
    Except Keyring.Error Unit × (Cell → Option String) :=
  (.ok (), Function.update passwords cell (some password))

def lookup (cell : Cell) (passwords : Cell → Option String) :
    Except Keyring.Error String × (Cell → Option String) :=
  match passwords cell with
  | none => (.error .noEntry, passwords)
  | some password => (.ok password, passwords)

def erase (cell : Cell) (passwords : Cell → Option String) :
    Except Keyring.Error Unit × (Cell → Option String) :=
  match passwords cell with
  | none => (.error .noEntry, passwords)
  | some _ => (.ok (), Function.update passwords cell none)

omit [DecidableEq Cell] in
theorem lookup_cases (cell : Cell) (passwords : Cell → Option String) :
    (passwords cell = none ∧ lookup cell passwords = (.error .noEntry, passwords)) ∨
      ∃ password, passwords cell = some password ∧
        lookup cell passwords = (.ok password, passwords) := by
  cases held : passwords cell with
  | none => exact .inl ⟨rfl, by simp only [lookup, held]⟩
  | some password => exact .inr ⟨password, rfl, by simp only [lookup, held]⟩

theorem erase_cases (cell : Cell) (passwords : Cell → Option String) :
    (passwords cell = none ∧ erase cell passwords = (.error .noEntry, passwords)) ∨
      erase cell passwords = (.ok (), Function.update passwords cell none) := by
  cases held : passwords cell with
  | none => exact .inl ⟨rfl, by simp only [erase, held]⟩
  | some password => exact .inr (by simp only [erase, held])

omit [DecidableEq Cell] in
theorem lookup_keeps (cell : Cell) (passwords : Cell → Option String) :
    (lookup cell passwords).2 = passwords := by
  rcases lookup_cases cell passwords with ⟨-, same⟩ | ⟨_, -, same⟩ <;> rw [same]

omit [DecidableEq Cell] in
theorem lookup_ok (found : (lookup cell passwords).1 = .ok password) :
    passwords cell = some password := by
  rcases lookup_cases cell passwords with ⟨-, same⟩ | ⟨_, held, same⟩
  · rw [same] at found
    cases found
  · rw [same] at found
    cases found
    exact held

omit [DecidableEq Cell] in
theorem lookup_error (failed : (lookup cell passwords).1 = .error error) :
    error = .noEntry ∧ passwords cell = none := by
  rcases lookup_cases cell passwords with ⟨held, same⟩ | ⟨_, -, same⟩
  · rw [same] at failed
    cases failed
    exact ⟨rfl, held⟩
  · rw [same] at failed
    cases failed

theorem erase_ok (done : erase cell passwords = (.ok (), after)) :
    after = Function.update passwords cell none := by
  rcases erase_cases cell passwords with ⟨-, same⟩ | same
  · cases same.symm.trans done
  · exact (Prod.mk.inj (same.symm.trans done)).2.symm

theorem erase_error (failed : erase cell passwords = (.error error, after)) :
    passwords cell = none ∧ after = passwords := by
  rcases erase_cases cell passwords with ⟨held, same⟩ | same
  · exact ⟨held, (Prod.mk.inj (same.symm.trans failed)).2.symm⟩
  · cases same.symm.trans failed

end Passwords

def noEntryText : String := "No matching entry found in secure storage"

/-- A persistent map from services and accounts to passwords. A fault type
without values makes one that never fails. -/
def mapKeyring {Fault : Type} (text : Fault → String) : Keyring where
  Store := (String × String → Option String) × List (Option Fault)
  Entry := String × String
  noEntryText := noEntryText
  new service user := attempt text fun passwords => (.ok (service, user), passwords)
  setPassword pair password := attempt text (enter pair password)
  getPassword pair := attempt text (lookup pair)
  deleteCredential pair := attempt text (erase pair)

def mapView {Fault : Type} (text : Fault → String) : (mapKeyring text).View (String × String) :=
  ⟨Prod.fst, id⟩

theorem mapView_native {Fault : Type} (text : Fault → String) : (mapView text).Native where
  set_ok := by
    intro (pair : String × String) password store after done
    exact (Prod.mk.inj (attempt_ok text (enter pair password) done)).2.symm
  set_error := by
    intro pair password store error after failed
    refine attempt_error text _ ?_ failed
    rintro error last ⟨⟩
  get_keeps := by
    intro pair store
    rcases attempt_cases text (lookup pair) store with ⟨fault, failed⟩ | worked
    · exact congrArg (fun result => result.2.1) failed
    · exact (congrArg (fun result => result.2.1) worked).trans (lookup_keeps pair store.1)
  get_ok := by
    intro pair store password got
    exact lookup_ok (congrArg Prod.fst (attempt_ok text (lookup pair) (Prod.ext got rfl)))
  get_noEntry := by
    intro pair store got
    exact (lookup_error (attempt_noEntry text _ got)).2
  delete_ok := by
    intro pair store after done
    exact erase_ok (attempt_ok text _ done)
  delete_noEntry := by
    intro (pair : String × String) store got
    exact (erase_error (Prod.ext (attempt_noEntry text (erase pair) got) rfl)).1
  delete_error := by
    intro pair store error after failed
    refine attempt_error text _ ?_ failed
    intro error last absent
    exact (erase_error absent).2
  new_ok := by
    intro service user store entry after done
    have parts := Prod.mk.inj (attempt_ok text _ done)
    exact ⟨(Except.ok.inj parts.1).symm, parts.2.symm⟩
  new_error := by
    intro service user store error after failed
    refine attempt_error text _ ?_ failed
    rintro error last ⟨⟩

/-- The map whose calls may fail with a text. -/
def faultyKeyring : Keyring := mapKeyring (id : String → String)

def faultyView : faultyKeyring.View (String × String) := mapView id

theorem faultyView_native : faultyView.Native := mapView_native id

/-- The map whose calls never fail. -/
def steadyKeyring : Keyring := mapKeyring Empty.elim

theorem steadyKeyring_answers : steadyKeyring.Answers := by
  constructor
  · intro service user store
    rcases attempt_cases Empty.elim
      (fun passwords : String × String → Option String => (.ok (service, user), passwords))
      store with ⟨fault, -⟩ | worked
    · exact fault.elim
    · exact ⟨_, _, worked⟩
  · intro pair store text got
    rcases attempt_cases Empty.elim (lookup pair) store with ⟨fault, -⟩ | worked
    · exact fault.elim
    · have same := (congrArg Prod.fst worked).symm.trans got
      cases (lookup_error same).1

/-- What the mock keeps: the secrets of the entries made so far. -/
structure Mocks where
  next : Nat
  secrets : Nat → Option String

def mockKeyring : Keyring where
  Store := Mocks
  Entry := Nat
  noEntryText := noEntryText
  new _ _ store :=
    (.ok store.next, ⟨store.next + 1, Function.update store.secrets store.next none⟩)
  setPassword entry password store :=
    (.ok (), { store with secrets := (enter entry password store.secrets).2 })
  getPassword entry store := ((lookup entry store.secrets).1, store)
  deleteCredential entry store :=
    ((erase entry store.secrets).1, { store with secrets := (erase entry store.secrets).2 })

def mockView : mockKeyring.View Nat := ⟨Mocks.secrets, id⟩

theorem mockView_mock : mockView.Mock where
  set_ok := by
    rintro entry password store _ ⟨⟩
    rfl
  set_error := by
    rintro entry password store error after ⟨⟩
  get_keeps := fun _ _ => rfl
  get_ok := fun _ _ _ got => lookup_ok got
  get_noEntry := fun _ _ got => (lookup_error got).2
  delete_ok := by
    intro entry store after done
    have parts := Prod.mk.inj done
    rw [← parts.2]
    exact erase_ok (Prod.ext parts.1 rfl)
  delete_noEntry := fun _ _ got => (erase_error (Prod.ext got rfl)).1
  delete_error := by
    intro entry store error after failed
    have parts := Prod.mk.inj failed
    rw [← parts.2]
    exact (erase_error (Prod.ext parts.1 rfl)).2
  starts := ⟨⟨0, fun _ => none⟩⟩
  new := fun _ _ _ => ⟨_, _, rfl⟩
  get := by
    intro entry store text got
    cases (lookup_error got).1
  set := fun _ _ _ => ⟨_, rfl⟩
  fresh := by
    rintro service user store _ _ ⟨⟩
    rfl

/-- The crate as it is built with some features for a platform. -/
def keyringCrate (features : List Feature) (platform : Platform) : Keyring :=
  if Served features platform then steadyKeyring else mockKeyring

theorem keyringCrate_selects : Selects keyringCrate := by
  constructor
  · intro features platform served
    rw [keyringCrate, if_pos served]
    exact ⟨steadyKeyring_answers, _, mapView_native Empty.elim⟩
  · intro features platform unserved
    rw [keyringCrate, if_neg unserved]
    exact ⟨Nat, inferInstance, mockView, mockView_mock⟩

end IncokitE2ee.Reference
