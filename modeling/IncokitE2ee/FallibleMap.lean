import IncokitE2ee.Transition
import Mathlib.Logic.Function.Basic

set_option autoImplicit false

/- A map whose requests may fail, and what its history says it holds. -/
namespace FallibleMap

variable {Address Value : Type}

/-- What a request did. One that failed did nothing and says nothing. -/
inductive Event (Address Value : Type) where
  | put (address : Address) (value : Value)
  | got (address : Address) (found : Option Value)
  | removed (address : Address)
  | seen (address : Address)
  | failed

/-- The event leaves the address with a value of its own making, or with none. -/
def Event.Writes (address : Address) : Event Address Value → Prop
  | .put other _ => other = address
  | .removed other => other = address
  | _ => False

/-- The value of the last put, with nothing put or removed there since. -/
def Stored (history : List (Event Address Value)) (address : Address) (value : Value) : Prop :=
  ∃ before after, history = before ++ .put address value :: after ∧
    ∀ event ∈ after, ¬ event.Writes address

theorem stored_snoc_iff (history : List (Event Address Value)) (event : Event Address Value)
    (address : Address) (value : Value) :
    Stored (history ++ [event]) address value ↔
      event = .put address value ∨ (¬ event.Writes address ∧ Stored history address value) := by
  constructor
  · rintro ⟨before, after, split, unwritten⟩
    rcases List.eq_nil_or_concat after with rfl | ⟨middle, last, rfl⟩
    · have ends := List.append_inj' split rfl
      exact .inl (List.cons.inj ends.2).1
    · rw [List.concat_eq_append, ← List.cons_append, ← List.append_assoc] at split
      have ends := List.append_inj' split rfl
      have same := (List.cons.inj ends.2).1
      rw [List.concat_eq_append] at unwritten
      refine .inr ⟨?_, before, middle, ends.1, ?_⟩
      · rw [same]
        exact unwritten last (List.mem_append_right _ List.mem_cons_self)
      · intro event member
        exact unwritten event (List.mem_append_left _ member)
  · rintro (rfl | ⟨unwritten, before, after, rfl, earlier⟩)
    · exact ⟨history, [], rfl, fun _ member => nomatch member⟩
    · refine ⟨before, after ++ [event], by rw [List.append_assoc, List.cons_append], ?_⟩
      intro other member
      rcases List.mem_append.mp member with old | new
      · exact earlier other old
      · rwa [List.mem_singleton.mp new]

variable [DecidableEq Address]

inductive Step : (Address → Option Value) → Event Address Value → (Address → Option Value) →
    Prop where
  | put (map : Address → Option Value) (address : Address) (value : Value) :
      Step map (.put address value) (Function.update map address (some value))
  | got (map : Address → Option Value) (address : Address) : Step map (.got address (map address)) map
  | removed (map : Address → Option Value) (address : Address) :
      Step map (.removed address) (Function.update map address none)
  | seen (map : Address → Option Value) (address : Address) (present : map address ≠ none) :
      Step map (.seen address) map
  | failed (map : Address → Option Value) : Step map .failed map

def system : Labelled (Address → Option Value) (Event Address Value) where
  start map := map = fun _ => none
  step := Step

/-- After any history the map holds what was stored last. -/
theorem holds_iff_stored {history : List (Event Address Value)} {map : Address → Option Value}
    (run : system.Trace history map) (address : Address) (value : Value) :
    map address = some value ↔ Stored history address value := by
  induction run with
  | start map starts =>
      constructor
      · intro held
        rw [show map = fun _ => none from starts] at held
        cases held
      · rintro ⟨before, after, split, -⟩
        exact absurd split (by simp)
  | next history map after event _ step ih =>
      rw [stored_snoc_iff, ← ih]
      cases step with
      | put other value' =>
          by_cases same : other = address
          · subst same
            simp [Event.Writes]
          · simp [Event.Writes, Function.update_of_ne (Ne.symm same), same]
      | removed other =>
          by_cases same : other = address
          · subst same
            simp [Event.Writes]
          · simp [Event.Writes, Function.update_of_ne (Ne.symm same), same]
      | got other => simp [Event.Writes]
      | seen other present => simp [Event.Writes]
      | failed => simp [Event.Writes]

end FallibleMap
