import Mathlib.Logic.Relation

set_option autoImplicit false

/- Transition systems and the invariant rule; labelled ones, their traces, and
simulation between two of them. -/

structure Transition (State : Type) where
  start : State → Prop
  step : State → State → Prop

namespace Transition

variable {State : Type}

/-- A state at the end of a run of any length. -/
def Reachable (system : Transition State) (state : State) : Prop :=
  ∃ first, system.start first ∧ Relation.ReflTransGen system.step first state

theorem Reachable.of_start {system : Transition State} {state : State}
    (starts : system.start state) : system.Reachable state :=
  ⟨state, starts, .refl⟩

theorem Reachable.next {system : Transition State} {state after : State}
    (reachable : system.Reachable state) (step : system.step state after) :
    system.Reachable after := by
  obtain ⟨first, starts, run⟩ := reachable
  exact ⟨first, starts, run.tail step⟩

/-- What holds at the start and is kept by each step holds in every reachable state. -/
theorem Reachable.invariant {system : Transition State} {holds : State → Prop}
    (initially : ∀ state, system.start state → holds state)
    (kept : ∀ state after, holds state → system.step state after → holds after)
    {state : State} (reachable : system.Reachable state) : holds state := by
  obtain ⟨first, starts, run⟩ := reachable
  induction run with
  | refl => exact initially first starts
  | tail _ step ih => exact kept _ _ ih step

end Transition

/-- A system whose steps show something of what they did. -/
structure Labelled (State Label : Type) where
  start : State → Prop
  step : State → Label → State → Prop

namespace Labelled

variable {State Label High Event : Type}

inductive Trace (system : Labelled State Label) : List Label → State → Prop where
  | start (state : State) (starts : system.start state) : Trace system [] state
  | next (labels : List Label) (state after : State) (label : Label)
      (run : Trace system labels state) (step : system.step state label after) :
      Trace system (labels ++ [label]) after

/-- Every start and every step of the lower system has a counterpart above. -/
structure Simulates (low : Labelled State Label) (high : Labelled High Event)
    (event : Label → Event) (related : State → High → Prop) : Prop where
  starts : ∀ state, low.start state → ∃ above, high.start above ∧ related state above
  steps : ∀ state after label above, related state above → low.step state label after →
    ∃ above', high.step above (event label) above' ∧ related after above'

/-- A trace of the lower system is one of the higher, label by label. -/
theorem Simulates.trace {low : Labelled State Label} {high : Labelled High Event}
    {event : Label → Event} {related : State → High → Prop}
    (simulates : low.Simulates high event related) {labels : List Label} {state : State}
    (run : low.Trace labels state) :
    ∃ above, high.Trace (labels.map event) above ∧ related state above := by
  induction run with
  | start state starts =>
      obtain ⟨above, starts', relates⟩ := simulates.starts state starts
      exact ⟨above, .start above starts', relates⟩
  | next labels state after label _ step ih =>
      obtain ⟨above, run', relates⟩ := ih
      obtain ⟨above', step', relates'⟩ := simulates.steps state after label above relates step
      refine ⟨above', ?_, relates'⟩
      rw [List.map_append]
      exact .next _ above above' (event label) run' step'

end Labelled
