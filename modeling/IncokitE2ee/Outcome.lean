set_option autoImplicit false

/- Results: failure, and what the computations of a chain have to return for the
chain to succeed. -/
namespace Outcome

variable {ε α β : Type}

/-- `Result::is_err`. -/
def Failed (result : Except ε α) : Prop := ∃ error, result = .error error

@[simp] theorem failed_error (error : ε) :
    Failed (Except.error error : Except ε α) := ⟨error, rfl⟩

@[simp] theorem not_failed_ok (value : α) :
    ¬ Failed (Except.ok value : Except ε α) := by
  rintro ⟨error, ⟨⟩⟩

/-- A `?` passes on exactly the successes of its first computation. -/
theorem bind_eq_ok_iff (first : Except ε α) (next : α → Except ε β) (value : β) :
    (first >>= next) = .ok value ↔ ∃ middle, first = .ok middle ∧ next middle = .ok value := by
  cases first with
  | error error =>
      constructor
      · intro impossible
        cases impossible
      · rintro ⟨middle, ⟨⟩, _⟩
  | ok middle =>
      constructor
      · intro success
        exact ⟨middle, rfl, success⟩
      · rintro ⟨_, ⟨⟩, success⟩
        exact success

/-- A chain fails in its first computation, or in the rest of it. -/
theorem bind_eq_error_iff (first : Except ε α) (next : α → Except ε β) (error : ε) :
    (first >>= next) = .error error ↔
      first = .error error ∨ ∃ middle, first = .ok middle ∧ next middle = .error error := by
  cases first with
  | error broken =>
      constructor
      · intro failed
        cases failed
        exact .inl rfl
      · rintro (⟨⟨⟩⟩ | ⟨middle, ⟨⟩, _⟩)
        rfl
  | ok middle =>
      constructor
      · intro failed
        exact .inr ⟨middle, rfl, failed⟩
      · rintro (⟨⟨⟩⟩ | ⟨_, ⟨⟩, failed⟩)
        exact failed

@[simp] theorem bind_ok (value : α) (next : α → Except ε β) :
    ((Except.ok value : Except ε α) >>= next) = next value := rfl

@[simp] theorem bind_error (error : ε) (next : α → Except ε β) :
    ((Except.error error : Except ε α) >>= next) = .error error := rfl

end Outcome
