set_option autoImplicit false

/- Slice operations that panic unless their bounds or lengths fit. A panic is
`none`. -/
namespace Panics

variable {α : Type}

/-- `&items[start..stop]`. -/
def slice (items : List α) (start stop : Nat) : Option (List α) :=
  if start ≤ stop ∧ stop ≤ items.length then some ((items.drop start).take (stop - start))
  else none

/-- `&items[..stop]`. -/
def sliceTo (items : List α) (stop : Nat) : Option (List α) := slice items 0 stop

/-- `&items[start..]`. -/
def sliceFrom (items : List α) (start : Nat) : Option (List α) := slice items start items.length

/-- A slice taken as an array of `n`, or copied over one. -/
def toArray (n : Nat) (items : List α) : Option { array : List α // array.length = n } :=
  if width : items.length = n then some ⟨items, width⟩ else none

theorem sliceTo_eq (items : List α) (stop : Nat) (within : stop ≤ items.length) :
    sliceTo items stop = some (items.take stop) := by
  rw [sliceTo, slice, if_pos ⟨Nat.zero_le stop, within⟩, List.drop_zero, Nat.sub_zero]

theorem sliceFrom_eq (items : List α) (start : Nat) (within : start ≤ items.length) :
    sliceFrom items start = some (items.drop start) := by
  rw [sliceFrom, slice, if_pos ⟨within, Nat.le_refl _⟩,
    List.take_of_length_le (Nat.le_of_eq List.length_drop)]

theorem toArray_eq (n : Nat) (items : List α) (width : items.length = n) :
    toArray n items = some ⟨items, width⟩ := dif_pos width

/-- A loop over a list that neither panics nor stops early is the loop without panics. -/
theorem mapM_some {β ε : Type} (may : α → ExceptT ε Option β) (total : α → Except ε β)
    (same : ∀ item, (may item).run = some (total item)) (items : List α) :
    (items.mapM may).run = some (items.mapM total) := by
  induction items with
  | nil => rfl
  | cons item items ih =>
      rw [List.mapM_cons, List.mapM_cons, ExceptT.run_bind, same]
      cases total item with
      | error error => rfl
      | ok first =>
          simp only [ExceptT.run_bind, ih, Option.bind_eq_bind, Option.bind_some]
          cases items.mapM total <;> rfl

end Panics
