set_option autoImplicit false

/- Lists cut into chunks of one size, and joined again with a separator. -/
namespace Chunks

variable {α β : Type}

/-- `slice::chunks`. -/
def chunks (size : Nat) (items : List α) : List (List α) :=
  (List.range ((items.length + size - 1) / size)).map fun index =>
    (items.drop (index * size)).take size

theorem chunks_map (size : Nat) (f : α → β) (items : List α) :
    chunks size (items.map f) = (chunks size items).map (List.map f) := by
  simp only [chunks, List.length_map, List.map_map]
  apply List.map_congr_left
  intro index _
  simp only [Function.comp_apply, List.map_take, List.map_drop]

/-- Chunks that reach past the end join to the whole. -/
theorem flatten_take_drop (size count : Nat) (items : List α)
    (reaches : items.length ≤ count * size) :
    ((List.range count).map fun index => (items.drop (index * size)).take size).flatten =
      items := by
  induction count generalizing items with
  | zero =>
      rw [Nat.zero_mul] at reaches
      rw [List.length_eq_zero_iff.mp (Nat.le_zero.mp reaches)]
      rfl
  | succ count ih =>
      have rest : (items.drop size).length ≤ count * size := by
        rw [List.length_drop]
        rw [Nat.succ_mul] at reaches
        omega
      have shifted := ih (items.drop size) rest
      simp only [List.drop_drop] at shifted
      rw [List.range_succ_eq_map, List.map_cons, List.map_map, List.flatten_cons, Nat.zero_mul,
        List.drop_zero]
      have same : ((List.range count).map
          ((fun index => (items.drop (index * size)).take size) ∘ Nat.succ)).flatten =
            items.drop size := by
        rw [← shifted]
        congr 1
        apply List.map_congr_left
        intro index _
        simp only [Function.comp_apply, Nat.succ_mul, Nat.add_comm]
      rw [same, List.take_append_drop]

theorem flatten_chunks (size : Nat) (positive : 0 < size) (items : List α) :
    (chunks size items).flatten = items := by
  apply flatten_take_drop
  have division := Nat.div_add_mod (items.length + size - 1) size
  have remainder := Nat.mod_lt (items.length + size - 1) positive
  rw [Nat.mul_comm] at division
  omega

/-- A list of whole chunks has so many of them, each of the given size. -/
theorem length_chunks (size count : Nat) (positive : 0 < size) (items : List α)
    (width : items.length = count * size) : (chunks size items).length = count := by
  rw [chunks, List.length_map, List.length_range, width, Nat.add_sub_assoc positive,
    Nat.add_comm, Nat.add_mul_div_right _ _ positive, Nat.div_eq_of_lt (by omega), Nat.zero_add]

theorem length_of_mem_chunks (size count : Nat) (positive : 0 < size) (items : List α)
    (width : items.length = count * size) : ∀ chunk ∈ chunks size items, chunk.length = size := by
  intro chunk member
  have number := length_chunks size count positive items width
  rw [chunks, List.length_map, List.length_range] at number
  rw [chunks, number] at member
  obtain ⟨index, inside, rfl⟩ := List.mem_map.mp member
  have room : index * size + size ≤ count * size := by
    rw [← Nat.succ_mul]
    exact Nat.mul_le_mul_right size (List.mem_range.mp inside)
  rw [List.length_take, List.length_drop, width]
  omega

/-- Parts of one size are known from what they join to. -/
theorem eq_of_flatten_eq (size : Nat) {parts other : List (List α)}
    (number : parts.length = other.length) (sizes : ∀ part ∈ parts, part.length = size)
    (sizes' : ∀ part ∈ other, part.length = size) (joined : parts.flatten = other.flatten) :
    parts = other := by
  refine List.eq_iff_flatten_eq.mpr ⟨joined, ?_⟩
  rw [List.map_congr_left sizes, List.map_congr_left sizes', List.map_const', List.map_const',
    number]

/-- What is filtered from joined parts is filtered from the parts, when nothing
is from the separator. -/
theorem filter_intercalate (keep : α → Bool) (separator : List α)
    (dropped : separator.filter keep = []) (parts : List (List α)) :
    (separator.intercalate parts).filter keep = parts.flatten.filter keep := by
  induction parts with
  | nil => rfl
  | cons part parts ih =>
      cases parts with
      | nil => rw [List.intercalate_singleton, List.flatten_cons, List.flatten_nil, List.append_nil]
      | cons next parts =>
          rw [List.intercalate_cons_cons, List.filter_append, List.filter_append, dropped,
            List.append_nil, ih, ← List.filter_append, ← List.flatten_cons]

end Chunks
