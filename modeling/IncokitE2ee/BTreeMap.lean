import Mathlib.Order.Lattice

set_option autoImplicit false

/- Ordered maps as lists of entries with ascending keys. -/
namespace BTreeMap

variable {K V : Type} [LinearOrder K]

/-- The entries of a map: one a key, in ascending order. -/
def Ascending (entries : List (K × V)) : Prop :=
  entries.Pairwise fun earlier later => earlier.1 < later.1

/-- A new entry, or a new value for the key that is there. -/
def insert (entries : List (K × V)) (key : K) (value : V) : List (K × V) :=
  match entries with
  | [] => [(key, value)]
  | (other, held) :: rest =>
      if key < other then (key, value) :: (other, held) :: rest
      else if key = other then (key, value) :: rest
      else (other, held) :: insert rest key value

/-- The map of entries read one after the other. -/
def collect (entries : List (K × V)) : List (K × V) :=
  entries.foldl (fun map entry => insert map entry.1 entry.2) []

theorem mem_insert {entries : List (K × V)} {key : K} {value : V} {entry : K × V}
    (member : entry ∈ insert entries key value) : entry = (key, value) ∨ entry ∈ entries := by
  induction entries with
  | nil => exact .inl (List.mem_singleton.mp member)
  | cons first rest ih =>
      rw [insert] at member
      split at member
      · rcases List.mem_cons.mp member with here | there
        · exact .inl here
        · exact .inr there
      · split at member
        · rcases List.mem_cons.mp member with here | there
          · exact .inl here
          · exact .inr (List.mem_cons_of_mem _ there)
        · rcases List.mem_cons.mp member with here | there
          · exact .inr (here ▸ List.mem_cons_self)
          · rcases ih there with new | old
            · exact .inl new
            · exact .inr (List.mem_cons_of_mem _ old)

theorem insert_ascending (entries : List (K × V)) (key : K) (value : V)
    (ascending : Ascending entries) : Ascending (insert entries key value) := by
  induction entries with
  | nil => exact List.pairwise_singleton _ _
  | cons first rest ih =>
      obtain ⟨above, tail⟩ := List.pairwise_cons.mp ascending
      rw [insert]
      by_cases before : key < first.1
      · rw [if_pos before]
        apply List.pairwise_cons.mpr
        refine ⟨?_, ascending⟩
        intro entry member
        rcases List.mem_cons.mp member with rfl | later
        · exact before
        · exact lt_trans before (above entry later)
      · rw [if_neg before]
        by_cases same : key = first.1
        · rw [if_pos same]
          exact List.pairwise_cons.mpr ⟨fun entry member => same ▸ above entry member, tail⟩
        · rw [if_neg same]
          apply List.pairwise_cons.mpr
          refine ⟨?_, ih tail⟩
          intro entry member
          rcases mem_insert member with rfl | old
          · exact lt_of_le_of_ne (le_of_not_gt before) (Ne.symm same)
          · exact above entry old

/-- A key above all the others goes to the end. -/
theorem insert_last (entries : List (K × V)) (key : K) (value : V)
    (above : ∀ entry ∈ entries, entry.1 < key) :
    insert entries key value = entries ++ [(key, value)] := by
  induction entries with
  | nil => rfl
  | cons first rest ih =>
      have below := above first List.mem_cons_self
      rw [insert, if_neg (not_lt_of_gt below), if_neg (ne_of_gt below),
        ih (fun entry member => above entry (List.mem_cons_of_mem _ member)), List.cons_append]

theorem foldl_insert (map entries : List (K × V)) (ascending : Ascending (map ++ entries)) :
    entries.foldl (fun map entry => insert map entry.1 entry.2) map = map ++ entries := by
  induction entries generalizing map with
  | nil => rw [List.foldl_nil, List.append_nil]
  | cons entry rest ih =>
      have above : ∀ earlier ∈ map, earlier.1 < entry.1 := fun earlier member =>
        (List.pairwise_append.mp ascending).2.2 earlier member entry List.mem_cons_self
      have split : map ++ entry :: rest = map ++ [entry] ++ rest := by
        rw [List.append_assoc, List.singleton_append]
      rw [List.foldl_cons, insert_last map entry.1 entry.2 above, ih _ (split ▸ ascending), split]

/-- Ascending entries are already their map. -/
theorem collect_of_ascending (entries : List (K × V)) (ascending : Ascending entries) :
    collect entries = entries :=
  foldl_insert [] entries ascending

theorem collect_ascending (entries : List (K × V)) : Ascending (collect entries) := by
  have general : ∀ map : List (K × V), Ascending map →
      Ascending (entries.foldl (fun map entry => insert map entry.1 entry.2) map) := by
    induction entries with
    | nil => exact fun _ ascending => ascending
    | cons entry rest ih => exact fun map ascending => ih _ (insert_ascending map _ _ ascending)
  exact general [] List.Pairwise.nil

theorem mem_collect {entries : List (K × V)} {entry : K × V} (member : entry ∈ collect entries) :
    entry ∈ entries := by
  have general : ∀ (entries map : List (K × V)),
      entry ∈ entries.foldl (fun map entry => insert map entry.1 entry.2) map →
        entry ∈ map ∨ entry ∈ entries := by
    intro entries
    induction entries with
    | nil => exact fun _ member => .inl member
    | cons first rest ih =>
        intro map member
        rcases ih _ member with inserted | later
        · rcases mem_insert inserted with rfl | old
          · exact .inr List.mem_cons_self
          · exact .inl old
        · exact .inr (List.mem_cons_of_mem _ later)
  rcases general entries [] member with impossible | found
  · cases impossible
  · exact found

end BTreeMap
