import IncokitE2ee.BTreeMap
import Mathlib.Algebra.Group.Int.Defs
import Mathlib.Algebra.Group.Nat.Defs
import Mathlib.Data.String.Basic

set_option autoImplicit false

/- JSON values without floating-point numbers. -/
namespace Json

/-- What an `i64` or a `u64` holds. -/
abbrev Integer := { value : Int // -2 ^ 63 ≤ value ∧ value < 2 ^ 64 }

/-- A value whose objects may have their members in any order. -/
inductive Tree where
  | null
  | bool (value : Bool)
  | number (value : Integer)
  | string (text : String)
  | array (items : List Tree)
  | object (members : List (String × Tree))

namespace Tree

mutual

/-- How deep arrays and objects nest. -/
def depth : Tree → Nat
  | .array items => depthItems items + 1
  | .object members => depthMembers members + 1
  | _ => 0

def depthItems : List Tree → Nat
  | [] => 0
  | item :: rest => max (depth item) (depthItems rest)

def depthMembers : List (String × Tree) → Nat
  | [] => 0
  | (_, item) :: rest => max (depth item) (depthMembers rest)

end

mutual

/-- Every object in the tree is a map. -/
def Ordered : Tree → Prop
  | .array items => OrderedItems items
  | .object members => BTreeMap.Ascending members ∧ OrderedMembers members
  | _ => True

def OrderedItems : List Tree → Prop
  | [] => True
  | item :: rest => Ordered item ∧ OrderedItems rest

def OrderedMembers : List (String × Tree) → Prop
  | [] => True
  | (_, item) :: rest => Ordered item ∧ OrderedMembers rest

end

theorem depthItems_le_iff (items : List Tree) (bound : Nat) :
    depthItems items ≤ bound ↔ ∀ item ∈ items, depth item ≤ bound := by
  induction items with
  | nil => simp [depthItems]
  | cons item rest ih => simp only [depthItems, Nat.max_le, ih, List.forall_mem_cons]

theorem depthMembers_le_iff (members : List (String × Tree)) (bound : Nat) :
    depthMembers members ≤ bound ↔ ∀ member ∈ members, depth member.2 ≤ bound := by
  induction members with
  | nil => simp [depthMembers]
  | cons member rest ih => simp only [depthMembers, Nat.max_le, ih, List.forall_mem_cons]

theorem lt_depthItems_iff (items : List Tree) (bound : Nat) :
    bound < depthItems items ↔ ∃ item ∈ items, bound < depth item := by
  induction items with
  | nil => simp [depthItems]
  | cons item rest ih => simp only [depthItems, lt_max_iff, ih, List.mem_cons,
      exists_eq_or_imp]

theorem lt_depthMembers_iff (members : List (String × Tree)) (bound : Nat) :
    bound < depthMembers members ↔ ∃ member ∈ members, bound < depth member.2 := by
  induction members with
  | nil => simp [depthMembers]
  | cons member rest ih => simp only [depthMembers, lt_max_iff, ih, List.mem_cons,
      exists_eq_or_imp]

theorem orderedItems_iff (items : List Tree) :
    OrderedItems items ↔ ∀ item ∈ items, Ordered item := by
  induction items with
  | nil => simp [OrderedItems]
  | cons item rest ih => simp only [OrderedItems, ih, List.forall_mem_cons]

theorem orderedMembers_iff (members : List (String × Tree)) :
    OrderedMembers members ↔ ∀ member ∈ members, Ordered member.2 := by
  induction members with
  | nil => simp [OrderedMembers]
  | cons member rest ih => simp only [OrderedMembers, ih, List.forall_mem_cons]

mutual

/-- `PartialEq`. -/
def sameAs : Tree → Tree → Bool
  | .null, .null => true
  | .bool value, .bool other => value = other
  | .number value, .number other => value = other
  | .string text, .string other => text = other
  | .array items, .array others => sameItems items others
  | .object members, .object others => sameMembers members others
  | _, _ => false

def sameItems : List Tree → List Tree → Bool
  | [], [] => true
  | item :: items, other :: others => sameAs item other && sameItems items others
  | _, _ => false

def sameMembers : List (String × Tree) → List (String × Tree) → Bool
  | [], [] => true
  | (name, item) :: members, (name', other) :: others =>
      name = name' && sameAs item other && sameMembers members others
  | _, _ => false

end

mutual

theorem sameAs_iff : ∀ left right : Tree, sameAs left right = true ↔ left = right
  | .null, right => by cases right <;> simp [sameAs]
  | .bool value, right => by cases right <;> simp [sameAs]
  | .number value, right => by cases right <;> simp [sameAs]
  | .string text, right => by cases right <;> simp [sameAs]
  | .array items, right => by cases right <;> simp [sameAs, sameItems_iff items]
  | .object members, right => by cases right <;> simp [sameAs, sameMembers_iff members]

theorem sameItems_iff : ∀ items others : List Tree, sameItems items others = true ↔ items = others
  | [], others => by cases others <;> simp [sameItems]
  | item :: items, others => by
      cases others <;> simp [sameItems, sameAs_iff item, sameItems_iff items]

theorem sameMembers_iff : ∀ members others : List (String × Tree),
    sameMembers members others = true ↔ members = others
  | [], others => by cases others <;> simp [sameMembers]
  | (name, item) :: members, others => by
      cases others with
      | nil => simp [sameMembers]
      | cons other others =>
          simp [sameMembers, sameAs_iff item, sameMembers_iff members, Prod.ext_iff]

end

instance : DecidableEq Tree := fun left right =>
  decidable_of_iff (sameAs left right = true) (sameAs_iff left right)

end Tree

/-- A `serde_json::Value` without floating-point numbers. -/
abbrev Value := { tree : Tree // tree.Ordered }

namespace Value

def depth (value : Value) : Nat := value.val.depth

end Value

/-- Empty arrays inside one another, this many around the innermost. -/
def nested : Nat → Tree
  | 0 => .array []
  | more + 1 => .array [nested more]

theorem nested_depth (more : Nat) : (nested more).depth = more + 1 := by
  induction more with
  | zero => rfl
  | succ more ih => simp only [nested, Tree.depth, Tree.depthItems, ih, Nat.max_zero]

theorem nested_ordered (more : Nat) : (nested more).Ordered := by
  induction more with
  | zero => trivial
  | succ more ih => exact ⟨ih, trivial⟩

end Json
