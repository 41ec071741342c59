import Mathlib.Algebra.Group.Nat.Defs

set_option autoImplicit false

/- Labelled byte frames whose first field has its length written before it. -/
namespace Framing

/-- `u32::to_be_bytes`. -/
def toBeBytes (word : UInt32) : List UInt8 :=
  [(word >>> 24).toUInt8, (word >>> 16).toUInt8, (word >>> 8).toUInt8, word.toUInt8]

theorem toNat_shiftRight_toUInt8 (word shift : UInt32) (small : shift.toNat < 32) :
    (word >>> shift).toUInt8.toNat = word.toNat / 2 ^ shift.toNat % 2 ^ 8 := by
  rw [UInt32.toNat_toUInt8, UInt32.toNat_shiftRight, Nat.mod_eq_of_lt small,
    Nat.shiftRight_eq_div_pow]

theorem toBeBytes_injective {word other : UInt32} (same : toBeBytes word = toBeBytes other) :
    word = other := by
  simp only [toBeBytes, List.cons.injEq, and_true] at same
  obtain ⟨first, second, third, fourth⟩ := same
  have top := congrArg UInt8.toNat first
  have upper := congrArg UInt8.toNat second
  have lower := congrArg UInt8.toNat third
  have bottom := congrArg UInt8.toNat fourth
  rw [toNat_shiftRight_toUInt8 _ _ (by decide), toNat_shiftRight_toUInt8 _ _ (by decide)]
    at top upper lower
  rw [UInt32.toNat_toUInt8, UInt32.toNat_toUInt8] at bottom
  simp only [UInt32.reduceToNat] at top upper lower
  have bound := word.toNat_lt
  have bound' := other.toNat_lt
  apply UInt32.toNat_inj.mp
  omega

/-- The length as four big-endian bytes: `len() as u32` keeps the low 32 bits. -/
def lengthPrefix (field : List UInt8) : List UInt8 := toBeBytes (UInt32.ofNat field.length)

theorem lengthPrefix_eq_iff (field other : List UInt8) :
    lengthPrefix field = lengthPrefix other ↔ field.length % 2 ^ 32 = other.length % 2 ^ 32 := by
  constructor
  · intro same
    have words := congrArg UInt32.toNat (toBeBytes_injective same)
    rwa [UInt32.toNat_ofNat', UInt32.toNat_ofNat'] at words
  · intro same
    have words : UInt32.ofNat field.length = UInt32.ofNat other.length := by
      apply UInt32.toNat_inj.mp
      rw [UInt32.toNat_ofNat', UInt32.toNat_ofNat', same]
    rw [lengthPrefix, lengthPrefix, words]

/-- A label, a field with its length before it, and the rest with nothing
between: where the field ends is known from the length alone. -/
def frame (label field rest : List UInt8) : List UInt8 :=
  label ++ (lengthPrefix field ++ (field ++ rest))

theorem frame_eq_iff (label field rest field' rest' : List UInt8) :
    frame label field rest = frame label field' rest' ↔
      field.length % 2 ^ 32 = field'.length % 2 ^ 32 ∧ field ++ rest = field' ++ rest' := by
  constructor
  · intro same
    have body := List.append_cancel_left same
    have parts := List.append_inj body rfl
    exact ⟨(lengthPrefix_eq_iff field field').mp parts.1, parts.2⟩
  · rintro ⟨lengths, bodies⟩
    rw [frame, frame, (lengthPrefix_eq_iff field field').mpr lengths, bodies]

/-- Fields that a 32-bit length can measure are separated from what follows. -/
theorem frame_injective {label field rest field' rest' : List UInt8}
    (short : field.length < 2 ^ 32) (short' : field'.length < 2 ^ 32)
    (same : frame label field rest = frame label field' rest') : field = field' ∧ rest = rest' := by
  have parts := (frame_eq_iff label field rest field' rest').mp same
  have lengths := parts.1
  rw [Nat.mod_eq_of_lt short, Nat.mod_eq_of_lt short'] at lengths
  exact List.append_inj parts.2 lengths

/-- Frames under labels neither of which starts with the other never agree. -/
theorem frame_ne_of_labels {label label' : List UInt8} (apart : ¬ label <+: label')
    (apart' : ¬ label' <+: label) (field rest field' rest' : List UInt8) :
    frame label field rest ≠ frame label' field' rest' := by
  intro same
  have front : label <+: frame label' field' rest' := by
    rw [← same]
    exact List.prefix_append _ _
  have front' : label' <+: frame label' field' rest' := List.prefix_append _ _
  rcases List.prefix_or_prefix_of_prefix front front' with below | below
  · exact apart below
  · exact apart' below

end Framing
