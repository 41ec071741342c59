set_option autoImplicit false

/- Hexadecimal digits, and the bytes that pairs of them spell. -/
namespace Hex

/-- `char::is_ascii_hexdigit`. -/
def isAsciiHexdigit (char : Char) : Bool :=
  ('0' ≤ char && char ≤ '9') || ('A' ≤ char && char ≤ 'F') || ('a' ≤ char && char ≤ 'f')

/-- `char::to_digit`. -/
def toDigit (radix : Nat) (char : Char) : Option Nat :=
  let value :=
    if '0' ≤ char ∧ char ≤ '9' then some (char.toNat - 48)
    else if 'a' ≤ char ∧ char ≤ 'z' then some (char.toNat - 87)
    else if 'A' ≤ char ∧ char ≤ 'Z' then some (char.toNat - 55)
    else none
  value.filter (· < radix)

/-- A decimal digit, or a letter from `A` to `F`. -/
def IsUpperDigit (char : Char) : Prop := ('0' ≤ char ∧ char ≤ '9') ∨ ('A' ≤ char ∧ char ≤ 'F')

instance (char : Char) : Decidable (IsUpperDigit char) :=
  inferInstanceAs (Decidable (_ ∨ _))

/-- The digit of a value below 16, in upper case. -/
def upperDigit (value : Nat) : Char := Char.ofNat (if value < 10 then 48 + value else 55 + value)

def upperPair (byte : UInt8) : List Char :=
  [upperDigit (byte.toNat / 16), upperDigit (byte.toNat % 16)]

/-- Two digits a byte, the high half first. -/
def encodeUpper (bytes : List UInt8) : List Char := bytes.flatMap upperPair

theorem hexdigit_ascii {char : Char} (digit : isAsciiHexdigit char = true) : char.toNat < 128 := by
  simp only [isAsciiHexdigit, Bool.or_eq_true, Bool.and_eq_true, decide_eq_true_eq] at digit
  have top : char ≤ 'f' := by
    rcases digit with (decimal | upper) | lower
    · exact Char.le_trans decimal.2 (by decide)
    · exact Char.le_trans upper.2 (by decide)
    · exact lower.2
  have code : char.toNat ≤ 102 := top
  omega

/-- Digits have a value below 16, which their upper-case form spells. -/
theorem toDigit_of_hexdigit {char : Char} (digit : isAsciiHexdigit char = true) :
    ∃ value, value < 16 ∧ toDigit 16 char = some value ∧ char.toUpper = upperDigit value := by
  have table : ∀ code, code < 128 → isAsciiHexdigit (Char.ofNat code) = true →
      ∃ value, value < 16 ∧ toDigit 16 (Char.ofNat code) = some value ∧
        (Char.ofNat code).toUpper = upperDigit value := by
    decide
  have found := table char.toNat (hexdigit_ascii digit)
  rw [Char.ofNat_toNat] at found
  exact found digit

theorem upperDigit_spec {value : Nat} (small : value < 16) :
    isAsciiHexdigit (upperDigit value) = true ∧ (upperDigit value).toUpper = upperDigit value ∧
      toDigit 16 (upperDigit value) = some value := by
  have table : ∀ value, value < 16 → isAsciiHexdigit (upperDigit value) = true ∧
      (upperDigit value).toUpper = upperDigit value ∧
      toDigit 16 (upperDigit value) = some value := by
    decide
  exact table value small

/-- What has a value below 16 is a digit, and its upper-case form spells the value. -/
theorem toDigit_eq_some {char : Char} {value : Nat} (read : toDigit 16 char = some value) :
    isAsciiHexdigit char = true ∧ value < 16 ∧ char.toUpper = upperDigit value := by
  have table : ∀ code, code < 128 → ∀ value ∈ toDigit 16 (Char.ofNat code),
      isAsciiHexdigit (Char.ofNat code) = true ∧ value < 16 ∧
        (Char.ofNat code).toUpper = upperDigit value := by
    decide
  have ascii : char.toNat < 128 := by
    by_cases decimal : '0' ≤ char ∧ char ≤ '9'
    · exact Nat.lt_of_le_of_lt (show char.toNat ≤ 57 from decimal.2) (by decide)
    · by_cases lower : 'a' ≤ char ∧ char ≤ 'z'
      · exact Nat.lt_of_le_of_lt (show char.toNat ≤ 122 from lower.2) (by decide)
      · by_cases upper : 'A' ≤ char ∧ char ≤ 'Z'
        · exact Nat.lt_of_le_of_lt (show char.toNat ≤ 90 from upper.2) (by decide)
        · rw [toDigit, if_neg decimal, if_neg lower, if_neg upper] at read
          cases read
  have found := table char.toNat ascii
  rw [Char.ofNat_toNat] at found
  exact found value read

theorem isUpperDigit_upperDigit {value : Nat} (small : value < 16) :
    IsUpperDigit (upperDigit value) := by
  have table : ∀ value, value < 16 → IsUpperDigit (upperDigit value) := by decide
  exact table value small

theorem IsUpperDigit.hexdigit {char : Char} (upper : IsUpperDigit char) :
    isAsciiHexdigit char = true := by
  rw [isAsciiHexdigit, Bool.or_eq_true, Bool.or_eq_true, Bool.and_eq_true, Bool.and_eq_true,
    decide_eq_true_eq, decide_eq_true_eq, decide_eq_true_eq, decide_eq_true_eq]
  exact .inl upper

theorem IsUpperDigit.toUpper {char : Char} (upper : IsUpperDigit char) : char.toUpper = char := by
  have table : ∀ code, code < 128 → IsUpperDigit (Char.ofNat code) →
      (Char.ofNat code).toUpper = Char.ofNat code := by
    decide
  have found := table char.toNat (hexdigit_ascii upper.hexdigit)
  rw [Char.ofNat_toNat] at found
  exact found upper

theorem upperDigit_injective {value other : Nat} (small : value < 16) (small' : other < 16)
    (same : upperDigit value = upperDigit other) : value = other := by
  have first := (upperDigit_spec small).2.2
  have second := (upperDigit_spec small').2.2
  rw [same, second] at first
  exact (Option.some.inj first).symm

theorem halves_small (byte : UInt8) : byte.toNat / 16 < 16 ∧ byte.toNat % 16 < 16 := by
  have bound := byte.toNat_lt
  omega

/-- Two values below 16 are the halves of one byte. -/
theorem upperPair_ofNat {high low : Nat} (smallHigh : high < 16) (smallLow : low < 16) :
    upperPair (UInt8.ofNat (high * 16 + low)) = [upperDigit high, upperDigit low] := by
  have value : (UInt8.ofNat (high * 16 + low)).toNat = high * 16 + low :=
    UInt8.toNat_ofNat_of_lt' (by simp only [UInt8.size]; omega)
  have top : (high * 16 + low) / 16 = high := by omega
  have bottom : (high * 16 + low) % 16 = low := by omega
  rw [upperPair, value, top, bottom]

theorem encodeUpper_cons (byte : UInt8) (bytes : List UInt8) :
    encodeUpper (byte :: bytes) =
      upperDigit (byte.toNat / 16) :: upperDigit (byte.toNat % 16) :: encodeUpper bytes := rfl

@[simp] theorem length_encodeUpper (bytes : List UInt8) :
    (encodeUpper bytes).length = 2 * bytes.length := by
  induction bytes with
  | nil => rfl
  | cons byte bytes ih =>
      rw [encodeUpper_cons, List.length_cons, List.length_cons, ih, List.length_cons]
      omega

/-- Every digit that is written satisfies what every upper-case digit does. -/
theorem forall_mem_encodeUpper {holds : Char → Prop}
    (digits : ∀ value, value < 16 → holds (upperDigit value)) (bytes : List UInt8) :
    ∀ char ∈ encodeUpper bytes, holds char := by
  induction bytes with
  | nil =>
      intro char member
      cases member
  | cons byte bytes ih =>
      intro char member
      rw [encodeUpper_cons] at member
      have halves := halves_small byte
      rcases List.mem_cons.mp member with rfl | member
      · exact digits _ halves.1
      · rcases List.mem_cons.mp member with rfl | member
        · exact digits _ halves.2
        · exact ih char member

theorem encodeUpper_injective {bytes other : List UInt8}
    (same : encodeUpper bytes = encodeUpper other) : bytes = other := by
  induction bytes generalizing other with
  | nil =>
      have lengths := congrArg List.length same
      rw [length_encodeUpper, length_encodeUpper] at lengths
      simp only [List.length_nil] at lengths
      exact (List.length_eq_zero_iff.mp (by omega)).symm
  | cons byte bytes ih =>
      cases other with
      | nil => cases same
      | cons byte' other =>
          rw [encodeUpper_cons, encodeUpper_cons] at same
          injection same with highs rest
          injection rest with lows tails
          have halves := halves_small byte
          have halves' := halves_small byte'
          have high := upperDigit_injective halves.1 halves'.1 highs
          have low := upperDigit_injective halves.2 halves'.2 lows
          have equal : byte = byte' := UInt8.toNat_inj.mp (by omega)
          rw [equal, ih tails]

/-- The bytes that digits spell in order, two digits a byte and the high half first. -/
inductive Spells : List Char → List UInt8 → Prop where
  | nil : Spells [] []
  | pair {first second : Char} {high low : Nat} {digits : List Char} {bytes : List UInt8} :
      toDigit 16 first = some high → toDigit 16 second = some low → Spells digits bytes →
      Spells (first :: second :: digits) (UInt8.ofNat (high * 16 + low) :: bytes)

theorem Spells.toUpper {digits : List Char} {bytes : List UInt8} (spelled : Spells digits bytes) :
    digits.map Char.toUpper = encodeUpper bytes := by
  induction spelled with
  | nil => rfl
  | pair readHigh readLow _ ih =>
      obtain ⟨-, smallHigh, upperHigh⟩ := toDigit_eq_some readHigh
      obtain ⟨-, smallLow, upperLow⟩ := toDigit_eq_some readLow
      rw [List.map_cons, List.map_cons, ih, upperHigh, upperLow, encodeUpper, encodeUpper,
        List.flatMap_cons, upperPair_ofNat smallHigh smallLow]
      rfl

/-- A byte has one pair of digits, in either case. -/
theorem spells_pair {first second : Char} {byte : UInt8} {digits : List Char}
    {bytes : List UInt8} (digit : isAsciiHexdigit first = true)
    (digit' : isAsciiHexdigit second = true)
    (upper : [first.toUpper, second.toUpper] = upperPair byte) (rest : Spells digits bytes) :
    Spells (first :: second :: digits) (byte :: bytes) := by
  obtain ⟨high, smallHigh, readHigh, upperHigh⟩ := toDigit_of_hexdigit digit
  obtain ⟨low, smallLow, readLow, upperLow⟩ := toDigit_of_hexdigit digit'
  have halves := halves_small byte
  simp only [upperPair, List.cons.injEq, and_true, upperHigh, upperLow] at upper
  have sameHigh := upperDigit_injective smallHigh halves.1 upper.1
  have sameLow := upperDigit_injective smallLow halves.2 upper.2
  have whole : UInt8.ofNat (high * 16 + low) = byte := by
    apply UInt8.toNat_inj.mp
    rw [UInt8.toNat_ofNat_of_lt' (by simp only [UInt8.size]; omega)]
    omega
  rw [← whole]
  exact Spells.pair readHigh readLow rest

/-- Hex digits spell the bytes that their upper-case forms are the encoding of. -/
theorem spells_iff {digits : List Char} (hexadecimal : ∀ char ∈ digits, isAsciiHexdigit char = true)
    (bytes : List UInt8) : Spells digits bytes ↔ digits.map Char.toUpper = encodeUpper bytes := by
  refine ⟨Spells.toUpper, ?_⟩
  intro upper
  induction bytes generalizing digits with
  | nil =>
      rw [List.map_eq_nil_iff.mp upper]
      exact Spells.nil
  | cons byte bytes ih =>
      rw [encodeUpper_cons] at upper
      match digits, hexadecimal, upper with
      | [single], _, upper =>
          rw [List.map_singleton] at upper
          injection upper with _ tail
          cases tail
      | first :: second :: rest, hexadecimal, upper =>
          rw [List.map_cons, List.map_cons] at upper
          injection upper with high tail
          injection tail with low tail
          have later : ∀ char ∈ rest, isAsciiHexdigit char = true := fun char member =>
            hexadecimal char (List.mem_cons_of_mem _ (List.mem_cons_of_mem _ member))
          exact spells_pair (hexadecimal first List.mem_cons_self)
            (hexadecimal second (List.mem_cons_of_mem _ List.mem_cons_self))
            (by rw [high, low, upperPair]) (ih later tail)

end Hex
