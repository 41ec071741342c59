import IncokitE2ee.Bytes
import IncokitE2ee.Chunks
import IncokitE2ee.Hex

set_option autoImplicit false

/- `keys.rs`: the recovery key as a text of eight dashed groups, and its tolerant
parser. -/
namespace IncokitE2ee

/-- A `str` of ASCII characters: byte and character positions agree. -/
abbrev Ascii := { chars : List Char // ∀ char ∈ chars, char.toNat < 128 }

namespace Ascii

def toText (text : Ascii) : String := String.ofList text.val

/-- `str::len`. -/
def len (text : Ascii) : Nat := text.val.length

/-- `&text[start..stop]`, with the bounds under which it does not panic. -/
def slice (text : Ascii) (start stop : Nat) (_ordered : start ≤ stop) (_within : stop ≤ text.len) :
    Ascii :=
  ⟨(text.val.drop start).take (stop - start), fun char member =>
    text.property char (List.mem_of_mem_drop (List.mem_of_mem_take member))⟩

theorem asBytes_toText (text : Ascii) :
    asBytes text.toText = text.val.map fun char => UInt8.ofNat char.toNat :=
  asBytes_ascii text.val text.property

theorem length_asBytes (text : Ascii) : (asBytes text.toText).length = text.len := by
  rw [asBytes_toText, List.length_map, len]

/-- The slice is the one of the bytes. -/
theorem asBytes_slice (text : Ascii) (start stop : Nat) (ordered : start ≤ stop)
    (within : stop ≤ text.len) :
    asBytes (text.slice start stop ordered within).toText =
      ((asBytes text.toText).drop start).take (stop - start) := by
  rw [asBytes_toText, asBytes_toText, slice, List.map_take, List.map_drop]

end Ascii

inductive ParseIntError where
  | empty
  | invalidDigit
  | posOverflow
  deriving DecidableEq

/-- `Display`. -/
def ParseIntError.toText : ParseIntError → String
  | .empty => "cannot parse integer from empty string"
  | .invalidDigit => "invalid digit found in string"
  | .posOverflow => "number too large to fit in target type"

/-- The digits from the left, none of which may push the value over a `u8`. -/
def accumulate (radix : Nat) : Nat → List Char → Except ParseIntError Nat
  | value, [] => .ok value
  | value, char :: rest =>
      match Hex.toDigit radix char with
      | none => .error .invalidDigit
      | some digit =>
          if value * radix + digit < 256 then accumulate radix (value * radix + digit) rest
          else .error .posOverflow

/-- `u8::from_str_radix`. A leading plus sign is allowed, alone it is not. -/
def fromStrRadix (src : List Char) (radix : Nat) : Except ParseIntError UInt8 :=
  match src with
  | [] => .error .empty
  | ['+'] => .error .invalidDigit
  | ['-'] => .error .invalidDigit
  | '+' :: digits => UInt8.ofNat <$> accumulate radix 0 digits
  | digits => UInt8.ofNat <$> accumulate radix 0 digits

namespace Keys

/-- `format!("{:02X}", byte)`. -/
def formatByte (byte : UInt8) : String := String.ofList (Hex.upperPair byte)

/-- 64 hex digits in 8 groups of 8, separated by dashes. -/
def formatRecoveryKey (key : Key) : String :=
  let hex := String.join (key.val.map formatByte)
  "-".intercalate ((Chunks.chunks 8 (asBytes hex)).map fun chunk => (fromUtf8 chunk).getD "")

/-- The characters the parser keeps. -/
def cleaned (formatted : String) : Ascii :=
  ⟨formatted.toList.filter Hex.isAsciiHexdigit, fun _ member =>
    Hex.hexdigit_ascii (List.mem_filter.mp member).2⟩

def parseRecoveryKey (formatted : String) : Except String Bytes :=
  let clean := cleaned formatted
  if width : clean.len ≠ 64 then
    .error ("Invalid recovery key: expected 64 hex chars, got " ++ toString clean.len)
  else
    let bytes := (List.finRange 32).mapM fun (i : Fin 32) =>
      fromStrRadix (clean.slice (i.val * 2) (i.val * 2 + 2) (by omega) (by omega)).val 16
    match bytes with
    | .error e => .error ("Invalid recovery key hex: " ++ e.toText)
    | .ok bytes => .ok bytes

/-- The hex digits of a text, in order and without their case. -/
def hexDigits (text : String) : List Char := (cleaned text).val.map Char.toUpper

theorem cleaned_hexdigit (text : String) :
    ∀ char ∈ (cleaned text).val, Hex.isAsciiHexdigit char = true :=
  fun _ member => (List.mem_filter.mp member).2

theorem length_hexDigits (text : String) : (hexDigits text).length = (cleaned text).len :=
  List.length_map _

/-- Two hex digits always parse. -/
theorem fromStrRadix_pair (first second : Char) (digit : Hex.isAsciiHexdigit first = true)
    (digit' : Hex.isAsciiHexdigit second = true) :
    ∃ byte, fromStrRadix [first, second] 16 = .ok byte ∧
      [first.toUpper, second.toUpper] = Hex.upperPair byte := by
  obtain ⟨high, smallHigh, readHigh, upperHigh⟩ := Hex.toDigit_of_hexdigit digit
  obtain ⟨low, smallLow, readLow, upperLow⟩ := Hex.toDigit_of_hexdigit digit'
  refine ⟨UInt8.ofNat (high * 16 + low), ?_, ?_⟩
  · have unsigned : first ≠ '+' := by
      rintro rfl
      cases digit
    have below : high < 256 := by omega
    have below' : high * 16 + low < 256 := by omega
    have value : accumulate 16 0 [first, second] = .ok (high * 16 + low) := by
      simp only [accumulate, readHigh, readLow, if_pos below, if_pos below', Nat.zero_mul,
        Nat.zero_add]
    have direct : fromStrRadix [first, second] 16 =
        UInt8.ofNat <$> accumulate 16 0 [first, second] := by
      rw [fromStrRadix] <;> simp [unsigned]
    rw [direct, value]
    rfl
  · rw [Hex.upperPair_ofNat smallHigh smallLow, upperHigh, upperLow]

/-- Pairs of hex digits parse to the bytes they spell, by induction on the pairs. -/
theorem mapM_fromStrRadix (count : Nat) (digits : List Char)
    (hexadecimal : ∀ char ∈ digits, Hex.isAsciiHexdigit char = true)
    (width : digits.length = 2 * count) :
    ∃ bytes, ((List.finRange count).mapM fun index =>
        fromStrRadix ((digits.drop (index.val * 2)).take 2) 16) = .ok bytes ∧
      digits.map Char.toUpper = Hex.encodeUpper bytes := by
  induction count generalizing digits with
  | zero =>
      rw [List.length_eq_zero_iff.mp width]
      exact ⟨[], rfl, rfl⟩
  | succ count ih =>
      match digits, hexadecimal, width with
      | first :: second :: rest, hexadecimal, width =>
          obtain ⟨byte, here, spelled⟩ := fromStrRadix_pair first second
            (hexadecimal first List.mem_cons_self)
            (hexadecimal second (List.mem_cons_of_mem _ List.mem_cons_self))
          obtain ⟨bytes, tail, spelledTail⟩ := ih rest
            (fun char member => hexadecimal char (List.mem_cons_of_mem _
              (List.mem_cons_of_mem _ member)))
            (by simp only [List.length_cons] at width; omega)
          refine ⟨byte :: bytes, ?_, ?_⟩
          · rw [List.finRange_succ, List.mapM_cons, List.mapM_map]
            have shifted : ∀ index : Fin count,
                (first :: second :: rest).drop (index.succ.val * 2) = rest.drop (index.val * 2) := by
              intro index
              rw [Fin.val_succ, Nat.succ_mul, List.drop_succ_cons, List.drop_succ_cons]
            have front : fromStrRadix
                (((first :: second :: rest).drop ((0 : Fin (count + 1)).val * 2)).take 2) 16 =
                  .ok byte := here
            simp only [Function.comp_def, shifted, tail, front]
            rfl
          · rw [List.map_cons, List.map_cons, spelledTail]
            have pair := congrArg (· ++ Hex.encodeUpper bytes) spelled
            exact pair

/-- 64 hex digits always parse: none of the slices panics and no pair is refused. -/
theorem exists_parseRecoveryKey (formatted : String) (width : (cleaned formatted).len = 64) :
    ∃ bytes, parseRecoveryKey formatted = .ok bytes ∧
      hexDigits formatted = Hex.encodeUpper bytes := by
  obtain ⟨bytes, read, spelled⟩ := mapM_fromStrRadix 32 (cleaned formatted).val
    (cleaned_hexdigit formatted) width
  refine ⟨bytes, ?_, spelled⟩
  have two : ∀ start, start + 2 - start = 2 := fun start => Nat.add_sub_cancel_left start 2
  rw [parseRecoveryKey, dif_neg (not_not_intro width)]
  simp only [Ascii.slice, two, read]

theorem parseRecoveryKey_other_length (formatted : String) (width : (cleaned formatted).len ≠ 64) :
    parseRecoveryKey formatted =
      .error ("Invalid recovery key: expected 64 hex chars, got " ++
        toString (cleaned formatted).len) := by
  rw [parseRecoveryKey, dif_pos width]

/-- A text parses to the 32 bytes that its hex digits spell, and to nothing else. -/
theorem parseRecoveryKey_eq_ok_iff (formatted : String) (bytes : Bytes) :
    parseRecoveryKey formatted = .ok bytes ↔
      bytes.length = 32 ∧ hexDigits formatted = Hex.encodeUpper bytes := by
  have count := length_hexDigits formatted
  by_cases width : (cleaned formatted).len = 64
  · obtain ⟨found, parsed, spelled⟩ := exists_parseRecoveryKey formatted width
    rw [parsed]
    constructor
    · rintro ⟨⟩
      rw [spelled, Hex.length_encodeUpper] at count
      exact ⟨by omega, spelled⟩
    · rintro ⟨-, digits⟩
      rw [Hex.encodeUpper_injective (spelled.symm.trans digits)]
  · rw [parseRecoveryKey_other_length formatted width]
    constructor
    · intro impossible
      cases impossible
    · rintro ⟨size, digits⟩
      rw [digits, Hex.length_encodeUpper, size] at count
      exact absurd count.symm width

/-- A chunk of a hex text is valid UTF-8, so the formatter drops none. -/
theorem fromUtf8_ascii (chars : List Char) (ascii : ∀ char ∈ chars, char.toNat < 128) :
    fromUtf8 (chars.map fun char => UInt8.ofNat char.toNat) = some (String.ofList chars) := by
  rw [← asBytes_ascii chars ascii, fromUtf8_asBytes]

/-- `format_recovery_key` before it is cut into groups. -/
def hexText (key : Key) : String := String.join (key.val.map formatByte)

theorem hexText_eq (key : Key) : hexText key = String.ofList (Hex.encodeUpper key.val) := by
  rw [hexText, ← String.toList_inj, String.toList_join, String.toList_ofList, List.flatMap_map]
  simp only [formatByte, String.toList_ofList]
  rfl

theorem encodeUpper_ascii (key : Key) : ∀ char ∈ Hex.encodeUpper key.val, char.toNat < 128 :=
  Hex.forall_mem_encodeUpper (fun _ small => Hex.hexdigit_ascii (Hex.upperDigit_spec small).1)
    key.val

theorem chunks_hexText (key : Key) :
    Chunks.chunks 8 (asBytes (hexText key)) =
      (Chunks.chunks 8 (Hex.encodeUpper key.val)).map
        (List.map fun char => UInt8.ofNat char.toNat) := by
  rw [hexText_eq, asBytes_ascii _ (encodeUpper_ascii key), Chunks.chunks_map]

theorem fromUtf8_chunk (key : Key) : ∀ chunk ∈ Chunks.chunks 8 (Hex.encodeUpper key.val),
    fromUtf8 (chunk.map fun char => UInt8.ofNat char.toNat) = some (String.ofList chunk) := by
  intro chunk member
  apply fromUtf8_ascii
  intro char inside
  apply encodeUpper_ascii key
  rw [← Chunks.flatten_chunks 8 (by decide) (Hex.encodeUpper key.val)]
  exact List.mem_flatten_of_mem member inside

/-- Every group of the formatter is a text: `unwrap_or` keeps what it is given. -/
theorem fromUtf8_group (key : Key) :
    ∀ chunk ∈ Chunks.chunks 8 (asBytes (hexText key)), ∃ group, fromUtf8 chunk = some group := by
  rw [chunks_hexText]
  intro chunk member
  obtain ⟨chars, here, rfl⟩ := List.mem_map.mp member
  exact ⟨String.ofList chars, fromUtf8_chunk key chars here⟩

/-- The formatted key is its hex digits in groups of eight, joined by dashes. -/
theorem toList_formatRecoveryKey (key : Key) :
    (formatRecoveryKey key).toList =
      ['-'].intercalate (Chunks.chunks 8 (Hex.encodeUpper key.val)) := by
  rw [formatRecoveryKey, ← hexText, chunks_hexText, List.map_map, String.toList_intercalate,
    List.map_map]
  have decoded : ∀ chunk ∈ Chunks.chunks 8 (Hex.encodeUpper key.val),
      (String.toList ∘ (fun chunk => (fromUtf8 chunk).getD "") ∘
        List.map fun char => UInt8.ofNat char.toNat) chunk = chunk := by
    intro chunk member
    simp only [Function.comp_apply, fromUtf8_chunk key chunk member, Option.getD_some,
      String.toList_ofList]
  rw [List.map_congr_left decoded, List.map_id']
  rfl

theorem hexDigits_formatRecoveryKey (key : Key) :
    hexDigits (formatRecoveryKey key) = Hex.encodeUpper key.val := by
  have digits : ∀ char ∈ Hex.encodeUpper key.val, Hex.isAsciiHexdigit char = true :=
    Hex.forall_mem_encodeUpper (fun _ small => (Hex.upperDigit_spec small).1) key.val
  have upper : ∀ char ∈ Hex.encodeUpper key.val, char.toUpper = char :=
    Hex.forall_mem_encodeUpper (fun _ small => (Hex.upperDigit_spec small).2.1) key.val
  have kept : (cleaned (formatRecoveryKey key)).val = Hex.encodeUpper key.val := by
    change (formatRecoveryKey key).toList.filter Hex.isAsciiHexdigit = _
    rw [toList_formatRecoveryKey, Chunks.filter_intercalate _ ['-'] (by decide),
      Chunks.flatten_chunks 8 (by decide), List.filter_eq_self.mpr digits]
  rw [hexDigits, kept, List.map_congr_left upper, List.map_id']

theorem parseRecoveryKey_formatRecoveryKey (key : Key) :
    parseRecoveryKey (formatRecoveryKey key) = .ok key.val :=
  (parseRecoveryKey_eq_ok_iff _ key.val).mpr ⟨key.property, hexDigits_formatRecoveryKey key⟩

end Keys

end IncokitE2ee
