import IncokitE2ee.Panicking

set_option autoImplicit false

/- The language of recovery texts: what the parser accepts and reads, what the
formatter writes, and the one canonical text of every accepted one. -/
namespace IncokitE2ee.Keys

/-- The hexadecimal digits of a text, in order and as they stand. -/
def digits (text : String) : List Char := text.toList.filter Hex.isAsciiHexdigit

/-- The two digits that the parser reads at an index, through a slice that may
panic and a reader that may fail. -/
def pairAt (text : String) (index : Nat) : Option (Except ParseIntError UInt8) :=
  (sliceStr (String.ofList (digits text)) (index * 2) (index * 2 + 2)).map fun pair =>
    fromStrRadix pair.toList 16

/-- Eight groups of eight upper-case digits, joined by single dashes. -/
def Canonical (text : String) : Prop :=
  ∃ groups : List (List Char), groups.length = 8 ∧
    (∀ group ∈ groups, group.length = 8 ∧ ∀ char ∈ group, Hex.IsUpperDigit char) ∧
    text.toList = ['-'].intercalate groups

theorem cleaned_val (text : String) : (cleaned text).val = digits text := rfl

theorem digits_hexdigit (text : String) :
    ∀ char ∈ digits text, Hex.isAsciiHexdigit char = true := cleaned_hexdigit text

/-- The parser reads the bytes that the digits spell. -/
theorem parseRecoveryKey_eq_ok_iff_spells (text : String) (bytes : Bytes) :
    parseRecoveryKey text = .ok bytes ↔
      (digits text).length = 64 ∧ bytes.length = 32 ∧ Hex.Spells (digits text) bytes := by
  rw [parseRecoveryKey_eq_ok_iff, Hex.spells_iff (digits_hexdigit text), hexDigits, cleaned_val]
  constructor
  · rintro ⟨width, upper⟩
    have lengths := congrArg List.length upper
    rw [List.length_map, Hex.length_encodeUpper, width] at lengths
    exact ⟨lengths, width, upper⟩
  · rintro ⟨-, width, upper⟩
    exact ⟨width, upper⟩

/-- With 64 digits no slice panics and no pair is refused. -/
theorem exists_pairAt (text : String) (width : (digits text).length = 64) (index : Nat)
    (small : index < 32) : ∃ byte, pairAt text index = some (.ok byte) := by
  have within : index * 2 + 2 ≤ (cleaned text).len := by
    have same : (cleaned text).len = 64 := width
    omega
  have sliced := sliceStr_ascii (cleaned text) (index * 2) (index * 2 + 2) (by omega) within
  have two : (((digits text).drop (index * 2)).take 2).length = 2 := by
    rw [List.length_take, List.length_drop, width]
    omega
  obtain ⟨first, second, pair⟩ :
      ∃ first second, ((digits text).drop (index * 2)).take 2 = [first, second] := by
    match ((digits text).drop (index * 2)).take 2, two with
    | [first, second], _ => exact ⟨first, second, rfl⟩
  have member : ∀ char ∈ [first, second], Hex.isAsciiHexdigit char = true := by
    rw [← pair]
    intro char here
    exact digits_hexdigit text char (List.mem_of_mem_drop (List.mem_of_mem_take here))
  obtain ⟨byte, read, -⟩ := fromStrRadix_pair first second
    (member first List.mem_cons_self) (member second (List.mem_cons_of_mem _ List.mem_cons_self))
  refine ⟨byte, ?_⟩
  have whole : (cleaned text).toText = String.ofList (digits text) := rfl
  rw [pairAt, ← whole, sliced, Option.map_some, Ascii.toText, String.toList_ofList]
  simp only [Ascii.slice, Nat.add_sub_cancel_left, cleaned_val, pair, read]

theorem canonical_formatRecoveryKey (key : Key) : Canonical (formatRecoveryKey key) := by
  have width : (Hex.encodeUpper key.val).length = 8 * 8 := by
    rw [Hex.length_encodeUpper, key.property]
  have upper : ∀ char ∈ Hex.encodeUpper key.val, Hex.IsUpperDigit char :=
    Hex.forall_mem_encodeUpper (fun _ small => Hex.isUpperDigit_upperDigit small) key.val
  refine ⟨Chunks.chunks 8 (Hex.encodeUpper key.val), Chunks.length_chunks 8 8 (by decide) _ width,
    ?_, toList_formatRecoveryKey key⟩
  intro group member
  refine ⟨Chunks.length_of_mem_chunks 8 8 (by decide) _ width group member, ?_⟩
  intro char inside
  apply upper char
  rw [← Chunks.flatten_chunks 8 (by decide) (Hex.encodeUpper key.val)]
  exact List.mem_flatten_of_mem member inside

/-- The digits of a canonical text are its groups, joined. -/
theorem digits_of_groups {text : String} {groups : List (List Char)}
    (upper : ∀ group ∈ groups, ∀ char ∈ group, Hex.IsUpperDigit char)
    (spelled : text.toList = ['-'].intercalate groups) : digits text = groups.flatten := by
  rw [digits, spelled, Chunks.filter_intercalate _ ['-'] (by decide), List.filter_eq_self]
  intro char member
  obtain ⟨group, here, inside⟩ := List.mem_flatten.mp member
  exact (upper group here char inside).hexdigit

/-- A canonical text is known from its digits. -/
theorem Canonical.eq_of_digits {text other : String} (canonical : Canonical text)
    (canonical' : Canonical other) (same : digits text = digits other) : text = other := by
  obtain ⟨groups, number, shape, spelled⟩ := canonical
  obtain ⟨groups', number', shape', spelled'⟩ := canonical'
  have joined : groups.flatten = groups'.flatten := by
    rw [← digits_of_groups (fun group member => (shape group member).2) spelled, same,
      digits_of_groups (fun group member => (shape' group member).2) spelled']
  have equal := Chunks.eq_of_flatten_eq 8 (number.trans number'.symm)
    (fun group member => (shape group member).1) (fun group member => (shape' group member).1)
    joined
  rw [← String.toList_inj, spelled, spelled', equal]

theorem digits_formatRecoveryKey (key : Key) :
    digits (formatRecoveryKey key) = Hex.encodeUpper key.val := by
  obtain ⟨groups, -, shape, spelled⟩ := canonical_formatRecoveryKey key
  have upper : ∀ char ∈ digits (formatRecoveryKey key), char.toUpper = char := by
    rw [digits_of_groups (fun group member => (shape group member).2) spelled]
    intro char member
    obtain ⟨group, here, inside⟩ := List.mem_flatten.mp member
    exact ((shape group here).2 char inside).toUpper
  have read := hexDigits_formatRecoveryKey key
  rwa [hexDigits, cleaned_val, List.map_congr_left upper, List.map_id'] at read

/-- The formatter writes the one canonical text with the digits of what was parsed. -/
theorem formatRecoveryKey_of_parsed (text : String) (key : Key)
    (parsed : parseRecoveryKey text = .ok key.val) :
    digits (formatRecoveryKey key) = (digits text).map Char.toUpper ∧
      ∀ other, Canonical other → digits other = (digits text).map Char.toUpper →
        other = formatRecoveryKey key := by
  have upper : hexDigits text = Hex.encodeUpper key.val :=
    ((parseRecoveryKey_eq_ok_iff text key.val).mp parsed).2
  have written : digits (formatRecoveryKey key) = (digits text).map Char.toUpper :=
    (digits_formatRecoveryKey key).trans upper.symm
  refine ⟨written, ?_⟩
  intro other canonical same
  exact canonical.eq_of_digits (canonical_formatRecoveryKey key) (same.trans written.symm)

theorem parseRecoveryKey_eq_iff {text other : String} {bytes bytes' : Bytes}
    (parsed : parseRecoveryKey text = .ok bytes) (parsed' : parseRecoveryKey other = .ok bytes') :
    bytes = bytes' ↔ (digits text).map Char.toUpper = (digits other).map Char.toUpper := by
  have upper : (digits text).map Char.toUpper = Hex.encodeUpper bytes :=
    ((parseRecoveryKey_eq_ok_iff text bytes).mp parsed).2
  have upper' : (digits other).map Char.toUpper = Hex.encodeUpper bytes' :=
    ((parseRecoveryKey_eq_ok_iff other bytes').mp parsed').2
  rw [upper, upper']
  exact ⟨fun same => by rw [same], Hex.encodeUpper_injective⟩

/-- The parser accepts exactly its language and undoes the formatter, over all
texts and all keys. -/
theorem recovery_language :
    (∀ text bytes, parseRecoveryKey text = .ok bytes ↔
      (digits text).length = 64 ∧ bytes.length = 32 ∧ Hex.Spells (digits text) bytes) ∧
    (∀ text, (digits text).length = 64 → ∃ bytes, parseRecoveryKey text = .ok bytes) ∧
    (∀ text, (digits text).length ≠ 64 → parseRecoveryKey text =
      .error ("Invalid recovery key: expected 64 hex chars, got " ++
        toString (digits text).length)) ∧
    (∀ text, parseRecoveryKeyOrPanic text = some (parseRecoveryKey text)) ∧
    (∀ text, (digits text).length = 64 → ∀ index, index < 32 →
      ∃ byte, pairAt text index = some (.ok byte)) ∧
    (∀ key, Canonical (formatRecoveryKey key)) ∧
    (∀ key, ∀ chunk ∈ Chunks.chunks 8 (asBytes (hexText key)),
      ∃ group, fromUtf8 chunk = some group) ∧
    (∀ key : Key, parseRecoveryKey (formatRecoveryKey key) = .ok key.val) ∧
    (∀ text bytes, parseRecoveryKey text = .ok bytes → ∃ key : Key, key.val = bytes ∧
      Canonical (formatRecoveryKey key) ∧
      digits (formatRecoveryKey key) = (digits text).map Char.toUpper ∧
      ∀ other, Canonical other → digits other = (digits text).map Char.toUpper →
        other = formatRecoveryKey key) ∧
    (∀ text other bytes bytes', parseRecoveryKey text = .ok bytes →
      parseRecoveryKey other = .ok bytes' →
      (bytes = bytes' ↔ (digits text).map Char.toUpper = (digits other).map Char.toUpper)) := by
  refine ⟨parseRecoveryKey_eq_ok_iff_spells, ?_, parseRecoveryKey_other_length,
    parseRecoveryKeyOrPanic_eq, exists_pairAt, canonical_formatRecoveryKey, fromUtf8_group,
    parseRecoveryKey_formatRecoveryKey, ?_, ?_⟩
  · intro text width
    obtain ⟨bytes, parsed, -⟩ := exists_parseRecoveryKey text width
    exact ⟨bytes, parsed⟩
  · intro text bytes parsed
    have width := ((parseRecoveryKey_eq_ok_iff text bytes).mp parsed).1
    obtain ⟨written, unique⟩ := formatRecoveryKey_of_parsed text ⟨bytes, width⟩ parsed
    exact ⟨⟨bytes, width⟩, rfl, canonical_formatRecoveryKey _, written, unique⟩
  · intro text other bytes bytes' parsed parsed'
    exact parseRecoveryKey_eq_iff parsed parsed'

end IncokitE2ee.Keys
