set_option autoImplicit false

/- Byte strings, fixed-width byte arrays and UTF-8 text, as the Rust standard
library has them. Slices are lists; an array carries its length. -/
namespace IncokitE2ee

abbrev Bytes := List UInt8

/-- A `[u8; n]`. -/
abbrev FixedBytes (n : Nat) := { bytes : Bytes // bytes.length = n }

/-- A 32-byte key. -/
abbrev Key := FixedBytes 32

/-- A 96-bit AES-GCM nonce. -/
abbrev Nonce := FixedBytes 12

namespace FixedBytes

/-- `[byte; n]`. -/
def fill (n : Nat) (byte : UInt8) : FixedBytes n := ⟨List.replicate n byte, by simp⟩

theorem append_inj {n : Nat} {a b : FixedBytes n} {s t : Bytes}
    (h : a.val ++ s = b.val ++ t) : a = b ∧ s = t := by
  have parts := List.append_inj h (a.property.trans b.property.symm)
  exact ⟨Subtype.ext parts.1, parts.2⟩

end FixedBytes

/-- `str::as_bytes`. -/
def asBytes (text : String) : Bytes := text.toByteArray.data.toList

/-- `String::from_utf8`, without the error's position. -/
def fromUtf8 (bytes : Bytes) : Option String := String.fromUTF8? bytes.toByteArray

theorem asBytes_toByteArray (text : String) : (asBytes text).toByteArray = text.toByteArray := by
  apply ByteArray.ext
  apply Array.toList_inj.mp
  rw [List.toList_data_toByteArray, asBytes]

@[simp] theorem fromUtf8_asBytes (text : String) : fromUtf8 (asBytes text) = some text := by
  rw [fromUtf8, asBytes_toByteArray, String.fromUTF8?, dif_pos text.isValidUTF8]
  rfl

/-- Decoding is exact: a text has one UTF-8 encoding and an encoding one text. -/
theorem fromUtf8_eq_some_iff (bytes : Bytes) (text : String) :
    fromUtf8 bytes = some text ↔ bytes = asBytes text := by
  constructor
  · intro decoded
    rw [fromUtf8, String.fromUTF8?] at decoded
    split at decoded
    · cases decoded
      exact List.toList_data_toByteArray.symm
    · cases decoded
  · rintro rfl
    exact fromUtf8_asBytes text

theorem asBytes_injective {s t : String} (h : asBytes s = asBytes t) : s = t := by
  have decoded := fromUtf8_asBytes s
  rw [h, fromUtf8_asBytes] at decoded
  exact (Option.some.inj decoded).symm

@[simp] theorem asBytes_append (s t : String) : asBytes (s ++ t) = asBytes s ++ asBytes t := by
  rw [asBytes, String.toByteArray_append, ByteArray.data_append, Array.toList_append]
  rfl

/-- UTF-8 is a prefix code: a text whose bytes start another's is its beginning. -/
theorem asBytes_prefix {s t : String} {rest : Bytes} (joined : asBytes t = asBytes s ++ rest) :
    ∃ tail, t = s ++ tail ∧ rest = asBytes tail := by
  have bytes : s.toList.utf8Encode ++ rest.toByteArray = t.toList.utf8Encode := by
    apply ByteArray.ext
    apply Array.toList_inj.mp
    rw [← String.toByteArray_ofList, ← String.toByteArray_ofList, String.ofList_toList,
      String.ofList_toList, ByteArray.data_append, Array.toList_append,
      List.toList_data_toByteArray]
    exact joined.symm
  obtain ⟨tail, longer⟩ := List.isPrefix_of_utf8Encode_append_eq_utf8Encode _ bytes
  have whole : t = s ++ String.ofList tail := by
    rw [← String.toList_inj, String.toList_append, String.toList_ofList, longer]
  refine ⟨String.ofList tail, whole, ?_⟩
  rw [whole, asBytes_append] at joined
  exact (List.append_cancel_left joined).symm

theorem asBytes_ofList (chars : List Char) :
    asBytes (String.ofList chars) = chars.flatMap String.utf8EncodeChar := by
  rw [asBytes, String.toByteArray_ofList, List.utf8Encode, List.toList_data_toByteArray]

/-- An ASCII text has one byte for each character. -/
theorem asBytes_ascii (chars : List Char) (ascii : ∀ char ∈ chars, char.toNat < 128) :
    asBytes (String.ofList chars) = chars.map fun char => UInt8.ofNat char.toNat := by
  rw [asBytes_ofList]
  induction chars with
  | nil => rfl
  | cons char rest ih =>
      have low : char.val.toNat ≤ 0x7f := Nat.le_of_lt_succ (ascii char List.mem_cons_self)
      have single : String.utf8EncodeChar char = [UInt8.ofNat char.toNat] := by
        rw [String.utf8EncodeChar, if_pos low]
        rfl
      rw [List.flatMap_cons, single, ih (fun other member => ascii other (.tail _ member))]
      rfl

/-- `str::starts_with`. -/
def startsWith (head text : String) : Bool := head.toList.isPrefixOf text.toList

/-- `str::strip_prefix`. -/
def stripPrefix (head text : String) : Option String :=
  if startsWith head text then some (String.ofList (text.toList.drop head.toList.length)) else none

theorem startsWith_iff (head text : String) :
    startsWith head text = true ↔ ∃ rest, text = head ++ rest := by
  rw [startsWith, List.isPrefixOf_iff_prefix]
  constructor
  · rintro ⟨rest, joined⟩
    refine ⟨String.ofList rest, ?_⟩
    rw [← String.toList_inj, String.toList_append, String.toList_ofList, joined]
  · rintro ⟨rest, rfl⟩
    exact ⟨rest.toList, String.toList_append.symm⟩

theorem stripPrefix_append (head rest : String) : stripPrefix head (head ++ rest) = some rest := by
  have starts : startsWith head (head ++ rest) = true :=
    (startsWith_iff head (head ++ rest)).mpr ⟨rest, rfl⟩
  rw [stripPrefix, if_pos starts, String.toList_append, List.drop_left, String.ofList_toList]

theorem stripPrefix_eq_some_iff (head text rest : String) :
    stripPrefix head text = some rest ↔ text = head ++ rest := by
  constructor
  · intro stripped
    by_cases starts : startsWith head text = true
    · obtain ⟨tail, rfl⟩ := (startsWith_iff head text).mp starts
      rw [stripPrefix_append] at stripped
      rw [Option.some.inj stripped]
    · rw [stripPrefix, if_neg starts] at stripped
      cases stripped
  · rintro rfl
    exact stripPrefix_append head rest

/-- `starts_with` and `strip_prefix` agree on every text. -/
theorem stripPrefix_eq_none_iff (head text : String) :
    stripPrefix head text = none ↔ startsWith head text = false := by
  cases starts : startsWith head text <;> simp [stripPrefix, starts]

end IncokitE2ee
