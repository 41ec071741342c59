import IncokitE2ee.Error

set_option autoImplicit false

/- The texts that errors are flattened to at a boundary, and what they still
tell. Every text is a label, which begins no other text, and its details. -/
namespace IncokitE2ee

section Digits

/-- Behind a decimal number that no digit follows, everything is what it was. -/
theorem toDigits_append_inj {number other : Nat} {rest rest' : List Char}
    (stops : ∀ char ∈ rest.head?, char.isDigit = false)
    (stops' : ∀ char ∈ rest'.head?, char.isDigit = false)
    (same : Nat.toDigits 10 number ++ rest = Nat.toDigits 10 other ++ rest') :
    number = other ∧ rest = rest' := by
  have front : ∀ (number : Nat) (rest : List Char), (∀ char ∈ rest.head?, char.isDigit = false) →
      (Nat.toDigits 10 number ++ rest).takeWhile Char.isDigit = Nat.toDigits 10 number := by
    intro number rest stops
    have none : rest.takeWhile Char.isDigit = [] := by
      cases rest with
      | nil => rfl
      | cons char rest => exact List.takeWhile_cons_of_neg (by simp [stops char rfl])
    rw [List.takeWhile_append_of_pos fun char member =>
      Nat.isDigit_of_mem_toDigits (by decide) (by decide) member, none, List.append_nil]
  have digits : Nat.toDigits 10 number = Nat.toDigits 10 other := by
    rw [← front number rest stops, same, front other rest' stops']
  constructor
  · calc
      number = Nat.ofDigitChars 10 (Nat.toDigits 10 number) 0 :=
        Nat.ofDigitChars_ten_toDigits.symm
      _ = Nat.ofDigitChars 10 (Nat.toDigits 10 other) 0 := by rw [digits]
      _ = other := Nat.ofDigitChars_ten_toDigits
  · rw [digits] at same
    exact List.append_cancel_left same

theorem toString_append_inj {number other : Nat} {rest rest' : String}
    (stops : ∀ char ∈ rest.toList.head?, char.isDigit = false)
    (stops' : ∀ char ∈ rest'.toList.head?, char.isDigit = false)
    (same : toString number ++ rest = toString other ++ rest') : number = other ∧ rest = rest' := by
  have chars : Nat.toDigits 10 number ++ rest.toList = Nat.toDigits 10 other ++ rest'.toList := by
    simpa only [String.toList_append, Nat.toString_eq_repr, Nat.toList_repr] using
      congrArg String.toList same
  obtain ⟨numbers, rests⟩ := toDigits_append_inj stops stops' chars
  exact ⟨numbers, String.toList_inj.mp rests⟩

theorem toString_inj {number other : Nat} (same : toString number = toString other) :
    number = other := by
  have padded : toString number ++ "" = toString other ++ "" := congrArg (· ++ "") same
  exact (toString_append_inj (by simp) (by simp) padded).1

/-- Two numbers with a word between them that begins with no digit. -/
theorem toString_word_inj {char : Char} {chars : List Char} (stop : char.isDigit = false)
    {first second first' second' : Nat}
    (same : toString first ++ (String.ofList (char :: chars) ++ toString second) =
      toString first' ++ (String.ofList (char :: chars) ++ toString second')) :
    first = first' ∧ second = second' := by
  have behind : ∀ number : Nat,
      ∀ next ∈ (String.ofList (char :: chars) ++ toString number).toList.head?,
        next.isDigit = false := by
    intro number next begins
    rw [String.toList_append, String.toList_ofList, List.cons_append, List.head?_cons] at begins
    cases begins
    exact stop
  obtain ⟨firsts, rests⟩ := toString_append_inj (behind second) (behind second') same
  exact ⟨firsts, toString_inj (String.append_right_inj _ |>.mp rests)⟩

end Digits

/-- What a failure of the crate is about, details left out. -/
inductive ErrorKind where
  | notUnlocked
  | userIdMismatch
  | invalidKeyLength
  | encrypt
  | decrypt
  | ciphertextTooShort
  | argon2Params
  | argon2Hash
  | hkdf
  | base64
  | json
  | utf8
  | missingE2eePrefix
  | recoveryKey
  | keychainEntry
  | keychainSave
  | keychainLoad
  | keychainDelete
  | keychainDecode
  | keychainWidth
  deriving DecidableEq

namespace ErrorKind

/-- The texts up to their first detail: those of `error.rs`, of
`parse_recovery_key` and of `keychain.rs`. -/
def label : ErrorKind → String
  | notUnlocked => "encryption is locked — unlock before retrying"
  | userIdMismatch => "session belongs to a different user"
  | invalidKeyLength => "invalid key length: expected "
  | encrypt => "AES-GCM encrypt failed"
  | decrypt => "AES-GCM decrypt failed (wrong key or corrupted data)"
  | ciphertextTooShort => "ciphertext too short: need at least "
  | argon2Params => "Argon2 parameters error: "
  | argon2Hash => "Argon2 hash failed: "
  | hkdf => "HKDF expand failed: "
  | base64 => "base64 decode: "
  | json => "json: "
  | utf8 => "utf-8: "
  | missingE2eePrefix => "missing e2ee prefix — data is not encrypted"
  | recoveryKey => "Invalid recovery key: expected 64 hex chars, got "
  | keychainEntry => "Keychain entry error: "
  | keychainSave => "Keychain save error: "
  | keychainLoad => "Keychain load error: "
  | keychainDelete => "Keychain delete error: "
  | keychainDecode => "Keychain decode error: "
  | keychainWidth => "Invalid key length in keychain: expected 32, got "

/-- No label begins another. The characters are read off the literals first. -/
theorem eq_of_label_begins {kind other : ErrorKind}
    (begins : kind.label.toList <+: other.label.toList) : kind = other := by
  have chars : ∀ (kind : ErrorKind) (chars : List Char), kind.label = String.ofList chars →
      kind.label.toList = chars := by
    intro kind chars same
    rw [same, String.toList_ofList]
  cases kind <;> rw [chars _ _ rfl] at begins <;> cases other <;>
    first
    | rfl
    | rw [chars _ _ rfl] at begins
      exact absurd begins (by decide)

/-- Equal texts have one label and equal details. -/
theorem label_append_inj {kind other : ErrorKind} {details details' : String}
    (same : kind.label ++ details = other.label ++ details') :
    kind = other ∧ details = details' := by
  have chars : kind.label.toList ++ details.toList = other.label.toList ++ details'.toList := by
    simpa only [String.toList_append] using congrArg String.toList same
  have here : kind.label.toList <+: other.label.toList ++ details'.toList :=
    ⟨details.toList, chars⟩
  have kinds : kind = other := by
    rcases List.prefix_or_prefix_of_prefix here (List.prefix_append _ _) with begins | begins
    · exact eq_of_label_begins begins
    · exact (eq_of_label_begins begins).symm
  subst kinds
  exact ⟨rfl, String.toList_inj.mp (List.append_cancel_left chars)⟩

end ErrorKind

/-- Whatever the crate reports as a text. -/
inductive Failure where
  | crypto (error : CryptoError)
  | recoveryKey (digits : Nat)
  | keychainEntry (error : String)
  | keychainSave (error : String)
  | keychainLoad (error : String)
  | keychainDelete (error : String)
  | keychainDecode (error : String)
  | keychainWidth (actual : Nat)
  deriving DecidableEq

section Texts

variable (utf8Text : Bytes → String)

namespace CryptoError

def kind : CryptoError → ErrorKind
  | .notUnlocked => .notUnlocked
  | .userIdMismatch => .userIdMismatch
  | .invalidKeyLength _ _ => .invalidKeyLength
  | .encrypt => .encrypt
  | .decrypt => .decrypt
  | .ciphertextTooShort _ _ => .ciphertextTooShort
  | .argon2Params _ => .argon2Params
  | .argon2Hash _ => .argon2Hash
  | .hkdf _ => .hkdf
  | .base64 _ => .base64
  | .json _ => .json
  | .utf8 _ => .utf8
  | .missingE2eePrefix => .missingE2eePrefix

def details : CryptoError → String
  | .invalidKeyLength expected actual => toString expected ++ (", got " ++ toString actual)
  | .ciphertextTooShort min actual => toString min ++ (" bytes, got " ++ toString actual)
  | .argon2Params message => message
  | .argon2Hash message => message
  | .hkdf message => message
  | .base64 error => error
  | .json error => error
  | .utf8 bytes => utf8Text bytes
  | _ => ""

theorem toText_eq (error : CryptoError) :
    error.toText utf8Text = error.kind.label ++ error.details utf8Text := by
  have joined : ∀ front first word second : String,
      front ++ first ++ word ++ second = front ++ (first ++ (word ++ second)) := by
    intro front first word second
    rw [String.append_assoc, String.append_assoc]
  cases error with
  | invalidKeyLength expected actual => exact joined _ _ _ _
  | ciphertextTooShort min actual => exact joined _ _ _ _
  | argon2Params | argon2Hash | hkdf | base64 | json | utf8 => rfl
  | _ => exact String.append_empty.symm

/-- The text of an error tells it from every other, unless the library writes two
invalid buffers alike. -/
theorem eq_or_utf8_of_toText {error other : CryptoError}
    (same : error.toText utf8Text = other.toText utf8Text) :
    error = other ∨ ∃ bytes bytes', error = .utf8 bytes ∧ other = .utf8 bytes' ∧
      utf8Text bytes = utf8Text bytes' := by
  rw [toText_eq, toText_eq] at same
  obtain ⟨kinds, told⟩ := ErrorKind.label_append_inj same
  -- Where the kinds differ there is nothing to show.
  cases error <;> cases other <;> cases kinds
  case invalidKeyLength.invalidKeyLength.refl =>
    obtain ⟨rfl, rfl⟩ := toString_word_inj (by decide) told
    exact .inl rfl
  case ciphertextTooShort.ciphertextTooShort.refl =>
    obtain ⟨rfl, rfl⟩ := toString_word_inj (by decide) told
    exact .inl rfl
  case utf8.utf8.refl bytes bytes' => exact .inr ⟨bytes, bytes', rfl, rfl, told⟩
  all_goals
    first
    | exact .inl rfl
    | exact .inl (congrArg _ told)

end CryptoError

namespace Failure

/-- The text of a failure. An error's is converted, the others are texts from the start. -/
def toText : Failure → String
  | .crypto error => error.toText utf8Text
  | .recoveryKey digits => "Invalid recovery key: expected 64 hex chars, got " ++ toString digits
  | .keychainEntry error => "Keychain entry error: " ++ error
  | .keychainSave error => "Keychain save error: " ++ error
  | .keychainLoad error => "Keychain load error: " ++ error
  | .keychainDelete error => "Keychain delete error: " ++ error
  | .keychainDecode error => "Keychain decode error: " ++ error
  | .keychainWidth actual => "Invalid key length in keychain: expected 32, got " ++ toString actual

def kind : Failure → ErrorKind
  | .crypto error => error.kind
  | .recoveryKey _ => .recoveryKey
  | .keychainEntry _ => .keychainEntry
  | .keychainSave _ => .keychainSave
  | .keychainLoad _ => .keychainLoad
  | .keychainDelete _ => .keychainDelete
  | .keychainDecode _ => .keychainDecode
  | .keychainWidth _ => .keychainWidth

def details : Failure → String
  | .crypto error => error.details utf8Text
  | .recoveryKey digits => toString digits
  | .keychainEntry error => error
  | .keychainSave error => error
  | .keychainLoad error => error
  | .keychainDelete error => error
  | .keychainDecode error => error
  | .keychainWidth actual => toString actual

theorem toText_eq (failure : Failure) :
    failure.toText utf8Text = failure.kind.label ++ failure.details utf8Text := by
  cases failure with
  | crypto error => exact error.toText_eq utf8Text
  | _ => rfl

def SameText (failure other : Failure) : Prop :=
  failure = other ∨ ∃ bytes bytes', failure = .crypto (.utf8 bytes) ∧
    other = .crypto (.utf8 bytes') ∧ utf8Text bytes = utf8Text bytes'

/-- No two failures read alike, but for the library's texts of invalid buffers. -/
theorem toText_eq_toText_iff (failure other : Failure) :
    failure.toText utf8Text = other.toText utf8Text ↔ SameText utf8Text failure other := by
  constructor
  · intro same
    rw [toText_eq, toText_eq] at same
    obtain ⟨kinds, told⟩ := ErrorKind.label_append_inj same
    cases failure with
    | crypto error =>
        cases other with
        | crypto error' =>
            rw [← toText_eq, ← toText_eq] at same
            rcases CryptoError.eq_or_utf8_of_toText utf8Text same with
              rfl | ⟨bytes, bytes', rfl, rfl, alike⟩
            · exact .inl rfl
            · exact .inr ⟨bytes, bytes', rfl, rfl, alike⟩
        | _ => cases error <;> cases kinds
    | _ =>
        cases other with
        | crypto error => cases error <;> cases kinds
        | _ =>
            cases kinds
            all_goals
              first
              | exact .inl (congrArg _ told)
              | exact .inl (congrArg _ (toString_inj told))
  · rintro (rfl | ⟨bytes, bytes', rfl, rfl, same⟩)
    · rfl
    · exact congrArg ("utf-8: " ++ ·) same

end Failure

end Texts

end IncokitE2ee
