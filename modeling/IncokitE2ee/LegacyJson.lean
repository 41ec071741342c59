import IncokitE2ee.Entity
import IncokitE2ee.JsonSound
import IncokitE2ee.Migration
import IncokitE2ee.SealedJson

set_option autoImplicit false

/- Legacy JSON rows among sealed ones: no JSON text has the prefix, so the
lenient reader never takes one for the other. -/
namespace IncokitE2ee.Sealed

/-- A JSON text begins with a blank or as a value does, and `e` is neither. -/
theorem unprefixed_of_grammar (text : String) (grammatical : Json.Grammar.Text text.toList) :
    startsWith e2eePrefix text = false := by
  cases starts : startsWith e2eePrefix text with
  | false => rfl
  | true =>
      obtain ⟨rest, joined⟩ := (startsWith_iff e2eePrefix text).mp starts
      have chars : text.toList = 'e' :: (['2', 'e', 'e', ':'] ++ rest.toList) := by
        rw [joined, String.toList_append]
        rfl
      have solid : ¬ Json.Grammar.Blank 'e' := by
        unfold Json.Grammar.Blank
        decide
      have foreign : ¬ Json.Grammar.Begins 'e' := by
        unfold Json.Grammar.Begins
        decide
      rw [chars] at grammatical
      exact absurd grammatical (Json.Grammar.not_text_cons solid foreign _)

section Reading

variable {aead : Aead Key Nonce} {base64 : Base64.Engine} {T : Type} {json : SerdeJson T}
  (accepts : json.AcceptsOnly Json.Grammar.Text)
include accepts

theorem unprefixed_of_fromStr {text : String} {value : T}
    (read : json.fromStr text = .ok value) : startsWith e2eePrefix text = false :=
  unprefixed_of_grammar text (accepts text value read)

/-- A legacy document is returned as it stands, under every key. -/
theorem tryUnsealJson_legacy (key : Key) {stored : String} {value : T}
    (read : json.fromStr stored = .ok value) :
    tryUnsealJson aead base64 json key stored = .ok value := by
  have bare := unprefixed_of_fromStr accepts read
  rw [tryUnsealJson, tryUnsealString_unprefixed aead base64 key stored bare, bind_ok,
    parseJson_eq_ok_iff]
  exact read

/-- A legacy document was sealed under no key. -/
theorem not_sealed_of_fromStr (key : Key) {stored : String} {value : T}
    (read : json.fromStr stored = .ok value) :
    ¬ ∃ nonce text, sealString aead base64 key nonce text = .ok stored :=
  not_sealed_of_unprefixed aead base64 key stored (unprefixed_of_fromStr accepts read)

theorem tryUnsealJson_eq_ok_iff (exactness : aead.Exact) (overhead : aead.Overhead 16)
    (standard : base64.Standard) (key : Key) (stored : String) (value : T) :
    tryUnsealJson aead base64 json key stored = .ok value ↔
      json.fromStr stored = .ok value ∨
        ∃ nonce text, sealString aead base64 key nonce text = .ok stored ∧
          json.fromStr text = .ok value := by
  constructor
  · intro success
    obtain ⟨text, lenient, parsed⟩ := (bind_eq_ok_iff _ _ _).mp success
    rw [parseJson_eq_ok_iff] at parsed
    rcases (tryUnsealString_eq_ok_iff exactness overhead standard key stored text).mp lenient with
      legacy | sealed
    · rw [legacy.2] at parsed
      exact .inl parsed
    · obtain ⟨nonce, sealing⟩ := sealed
      exact .inr ⟨nonce, text, sealing, parsed⟩
  · intro either
    rcases either with read | sealed
    · exact tryUnsealJson_legacy accepts key read
    · obtain ⟨nonce, text, sealing, read⟩ := sealed
      rw [tryUnsealJson, tryUnsealString_sealString aead base64 overhead standard
        (exactness.inverts key nonce (asBytes text)) sealing, bind_ok, parseJson_eq_ok_iff]
      exact read

end Reading

/-- Under every key and at every type the lenient reader returns a value exactly
when the stored text is its document or a seal around its document, and it is
never both. -/
theorem legacy_json_exact (aead : Aead Key Nonce) (base64 : Base64.Engine)
    (exactness : aead.Exact) (overhead : aead.Overhead 16) (standard : base64.Standard) (T : Type)
    (json : SerdeJson T) (accepts : json.AcceptsOnly Json.Grammar.Text) :
    (∀ key stored value, tryUnsealJson aead base64 json key stored = .ok value ↔
      json.fromStr stored = .ok value ∨
        ∃ nonce text, sealString aead base64 key nonce text = .ok stored ∧
          json.fromStr text = .ok value) ∧
    (∀ text, Json.Grammar.Text text.toList → startsWith e2eePrefix text = false) ∧
    (∀ stored value, json.fromStr stored = .ok value →
      ∀ key, tryUnsealJson aead base64 json key stored = .ok value ∧
        ¬ ∃ nonce text, sealString aead base64 key nonce text = .ok stored) ∧
    (∀ (hkdf : Hkdf) (E : Type) [EncryptedEntity E] (session : SessionKey) (entity : E) key,
      session.entityKey hkdf entity = .ok key → ∀ stored,
        tryUnsealEntityJson aead base64 hkdf json session entity stored =
          tryUnsealJson aead base64 json key stored) := by
  refine ⟨tryUnsealJson_eq_ok_iff accepts exactness overhead standard, unprefixed_of_grammar,
    ?_, ?_⟩
  · intro stored value read key
    exact ⟨tryUnsealJson_legacy accepts key read, not_sealed_of_fromStr accepts key read⟩
  · intro hkdf E _ session entity key derived stored
    rw [tryUnsealEntityJson, derived, bind_ok]

theorem referenceJson_acceptsOnly : referenceJson.AcceptsOnly Json.Grammar.Text := by
  intro text value read
  exact Json.text_of_readText 127 text.toList value.val
    ((referenceJson_eq_ok_iff text value).mp read)

/-- The sample object as a row that was written before there was any sealing. -/
theorem legacy_json_exact_sample :
    tryUnsealJson (Reference.markedAead Reference.key) Reference.base64 referenceJson
      (FixedBytes.fill 32 9) (String.ofList (Json.write sampleJson.val)) = .ok sampleJson :=
  ((legacy_json_exact _ _ (Reference.markedAead_exact Reference.key)
    (Reference.markedAead_overhead _) Reference.base64_standard _ referenceJson
    referenceJson_acceptsOnly).2.2.1 _ sampleJson
      (referenceJson_invertsBelow sampleJson _ rfl (by decide)) (FixedBytes.fill 32 9)).1

end IncokitE2ee.Sealed
