import IncokitE2ee.JsonDepth
import IncokitE2ee.SealedWire

set_option autoImplicit false

/- Sealed JSON values, and which of them can be read again. -/
namespace IncokitE2ee.Sealed

variable (aead : Aead Key Nonce) (base64 : Base64.Engine)

/-- Both readers parse the very text that was sealed. -/
theorem unsealJson_sealJson {T : Type} (json : SerdeJson T) (inverts : aead.Inverts)
    (overhead : aead.Overhead 16) (standard : base64.Standard) {key : Key} {nonce : Nonce}
    {value : T} {stored : String}
    (sealing : sealJson aead base64 json key nonce value = .ok stored) :
    ∃ text, json.toString value = .ok text ∧
      unsealJson aead base64 json key stored = parseJson json text ∧
      tryUnsealJson aead base64 json key stored = parseJson json text := by
  rw [sealJson] at sealing
  cases written : json.toString value with
  | error error =>
      rw [written] at sealing
      cases sealing
  | ok text =>
      rw [written] at sealing
      have opens := inverts key nonce (asBytes text)
      refine ⟨text, rfl, ?_, ?_⟩
      · rw [unsealJson, unsealString_sealString aead base64 overhead standard opens sealing, bind_ok]
      · rw [tryUnsealJson, tryUnsealString_sealString aead base64 overhead standard opens sealing,
          bind_ok]

theorem parseJson_eq_ok_iff {T : Type} (json : SerdeJson T) (text : String) (value : T) :
    parseJson json text = .ok value ↔ json.fromStr text = .ok value := by
  rw [parseJson]
  cases json.fromStr text <;> simp

/-- A sealed value is read again exactly when it nests less than 128 deep: the
writer has no limit, the reader has. -/
theorem sealed_json_kept_iff (json : SerdeJson Json.Value) (inverts : aead.Inverts)
    (overhead : aead.Overhead 16) (standard : base64.Standard)
    (invertsBelow : json.InvertsBelow Json.Value.depth 128)
    (refusesFrom : json.RefusesFrom Json.Value.depth 128) :
    ∀ key nonce value stored, sealJson aead base64 json key nonce value = .ok stored →
      ((unsealJson aead base64 json key stored = .ok value ∧
        tryUnsealJson aead base64 json key stored = .ok value) ↔ value.depth < 128) := by
  intro key nonce value stored sealing
  obtain ⟨text, written, strict, lenient⟩ :=
    unsealJson_sealJson aead base64 json inverts overhead standard sealing
  rw [strict, lenient, parseJson_eq_ok_iff]
  constructor
  · rintro ⟨read, -⟩
    by_cases shallow : value.depth < 128
    · exact shallow
    · obtain ⟨error, failed⟩ := refusesFrom value text written (Nat.le_of_not_lt shallow)
      rw [read] at failed
      cases failed
  · intro shallow
    have read := invertsBelow value text written shallow
    exact ⟨read, read⟩

/-- The reference reader enters 127 arrays and objects. -/
def referenceJson : SerdeJson Json.Value where
  toString value := .ok (String.ofList (Json.write value.val))
  fromStr text :=
    match found : Json.readText 127 text.toList with
    | .error error => .error error
    | .ok tree => .ok ⟨tree, Json.readText_ordered 127 text.toList tree found⟩

theorem referenceJson_writes : referenceJson.Writes := fun _ => ⟨_, rfl⟩

theorem referenceJson_eq_ok_iff (text : String) (value : Json.Value) :
    referenceJson.fromStr text = .ok value ↔ Json.readText 127 text.toList = .ok value.val := by
  simp only [referenceJson]
  split
  · rename_i error found
    simp [found]
  · rename_i tree found
    simp [found, Subtype.ext_iff]

theorem referenceJson_invertsBelow : referenceJson.InvertsBelow Json.Value.depth 128 := by
  rintro value _ ⟨⟩ shallow
  apply (referenceJson_eq_ok_iff _ value).mpr
  rw [String.toList_ofList]
  exact Json.readText_write 127 value (Nat.le_of_lt_succ shallow)

theorem referenceJson_refusesFrom : referenceJson.RefusesFrom Json.Value.depth 128 := by
  rintro value _ ⟨⟩ deep
  obtain ⟨error, failed⟩ := Json.readText_refuses 127 value deep
  cases outcome : referenceJson.fromStr (String.ofList (Json.write value.val)) with
  | error error => exact failed_error error
  | ok found =>
      have read := (referenceJson_eq_ok_iff _ found).mp outcome
      rw [String.toList_ofList, failed] at read
      cases read

theorem exists_sealJson_reference (value : Json.Value) :
    ∃ stored, sealJson (Reference.markedAead Reference.key) Reference.base64 referenceJson
      Reference.key Reference.nonce value = .ok stored :=
  exists_sealBytes _ _ (Reference.markedAead_accepts _ _) _ _ _ (Nat.le_refl _)

/-- A flat object of two members. -/
def sampleJson : Json.Value :=
  ⟨.object [("a", .number ⟨1, by decide⟩), ("b", .string "two")], by
    have ascending : "a" < "b" := String.lt_iff_toList_lt.mpr (by decide)
    exact ⟨List.pairwise_pair.mpr ascending, trivial, trivial, trivial⟩⟩

theorem sealed_json_kept_sample :
    ∃ stored,
      sealJson (Reference.markedAead Reference.key) Reference.base64 referenceJson Reference.key
        Reference.nonce sampleJson = .ok stored ∧
      unsealJson (Reference.markedAead Reference.key) Reference.base64 referenceJson Reference.key
        stored = .ok sampleJson := by
  obtain ⟨stored, sealing⟩ := exists_sealJson_reference sampleJson
  have kept := (sealed_json_kept_iff _ _ referenceJson (Reference.markedAead_exact _).inverts
    (Reference.markedAead_overhead _) Reference.base64_standard referenceJson_invertsBelow
    referenceJson_refusesFrom Reference.key Reference.nonce sampleJson stored sealing).mpr
    (by decide)
  exact ⟨stored, sealing, kept.1⟩

/-- 128 arrays inside one another are stored, and never read again. -/
theorem deep_json_lost :
    (Reference.markedAead Reference.key).Inverts ∧ Reference.base64.Standard ∧
    referenceJson.Writes ∧ referenceJson.InvertsBelow Json.Value.depth 128 ∧
    referenceJson.RefusesFrom Json.Value.depth 128 ∧
    ¬ ∀ (key : Key) (nonce : Nonce) (value : Json.Value) (stored : String),
      sealJson (Reference.markedAead Reference.key) Reference.base64 referenceJson key nonce value =
        .ok stored →
      unsealJson (Reference.markedAead Reference.key) Reference.base64 referenceJson key stored =
          .ok value ∧
        tryUnsealJson (Reference.markedAead Reference.key) Reference.base64 referenceJson key
          stored = .ok value := by
  refine ⟨(Reference.markedAead_exact _).inverts, Reference.base64_standard, referenceJson_writes,
    referenceJson_invertsBelow, referenceJson_refusesFrom, ?_⟩
  intro kept
  have deep : Json.Value.depth ⟨Json.nested 127, Json.nested_ordered 127⟩ = 128 :=
    Json.nested_depth 127
  obtain ⟨stored, sealing⟩ :=
    exists_sealJson_reference ⟨Json.nested 127, Json.nested_ordered 127⟩
  obtain ⟨text, written, strict, -⟩ := unsealJson_sealJson _ _ referenceJson
    (Reference.markedAead_exact _).inverts (Reference.markedAead_overhead _)
    Reference.base64_standard sealing
  have read := (kept _ _ _ stored sealing).1
  rw [strict, parseJson_eq_ok_iff] at read
  obtain ⟨error, failed⟩ := referenceJson_refusesFrom _ text written (Nat.le_of_eq deep.symm)
  rw [read] at failed
  cases failed

end IncokitE2ee.Sealed
