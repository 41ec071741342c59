import IncokitE2ee.Reference
import IncokitE2ee.Sealed

set_option autoImplicit false

/- The stored form is exact: the strict reader accepts what the sealer writes
under the same key, in one spelling, and an altered row never opens. -/
namespace IncokitE2ee.Sealed

variable (aead : Aead Key Nonce) (base64 : Base64.Engine)

/-- The wire string of a raw blob. -/
def wire (raw : Bytes) : String := e2eePrefix ++ base64.encode raw

theorem wire_injective (standard : base64.Standard) {raw other : Bytes}
    (same : wire base64 raw = wire base64 other) : raw = other :=
  standard.encode_injective ((String.append_right_inj e2eePrefix).mp same)

/-- What the strict reader finds behind the prefix, before it decrypts. -/
def Carries (stored : String) (raw : Bytes) : Prop :=
  ∃ b64, stripPrefix e2eePrefix stored = some b64 ∧ base64.decode b64 = .ok raw

/-- A blob has one spelling: other padding, trailing bits or text, blanks and
another prefix all carry nothing. -/
theorem carries_iff (standard : base64.Standard) (stored : String) (raw : Bytes) :
    Carries base64 stored raw ↔ stored = wire base64 raw := by
  constructor
  · rintro ⟨b64, stripped, decoded⟩
    rw [(stripPrefix_eq_some_iff e2eePrefix stored b64).mp stripped,
      (standard.decode_eq_ok_iff b64 raw).mp decoded, wire]
  · rintro rfl
    exact ⟨base64.encode raw, stripPrefix_append _ _, standard.decode_encode raw⟩

theorem unsealBytes_of_carries (key : Key) (stored : String) (raw : Bytes)
    (carried : Carries base64 stored raw) :
    unsealBytes aead base64 key stored = Encryption.decrypt aead key raw := by
  obtain ⟨b64, stripped, decoded⟩ := carried
  simp only [unsealBytes, stripped, decoded]

theorem unsealBytes_wire (standard : base64.Standard) (key : Key) (raw : Bytes) :
    unsealBytes aead base64 key (wire base64 raw) = Encryption.decrypt aead key raw :=
  unsealBytes_of_carries aead base64 key _ raw ((carries_iff base64 standard _ raw).mpr rfl)

theorem unsealBytes_eq_ok_iff_wire (standard : base64.Standard) (key : Key) (stored : String)
    (plaintext : Bytes) :
    unsealBytes aead base64 key stored = .ok plaintext ↔
      ∃ raw, stored = wire base64 raw ∧ Encryption.decrypt aead key raw = .ok plaintext := by
  rw [unsealBytes_eq_ok_iff]
  simp only [standard.decode_eq_ok_iff, wire]
  constructor
  · rintro ⟨_, raw, rfl, rfl, inner⟩
    exact ⟨raw, rfl, inner⟩
  · rintro ⟨raw, rfl, inner⟩
    exact ⟨_, raw, rfl, rfl, inner⟩

/-- An accepted text carries a blob, and at least a nonce and a tag. -/
theorem carries_of_unsealBytes {key : Key} {stored : String} {plaintext : Bytes}
    (opened : unsealBytes aead base64 key stored = .ok plaintext) :
    ∃ raw, Carries base64 stored raw ∧ 28 ≤ raw.length ∧
      Encryption.decrypt aead key raw = .ok plaintext := by
  obtain ⟨b64, raw, rfl, decoded, inner⟩ :=
    (unsealBytes_eq_ok_iff aead base64 key stored plaintext).mp opened
  refine ⟨raw, ⟨b64, stripPrefix_append _ _, decoded⟩, ?_, inner⟩
  by_cases short : raw.length < 28
  · rw [Encryption.decrypt_short aead key raw short] at inner
    cases inner
  · omega

/-- Sealing then unsealing is the identity. -/
theorem unsealBytes_sealBytes (overhead : aead.Overhead 16) (standard : base64.Standard)
    {key : Key} {nonce : Nonce} {plaintext : Bytes} {stored : String}
    (opens : aead.OpensBack key nonce plaintext)
    (sealing : sealBytes aead base64 key nonce plaintext = .ok stored) :
    unsealBytes aead base64 key stored = .ok plaintext := by
  obtain ⟨raw, encrypted, rfl⟩ :=
    (sealBytes_eq_ok_iff aead base64 key nonce plaintext stored).mp sealing
  rw [← wire, unsealBytes_wire aead base64 standard]
  exact Encryption.decrypt_encrypt aead overhead opens encrypted

/-- The strict reader is the exact converse of the sealer. -/
theorem unsealBytes_eq_ok_iff_sealed (exactness : aead.Exact) (overhead : aead.Overhead 16)
    (standard : base64.Standard) (key : Key) (stored : String) (plaintext : Bytes) :
    unsealBytes aead base64 key stored = .ok plaintext ↔
      ∃ nonce, sealBytes aead base64 key nonce plaintext = .ok stored := by
  rw [unsealBytes_eq_ok_iff_wire aead base64 standard]
  simp only [Encryption.decrypt_eq_ok_iff_encrypt aead exactness overhead, sealBytes_eq_ok_iff]
  constructor
  · intro opened
    obtain ⟨raw, spelled, nonce, encrypted⟩ := opened
    exact ⟨nonce, raw, encrypted, spelled⟩
  · intro sealed
    obtain ⟨nonce, raw, encrypted, spelled⟩ := sealed
    exact ⟨raw, spelled, nonce, encrypted⟩

theorem unsealString_sealString (overhead : aead.Overhead 16) (standard : base64.Standard)
    {key : Key} {nonce : Nonce} {plaintext stored : String}
    (opens : aead.OpensBack key nonce (asBytes plaintext))
    (sealing : sealString aead base64 key nonce plaintext = .ok stored) :
    unsealString aead base64 key stored = .ok plaintext :=
  (unsealString_eq_ok_iff aead base64 key stored plaintext).mpr
    (unsealBytes_sealBytes aead base64 overhead standard opens sealing)

theorem tryUnsealString_sealString (overhead : aead.Overhead 16) (standard : base64.Standard)
    {key : Key} {nonce : Nonce} {plaintext stored : String}
    (opens : aead.OpensBack key nonce (asBytes plaintext))
    (sealing : sealString aead base64 key nonce plaintext = .ok stored) :
    tryUnsealString aead base64 key stored = .ok plaintext := by
  rw [tryUnsealString_prefixed aead base64 key stored (sealString_startsWith aead base64 sealing)]
  exact unsealString_sealString aead base64 overhead standard opens sealing

/-- Within the AEAD's limit sealing succeeds with the wire string of
`nonce || ciphertext`. -/
theorem exists_sealBytes {limit : Nat} (accepts : aead.Accepts limit) (key : Key) (nonce : Nonce)
    (plaintext : Bytes) (within : plaintext.length ≤ limit) :
    ∃ stored, sealBytes aead base64 key nonce plaintext = .ok stored := by
  obtain ⟨ciphertext, encrypted⟩ := accepts key nonce plaintext within
  exact ⟨_, (sealBytes_eq_ok_iff aead base64 key nonce plaintext _).mpr
    ⟨_, (Encryption.encrypt_eq_ok_iff aead key nonce plaintext _).mpr
      ⟨ciphertext, encrypted, rfl⟩, rfl⟩⟩

/-- The strict wire format is exact, over every stored text. -/
theorem wire_format_exact (exactness : aead.Exact) (overhead : aead.Overhead 16)
    (standard : base64.Standard) (limit : Nat) (accepts : aead.Accepts limit) :
    (∀ key stored plaintext, unsealBytes aead base64 key stored = .ok plaintext ↔
      ∃ nonce, sealBytes aead base64 key nonce plaintext = .ok stored) ∧
    (∀ key nonce plaintext stored, sealBytes aead base64 key nonce plaintext = .ok stored ↔
      ∃ ciphertext, aead.encrypt key nonce plaintext = some ciphertext ∧
        stored = "e2ee:" ++ base64.encode (nonce.val ++ ciphertext)) ∧
    (∀ key nonce plaintext, plaintext.length ≤ limit →
      ∃ stored, sealBytes aead base64 key nonce plaintext = .ok stored ∧
        unsealBytes aead base64 key stored = .ok plaintext) ∧
    (∀ stored raw, Carries base64 stored raw ↔ stored = "e2ee:" ++ base64.encode raw) ∧
    (∀ key stored plaintext, unsealBytes aead base64 key stored = .ok plaintext →
      ∃ raw, Carries base64 stored raw ∧ 28 ≤ raw.length) ∧
    (∀ key stored raw, Carries base64 stored raw → raw.length < 28 →
      unsealBytes aead base64 key stored = .error (.ciphertextTooShort 28 raw.length)) := by
  refine ⟨unsealBytes_eq_ok_iff_sealed aead base64 exactness overhead standard, ?_, ?_, ?_, ?_, ?_⟩
  · intro key nonce plaintext stored
    rw [sealBytes_eq_ok_iff]
    simp only [Encryption.encrypt_eq_ok_iff]
    constructor
    · rintro ⟨_, ⟨ciphertext, encrypted, rfl⟩, rfl⟩
      exact ⟨ciphertext, encrypted, rfl⟩
    · rintro ⟨ciphertext, encrypted, rfl⟩
      exact ⟨_, ⟨ciphertext, encrypted, rfl⟩, rfl⟩
  · intro key nonce plaintext within
    obtain ⟨stored, sealing⟩ := exists_sealBytes aead base64 accepts key nonce plaintext within
    exact ⟨stored, sealing,
      unsealBytes_sealBytes aead base64 overhead standard (exactness.inverts key nonce plaintext)
        sealing⟩
  · exact carries_iff base64 standard
  · intro key stored plaintext opened
    obtain ⟨raw, carried, long, -⟩ := carries_of_unsealBytes aead base64 opened
    exact ⟨raw, carried, long⟩
  · intro key stored raw carried short
    rw [unsealBytes_of_carries aead base64 key stored raw carried,
      Encryption.decrypt_short aead key raw short]

/-- A plaintext that is not UTF-8, sealed and unsealed. -/
theorem wire_format_exact_reference :
    unsealBytes (Reference.markedAead Reference.key) Reference.base64 Reference.key
      (e2eePrefix ++ Reference.base64.encode
        (Reference.nonce.val ++ ([0xFF, 0x00] ++ List.replicate 16 0))) = .ok [0xFF, 0x00] :=
  ((wire_format_exact _ _ (Reference.markedAead_exact _) (Reference.markedAead_overhead _)
    Reference.base64_standard 64 (Reference.markedAead_accepts _ 64)).1 Reference.key _ _).mpr
      ⟨Reference.nonce, rfl⟩

/-- A text without the prefix is sealed under no key. -/
theorem not_sealed_of_unprefixed (key : Key) (stored : String)
    (bare : startsWith e2eePrefix stored = false) :
    ¬ ∃ nonce plaintext, sealString aead base64 key nonce plaintext = .ok stored := by
  rintro ⟨nonce, plaintext, sealing⟩
  have starts := sealString_startsWith aead base64 sealing
  rw [bare] at starts
  cases starts

/-- What a row sealed at the reference key holds behind its prefix. -/
def sampleBody : String :=
  Reference.base64.encode
    (Reference.nonce.val ++ (asBytes "integrity matters" ++ List.replicate 16 0))

theorem sealString_sample :
    sealString (Reference.markedAead Reference.key) Reference.base64 Reference.key
      Reference.nonce "integrity matters" = .ok (e2eePrefix ++ sampleBody) :=
  (sealBytes_eq_ok_iff _ _ _ _ _ _).mpr ⟨_, rfl, rfl⟩

/-- Some characters of a text changed, none added or taken away. -/
structure Alteration (stored altered : String) : Prop where
  length : altered.length = stored.length
  different : altered ≠ stored

/-- Another blob of the same length alters the row. -/
theorem alteration_wire {base64 : Base64.Engine} (standard : base64.Standard) {raw altered : Bytes}
    (length : altered.length = raw.length) (different : altered ≠ raw) :
    Alteration (wire base64 raw) (wire base64 altered) := by
  constructor
  · rw [wire, wire, String.length_append, String.length_append, standard.length_encode,
      standard.length_encode, length]
  · intro same
    exact different (wire_injective base64 standard same)

theorem startsWith_upper (rest : String) : startsWith e2eePrefix ("E2ee:" ++ rest) = false := by
  rw [startsWith, String.toList_append]
  rfl

theorem alteration_upper (rest : String) : Alteration (e2eePrefix ++ rest) ("E2ee:" ++ rest) := by
  constructor
  · have five : "E2ee:".length = e2eePrefix.length := by decide
    rw [String.length_append, String.length_append, five]
  · intro same
    have starts := (startsWith_iff e2eePrefix ("E2ee:" ++ rest)).mpr ⟨rest, same⟩
    rw [startsWith_upper] at starts
    cases starts

section Recorded

variable (aead : Aead.Symbolic Key Nonce) (base64 : Base64.Engine)
variable (ledger : List (Aead.Encryption Key Nonce))

/-- The row of a text that was encrypted under the key. Wire strings that the
key could produce and did not are none of these. -/
def SealedUnder (key : Key) (stored : String) : Prop :=
  ∃ nonce plaintext, ⟨key, nonce, asBytes plaintext⟩ ∈ ledger ∧
    sealString (aead.after ledger) base64 key nonce plaintext = .ok stored

/-- What opens strictly is a row that was sealed. -/
theorem sealedUnder_of_unsealString (produced : aead.OpensOnlyProduced)
    (standard : base64.Standard) {key : Key} {stored text : String}
    (opened : unsealString (aead.after ledger) base64 key stored = .ok text) :
    SealedUnder aead base64 ledger key stored := by
  have bytes := (unsealString_eq_ok_iff _ base64 key stored text).mp opened
  obtain ⟨raw, spelled, inner⟩ :=
    (unsealBytes_eq_ok_iff_wire _ base64 standard key stored _).mp bytes
  obtain ⟨nonce, recorded, encrypted⟩ := Encryption.recorded_of_decrypt produced inner
  exact ⟨nonce, text, recorded, (sealBytes_eq_ok_iff _ base64 key nonce _ stored).mpr
    ⟨raw, encrypted, spelled⟩⟩

theorem unsealString_failed (produced : aead.OpensOnlyProduced) (standard : base64.Standard)
    (key : Key) (stored : String) (unsealed : ¬ SealedUnder aead base64 ledger key stored) :
    Failed (unsealString (aead.after ledger) base64 key stored) := by
  cases opened : unsealString (aead.after ledger) base64 key stored with
  | error error => exact failed_error error
  | ok text =>
      have sealed := sealedUnder_of_unsealString aead base64 ledger produced standard opened
      exact absurd sealed unsealed

/-- Where one encryption was made, only its row is sealed. -/
theorem sealString_of_sealedUnder {key : Key} {nonce : Nonce} {plaintext stored : String}
    (sealed : SealedUnder aead base64 [⟨key, nonce, asBytes plaintext⟩] key stored) :
    sealString (aead.after [⟨key, nonce, asBytes plaintext⟩]) base64 key nonce plaintext =
      .ok stored := by
  obtain ⟨nonce', plaintext', recorded, sealing⟩ := sealed
  have same := List.mem_singleton.mp recorded
  simp only [Aead.Encryption.mk.injEq, true_and] at same
  obtain ⟨nonces, texts⟩ := same
  rwa [nonces, asBytes_injective texts] at sealing

end Recorded

/-- Whatever was encrypted before, an altered row that was not sealed itself
fails in strict mode. In lenient mode it fails while the prefix stands, and
reads as legacy plaintext once the prefix is gone. -/
theorem alteration_detected (aead : Aead.Symbolic Key Nonce) (base64 : Base64.Engine)
    (produced : aead.OpensOnlyProduced) (standard : base64.Standard) :
    ∀ ledger key nonce plaintext stored,
      sealString (aead.after ledger) base64 key nonce plaintext = .ok stored →
      ∀ altered, Alteration stored altered → ¬ SealedUnder aead base64 ledger key altered →
        Failed (unsealString (aead.after ledger) base64 key altered) ∧
        (startsWith e2eePrefix altered = true →
          Failed (tryUnsealString (aead.after ledger) base64 key altered)) ∧
        (startsWith e2eePrefix altered = false →
          tryUnsealString (aead.after ledger) base64 key altered = .ok altered) := by
  intro ledger key nonce plaintext stored _ altered _ unsealed
  have strict := unsealString_failed aead base64 ledger produced standard key altered unsealed
  refine ⟨strict, ?_, ?_⟩
  · intro kept
    rw [tryUnsealString_prefixed _ base64 key altered kept]
    exact strict
  · exact tryUnsealString_unprefixed _ base64 key altered

/-- The ledger after that row was sealed. -/
def sampleLedger : List (Aead.Encryption Key Nonce) :=
  [⟨Reference.key, Reference.nonce, asBytes "integrity matters"⟩]

theorem sealString_sampleLedger :
    sealString (Reference.symbolicAead.after sampleLedger) Reference.base64 Reference.key
      Reference.nonce "integrity matters" = .ok (e2eePrefix ++ sampleBody) :=
  (sealBytes_eq_ok_iff _ _ _ _ _ _).mpr ⟨_, rfl, rfl⟩

theorem not_sealedUnder_sample {altered : String}
    (alteration : Alteration (e2eePrefix ++ sampleBody) altered) :
    ¬ SealedUnder Reference.symbolicAead Reference.base64 sampleLedger Reference.key altered := by
  intro sealed
  have sealing := sealString_of_sealedUnder _ _ sealed
  exact alteration.different (Except.ok.inj (sealing.symm.trans sealString_sampleLedger))

/-- The row with one character of its body changed: the encryption of
`integrity mattert`, which was never made. -/
def alteredBody : String :=
  Reference.base64.encode
    (Reference.nonce.val ++ (asBytes "integrity mattert" ++ List.replicate 16 0))

theorem alteration_body : Alteration (e2eePrefix ++ sampleBody) (e2eePrefix ++ alteredBody) := by
  apply alteration_wire Reference.base64_standard
  · rfl
  · decide

/-- The row itself opens, and altered in its body it fails in both modes. -/
theorem alteration_detected_body :
    unsealString (Reference.symbolicAead.after sampleLedger) Reference.base64 Reference.key
        (e2eePrefix ++ sampleBody) = .ok "integrity matters" ∧
      Failed (unsealString (Reference.symbolicAead.after sampleLedger) Reference.base64
        Reference.key (e2eePrefix ++ alteredBody)) ∧
      Failed (tryUnsealString (Reference.symbolicAead.after sampleLedger) Reference.base64
        Reference.key (e2eePrefix ++ alteredBody)) := by
  have detected := alteration_detected _ _ Reference.symbolicAead_opensProduced.opensOnlyProduced
    Reference.base64_standard sampleLedger Reference.key Reference.nonce "integrity matters" _
    sealString_sampleLedger _ alteration_body (not_sealedUnder_sample alteration_body)
  refine ⟨?_, detected.1, detected.2.1 ((startsWith_iff _ _).mpr ⟨_, rfl⟩)⟩
  exact unsealString_sealString _ _ (Reference.symbolicAead_overhead.after sampleLedger)
    Reference.base64_standard
    (Reference.symbolicAead_opensProduced.opensBack List.mem_cons_self) sealString_sampleLedger

/-- With the prefix in upper case the lenient reader returns the ciphertext's
own text as the row's plaintext. -/
theorem alteration_undetected :
    Reference.symbolicAead.OpensOnlyProduced ∧ Reference.base64.Standard ∧
    sealString (Reference.symbolicAead.after sampleLedger) Reference.base64 Reference.key
      Reference.nonce "integrity matters" = .ok (e2eePrefix ++ sampleBody) ∧
    Alteration (e2eePrefix ++ sampleBody) ("E2ee:" ++ sampleBody) ∧
    ¬ SealedUnder Reference.symbolicAead Reference.base64 sampleLedger Reference.key
      ("E2ee:" ++ sampleBody) ∧
    ¬ Failed (tryUnsealString (Reference.symbolicAead.after sampleLedger) Reference.base64
      Reference.key ("E2ee:" ++ sampleBody)) := by
  refine ⟨Reference.symbolicAead_opensProduced.opensOnlyProduced, Reference.base64_standard,
    sealString_sampleLedger, alteration_upper _, not_sealedUnder_sample (alteration_upper _), ?_⟩
  rw [tryUnsealString_unprefixed _ _ _ _ (startsWith_upper _)]
  exact not_failed_ok _

end IncokitE2ee.Sealed
