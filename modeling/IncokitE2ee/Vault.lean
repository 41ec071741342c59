import IncokitE2ee.CallErrors
import IncokitE2ee.EntityIsolation
import IncokitE2ee.ReferenceHkdf
import IncokitE2ee.SealedJson
import IncokitE2ee.Transition

set_option autoImplicit false

/- Whole runs of a client that makes any encrypting calls, over a store whose
operator hands any blob and any text to any decrypting call. -/
namespace IncokitE2ee.Vault

variable {Kind Shape : Type} {E : Kind → Type} {T : Shape → Type}
variable [∀ kind, EncryptedEntity (E kind)]
variable (aead : Aead.Symbolic Key Nonce) (base64 : Base64.Engine) (hkdf : Hkdf) (x25519 : X25519)
variable (json : ∀ shape, SerdeJson (T shape))

structure Made (E : Kind → Type) (T : Shape → Type) where
  call : Producing E T
  nonce : Nonce
  output : Output

structure State (E : Kind → Type) (T : Shape → Type) where
  ledger : List (Aead.Encryption Key Nonce)
  /-- The successful calls, newest first. -/
  made : List (Made E T)

structure Records (made : Made E T) (entry : Aead.Encryption Key Nonce) : Prop where
  derived : made.call.source.key hkdf x25519 = .ok entry.key
  nonce : made.nonce = entry.nonce
  written : made.call.plaintext json = .ok entry.plaintext
  produced : ∃ raw, Encryption.encrypt (aead.after []) entry.key entry.nonce entry.plaintext =
    .ok raw ∧ made.output = made.call.present base64 raw

/-- A call that fails makes no encryption and is no step. -/
inductive Step (allowed : Producing E T → Prop) : State E T → State E T → Prop where
  | produce (state : State E T) (call : Producing E T) (nonce : Nonce) (output : Output)
      (key : Key) (plaintext : Bytes) (legal : allowed call)
      (success : call.run (aead.after state.ledger) base64 hkdf x25519 json nonce = .ok output)
      (derived : call.source.key hkdf x25519 = .ok key)
      (written : call.plaintext json = .ok plaintext) :
      Step allowed state
        { ledger := ⟨key, nonce, plaintext⟩ :: state.ledger
          made := ⟨call, nonce, output⟩ :: state.made }

def system (allowed : Producing E T → Prop) : Transition (State E T) where
  start state := state.ledger = [] ∧ state.made = []
  step := Step aead base64 hkdf x25519 json allowed

structure Inv (allowed : Producing E T → Prop) (state : State E T) : Prop where
  recorded : ∀ entry ∈ state.ledger, ∃ made ∈ state.made,
    Records aead base64 hkdf x25519 json made entry
  logged : ∀ made ∈ state.made, ∃ entry ∈ state.ledger,
    Records aead base64 hkdf x25519 json made entry
  legal : ∀ made ∈ state.made, allowed made.call

variable {allowed : Producing E T → Prop}

theorem inv_start (state : State E T) (starts : state.ledger = [] ∧ state.made = []) :
    Inv aead base64 hkdf x25519 json allowed state := by
  obtain ⟨noLedger, noneMade⟩ := starts
  constructor
  · intro entry member
    rw [noLedger] at member
    cases member
  · intro made member
    rw [noneMade] at member
    cases member
  · intro made member
    rw [noneMade] at member
    cases member

/-- Encrypting never consults the ledger. -/
theorem records_of_run {ledger : List (Aead.Encryption Key Nonce)} {call : Producing E T}
    {nonce : Nonce} {output : Output} {key : Key} {plaintext : Bytes}
    (success : call.run (aead.after ledger) base64 hkdf x25519 json nonce = .ok output)
    (derived : call.source.key hkdf x25519 = .ok key)
    (written : call.plaintext json = .ok plaintext) :
    Records aead base64 hkdf x25519 json ⟨call, nonce, output⟩ ⟨key, nonce, plaintext⟩ := by
  obtain ⟨key', plaintext', raw, derived', written', encrypted, rfl⟩ :=
    (call.run_eq_ok_iff (aead.after ledger) base64 hkdf x25519 json nonce output).mp success
  rw [derived] at derived'
  rw [written] at written'
  cases derived'
  cases written'
  exact ⟨derived, rfl, written, raw, encrypted, rfl⟩

theorem inv_step (state after : State E T) (inv : Inv aead base64 hkdf x25519 json allowed state)
    (step : Step aead base64 hkdf x25519 json allowed state after) :
    Inv aead base64 hkdf x25519 json allowed after := by
  cases step with
  | produce call nonce output key plaintext legal success derived written =>
      have records := records_of_run aead base64 hkdf x25519 json success derived written
      constructor
      · intro entry member
        rcases List.mem_cons.mp member with rfl | older
        · exact ⟨_, List.mem_cons_self, records⟩
        · obtain ⟨made, called, recorded⟩ := inv.recorded entry older
          exact ⟨made, List.mem_cons_of_mem _ called, recorded⟩
      · intro made member
        rcases List.mem_cons.mp member with rfl | older
        · exact ⟨_, List.mem_cons_self, records⟩
        · obtain ⟨entry, logged, recorded⟩ := inv.logged made older
          exact ⟨entry, List.mem_cons_of_mem _ logged, recorded⟩
      · intro made member
        rcases List.mem_cons.mp member with rfl | older
        · exact legal
        · exact inv.legal made older

theorem inv_reachable (state : State E T)
    (reachable : (system aead base64 hkdf x25519 json allowed).Reachable state) :
    Inv aead base64 hkdf x25519 json allowed state :=
  reachable.invariant (inv_start aead base64 hkdf x25519 json)
    (inv_step aead base64 hkdf x25519 json)

omit [∀ kind, EncryptedEntity (E kind)] in
theorem present_injective (standard : base64.Standard) (call : Producing E T) {raw other : Bytes}
    (same : call.present base64 raw = call.present base64 other) : raw = other := by
  have rows : Output.row (Sealed.wire base64 raw) = .row (Sealed.wire base64 other) →
      raw = other := by
    intro same
    exact Sealed.wire_injective base64 standard (Output.row.inj same)
  cases call with
  | sealBytes | sealString | sealJson | sealEntityString | sealEntityJson => exact rows same
  | _ => exact Output.blob.inj same

/-- The blob of a call opens, under the key the call used, to its plaintext, and
nothing else opens at all. -/
theorem decrypt_eq_ok_iff_made (symbolic : aead.OpensProduced) (overhead : aead.Overhead 16)
    (standard : base64.Standard) {state : State E T}
    (inv : Inv aead base64 hkdf x25519 json allowed state) (key : Key) (raw plaintext : Bytes) :
    Encryption.decrypt (aead.after state.ledger) key raw = .ok plaintext ↔
      ∃ made ∈ state.made, made.call.source.key hkdf x25519 = .ok key ∧
        made.call.plaintext json = .ok plaintext ∧
        made.output = made.call.present base64 raw := by
  constructor
  · intro opened
    obtain ⟨nonce, logged, encrypted⟩ :=
      Encryption.recorded_of_decrypt symbolic.opensOnlyProduced opened
    obtain ⟨made, called, records⟩ := inv.recorded _ logged
    obtain ⟨raw', encrypted', presented⟩ := records.produced
    have same : raw' = raw := Except.ok.inj (encrypted'.symm.trans encrypted)
    subst same
    exact ⟨made, called, records.derived, records.written, presented⟩
  · rintro ⟨made, called, derived, written, presented⟩
    obtain ⟨entry, logged, records⟩ := inv.logged made called
    obtain ⟨raw', encrypted, presented'⟩ := records.produced
    have sameRaw := present_injective base64 standard made.call (presented.symm.trans presented')
    have sameKey := Except.ok.inj (derived.symm.trans records.derived)
    have sameText := Except.ok.inj (written.symm.trans records.written)
    rw [sameRaw, sameKey, sameText]
    exact Encryption.decrypt_encrypt _ (overhead.after state.ledger) (symbolic.opensBack logged)
      encrypted

section Readers

variable (symbolic : aead.OpensProduced) (overhead : aead.Overhead 16)
  (standard : base64.Standard) {state : State E T}
  (inv : Inv aead base64 hkdf x25519 json allowed state)
include symbolic overhead standard inv

/-- What a call of the run produced, read with the same key. -/
theorem run_of_made {made : Made E T} (called : made ∈ state.made) {key : Key} {raw plaintext : Bytes}
    (derived' : made.call.source.key hkdf x25519 = .ok key)
    (presented : made.output = made.call.present base64 raw)
    (written : made.call.plaintext json = .ok plaintext) {call : Opening E T}
    {value : call.form.Value} (derived : call.source.key hkdf x25519 = .ok key)
    (holds : call.stored.Holds base64 raw) (read : call.form.read json plaintext = .ok value) :
    call.run (aead.after state.ledger) base64 hkdf x25519 json = .ok value := by
  have parsed := (Stored.find_eq_sealed_iff base64 standard call.stored raw).mpr holds
  have opened := (decrypt_eq_ok_iff_made aead base64 hkdf x25519 json symbolic overhead standard
    inv key raw plaintext).mpr ⟨made, called, derived', written, presented⟩
  exact (call.run_eq_ok_iff _ base64 hkdf x25519 json value).mpr
    ⟨key, .sealed raw, plaintext, derived, parsed, opened, read⟩

/-- What a call returns was a legacy row, or the plaintext of a call of the run. -/
theorem made_of_run {call : Opening E T} {value : call.form.Value}
    (returned : call.run (aead.after state.ledger) base64 hkdf x25519 json = .ok value) :
    ∃ key, call.source.key hkdf x25519 = .ok key ∧
      ((∃ text, call.stored = .lenient text ∧ startsWith Sealed.e2eePrefix text = false ∧
          call.form.read json (asBytes text) = .ok value) ∨
        ∃ made ∈ state.made, ∃ raw plaintext, made.call.source.key hkdf x25519 = .ok key ∧
          made.output = made.call.present base64 raw ∧ call.stored.Holds base64 raw ∧
          made.call.plaintext json = .ok plaintext ∧ call.form.read json plaintext = .ok value) := by
  obtain ⟨key, found, bytes, derived, parsed, opened, read⟩ :=
    (call.run_eq_ok_iff _ base64 hkdf x25519 json value).mp returned
  refine ⟨key, derived, ?_⟩
  cases found with
  | legacy legacy =>
      obtain ⟨text, given, bare, rfl⟩ := (Stored.find_eq_legacy_iff base64 _ legacy).mp parsed
      cases opened
      exact .inl ⟨text, given, bare, read⟩
  | sealed raw =>
      have holds := (Stored.find_eq_sealed_iff base64 standard _ raw).mp parsed
      obtain ⟨made, called, derived', written, presented⟩ := (decrypt_eq_ok_iff_made aead base64
        hkdf x25519 json symbolic overhead standard inv key raw bytes).mp opened
      exact .inr ⟨made, called, raw, bytes, derived', presented, holds, written, read⟩

end Readers

/-- Exactly what decrypting calls return after any run, whatever they are given:
a legacy row, or the plaintext of one of the run's own calls under the same key. -/
theorem vault_exact (symbolic : aead.OpensProduced) (overhead : aead.Overhead 16)
    (standard : base64.Standard) (state : State E T)
    (reachable : (system aead base64 hkdf x25519 json allowed).Reachable state)
    (call : Opening E T) (value : call.form.Value) :
    call.run (aead.after state.ledger) base64 hkdf x25519 json = .ok value ↔
      ∃ key, call.source.key hkdf x25519 = .ok key ∧
        ((∃ text, call.stored = .lenient text ∧ startsWith Sealed.e2eePrefix text = false ∧
            call.form.read json (asBytes text) = .ok value) ∨
          ∃ made ∈ state.made, ∃ raw plaintext, made.call.source.key hkdf x25519 = .ok key ∧
            made.output = made.call.present base64 raw ∧ call.stored.Holds base64 raw ∧
            made.call.plaintext json = .ok plaintext ∧
            call.form.read json plaintext = .ok value) := by
  have inv := inv_reachable aead base64 hkdf x25519 json state reachable
  constructor
  · exact made_of_run aead base64 hkdf x25519 json symbolic overhead standard inv
  · rintro ⟨key, derived, ⟨text, given, bare, read⟩ |
      ⟨made, called, raw, plaintext, derived', presented, holds, written, read⟩⟩
    · have parsed := (Stored.find_eq_legacy_iff base64 call.stored _).mpr ⟨text, given, bare, rfl⟩
      exact (call.run_eq_ok_iff _ base64 hkdf x25519 json value).mpr
        ⟨key, .legacy (asBytes text), asBytes text, derived, parsed, rfl, read⟩
    · exact run_of_made aead base64 hkdf x25519 json symbolic overhead standard inv called derived'
        presented written derived holds read

section ReferenceRun

abbrev Rows (_ : Unit) : Type := EntityIsolation.ProfileRow

abbrev Values (_ : Unit) : Type := Json.Value

/-- A client that has wrapped the zero key as a private key. -/
def wrapped : State Rows Values where
  ledger := [⟨Reference.key, Reference.nonce, List.replicate 32 0⟩]
  made := [⟨.encryptPrivateKey Reference.key (FixedBytes.fill 32 0), Reference.nonce,
    .blob (Reference.nonce.val ++ (List.replicate 32 0 ++ List.replicate 16 0))⟩]

theorem wrapped_reachable :
    (system Reference.symbolicAead Reference.base64 Reference.packedHkdf Reference.productX25519
      (fun _ => Sealed.referenceJson) fun _ => True).Reachable wrapped := by
  have start : (system Reference.symbolicAead Reference.base64 Reference.packedHkdf
      Reference.productX25519 (fun _ => Sealed.referenceJson) fun _ => True).Reachable
        (⟨[], []⟩ : State Rows Values) := .of_start ⟨rfl, rfl⟩
  exact start.next (.produce _ _ _ _ _ _ trivial rfl rfl rfl)

/-- It opens as a profile key too. -/
theorem vault_exact_sample :
    Keys.unwrapProfileKeyWithMaster (Reference.symbolicAead.after wrapped.ledger) Reference.key
      (Reference.nonce.val ++ (List.replicate 32 0 ++ List.replicate 16 0)) =
        .ok (FixedBytes.fill 32 0) :=
  (vault_exact _ Reference.base64 Reference.packedHkdf Reference.productX25519
    (fun _ => Sealed.referenceJson) Reference.symbolicAead_opensProduced
    Reference.symbolicAead_overhead Reference.base64_standard wrapped wrapped_reachable
    (.unwrapProfileKeyWithMaster Reference.key _) (FixedBytes.fill 32 0)).mpr
      ⟨Reference.key, rfl, .inr ⟨_, List.mem_cons_self, _, List.replicate 32 0, rfl, rfl, .inl rfl,
        rfl, rfl⟩⟩

end ReferenceRun

end IncokitE2ee.Vault
