import IncokitE2ee.Drawing
import IncokitE2ee.Vault

set_option autoImplicit false

/- Runs of the crate on one thread's generator. Each of them is a run of the
vault, and each draw is the nonce of one encryption at most. -/
namespace IncokitE2ee.NonceDiscipline

open Vault (Made)

variable {Kind Shape : Type} {E : Kind → Type} {T : Shape → Type}
variable [∀ kind, EncryptedEntity (E kind)]
variable (rng : Rng) (aead : Aead.Symbolic Key Nonce) (base64 : Base64.Engine) (hkdf : Hkdf)
variable (x25519 : X25519) (json : ∀ shape, SerdeJson (T shape))

structure State (rng : Rng) (E : Kind → Type) (T : Shape → Type) where
  generator : rng.State
  /-- The nonces drawn so far, newest first, those of failed calls included. -/
  nonces : List Nonce
  client : Vault.State E T

/-- A call that returns, a call that fails, or a draw that is no nonce: of a key,
a salt, or anything else on the thread. -/
inductive Step : State rng E T → State rng E T → Prop where
  | returned (state : State rng E T) (call : Producing E T) (output : Output) (key : Key)
      (plaintext : Bytes) (after : rng.State)
      (ran : (call.draw rng (aead.after state.client.ledger) base64 hkdf x25519 json).run.run
        state.generator = (.ok output, after))
      (derived : call.source.key hkdf x25519 = .ok key)
      (written : call.plaintext json = .ok plaintext) :
      Step state
        { generator := after
          nonces := (rng.fillBytes state.generator 12).1 :: state.nonces
          client :=
            { ledger := ⟨key, (rng.fillBytes state.generator 12).1, plaintext⟩ ::
                state.client.ledger
              made := ⟨call, (rng.fillBytes state.generator 12).1, output⟩ ::
                state.client.made } }
  | failed (state : State rng E T) (call : Producing E T) (error : CryptoError) (after : rng.State)
      (ran : (call.draw rng (aead.after state.client.ledger) base64 hkdf x25519 json).run.run
        state.generator = (.error error, after)) :
      Step state
        { generator := after
          nonces := if call.draws hkdf x25519 json then
              (rng.fillBytes state.generator 12).1 :: state.nonces
            else state.nonces
          client := state.client }
  | filled (state : State rng E T) (width : Nat) :
      Step state { state with generator := (rng.fillBytes state.generator width).2 }

def system : Transition (State rng E T) where
  start state := state.nonces = [] ∧ state.client.ledger = [] ∧ state.client.made = []
  step := Step rng aead base64 hkdf x25519 json

/-- The run of the vault, and where its nonces come from. -/
structure Inv (state : State rng E T) : Prop where
  reachable : (Vault.system aead base64 hkdf x25519 json fun _ => True).Reachable state.client
  nonces : state.client.made.map Made.nonce = state.client.ledger.map Aead.Encryption.nonce
  drawn : (state.client.made.map Made.nonce).Sublist state.nonces

theorem inv_start (state : State rng E T)
    (starts : state.nonces = [] ∧ state.client.ledger = [] ∧ state.client.made = []) :
    Inv rng aead base64 hkdf x25519 json state := by
  obtain ⟨-, noLedger, noneMade⟩ := starts
  constructor
  · exact .of_start ⟨noLedger, noneMade⟩
  · rw [noneMade, noLedger]
    rfl
  · rw [noneMade]
    exact List.nil_sublist _

theorem inv_step (state after : State rng E T) (inv : Inv rng aead base64 hkdf x25519 json state)
    (step : Step rng aead base64 hkdf x25519 json state after) :
    Inv rng aead base64 hkdf x25519 json after := by
  cases step with
  | returned call output key plaintext generator ran derived written =>
      rw [Producing.draw_eq, Prod.mk.injEq] at ran
      constructor
      · exact inv.reachable.next (.produce _ call _ output key plaintext trivial ran.1 derived
          written)
      · exact congrArg (_ :: ·) inv.nonces
      · exact inv.drawn.cons_cons _
  | failed call error generator ran =>
      refine ⟨inv.reachable, inv.nonces, ?_⟩
      -- A draw that came to nothing stays in the list and is never used.
      cases call.draws hkdf x25519 json with
      | true => exact inv.drawn.cons _
      | false => exact inv.drawn
  | filled width => exact ⟨inv.reachable, inv.nonces, inv.drawn⟩

theorem inv_reachable (state : State rng E T)
    (reachable : (system rng aead base64 hkdf x25519 json).Reachable state) :
    Inv rng aead base64 hkdf x25519 json state :=
  reachable.invariant (inv_start rng aead base64 hkdf x25519 json)
    (inv_step rng aead base64 hkdf x25519 json)

/-- A call's blob begins with its nonce. -/
theorem nonce_of_made (standard : base64.Standard) {client : Vault.State E T}
    {allowed : Producing E T → Prop}
    (inv : Vault.Inv aead base64 hkdf x25519 json allowed client) {made : Made E T}
    (called : made ∈ client.made) {raw : Bytes}
    (presented : made.output = made.call.present base64 raw) :
    raw.take 12 = made.nonce.val := by
  obtain ⟨entry, -, records⟩ := inv.logged made called
  obtain ⟨raw', encrypted, presented'⟩ := records.produced
  have same := Vault.present_injective base64 standard made.call (presented.symm.trans presented')
  obtain ⟨ciphertext, -, joined⟩ := (Encryption.encrypt_eq_ok_iff _ _ _ _ raw').mp encrypted
  rw [same, joined, records.nonce]
  exact List.take_left' entry.nonce.property

/-- A run with a generator is a run of the vault whose nonces are, in order, some
of the generator's draws. While no draw repeats, no key meets a nonce twice and
no blob is stored twice, equal keys and plaintexts included. -/
theorem nonce_discipline (standard : base64.Standard) (state : State rng E T)
    (reachable : (system rng aead base64 hkdf x25519 json).Reachable state) :
    (Vault.system aead base64 hkdf x25519 json fun _ => True).Reachable state.client ∧
    (state.client.ledger.map Aead.Encryption.nonce).Sublist state.nonces ∧
    (state.nonces.Nodup →
      (state.client.ledger.map fun entry => (entry.key, entry.nonce)).Nodup ∧
      state.client.made.Pairwise fun made other => ∀ raw,
        made.output = made.call.present base64 raw →
          other.output ≠ other.call.present base64 raw) := by
  have inv := inv_reachable rng aead base64 hkdf x25519 json state reachable
  have client := Vault.inv_reachable aead base64 hkdf x25519 json state.client inv.reachable
  refine ⟨inv.reachable, inv.nonces ▸ inv.drawn, ?_⟩
  intro fresh
  have distinct : (state.client.made.map Made.nonce).Nodup := inv.drawn.nodup fresh
  constructor
  · apply List.Nodup.of_map Prod.snd
    rw [List.map_map]
    exact inv.nonces ▸ distinct
  · refine (List.pairwise_map.mp distinct).imp_of_mem ?_
    intro made other called called' different raw presented presented'
    have front := nonce_of_made aead base64 hkdf x25519 json standard client called presented
    have front' := nonce_of_made aead base64 hkdf x25519 json standard client called' presented'
    exact different (Subtype.ext (front.symm.trans front'))

section ReferenceRun

/-- A generator that counts. -/
def counter : Rng where
  State := Nat
  fillBytes count width := (FixedBytes.fill width (UInt8.ofNat count), count + 1)

def sameCall : Producing Vault.Rows Vault.Values := .encrypt Reference.key [1, 2]

def blob (count : UInt8) : Bytes := List.replicate 12 count ++ ([1, 2] ++ List.replicate 16 0)

/-- One plaintext encrypted twice under one key. -/
def twice : State counter Vault.Rows Vault.Values where
  generator := (2 : Nat)
  nonces := [FixedBytes.fill 12 1, FixedBytes.fill 12 0]
  client :=
    { ledger := [⟨Reference.key, FixedBytes.fill 12 1, [1, 2]⟩,
        ⟨Reference.key, FixedBytes.fill 12 0, [1, 2]⟩]
      made := [⟨sameCall, FixedBytes.fill 12 1, .blob (blob 1)⟩,
        ⟨sameCall, FixedBytes.fill 12 0, .blob (blob 0)⟩] }

theorem twice_reachable :
    (system counter Reference.symbolicAead Reference.base64 Reference.packedHkdf
      Reference.productX25519 fun _ => Sealed.referenceJson).Reachable twice := by
  have start : (system counter Reference.symbolicAead Reference.base64 Reference.packedHkdf
      Reference.productX25519 fun _ => Sealed.referenceJson).Reachable
        (⟨(0 : Nat), [], ⟨[], []⟩⟩ : State counter Vault.Rows Vault.Values) :=
    .of_start ⟨rfl, rfl, rfl⟩
  have first := start.next (.returned _ sameCall (.blob (blob 0)) Reference.key [1, 2] (1 : Nat)
    rfl rfl rfl)
  have second := first.next (.returned _ sameCall (.blob (blob 1)) Reference.key [1, 2] (2 : Nat)
    rfl rfl rfl)
  exact second

theorem nonce_discipline_twice :
    (twice.client.ledger.map fun entry => (entry.key, entry.nonce)).Nodup ∧
      twice.client.made.Pairwise fun made other => ∀ raw,
        made.output = made.call.present Reference.base64 raw →
          other.output ≠ other.call.present Reference.base64 raw :=
  (nonce_discipline counter _ Reference.base64 _ _ _ Reference.base64_standard twice
    twice_reachable).2.2 (by decide)

end ReferenceRun

end IncokitE2ee.NonceDiscipline
