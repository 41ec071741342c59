import IncokitE2ee.SharingRun

set_option autoImplicit false

/- Profile keys on their way between parties: created, wrapped with the master
key, unwrapped again, shared and received, over a server that answers every
request with any blob. -/
namespace IncokitE2ee.KeyDistribution

open SharingRun (publicKey secret PairKey DistinctSecrets SecretsExpandApart)

inductive Event (Party : Type) where
  | created (party : Party) (key : Key)
  | uploaded (party : Party) (blob : Bytes)
  | wrapped (party : Party) (key : Key) (blob : Bytes)
  | unwrapped (party : Party) (blob : Bytes) (key : Key)
  | shared (sender recipient : Party) (key : Key) (blob : Bytes)
  | received (recipient : Party) (claimed : Key) (blob : Bytes) (key : Key)

structure State (Party : Type) where
  ledger : List (Aead.Encryption Key Nonce)
  /-- The successful calls, newest first. -/
  history : List (Event Party)

variable {Party : Type}

def Holds (history : List (Event Party)) (party : Party) (key : Key) : Prop :=
  .created party key ∈ history ∨ (∃ blob, .unwrapped party blob key ∈ history) ∨
    ∃ claimed blob, .received party claimed blob key ∈ history

variable (aead : Aead.Symbolic Key Nonce) (hkdf : Hkdf) (x25519 : X25519)
variable (privateKey masterKey : Party → Key)

/-- One call that succeeds, or an encryption outside the protocol. A party wraps
and shares the profile keys that it holds. -/
inductive Step : State Party → State Party → Prop where
  | createKey (state : State Party) (party : Party) (drawn : Key) :
      Step state { state with history := .created party drawn :: state.history }
  | encryptPrivateKey (state : State Party) (party : Party) (nonce : Nonce) (blob : Bytes)
      (success : Keys.encryptPrivateKey (aead.after state.ledger) (masterKey party) nonce
        (privateKey party) = .ok blob) :
      Step state
        { ledger := ⟨masterKey party, nonce, (privateKey party).val⟩ :: state.ledger
          history := .uploaded party blob :: state.history }
  | wrapProfileKey (state : State Party) (party : Party) (key : Key) (nonce : Nonce) (blob : Bytes)
      (holds : Holds state.history party key)
      (success : Keys.wrapProfileKeyWithMaster (aead.after state.ledger) (masterKey party) nonce
        key = .ok blob) :
      Step state
        { ledger := ⟨masterKey party, nonce, key.val⟩ :: state.ledger
          history := .wrapped party key blob :: state.history }
  | unwrapProfileKey (state : State Party) (party : Party) (blob : Bytes) (key : Key)
      (success : Keys.unwrapProfileKeyWithMaster (aead.after state.ledger) (masterKey party) blob =
        .ok key) :
      Step state { state with history := .unwrapped party blob key :: state.history }
  | shareKey (state : State Party) (sender recipient : Party) (key encKey : Key) (nonce : Nonce)
      (blob : Bytes) (holds : Holds state.history sender key)
      (derived : Keys.deriveSharingKey hkdf (secret x25519 privateKey sender recipient) =
        .ok encKey)
      (success : Keys.encryptProfileKeyForSharing (aead.after state.ledger) hkdf x25519
        (privateKey sender) (publicKey x25519 privateKey recipient) nonce key = .ok blob) :
      Step state
        { ledger := ⟨encKey, nonce, key.val⟩ :: state.ledger
          history := .shared sender recipient key blob :: state.history }
  | receiveKey (state : State Party) (recipient : Party) (claimed : Key) (blob : Bytes) (key : Key)
      (success : Keys.decryptSharedProfileKey (aead.after state.ledger) hkdf x25519
        (privateKey recipient) claimed blob = .ok key) :
      Step state { state with history := .received recipient claimed blob key :: state.history }
  | encryptElsewhere (state : State Party) (entry : Aead.Encryption Key Nonce)
      (unshared : ¬ PairKey hkdf x25519 privateKey entry.key)
      (foreign : ∀ party, masterKey party ≠ entry.key) :
      Step state { state with ledger := entry :: state.ledger }

def system : Transition (State Party) where
  start state := state.ledger = [] ∧ state.history = []
  step := Step aead hkdf x25519 privateKey masterKey

/-- Where a key comes from: the party created it, it is the party's own private
key which it had uploaded, or it was received under a public key that is no party's. -/
def Origin (history : List (Event Party)) (key : Key) (party : Party) : Prop :=
  .created party key ∈ history ∨
    (privateKey party = key ∧ ∃ blob, .uploaded party blob ∈ history) ∨
    ∃ claimed blob, (∀ sender, publicKey x25519 privateKey sender ≠ claimed) ∧
      .received party claimed blob key ∈ history

/-- How a key came to a party: from its origin, share by share. -/
inductive Traced (history : List (Event Party)) (key : Key) : Party → Prop where
  | origin (party : Party) (origin : Origin x25519 privateKey history key party) :
      Traced history key party
  | shared (sender recipient : Party) (blob : Bytes) (traced : Traced history key sender)
      (event : .shared sender recipient key blob ∈ history) : Traced history key recipient

/-- Keys of different kinds differ: the parties' shared keys, and their master keys. -/
structure Apart : Prop where
  distinct : DistinctSecrets x25519 privateKey
  expand : SecretsExpandApart hkdf x25519 privateKey
  masters : Function.Injective masterKey
  unshared : ∀ party, ¬ PairKey hkdf x25519 privateKey (masterKey party)

structure Inv (state : State Party) : Prop where
  shared : ∀ entry ∈ state.ledger, PairKey hkdf x25519 privateKey entry.key →
    ∃ sender recipient key blob, .shared sender recipient key blob ∈ state.history ∧
      Keys.deriveSharingKey hkdf (secret x25519 privateKey sender recipient) = .ok entry.key ∧
      entry.plaintext = key.val
  /-- What is encrypted under a master key is its party's private key, or a
  profile key the party holds. -/
  mastered : ∀ entry ∈ state.ledger, ∀ party, masterKey party = entry.key →
    (entry.plaintext = (privateKey party).val ∧ ∃ blob, .uploaded party blob ∈ state.history) ∨
      ∃ key, entry.plaintext = key.val ∧ Holds state.history party key
  held : ∀ sender recipient key blob, .shared sender recipient key blob ∈ state.history →
    Holds state.history sender key
  logged : ∀ party blob, .uploaded party blob ∈ state.history → ∃ entry ∈ state.ledger,
    entry.key = masterKey party ∧ entry.plaintext = (privateKey party).val ∧
      Encryption.encrypt (aead.after []) entry.key entry.nonce entry.plaintext = .ok blob
  traced : ∀ party key, Holds state.history party key →
    Traced x25519 privateKey state.history key party

theorem Holds.cons {history : List (Event Party)} {party : Party} {key : Key}
    (holds : Holds history party key) (event : Event Party) :
    Holds (event :: history) party key := by
  rcases holds with created | ⟨blob, unwrapped⟩ | ⟨claimed, blob, received⟩
  · exact .inl (.tail _ created)
  · exact .inr (.inl ⟨blob, .tail _ unwrapped⟩)
  · exact .inr (.inr ⟨claimed, blob, .tail _ received⟩)

theorem Traced.cons {history : List (Event Party)} {party : Party} {key : Key}
    (traced : Traced x25519 privateKey history key party) (event : Event Party) :
    Traced x25519 privateKey (event :: history) key party := by
  induction traced with
  | origin party origin =>
      rcases origin with created | ⟨own, blob, uploaded⟩ | ⟨claimed, blob, unknown, received⟩
      · exact .origin party (.inl (.tail _ created))
      · exact .origin party (.inr (.inl ⟨own, blob, .tail _ uploaded⟩))
      · exact .origin party (.inr (.inr ⟨claimed, blob, unknown, .tail _ received⟩))
  | shared sender recipient blob _ shared ih =>
      exact .shared sender recipient blob ih (.tail _ shared)

def Gains (event : Event Party) (party : Party) (key : Key) : Prop :=
  event = .created party key ∨ (∃ blob, event = .unwrapped party blob key) ∨
    ∃ claimed blob, event = .received party claimed blob key

theorem holds_cons_iff (event : Event Party) (history : List (Event Party)) (party : Party)
    (key : Key) : Holds (event :: history) party key ↔
      Gains event party key ∨ Holds history party key := by
  constructor
  · rintro (created | ⟨blob, unwrapped⟩ | ⟨claimed, blob, received⟩)
    · rcases List.mem_cons.mp created with same | older
      · exact .inl (.inl same.symm)
      · exact .inr (.inl older)
    · rcases List.mem_cons.mp unwrapped with same | older
      · exact .inl (.inr (.inl ⟨blob, same.symm⟩))
      · exact .inr (.inr (.inl ⟨blob, older⟩))
    · rcases List.mem_cons.mp received with same | older
      · exact .inl (.inr (.inr ⟨claimed, blob, same.symm⟩))
      · exact .inr (.inr (.inr ⟨claimed, blob, older⟩))
  · rintro ((rfl | ⟨blob, rfl⟩ | ⟨claimed, blob, rfl⟩) | holds)
    · exact .inl List.mem_cons_self
    · exact .inr (.inl ⟨blob, List.mem_cons_self⟩)
    · exact .inr (.inr ⟨claimed, blob, List.mem_cons_self⟩)
    · exact holds.cons event

theorem inv_start (state : State Party) (starts : state.ledger = [] ∧ state.history = []) :
    Inv aead hkdf x25519 privateKey masterKey state := by
  obtain ⟨noLedger, noHistory⟩ := starts
  constructor <;> simp [noLedger, noHistory, Holds]

section Opening

variable {aead hkdf x25519 privateKey masterKey}
variable (symbolic : aead.OpensProduced) (apart : Apart hkdf x25519 privateKey masterKey)
variable {state : State Party} (inv : Inv aead hkdf x25519 privateKey masterKey state)
include symbolic

theorem logged_of_decrypt {ledger : List (Aead.Encryption Key Nonce)} {key : Key}
    {blob plaintext : Bytes}
    (opened : Encryption.decrypt (aead.after ledger) key blob = .ok plaintext) :
    ∃ entry ∈ ledger, entry.key = key ∧ entry.plaintext = plaintext := by
  obtain ⟨nonce, logged, -⟩ := Encryption.recorded_of_decrypt symbolic.opensOnlyProduced opened
  exact ⟨_, logged, rfl, rfl⟩

include inv

/-- A blob that unwraps is the party's own: its private key, or a key it held. -/
theorem traced_of_unwrapped {party : Party} {blob : Bytes} {key : Key}
    (success : Keys.unwrapProfileKeyWithMaster (aead.after state.ledger) (masterKey party) blob =
      .ok key) : Traced x25519 privateKey state.history key party := by
  obtain ⟨plaintext, opened, copied⟩ := (bind_eq_ok_iff _ _ _).mp success
  obtain ⟨entry, logged, sameKey, rfl⟩ := logged_of_decrypt symbolic opened
  have bytes := (Encryption.toKey_eq_ok_iff _ key).mp copied
  rcases inv.mastered entry logged party sameKey.symm with
    ⟨own, uploadedBlob, uploaded⟩ | ⟨held, plaintext, holds⟩
  · exact .origin party (.inr (.inl ⟨Subtype.ext (own.symm.trans bytes), uploadedBlob, uploaded⟩))
  · rw [← Subtype.ext (plaintext.symm.trans bytes)]
    exact inv.traced party held holds

include apart

/-- A key received from a party was held by it, or by the recipient itself. -/
theorem traced_of_received {recipient sender : Party} {blob : Bytes} {key : Key}
    (success : Keys.decryptSharedProfileKey (aead.after state.ledger) hkdf x25519
      (privateKey recipient) (publicKey x25519 privateKey sender) blob = .ok key) :
    Traced x25519 privateKey state.history key recipient := by
  have shared := (Keys.decryptSharedProfileKey_eq_ok_iff _ hkdf x25519 _ _ blob key).mp success
  obtain ⟨encKey, derived, opened⟩ :=
    (Keys.decryptSharedBlob_eq_ok_iff _ hkdf x25519 _ _ blob key.val).mp shared
  obtain ⟨entry, logged, rfl, plaintext⟩ := logged_of_decrypt symbolic opened
  obtain ⟨first, second, found, original, event, derived', written⟩ :=
    inv.shared entry logged ⟨recipient, sender, derived⟩
  have sameKey : found = key := Subtype.ext (written.symm.trans plaintext)
  subst sameKey
  have secrets := Keys.deriveSharingKey_injective hkdf apart.expand ⟨first, second, rfl⟩
    ⟨recipient, sender, rfl⟩ derived' derived
  rcases apart.distinct first second recipient sender secrets with ⟨rfl, rfl⟩ | ⟨rfl, rfl⟩
  · -- The blob is one that the recipient sealed itself.
    exact inv.traced first found (inv.held first second found original event)
  · exact .shared first second original
      (inv.traced first found (inv.held first second found original event)) event

end Opening

/-- What an event and its encryptions have to meet for the invariant to be kept. -/
theorem inv_push {state : State Party} (inv : Inv aead hkdf x25519 privateKey masterKey state)
    (event : Event Party) (entries : List (Aead.Encryption Key Nonce))
    (shared : ∀ entry ∈ entries, PairKey hkdf x25519 privateKey entry.key →
      ∃ sender recipient key blob, event = .shared sender recipient key blob ∧
        Keys.deriveSharingKey hkdf (secret x25519 privateKey sender recipient) = .ok entry.key ∧
        entry.plaintext = key.val)
    (mastered : ∀ entry ∈ entries, ∀ party, masterKey party = entry.key →
      (entry.plaintext = (privateKey party).val ∧ ∃ blob, event = .uploaded party blob) ∨
        ∃ key, entry.plaintext = key.val ∧ Holds state.history party key)
    (held : ∀ sender recipient key blob, event = .shared sender recipient key blob →
      Holds state.history sender key)
    (logged : ∀ party blob, event = .uploaded party blob → ∃ entry ∈ entries,
      entry.key = masterKey party ∧ entry.plaintext = (privateKey party).val ∧
        Encryption.encrypt (aead.after []) entry.key entry.nonce entry.plaintext = .ok blob)
    (traced : ∀ party key, Gains event party key →
      Traced x25519 privateKey (event :: state.history) key party) :
    Inv aead hkdf x25519 privateKey masterKey
      { ledger := entries ++ state.ledger, history := event :: state.history } := by
  constructor
  · intro entry member pair
    rcases List.mem_append.mp member with new | older
    · obtain ⟨sender, recipient, key, blob, rfl, derived, plaintext⟩ := shared entry new pair
      exact ⟨sender, recipient, key, blob, List.mem_cons_self, derived, plaintext⟩
    · obtain ⟨sender, recipient, key, blob, called, derived, plaintext⟩ :=
        inv.shared entry older pair
      exact ⟨sender, recipient, key, blob, .tail _ called, derived, plaintext⟩
  · intro entry member party own
    rcases List.mem_append.mp member with new | older
    · rcases mastered entry new party own with ⟨plaintext, blob, rfl⟩ | ⟨key, plaintext, holds⟩
      · exact .inl ⟨plaintext, blob, List.mem_cons_self⟩
      · exact .inr ⟨key, plaintext, holds.cons event⟩
    · rcases inv.mastered entry older party own with
        ⟨plaintext, blob, uploaded⟩ | ⟨key, plaintext, holds⟩
      · exact .inl ⟨plaintext, blob, .tail _ uploaded⟩
      · exact .inr ⟨key, plaintext, holds.cons event⟩
  · intro sender recipient key blob member
    rcases List.mem_cons.mp member with same | older
    · exact (held sender recipient key blob same.symm).cons event
    · exact (inv.held sender recipient key blob older).cons event
  · intro party blob member
    rcases List.mem_cons.mp member with same | older
    · obtain ⟨entry, new, facts⟩ := logged party blob same.symm
      exact ⟨entry, List.mem_append_left _ new, facts⟩
    · obtain ⟨entry, older, facts⟩ := inv.logged party blob older
      exact ⟨entry, List.mem_append_right _ older, facts⟩
  · intro party key holds
    rcases (holds_cons_iff event state.history party key).mp holds with gains | older
    · exact traced party key gains
    · exact (inv.traced party key older).cons x25519 privateKey event

/-- A call that encrypts nothing only has to account for the key it gains. -/
theorem inv_gain {state : State Party} (inv : Inv aead hkdf x25519 privateKey masterKey state)
    (event : Event Party)
    (unshared : ∀ sender recipient key blob, event ≠ .shared sender recipient key blob)
    (kept : ∀ party blob, event ≠ .uploaded party blob)
    (traced : ∀ party key, Gains event party key →
      Traced x25519 privateKey (event :: state.history) key party) :
    Inv aead hkdf x25519 privateKey masterKey { state with history := event :: state.history } := by
  apply inv_push aead hkdf x25519 privateKey masterKey inv event []
  · intro entry none
    cases none
  · intro entry none
    cases none
  · intro sender recipient key blob same
    exact absurd same (unshared sender recipient key blob)
  · intro party blob same
    exact absurd same (kept party blob)
  · exact traced

theorem not_gains_of_encrypts {event : Event Party}
    (encrypts : (∃ party blob, event = .uploaded party blob) ∨
      (∃ party key blob, event = .wrapped party key blob) ∨
      ∃ sender recipient key blob, event = .shared sender recipient key blob)
    (party : Party) (key : Key) : ¬ Gains event party key := by
  rcases encrypts with ⟨_, _, rfl⟩ | ⟨_, _, _, rfl⟩ | ⟨_, _, _, _, rfl⟩ <;> simp [Gains]

theorem inv_step (symbolic : aead.OpensProduced) (apart : Apart hkdf x25519 privateKey masterKey)
    (state after : State Party) (inv : Inv aead hkdf x25519 privateKey masterKey state)
    (step : Step aead hkdf x25519 privateKey masterKey state after) :
    Inv aead hkdf x25519 privateKey masterKey after := by
  cases step with
  | createKey party drawn =>
      apply inv_gain aead hkdf x25519 privateKey masterKey inv
      · simp
      · simp
      · rintro _ _ (⟨⟨⟩⟩ | ⟨_, ⟨⟩⟩ | ⟨_, _, ⟨⟩⟩)
        exact .origin party (.inl List.mem_cons_self)
  | encryptPrivateKey party nonce blob success =>
      apply inv_push aead hkdf x25519 privateKey masterKey inv (.uploaded party blob) [_]
      · rintro entry (_ | ⟨_, ⟨⟩⟩) pair
        exact absurd pair (apart.unshared party)
      · rintro entry (_ | ⟨_, ⟨⟩⟩) other same
        obtain rfl := apart.masters same
        exact .inl ⟨rfl, blob, rfl⟩
      · rintro _ _ _ _ ⟨⟩
      · rintro _ _ ⟨⟩
        exact ⟨_, List.mem_singleton_self _, rfl, rfl, success⟩
      · intro other key gains
        exact absurd gains (not_gains_of_encrypts (.inl ⟨_, _, rfl⟩) other key)
  | wrapProfileKey party key nonce blob holds success =>
      apply inv_push aead hkdf x25519 privateKey masterKey inv (.wrapped party key blob) [_]
      · rintro entry (_ | ⟨_, ⟨⟩⟩) pair
        exact absurd pair (apart.unshared party)
      · rintro entry (_ | ⟨_, ⟨⟩⟩) other same
        obtain rfl := apart.masters same
        exact .inr ⟨key, rfl, holds⟩
      · rintro _ _ _ _ ⟨⟩
      · rintro _ _ ⟨⟩
      · intro other key gains
        exact absurd gains (not_gains_of_encrypts (.inr (.inl ⟨_, _, _, rfl⟩)) other key)
  | unwrapProfileKey party blob key success =>
      have traced := traced_of_unwrapped symbolic inv success
      apply inv_gain aead hkdf x25519 privateKey masterKey inv
      · simp
      · simp
      · rintro _ _ (⟨⟨⟩⟩ | ⟨_, ⟨⟩⟩ | ⟨_, _, ⟨⟩⟩)
        exact traced.cons x25519 privateKey _
  | shareKey sender recipient key encKey nonce blob holds derived success =>
      apply inv_push aead hkdf x25519 privateKey masterKey inv
        (.shared sender recipient key blob) [_]
      · rintro entry (_ | ⟨_, ⟨⟩⟩) pair
        exact ⟨sender, recipient, key, blob, rfl, derived, rfl⟩
      · rintro entry (_ | ⟨_, ⟨⟩⟩) other same
        exact absurd ⟨sender, recipient, same ▸ derived⟩ (apart.unshared other)
      · rintro _ _ _ _ ⟨⟩
        exact holds
      · rintro _ _ ⟨⟩
      · intro other key gains
        exact absurd gains (not_gains_of_encrypts (.inr (.inr ⟨_, _, _, _, rfl⟩)) other key)
  | receiveKey recipient claimed blob key success =>
      apply inv_gain aead hkdf x25519 privateKey masterKey inv
      · simp
      · simp
      · rintro _ _ (⟨⟨⟩⟩ | ⟨_, ⟨⟩⟩ | ⟨_, _, ⟨⟩⟩)
        by_cases known : ∃ sender, publicKey x25519 privateKey sender = claimed
        · obtain ⟨sender, rfl⟩ := known
          have traced := traced_of_received symbolic apart inv success
          exact traced.cons x25519 privateKey _
        · exact .origin recipient
            (.inr (.inr ⟨claimed, blob, not_exists.mp known, List.mem_cons_self⟩))
  | encryptElsewhere entry unshared foreign =>
      refine ⟨?_, ?_, inv.held, ?_, inv.traced⟩
      · intro other member pair
        rcases List.mem_cons.mp member with rfl | older
        · exact absurd pair unshared
        · exact inv.shared other older pair
      · intro other member party own
        rcases List.mem_cons.mp member with rfl | older
        · exact absurd own (foreign party)
        · exact inv.mastered other older party own
      · intro party blob uploaded
        obtain ⟨other, older, facts⟩ := inv.logged party blob uploaded
        exact ⟨other, .tail _ older, facts⟩

theorem inv_reachable (symbolic : aead.OpensProduced)
    (apart : Apart hkdf x25519 privateKey masterKey) (state : State Party)
    (reachable : (system aead hkdf x25519 privateKey masterKey).Reachable state) :
    Inv aead hkdf x25519 privateKey masterKey state :=
  reachable.invariant (inv_start aead hkdf x25519 privateKey masterKey)
    (inv_step aead hkdf x25519 privateKey masterKey symbolic apart)

/-- A profile key in a party's hands can be traced back, share by share, to its
origin. So it stays within every group that holds its origins and whose members
share it with members only. -/
theorem keys_traced (symbolic : aead.OpensProduced)
    (apart : Apart hkdf x25519 privateKey masterKey) (state : State Party)
    (reachable : (system aead hkdf x25519 privateKey masterKey).Reachable state) :
    (∀ party key, Holds state.history party key →
      Traced x25519 privateKey state.history key party) ∧
    ∀ (key : Key) (group : Party → Prop),
      (∀ party, Origin x25519 privateKey state.history key party → group party) →
      (∀ sender recipient blob, .shared sender recipient key blob ∈ state.history →
        group sender → group recipient) →
      ∀ party, Holds state.history party key → group party := by
  have inv := inv_reachable aead hkdf x25519 privateKey masterKey symbolic apart state reachable
  refine ⟨inv.traced, ?_⟩
  intro key group origins closed party holds
  have traced := inv.traced party key holds
  induction traced with
  | origin party origin => exact origins party origin
  | shared sender recipient blob _ event ih =>
      exact closed sender recipient blob event (ih (inv.held sender recipient key blob event))

section ReferenceParties

inductive Member where
  | alice
  | bob
  | carol
  deriving DecidableEq

/-- The products of any two differ. -/
def Member.factor : Member → UInt8
  | .alice => 2
  | .bob => 3
  | .carol => 5

def privates (member : Member) : Key := FixedBytes.fill 32 member.factor

def masters (member : Member) : Key := FixedBytes.fill 32 (100 + member.factor)

theorem secret_privates (a b : Member) :
    secret Reference.productX25519 privates a b = FixedBytes.fill 32 (a.factor * b.factor) := by
  cases a <;> cases b <;> decide

theorem fill_injective {byte other : UInt8}
    (same : FixedBytes.fill 32 byte = FixedBytes.fill 32 other) : byte = other := by
  have bytes : List.replicate 32 byte = List.replicate 32 other := congrArg Subtype.val same
  exact (List.cons.inj bytes).1

theorem privates_distinct : DistinctSecrets Reference.productX25519 privates := by
  intro a b c d same
  rw [secret_privates, secret_privates] at same
  have products := fill_injective same
  revert products
  cases a <;> cases b <;> cases c <;> cases d <;> decide

theorem masters_injective : Function.Injective masters := by
  intro a b same
  have factors := fill_injective same
  revert factors
  cases a <;> cases b <;> decide

theorem masters_apart :
    Apart Reference.secretHkdf Reference.productX25519 privates masters := by
  refine ⟨privates_distinct, Reference.secretHkdf_collisionFree _ _, masters_injective, ?_⟩
  intro member pair
  obtain ⟨a, b, derived⟩ := pair
  have same := Except.ok.inj ((Keys.deriveSharingKey_eq_ok_iff _ _ _).mp derived)
  rw [secret_privates] at same
  have factors := fill_injective same
  revert factors
  cases member <;> cases a <;> cases b <;> decide

def sharedBlob : Bytes :=
  Reference.nonce.val ++ (Reference.key.val ++ List.replicate 16 0)

/-- Alice has created a profile key, and Bob has received it from her. -/
def handedOver : State Member where
  ledger := [⟨FixedBytes.fill 32 6, Reference.nonce, Reference.key.val⟩]
  history := [.received .bob (publicKey Reference.productX25519 privates .alice) sharedBlob
      Reference.key, .shared .alice .bob Reference.key sharedBlob,
    .created .alice Reference.key]

theorem handedOver_reachable :
    (system Reference.symbolicAead Reference.secretHkdf Reference.productX25519 privates
      masters).Reachable handedOver := by
  have start : (system Reference.symbolicAead Reference.secretHkdf Reference.productX25519
      privates masters).Reachable ⟨[], []⟩ := .of_start ⟨rfl, rfl⟩
  have created := start.next (.createKey _ .alice Reference.key)
  have derived : Keys.deriveSharingKey Reference.secretHkdf
      (secret Reference.productX25519 privates .alice .bob) = .ok (FixedBytes.fill 32 6) := by
    rw [secret_privates]
    rfl
  have shared := created.next (.shareKey _ .alice .bob Reference.key (FixedBytes.fill 32 6)
    Reference.nonce sharedBlob (.inl List.mem_cons_self) derived rfl)
  have received := shared.next (.receiveKey _ .bob
    (publicKey Reference.productX25519 privates .alice) sharedBlob Reference.key rfl)
  exact received

/-- Bob's key is traced to Alice, and Carol, with whom nobody shared it, has none. -/
theorem keys_traced_shared :
    Traced Reference.productX25519 privates handedOver.history Reference.key .bob ∧
      ¬ Holds handedOver.history .carol Reference.key := by
  have traced := keys_traced _ _ _ _ _ Reference.symbolicAead_opensProduced masters_apart
    handedOver handedOver_reachable
  constructor
  · exact traced.1 .bob Reference.key (.inr (.inr ⟨_, _, List.mem_cons_self⟩))
  · intro holds
    apply traced.2 Reference.key (· ≠ .carol) _ _ .carol holds rfl
    · rintro party (created | ⟨own, blob, uploaded⟩ | ⟨claimed, blob, unknown, received⟩)
      · simp only [handedOver, List.mem_cons, reduceCtorEq, false_or, List.not_mem_nil, or_false,
          Event.created.injEq] at created
        rw [created.1]
        decide
      · simp [handedOver] at uploaded
      · simp only [handedOver, List.mem_cons, reduceCtorEq, or_false, List.not_mem_nil,
          Event.received.injEq] at received
        exact absurd received.2.1.symm (unknown .alice)
    · intro sender recipient blob shared _
      simp only [handedOver, List.mem_cons, reduceCtorEq, false_or, List.not_mem_nil, or_false,
        Event.shared.injEq] at shared
      rw [shared.2.1]
      decide

end ReferenceParties

section Delivery

variable (symbolic : aead.OpensProduced) (overhead : aead.Overhead 16) {limit : Nat}
  (accepts : (aead.after []).Accepts limit) (roomy : 32 ≤ limit) (total : hkdf.Total)
  (commutes : x25519.Commutes)
include symbolic overhead accepts roomy total commutes

end Delivery

section ReferencePath

def uploadedBlob : Bytes :=
  Reference.nonce.val ++ ((privates .alice).val ++ List.replicate 16 0)

def uploaded : State Member where
  ledger := [⟨masters .alice, Reference.nonce, (privates .alice).val⟩]
  history := [.uploaded .alice uploadedBlob]

end ReferencePath

end IncokitE2ee.KeyDistribution
