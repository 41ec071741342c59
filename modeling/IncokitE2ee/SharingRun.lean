import IncokitE2ee.Sharing
import IncokitE2ee.Transition

set_option autoImplicit false

/- Sharing as a protocol between any number of parties, over a server that
stores, drops, replays and redirects blobs at will. -/
namespace IncokitE2ee.SharingRun

inductive Event (Party : Type) where
  /-- The sender's encryption for the recipient returned this blob. -/
  | sealed (sender recipient : Party) (message blob : Bytes)
  /-- The recipient opened this blob as coming from the holder of a public key. -/
  | accepted (recipient : Party) (claimed : Key) (blob message : Bytes)

structure State (Party : Type) where
  ledger : List (Aead.Encryption Key Nonce)
  /-- The successful calls, newest first. -/
  history : List (Event Party)

/-- What can happen next. The server picks every argument of a delivery. Sealing
a profile key is sealing its 32 bytes. -/
inductive Action (Party : Type) where
  | sealBlob (sender recipient : Party) (nonce : Nonce) (message : Bytes)
  | encryptElsewhere (entry : Aead.Encryption Key Nonce)
  | deliverBlob (recipient : Party) (claimed : Key) (blob : Bytes)
  | deliverProfileKey (recipient : Party) (claimed : Key) (blob : Bytes)

variable {Party : Type}
variable (aead : Aead.Symbolic Key Nonce) (hkdf : Hkdf) (x25519 : X25519)
variable (privateKey : Party → Key)

def publicKey (party : Party) : Key := x25519.publicKey (privateKey party)

def secret (mine theirs : Party) : Key :=
  x25519.diffieHellman (privateKey mine) (publicKey x25519 privateKey theirs)

def PairKey (key : Key) : Prop :=
  ∃ a b, Keys.deriveSharingKey hkdf (secret x25519 privateKey a b) = .ok key

/-- One call, or one encryption outside the protocol. A call that fails leaves
no trace. -/
def step (state : State Party) : Action Party → State Party
  | .sealBlob sender recipient nonce message =>
      match Keys.deriveSharingKey hkdf (secret x25519 privateKey sender recipient),
        Keys.encryptBlobForSharing (aead.after state.ledger) hkdf x25519 (privateKey sender)
          (publicKey x25519 privateKey recipient) nonce message with
      | .ok key, .ok blob =>
          { ledger := ⟨key, nonce, message⟩ :: state.ledger
            history := .sealed sender recipient message blob :: state.history }
      | _, _ => state
  | .encryptElsewhere entry => { state with ledger := entry :: state.ledger }
  | .deliverBlob recipient claimed blob =>
      match Keys.decryptSharedBlob (aead.after state.ledger) hkdf x25519 (privateKey recipient)
        claimed blob with
      | .ok message =>
          { state with history := .accepted recipient claimed blob message :: state.history }
      | .error _ => state
  | .deliverProfileKey recipient claimed blob =>
      match Keys.decryptSharedProfileKey (aead.after state.ledger) hkdf x25519
        (privateKey recipient) claimed blob with
      | .ok profileKey =>
          { state with history := .accepted recipient claimed blob profileKey.val :: state.history }
      | .error _ => state

/-- Others encrypt what they like, and so do the parties for public keys that
are none of theirs, but not under a key that two parties share. -/
def Legal : Action Party → Prop
  | .encryptElsewhere entry => ¬ PairKey hkdf x25519 privateKey entry.key
  | _ => True

/-- Runs from nothing, in which every action also meets a condition. -/
def system (condition : State Party → Action Party → Prop) : Transition (State Party) where
  start state := state.ledger = [] ∧ state.history = []
  step state after := ∃ action, Legal hkdf x25519 privateKey action ∧ condition state action ∧
    after = step aead hkdf x25519 privateKey state action

/-- What was accepted from another party, that party had sealed before, for
this recipient. -/
def Authentic (history : List (Event Party)) : Prop :=
  ∀ later earlier recipient sender blob message,
    history = later ++
      .accepted recipient (publicKey x25519 privateKey sender) blob message :: earlier →
    sender ≠ recipient → ∃ original, .sealed sender recipient message original ∈ earlier

/-- The recipient is handed back, as the claimed sender's, a blob that it sealed
itself for that party, with a message that party never sealed for it. -/
def Reflected (state : State Party) (recipient : Party) (claimed : Key) (blob : Bytes) : Prop :=
  ∃ sender message, claimed = publicKey x25519 privateKey sender ∧
    .sealed recipient sender message blob ∈ state.history ∧
    ∀ original, .sealed sender recipient message original ∉ state.history

def Unreflected (state : State Party) : Action Party → Prop
  | .deliverBlob recipient claimed blob => ¬ Reflected x25519 privateKey state recipient claimed blob
  | .deliverProfileKey recipient claimed blob =>
      ¬ Reflected x25519 privateKey state recipient claimed blob
  | _ => True

/-- Two unordered pairs of parties share two secrets. -/
def DistinctSecrets : Prop :=
  ∀ a b c d, secret x25519 privateKey a b = secret x25519 privateKey c d →
    a = c ∧ b = d ∨ a = d ∧ b = c

def SecretsExpandApart : Prop :=
  hkdf.CollisionFree (fun shared => ∃ a b, secret x25519 privateKey a b = shared)
    (· = Keys.sharingInfo)

/-- An encryption of the ledger is the one that a sealed blob came from. -/
structure SealedAs (entry : Aead.Encryption Key Nonce) (sender recipient : Party)
    (message blob : Bytes) : Prop where
  derived : Keys.deriveSharingKey hkdf (secret x25519 privateKey sender recipient) = .ok entry.key
  plaintext : entry.plaintext = message
  produced : Encryption.encrypt (aead.after []) entry.key entry.nonce message = .ok blob

structure Inv (state : State Party) : Prop where
  recorded : ∀ entry ∈ state.ledger, PairKey hkdf x25519 privateKey entry.key →
    ∃ sender recipient message blob, .sealed sender recipient message blob ∈ state.history ∧
      SealedAs aead hkdf x25519 privateKey entry sender recipient message blob
  logged : ∀ sender recipient message blob, .sealed sender recipient message blob ∈ state.history →
    ∃ entry ∈ state.ledger, SealedAs aead hkdf x25519 privateKey entry sender recipient message blob

theorem publicKey_injective (distinct : DistinctSecrets x25519 privateKey) (witness : Party)
    {a b : Party} (same : publicKey x25519 privateKey a = publicKey x25519 privateKey b) :
    a = b := by
  have sameSecret : secret x25519 privateKey witness a = secret x25519 privateKey witness b := by
    rw [secret, secret, same]
  rcases distinct witness a witness b sameSecret with ⟨-, equal⟩ | ⟨left, right⟩
  · exact equal
  · exact right.trans left

/-- Sealing never consults the ledger. -/
theorem sealBlob_ok_iff (ledger : List (Aead.Encryption Key Nonce)) (sender recipient : Party)
    (nonce : Nonce) (message blob : Bytes) :
    Keys.encryptBlobForSharing (aead.after ledger) hkdf x25519 (privateKey sender)
        (publicKey x25519 privateKey recipient) nonce message = .ok blob ↔
      ∃ key, Keys.deriveSharingKey hkdf (secret x25519 privateKey sender recipient) = .ok key ∧
        Encryption.encrypt (aead.after []) key nonce message = .ok blob :=
  Keys.encryptBlobForSharing_eq_ok_iff (aead.after ledger) hkdf x25519 _ _ nonce message blob

/-- Everything a step can do. -/
theorem step_cases (state : State Party) (action : Action Party) :
    step aead hkdf x25519 privateKey state action = state ∨
    (∃ sender recipient nonce message key blob,
      action = .sealBlob sender recipient nonce message ∧
      SealedAs aead hkdf x25519 privateKey ⟨key, nonce, message⟩ sender recipient message blob ∧
      step aead hkdf x25519 privateKey state action =
        { ledger := ⟨key, nonce, message⟩ :: state.ledger
          history := .sealed sender recipient message blob :: state.history }) ∨
    (∃ entry, action = .encryptElsewhere entry ∧
      step aead hkdf x25519 privateKey state action =
        { state with ledger := entry :: state.ledger }) ∨
    (∃ recipient claimed blob message,
      (action = .deliverBlob recipient claimed blob ∨
        action = .deliverProfileKey recipient claimed blob) ∧
      Keys.decryptSharedBlob (aead.after state.ledger) hkdf x25519 (privateKey recipient) claimed
        blob = .ok message ∧
      step aead hkdf x25519 privateKey state action =
        { state with history := .accepted recipient claimed blob message :: state.history }) := by
  cases action with
  | sealBlob sender recipient nonce message =>
      cases sealing : Keys.encryptBlobForSharing (aead.after state.ledger) hkdf x25519
          (privateKey sender) (publicKey x25519 privateKey recipient) nonce message with
      | error error =>
          left
          simp only [step, sealing]
          cases Keys.deriveSharingKey hkdf (secret x25519 privateKey sender recipient) <;> rfl
      | ok blob =>
          obtain ⟨key, derived, produced⟩ := (sealBlob_ok_iff aead hkdf x25519 privateKey
            state.ledger sender recipient nonce message blob).mp sealing
          right
          left
          refine ⟨sender, recipient, nonce, message, key, blob, rfl, ⟨derived, rfl, produced⟩, ?_⟩
          simp only [step, sealing, derived]
  | encryptElsewhere entry => exact .inr (.inr (.inl ⟨entry, rfl, rfl⟩))
  | deliverBlob recipient claimed blob =>
      cases opening : Keys.decryptSharedBlob (aead.after state.ledger) hkdf x25519
          (privateKey recipient) claimed blob with
      | error error =>
          left
          simp only [step, opening]
      | ok message =>
          refine .inr (.inr (.inr ⟨recipient, claimed, blob, message, .inl rfl, opening, ?_⟩))
          simp only [step, opening]
  | deliverProfileKey recipient claimed blob =>
      cases opening : Keys.decryptSharedProfileKey (aead.after state.ledger) hkdf x25519
          (privateKey recipient) claimed blob with
      | error error =>
          left
          simp only [step, opening]
      | ok profileKey =>
          have inner := (Keys.decryptSharedProfileKey_eq_ok_iff (aead.after state.ledger) hkdf
            x25519 _ _ blob profileKey).mp opening
          refine .inr (.inr (.inr ⟨recipient, claimed, blob, profileKey.val, .inr rfl, inner, ?_⟩))
          simp only [step, opening]

theorem inv_start (state : State Party) (starts : state.ledger = [] ∧ state.history = []) :
    Inv aead hkdf x25519 privateKey state := by
  obtain ⟨noLedger, noHistory⟩ := starts
  constructor
  · intro entry member
    rw [noLedger] at member
    cases member
  · intro sender recipient message blob member
    rw [noHistory] at member
    cases member

theorem inv_step (state : State Party) (action : Action Party)
    (legal : Legal hkdf x25519 privateKey action) (inv : Inv aead hkdf x25519 privateKey state) :
    Inv aead hkdf x25519 privateKey (step aead hkdf x25519 privateKey state action) := by
  rcases step_cases aead hkdf x25519 privateKey state action with
    unchanged | ⟨sender, recipient, nonce, message, key, blob, -, sealedAs, sealing⟩ |
      ⟨entry, rfl, other⟩ | ⟨recipient, claimed, blob, message, -, -, accepting⟩
  · rw [unchanged]
    exact inv
  · rw [sealing]
    constructor
    · intro entry member shared
      cases member with
      | head => exact ⟨sender, recipient, message, blob, List.mem_cons_self, sealedAs⟩
      | tail _ older =>
          obtain ⟨sender', recipient', message', blob', called, origin⟩ :=
            inv.recorded entry older shared
          exact ⟨sender', recipient', message', blob', List.mem_cons_of_mem _ called, origin⟩
    · intro sender' recipient' message' blob' member
      cases member with
      | head => exact ⟨_, List.mem_cons_self, sealedAs⟩
      | tail _ older =>
          obtain ⟨entry, logged, origin⟩ := inv.logged sender' recipient' message' blob' older
          exact ⟨entry, List.mem_cons_of_mem _ logged, origin⟩
  · rw [other]
    constructor
    · intro entry' member shared
      cases member with
      | head => exact absurd shared legal
      | tail _ older => exact inv.recorded entry' older shared
    · intro sender recipient message blob member
      obtain ⟨entry', logged, origin⟩ := inv.logged sender recipient message blob member
      exact ⟨entry', List.mem_cons_of_mem _ logged, origin⟩
  · rw [accepting]
    constructor
    · intro entry member shared
      obtain ⟨sender, recipient', message', blob', called, origin⟩ :=
        inv.recorded entry member shared
      exact ⟨sender, recipient', message', blob', List.mem_cons_of_mem _ called, origin⟩
    · intro sender recipient' message' blob' member
      cases member with
      | tail _ older => exact inv.logged sender recipient' message' blob' older

/-- Whatever opens between two parties, one of the two had sealed for the other.
The shared key does not say which one. -/
theorem opened_was_sealed (symbolic : aead.OpensProduced)
    (distinct : DistinctSecrets x25519 privateKey)
    (apart : SecretsExpandApart hkdf x25519 privateKey) {state : State Party}
    (inv : Inv aead hkdf x25519 privateKey state) {recipient sender : Party} {blob message : Bytes}
    (opened : Keys.decryptSharedBlob (aead.after state.ledger) hkdf x25519 (privateKey recipient)
      (publicKey x25519 privateKey sender) blob = .ok message) :
    .sealed sender recipient message blob ∈ state.history ∨
      .sealed recipient sender message blob ∈ state.history := by
  obtain ⟨key, derived, decrypted⟩ := (Keys.decryptSharedBlob_eq_ok_iff (aead.after state.ledger)
    hkdf x25519 _ _ blob message).mp opened
  obtain ⟨nonce, member, produced⟩ :=
    Encryption.recorded_of_decrypt symbolic.opensOnlyProduced decrypted
  obtain ⟨sender', recipient', message', blob', called, origin⟩ :=
    inv.recorded _ member ⟨recipient, sender, derived⟩
  have sameMessage : message' = message := origin.plaintext.symm
  subst sameMessage
  have sameBlob : blob' = blob := Except.ok.inj (origin.produced.symm.trans produced)
  subst sameBlob
  have sameSecret := Keys.deriveSharingKey_injective hkdf apart ⟨sender', recipient', rfl⟩
    ⟨recipient, sender, rfl⟩ origin.derived derived
  rcases distinct sender' recipient' recipient sender sameSecret with ⟨rfl, rfl⟩ | ⟨rfl, rfl⟩
  · exact .inr called
  · exact .inl called

/-- A sealed blob opens for the party that sealed it, as from its recipient. -/
theorem sealed_opens_back (symbolic : aead.OpensProduced) (overhead : aead.Overhead 16)
    {state : State Party} (inv : Inv aead hkdf x25519 privateKey state)
    {sender recipient : Party} {message blob : Bytes}
    (sealing : .sealed sender recipient message blob ∈ state.history) :
    Keys.decryptSharedBlob (aead.after state.ledger) hkdf x25519 (privateKey sender)
      (publicKey x25519 privateKey recipient) blob = .ok message := by
  obtain ⟨entry, logged, origin⟩ := inv.logged sender recipient message blob sealing
  apply (Keys.decryptSharedBlob_eq_ok_iff (aead.after state.ledger) hkdf x25519 _ _ blob
    message).mpr
  have opens := symbolic.opensBack logged
  rw [origin.plaintext] at opens
  exact ⟨entry.key, origin.derived,
    Encryption.decrypt_encrypt _ (overhead.after state.ledger) opens origin.produced⟩

theorem accepted_authentic (symbolic : aead.OpensProduced)
    (distinct : DistinctSecrets x25519 privateKey)
    (apart : SecretsExpandApart hkdf x25519 privateKey) {state : State Party}
    (inv : Inv aead hkdf x25519 privateKey state) {recipient sender : Party} {blob message : Bytes}
    (unreflected : ¬ Reflected x25519 privateKey state recipient
      (publicKey x25519 privateKey sender) blob)
    (opened : Keys.decryptSharedBlob (aead.after state.ledger) hkdf x25519 (privateKey recipient)
      (publicKey x25519 privateKey sender) blob = .ok message) :
    ∃ original, .sealed sender recipient message original ∈ state.history := by
  rcases opened_was_sealed aead hkdf x25519 privateKey symbolic distinct apart inv opened with
    called | own
  · exact ⟨blob, called⟩
  · apply Classical.byContradiction
    intro unsealed
    exact unreflected ⟨sender, message, rfl, own, not_exists.mp unsealed⟩

/-- A delivery between two parties is authentic exactly when it reflects nothing. -/
theorem delivery_authentic_iff (symbolic : aead.OpensProduced) (overhead : aead.Overhead 16)
    (distinct : DistinctSecrets x25519 privateKey)
    (apart : SecretsExpandApart hkdf x25519 privateKey) {state : State Party}
    (inv : Inv aead hkdf x25519 privateKey state) (recipient sender : Party) (blob : Bytes) :
    (∀ message, Keys.decryptSharedBlob (aead.after state.ledger) hkdf x25519 (privateKey recipient)
        (publicKey x25519 privateKey sender) blob = .ok message →
      ∃ original, .sealed sender recipient message original ∈ state.history) ↔
      ¬ Reflected x25519 privateKey state recipient (publicKey x25519 privateKey sender) blob := by
  constructor
  · rintro authentic ⟨claimed, message, same, own, never⟩
    have opened := sealed_opens_back aead hkdf x25519 privateKey symbolic overhead inv own
    rw [← same] at opened
    obtain ⟨original, called⟩ := authentic message opened
    have sameParty := publicKey_injective x25519 privateKey distinct recipient same
    subst sameParty
    exact never original called
  · intro unreflected message opened
    exact accepted_authentic aead hkdf x25519 privateKey symbolic distinct apart inv unreflected
      opened

theorem authentic_cons {event : Event Party} {history : List (Event Party)}
    (authentic : Authentic x25519 privateKey history)
    (newest : ∀ recipient sender blob message,
      event = .accepted recipient (publicKey x25519 privateKey sender) blob message →
      sender ≠ recipient → ∃ original, .sealed sender recipient message original ∈ history) :
    Authentic x25519 privateKey (event :: history) := by
  intro later earlier recipient sender blob message split different
  cases later with
  | nil =>
      injection split with same rest
      rw [← rest]
      exact newest recipient sender blob message same different
  | cons _ later =>
      injection split with _ rest
      exact authentic later earlier recipient sender blob message rest different

theorem authentic_step (symbolic : aead.OpensProduced) (distinct : DistinctSecrets x25519 privateKey)
    (apart : SecretsExpandApart hkdf x25519 privateKey) (state : State Party)
    (action : Action Party) (unreflected : Unreflected x25519 privateKey state action)
    (inv : Inv aead hkdf x25519 privateKey state)
    (authentic : Authentic x25519 privateKey state.history) :
    Authentic x25519 privateKey (step aead hkdf x25519 privateKey state action).history := by
  rcases step_cases aead hkdf x25519 privateKey state action with
    unchanged | ⟨sender, recipient, nonce, message, key, blob, -, -, sealing⟩ |
      ⟨entry, -, other⟩ | ⟨recipient, claimed, blob, message, delivered, opened, accepting⟩
  · rw [unchanged]
    exact authentic
  · rw [sealing]
    apply authentic_cons x25519 privateKey authentic
    intro _ _ _ _ impossible
    cases impossible
  · rw [other]
    exact authentic
  · rw [accepting]
    have fresh : ¬ Reflected x25519 privateKey state recipient claimed blob := by
      rcases delivered with rfl | rfl <;> exact unreflected
    apply authentic_cons x25519 privateKey authentic
    intro recipient' sender blob' message' same _
    cases same
    exact accepted_authentic aead hkdf x25519 privateKey symbolic distinct apart inv fresh opened

/-- In every run without reflected deliveries, whatever a party accepts from
another was sealed for it by that other party before. -/
theorem sender_authenticity (symbolic : aead.OpensProduced)
    (distinct : DistinctSecrets x25519 privateKey)
    (apart : SecretsExpandApart hkdf x25519 privateKey) (state : State Party)
    (reachable : (system aead hkdf x25519 privateKey
      (Unreflected x25519 privateKey)).Reachable state) :
    Authentic x25519 privateKey state.history := by
  have both : Inv aead hkdf x25519 privateKey state ∧
      Authentic x25519 privateKey state.history := by
    apply reachable.invariant
    · intro first starts
      refine ⟨inv_start aead hkdf x25519 privateKey first starts, ?_⟩
      intro later earlier recipient sender blob message split
      rw [starts.2] at split
      simp at split
    · rintro before after ⟨inv, authentic⟩ ⟨action, legal, unreflected, rfl⟩
      exact ⟨inv_step aead hkdf x25519 privateKey before action legal inv,
        authentic_step aead hkdf x25519 privateKey symbolic distinct apart before action
          unreflected inv authentic⟩
  exact both.2

section ReferenceParties

/-- Two parties; the keys of their three pairs are `4`, `6` and `9` throughout. -/
def twoParties (second : Bool) : Key := FixedBytes.fill 32 (if second then 3 else 2)

theorem twoParties_distinct : DistinctSecrets Reference.productX25519 twoParties := by
  intro a b c d
  cases a <;> cases b <;> cases c <;> cases d <;> decide

def sampleBlob : Bytes := Reference.nonce.val ++ ([1, 2, 3] ++ List.replicate 16 0)

def afterSealing : State Bool :=
  step Reference.symbolicAead Reference.secretHkdf Reference.productX25519 twoParties ⟨[], []⟩
    (.sealBlob false true Reference.nonce [1, 2, 3])

/-- The server delivers the blob of `afterSealing` to a party, as from the other one. -/
def afterDelivery (recipient : Bool) : State Bool :=
  step Reference.symbolicAead Reference.secretHkdf Reference.productX25519 twoParties afterSealing
    (.deliverBlob recipient (publicKey Reference.productX25519 twoParties (!recipient)) sampleBlob)

theorem afterSealing_history :
    afterSealing.history = [.sealed false true [1, 2, 3] sampleBlob] := rfl

theorem afterDelivery_history (recipient : Bool) :
    (afterDelivery recipient).history =
      [.accepted recipient (publicKey Reference.productX25519 twoParties (!recipient)) sampleBlob
        [1, 2, 3], .sealed false true [1, 2, 3] sampleBlob] := by
  cases recipient <;> rfl

theorem afterDelivery_reachable (condition : State Bool → Action Bool → Prop) (recipient : Bool)
    (sealing : condition ⟨[], []⟩ (.sealBlob false true Reference.nonce [1, 2, 3]))
    (delivering : condition afterSealing (.deliverBlob recipient
      (publicKey Reference.productX25519 twoParties (!recipient)) sampleBlob)) :
    (system Reference.symbolicAead Reference.secretHkdf Reference.productX25519 twoParties
      condition).Reachable (afterDelivery recipient) := by
  have start : (system Reference.symbolicAead Reference.secretHkdf Reference.productX25519
      twoParties condition).Reachable ⟨[], []⟩ := .of_start ⟨rfl, rfl⟩
  have stored := start.next ⟨.sealBlob _ _ _ _, trivial, sealing, rfl⟩
  exact stored.next ⟨.deliverBlob _ _ _, trivial, delivering, rfl⟩

theorem sender_authenticity_sample :
    ∃ original, .sealed false true [1, 2, 3] original ∈ afterSealing.history := by
  have reachable := afterDelivery_reachable
    (Unreflected Reference.productX25519 twoParties) true trivial (by
      rintro ⟨sender, message, -, own, -⟩
      rw [afterSealing_history] at own
      simp at own)
  exact sender_authenticity _ _ _ _ Reference.symbolicAead_opensProduced twoParties_distinct
    (Reference.secretHkdf_collisionFree _ _) _ reachable [] _ true false sampleBlob [1, 2, 3]
    (afterDelivery_history true) (by decide)

/-- Reflected to the party that sealed it, the blob is accepted as the other's,
who never sealed anything. -/
theorem reflection_accepted :
    Reference.productX25519.Commutes ∧ DistinctSecrets Reference.productX25519 twoParties ∧
    SecretsExpandApart Reference.secretHkdf Reference.productX25519 twoParties ∧
    Reference.symbolicAead.OpensProduced ∧
    ¬ ∀ state : State Bool,
      (system Reference.symbolicAead Reference.secretHkdf Reference.productX25519 twoParties
        (fun _ _ => True)).Reachable state →
      Authentic Reference.productX25519 twoParties state.history := by
  refine ⟨Reference.productX25519_commutes, twoParties_distinct,
    Reference.secretHkdf_collisionFree _ _, Reference.symbolicAead_opensProduced, ?_⟩
  intro authentic
  have reachable := afterDelivery_reachable (fun _ _ => True) false trivial trivial
  obtain ⟨original, never⟩ := authentic _ reachable [] _ false true sampleBlob [1, 2, 3]
    (afterDelivery_history false) (by decide)
  simp at never

end ReferenceParties

end IncokitE2ee.SharingRun
