import IncokitE2ee.DomainSeparation

set_option autoImplicit false

/- What someone reads who has the whole store and some of the keys: every key
that can be worked out from these, and everything that it opens. -/
namespace IncokitE2ee.Compromise

open Vault (Domain Made Separated State origin)

section Learning

variable (hkdf : Hkdf) (x25519 : X25519) (gives : Bytes → Key → Prop)

/-- The keys worked out from the known ones: expanded with any info, agreed with
any public key, or given away by a plaintext that is read. -/
inductive Learns (opens : Key → Bytes → Prop) (known : Key → Prop) : Key → Prop where
  | known (key : Key) (initial : known key) : Learns opens known key
  | expanded (secret key : Key) (info : Bytes) (learnt : Learns opens known secret)
      (expands : hkdf.expand secret info = .ok key) : Learns opens known key
  | agreed (mine theirs : Key) (learnt : Learns opens known mine) :
      Learns opens known (x25519.diffieHellman mine theirs)
  | given (key payload : Key) (plaintext : Bytes) (learnt : Learns opens known key)
      (opened : opens key plaintext) (contained : gives plaintext payload) :
      Learns opens known payload

def Reads (opens : Key → Bytes → Prop) (known : Key → Prop) (plaintext : Bytes) : Prop :=
  ∃ key, Learns hkdf x25519 gives opens known key ∧ opens key plaintext

/-- A set of keys that nothing leads out of. -/
structure Closed (opens : Key → Bytes → Prop) (group : Key → Prop) : Prop where
  expanded : ∀ secret info key, group secret → hkdf.expand secret info = .ok key → group key
  agreed : ∀ mine theirs, group mine → group (x25519.diffieHellman mine theirs)
  given : ∀ key plaintext payload, group key → opens key plaintext → gives plaintext payload →
    group payload

variable {hkdf x25519 gives} {opens opens' : Key → Bytes → Prop} {known group : Key → Prop}

/-- By induction on how the key was worked out. -/
theorem Learns.contained (closed : Closed hkdf x25519 gives opens group)
    (within : ∀ key, known key → group key) {key : Key}
    (learnt : Learns hkdf x25519 gives opens known key) : group key := by
  induction learnt with
  | known key initial => exact within key initial
  | expanded secret key info _ expands ih => exact closed.expanded secret info key ih expands
  | agreed mine theirs _ ih => exact closed.agreed mine theirs ih
  | given key payload plaintext _ opened contained ih =>
      exact closed.given key plaintext payload ih opened contained

theorem Learns.mono (more : ∀ key plaintext, opens key plaintext → opens' key plaintext)
    {key : Key} (learnt : Learns hkdf x25519 gives opens known key) :
    Learns hkdf x25519 gives opens' known key := by
  induction learnt with
  | known key initial => exact .known key initial
  | expanded secret key info _ expands ih => exact .expanded secret key info ih expands
  | agreed mine theirs _ ih => exact .agreed mine theirs ih
  | given key payload plaintext _ opened contained ih =>
      exact .given key payload plaintext ih (more key plaintext opened) contained

theorem reads_congr (same : ∀ key plaintext, opens key plaintext ↔ opens' key plaintext)
    (plaintext : Bytes) :
    Reads hkdf x25519 gives opens known plaintext ↔
      Reads hkdf x25519 gives opens' known plaintext := by
  constructor
  · rintro ⟨key, learnt, opened⟩
    exact ⟨key, learnt.mono fun key plaintext => (same key plaintext).mp, (same key _).mp opened⟩
  · rintro ⟨key, learnt, opened⟩
    exact ⟨key, learnt.mono fun key plaintext => (same key plaintext).mpr, (same key _).mpr opened⟩

end Learning

section Runs

variable {Kind Shape : Type} {E : Kind → Type} {T : Shape → Type}
variable [∀ kind, EncryptedEntity (E kind)]
variable (aead : Aead.Symbolic Key Nonce) (base64 : Base64.Engine) (hkdf : Hkdf) (x25519 : X25519)
variable (json : ∀ shape, SerdeJson (T shape))

/-- The key opens some blob or other, one of the store's or one made up. -/
def Decrypts (state : State E T) (key : Key) (plaintext : Bytes) : Prop :=
  ∃ blob, Encryption.decrypt (aead.after state.ledger) key blob = .ok plaintext

/-- A call of the run encrypted the plaintext under the key. -/
def Encrypted (state : State E T) (key : Key) (plaintext : Bytes) : Prop :=
  ∃ made ∈ state.made, made.call.source.key hkdf x25519 = .ok key ∧
    made.call.plaintext json = .ok plaintext

variable {allowed : Producing E T → Prop}

theorem decrypts_iff_encrypted (symbolic : aead.OpensProduced) (overhead : aead.Overhead 16)
    (standard : base64.Standard) {state : State E T}
    (inv : Vault.Inv aead base64 hkdf x25519 json allowed state) (key : Key) (plaintext : Bytes) :
    Decrypts aead state key plaintext ↔ Encrypted hkdf x25519 json state key plaintext := by
  constructor
  · rintro ⟨blob, opened⟩
    obtain ⟨made, called, derived, written, -⟩ := (Vault.decrypt_eq_ok_iff_made aead base64 hkdf
      x25519 json symbolic overhead standard inv key blob plaintext).mp opened
    exact ⟨made, called, derived, written⟩
  · rintro ⟨made, called, derived, written⟩
    obtain ⟨entry, -, records⟩ := inv.logged made called
    obtain ⟨raw, -, presented⟩ := records.produced
    exact ⟨raw, (Vault.decrypt_eq_ok_iff_made aead base64 hkdf x25519 json symbolic overhead
      standard inv key raw plaintext).mpr ⟨made, called, derived, written, presented⟩⟩

/-- A field of the entity that was encrypted in the run, under an equal master key. -/
def Field (state : State E T) (session : SessionKey) (ns : KeyNamespace) (id : Int64)
    (plaintext : Bytes) : Prop :=
  ∃ made ∈ state.made, made.call.plaintext json = .ok plaintext ∧
    ∃ other, made.call.source = .entity other ns id ∧ other.asBytes = session.asBytes

/-- On a separated domain an entity's key encrypts the entity's fields only. -/
theorem encrypted_iff_field {domain : Domain} (separated : Separated hkdf domain)
    {state : State E T}
    (covered : ∀ made ∈ state.made, domain.Covers (origin x25519 made.call.source))
    {session : SessionKey} {ns : KeyNamespace} {id : Int64} {key : Key} (bearing : ns.IdBearing)
    (inside : domain.Covers (origin x25519 (.entity session ns id)))
    (derived : (KeySource.entity session ns id).key hkdf x25519 = .ok key) (plaintext : Bytes) :
    Encrypted hkdf x25519 json state key plaintext ↔ Field json state session ns id plaintext := by
  constructor
  · intro encrypted
    obtain ⟨made, called, derived', written⟩ := encrypted
    have same := Vault.origin_injective hkdf separated (covered made called) inside
      ((Vault.key_eq_ok_iff hkdf x25519 _ key).mp derived')
      ((Vault.key_eq_ok_iff hkdf x25519 _ key).mp derived)
    exact ⟨made, called, written, Vault.origin_eq_entity x25519 bearing same⟩
  · intro field
    obtain ⟨made, called, written, other, source, masters⟩ := field
    refine ⟨made, called, ?_, written⟩
    rw [source, KeySource.key, SessionKey.derive, masters]
    exact derived

/-- Over any run, whoever has the whole store and some keys reads exactly what the
run's calls encrypted under keys that these lead to. Where the run stays within a
separated domain, keys that lead to no key in use but one entity's read nothing
but that entity's fields, and all of these if they lead to its key. -/
theorem compromise_exact (symbolic : aead.OpensProduced) (overhead : aead.Overhead 16)
    (standard : base64.Standard) (state : State E T)
    (reachable : (Vault.system aead base64 hkdf x25519 json fun _ => True).Reachable state)
    (gives : Bytes → Key → Prop) (known : Key → Prop) :
    (∀ plaintext, Reads hkdf x25519 gives (Decrypts aead state) known plaintext ↔
      Reads hkdf x25519 gives (Encrypted hkdf x25519 json state) known plaintext) ∧
    ∀ domain, Separated hkdf domain →
      (∀ made ∈ state.made, domain.Covers (origin x25519 made.call.source)) →
      ∀ session ns id key, ns.IdBearing → domain.Covers (origin x25519 (.entity session ns id)) →
        (KeySource.entity session ns id).key hkdf x25519 = .ok key →
        (∀ made ∈ state.made, ∀ used, made.call.source.key hkdf x25519 = .ok used →
          Learns hkdf x25519 gives (Encrypted hkdf x25519 json state) known used → used = key) →
        (∀ plaintext, Reads hkdf x25519 gives (Decrypts aead state) known plaintext →
          Field json state session ns id plaintext) ∧
        (Learns hkdf x25519 gives (Encrypted hkdf x25519 json state) known key →
          ∀ plaintext, Field json state session ns id plaintext →
            Reads hkdf x25519 gives (Decrypts aead state) known plaintext) := by
  have inv := Vault.inv_reachable aead base64 hkdf x25519 json state reachable
  have exactly : ∀ plaintext, Reads hkdf x25519 gives (Decrypts aead state) known plaintext ↔
      Reads hkdf x25519 gives (Encrypted hkdf x25519 json state) known plaintext :=
    reads_congr
      (decrypts_iff_encrypted aead base64 hkdf x25519 json symbolic overhead standard inv)
  refine ⟨exactly, ?_⟩
  intro domain separated covered session ns id key bearing inside derived only
  have fields := encrypted_iff_field hkdf x25519 json separated covered bearing inside derived
  constructor
  · intro plaintext reads
    obtain ⟨used, learnt, made, called, derived', written⟩ := (exactly plaintext).mp reads
    obtain rfl := only made called used derived' learnt
    exact (fields plaintext).mp ⟨made, called, derived', written⟩
  · intro learnt plaintext field
    exact (exactly plaintext).mpr ⟨key, learnt, (fields plaintext).mpr field⟩

end Runs

section ReferenceRun

open Vault (Rows Values directCall entityCall mixed sampleDomain sampleKey sampleSession secretBlob)

/-- A key that is nobody's. -/
def strayKey : Key := FixedBytes.fill 32 9

/-- The sample expansion for the master key. Every other secret leads astray. -/
def quietHkdf : Hkdf where
  expand secret info :=
    if secret = FixedBytes.fill 32 1 then Reference.packedHkdf.expand secret info
    else .ok strayKey

def quietX25519 : X25519 where
  publicKey mine := mine
  diffieHellman _ _ := strayKey

theorem quietHkdf_master (info : Bytes) :
    quietHkdf.expand (FixedBytes.fill 32 1) info =
      Reference.packedHkdf.expand (FixedBytes.fill 32 1) info := by
  simp only [quietHkdf, if_true]

theorem sampleDomain_separated : Separated quietHkdf sampleDomain := by
  have separated := Vault.sampleDomain_separated
  constructor
  · rintro _ _ info info' key rfl rfl known known' first second
    rw [quietHkdf_master] at first second
    exact separated.collisionFree _ _ info info' key rfl rfl known known' first second
  · rintro _ info key rfl known expanded
    rw [quietHkdf_master] at expanded
    exact separated.apart _ info key rfl known expanded

theorem mixed_reachable :
    (Vault.system Reference.symbolicAead Reference.base64 quietHkdf quietX25519
      (fun _ => Sealed.referenceJson) fun _ => True).Reachable mixed := by
  have start : (Vault.system Reference.symbolicAead Reference.base64 quietHkdf quietX25519
      (fun _ => Sealed.referenceJson) fun _ => True).Reachable
        (⟨[], []⟩ : State Rows Values) := .of_start ⟨rfl, rfl⟩
  have first := start.next (.produce _ directCall Reference.nonce (.blob secretBlob)
    (FixedBytes.fill 32 0) (asBytes "secret") trivial rfl rfl rfl)
  have second := first.next (.produce _ entityCall Reference.nonce
    (.row (Sealed.wire Reference.base64 secretBlob)) sampleKey (asBytes "secret")
    trivial rfl rfl rfl)
  exact second

theorem mem_mixed {made : Made Rows Values} (called : made ∈ mixed.made) :
    made.call = entityCall ∨ made.call = directCall := by
  simp only [mixed, List.mem_cons, List.not_mem_nil, or_false] at called
  rcases called with rfl | rfl
  · exact .inl rfl
  · exact .inr rfl

theorem mixed_covered :
    ∀ made ∈ mixed.made, sampleDomain.Covers (origin quietX25519 made.call.source) := by
  intro made called
  rcases mem_mixed called with entity | direct
  · rw [entity]
    exact ⟨rfl, .profile, 5, rfl⟩
  · rw [direct]
    rfl

/-- The run encrypted six bytes twice, and never a key. -/
theorem mixed_plaintext {made : Made Rows Values} (called : made ∈ mixed.made) {plaintext : Bytes}
    (written : made.call.plaintext (fun _ => Sealed.referenceJson) = .ok plaintext) :
    plaintext = asBytes "secret" := by
  rcases mem_mixed called with entity | direct
  · rw [entity] at written
    exact (Except.ok.inj written).symm
  · rw [direct] at written
    exact (Except.ok.inj written).symm

/-- Without the master key nothing leads from the profile's key to another's. -/
theorem sampleKey_closed :
    Closed quietHkdf quietX25519 (fun plaintext payload => plaintext = payload.val)
      (Encrypted quietHkdf quietX25519 (fun _ => Sealed.referenceJson) mixed)
      fun key => key = sampleKey ∨ key = strayKey := by
  have notMaster : ∀ secret : Key, secret = sampleKey ∨ secret = strayKey →
      secret ≠ FixedBytes.fill 32 1 := by
    rintro _ (rfl | rfl) <;> decide
  constructor
  · intro secret info key inside expanded
    have astray : quietHkdf.expand secret info = .ok strayKey := if_neg (notMaster secret inside)
    exact .inr (Except.ok.inj (expanded.symm.trans astray))
  · intro mine theirs _
    exact .inr rfl
  · rintro key plaintext payload - ⟨made, called, -, written⟩ rfl
    have width := payload.property
    rw [mixed_plaintext called written] at width
    exact absurd width (by decide)

/-- Whoever has the profile's key and the store reads the profile and nothing else. -/
theorem compromise_exact_profile :
    Reads quietHkdf quietX25519 (fun plaintext payload => plaintext = payload.val)
        (Decrypts Reference.symbolicAead mixed) (· = sampleKey) (asBytes "secret") ∧
      ¬ Reads quietHkdf quietX25519 (fun plaintext payload => plaintext = payload.val)
        (Decrypts Reference.symbolicAead mixed) (· = sampleKey) [0] := by
  have only : ∀ made ∈ mixed.made, ∀ used,
      made.call.source.key quietHkdf quietX25519 = .ok used →
      Learns quietHkdf quietX25519 (fun plaintext payload => plaintext = payload.val)
        (Encrypted quietHkdf quietX25519 (fun _ => Sealed.referenceJson) mixed) (· = sampleKey)
        used → used = sampleKey := by
    intro made called used derived learnt
    have inside := learnt.contained sampleKey_closed fun _ known => .inl known
    rcases mem_mixed called with entity | direct
    · rw [entity] at derived
      exact (Except.ok.inj derived).symm
    · rw [direct] at derived
      obtain rfl : FixedBytes.fill 32 0 = used := Except.ok.inj derived
      revert inside
      decide
  have exactly := (compromise_exact Reference.symbolicAead Reference.base64 quietHkdf
    quietX25519 _ Reference.symbolicAead_opensProduced Reference.symbolicAead_overhead
    Reference.base64_standard mixed mixed_reachable
    (fun plaintext payload => plaintext = payload.val) (· = sampleKey)).2 sampleDomain
    sampleDomain_separated mixed_covered sampleSession .profile 5 sampleKey (by decide)
    ⟨rfl, .profile, 5, rfl⟩ rfl only
  constructor
  · exact exactly.2 (.known sampleKey rfl) _ ⟨_, List.mem_cons_self, rfl, sampleSession, rfl, rfl⟩
  · intro reads
    obtain ⟨made, called, written, -⟩ := exactly.1 [0] reads
    exact absurd (mixed_plaintext called written) (by decide)

end ReferenceRun

end IncokitE2ee.Compromise
