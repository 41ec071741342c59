import IncokitE2ee.EntityIsolation
import IncokitE2ee.Vault

set_option autoImplicit false

/- Which calls can open what which calls produced, when entity fields, sharing
envelopes and direct encryptions are mixed in one run. -/
namespace IncokitE2ee.Vault

/-- What an AEAD key is: passed in by the caller, or expanded from a secret. -/
inductive Origin where
  | given (key : Key)
  | expanded (secret : Key) (info : Bytes)

variable (hkdf : Hkdf) (x25519 : X25519)

def origin : KeySource → Origin
  | .given key => .given key
  | .entity session ns id => .expanded session.asBytes (asBytes (ns.info id))
  | .sharing mine theirs => .expanded (x25519.diffieHellman mine theirs) Keys.sharingInfo

def Origin.key : Origin → Except String Key
  | .given key => .ok key
  | .expanded secret info => hkdf.expand secret info

/-- The info strings of the crate. -/
def Info (info : Bytes) : Prop := ∃ (ns : KeyNamespace) (id : Int64), asBytes (ns.info id) = info

/-- The keys that callers pass in, and the secrets that are expanded for them:
master keys and agreed secrets. -/
structure Domain where
  given : Key → Prop
  secrets : Key → Prop

def Domain.Covers (domain : Domain) : Origin → Prop
  | .given key => domain.given key
  | .expanded secret info => domain.secrets secret ∧ Info info

/-- HKDF does not collide on the domain, and none of its outputs is passed in. -/
structure Separated (domain : Domain) : Prop where
  collisionFree : hkdf.CollisionFree domain.secrets Info
  apart : ∀ secret info key, domain.secrets secret → Info info →
    hkdf.expand secret info = .ok key → ¬ domain.given key

/-- A key that the domain covers has one origin. -/
theorem origin_injective {domain : Domain} (separated : Separated hkdf domain)
    {first second : Origin} {key : Key} (covered : domain.Covers first)
    (covered' : domain.Covers second) (from_first : first.key hkdf = .ok key)
    (from_second : second.key hkdf = .ok key) : first = second := by
  cases first with
  | given given =>
      cases from_first
      cases second with
      | given given' =>
          cases from_second
          rfl
      | expanded secret info =>
          exact absurd covered (separated.apart secret info key covered'.1 covered'.2 from_second)
  | expanded secret info =>
      cases second with
      | given given' =>
          cases from_second
          exact absurd covered' (separated.apart secret info key covered.1 covered.2 from_first)
      | expanded secret' info' =>
          obtain ⟨secrets, infos⟩ := separated.collisionFree secret secret' info info' key covered.1
            covered'.1 covered.2 covered'.2 from_first from_second
          rw [secrets, infos]

/-- A source's key is its origin's. -/
theorem key_eq_ok_iff (source : KeySource) (key : Key) :
    source.key hkdf x25519 = .ok key ↔ (origin x25519 source).key hkdf = .ok key := by
  cases source with
  | given given => simp [KeySource.key, origin, Origin.key]
  | entity session ns id => exact KeyNamespace.deriveKey_eq_ok_iff hkdf ns _ id key
  | sharing mine theirs => exact Keys.deriveSharingKey_eq_ok_iff hkdf _ key

/-- An entity's origin is that of the same namespace and id under an equal
master key, and of nothing else. -/
theorem origin_eq_entity {source : KeySource} {session : SessionKey} {ns : KeyNamespace}
    {id : Int64} (bearing : ns.IdBearing)
    (same : origin x25519 source = origin x25519 (.entity session ns id)) :
    ∃ other, source = .entity other ns id ∧ other.asBytes = session.asBytes := by
  cases source with
  | given key => cases same
  | entity other ns' id' =>
      simp only [origin, Origin.expanded.injEq, KeyNamespace.asBytes_info_eq_iff] at same
      obtain ⟨masters, rfl, rfl | sharing⟩ := same
      · exact ⟨other, rfl, masters⟩
      · exact absurd sharing bearing
  | sharing mine theirs =>
      simp only [origin, Origin.expanded.injEq, KeyNamespace.sharingInfo_eq 0,
        KeyNamespace.asBytes_info_eq_iff] at same
      exact absurd same.2.1.symm bearing

/-- An envelope's origin is that of an equal agreed secret. The one entity it
may be is the sharing namespace's, whose info string is the same. -/
theorem origin_eq_sharing {source : KeySource} {mine theirs : Key}
    (same : origin x25519 source = origin x25519 (.sharing mine theirs)) :
    (∃ a b, source = .sharing a b ∧
      x25519.diffieHellman a b = x25519.diffieHellman mine theirs) ∨
    ∃ session id, source = .entity session .profileSharing id ∧
      session.asBytes = x25519.diffieHellman mine theirs := by
  cases source with
  | given key => cases same
  | entity session ns id =>
      simp only [origin, Origin.expanded.injEq, KeyNamespace.sharingInfo_eq 0,
        KeyNamespace.asBytes_info_eq_iff] at same
      obtain ⟨masters, rfl, -⟩ := same
      exact .inr ⟨session, id, rfl, masters⟩
  | sharing a b =>
      simp only [origin, Origin.expanded.injEq, and_true] at same
      exact .inl ⟨a, b, rfl, same⟩

theorem origin_eq_given {source : KeySource} {key : Key}
    (same : origin x25519 source = origin x25519 (.given key)) : source = .given key := by
  cases source with
  | given other =>
      cases same
      rfl
  | entity => cases same
  | sharing => cases same

section Runs

variable {Kind Shape : Type} {E : Kind → Type} {T : Shape → Type}
variable [∀ kind, EncryptedEntity (E kind)]
variable (aead : Aead.Symbolic Key Nonce) (base64 : Base64.Engine)
variable (json : ∀ shape, SerdeJson (T shape))

/-- In runs whose calls stay within a separated domain, whatever a decrypting
call finds sealed was sealed by a call of its own kind: for that entity, under
that agreed secret, or under that very key. -/
theorem domain_separation (symbolic : aead.OpensProduced) (overhead : aead.Overhead 16)
    (standard : base64.Standard) (domain : Domain) (separated : Separated hkdf domain)
    (state : State E T)
    (reachable : (system aead base64 hkdf x25519 json fun call =>
      domain.Covers (origin x25519 call.source)).Reachable state)
    (call : Opening E T) (covered : domain.Covers (origin x25519 call.source))
    (sealed : ∀ text, call.stored = .lenient text → startsWith Sealed.e2eePrefix text = true)
    (value : call.form.Value)
    (returned : call.run (aead.after state.ledger) base64 hkdf x25519 json = .ok value) :
    ∃ made ∈ state.made,
      (∃ plaintext, made.call.plaintext json = .ok plaintext ∧
        call.form.read json plaintext = .ok value) ∧
      (∀ session ns id, call.source = .entity session ns id → ns.IdBearing →
        ∃ other, made.call.source = .entity other ns id ∧ other.asBytes = session.asBytes) ∧
      (∀ mine theirs, call.source = .sharing mine theirs →
        (∃ a b, made.call.source = .sharing a b ∧
          x25519.diffieHellman a b = x25519.diffieHellman mine theirs) ∨
        ∃ session id, made.call.source = .entity session .profileSharing id ∧
          session.asBytes = x25519.diffieHellman mine theirs) ∧
      ∀ key, call.source = .given key → made.call.source = .given key := by
  have inv := inv_reachable aead base64 hkdf x25519 json state reachable
  obtain ⟨key, derived, ⟨text, given, bare, -⟩ |
    ⟨made, called, raw, plaintext, derived', -, -, written, read⟩⟩ :=
    made_of_run aead base64 hkdf x25519 json symbolic overhead standard inv returned
  · rw [sealed text given] at bare
    cases bare
  · have same := origin_injective hkdf separated (inv.legal made called) covered
      ((key_eq_ok_iff hkdf x25519 _ key).mp derived') ((key_eq_ok_iff hkdf x25519 _ key).mp derived)
    refine ⟨made, called, ⟨plaintext, written, read⟩, ?_, ?_, ?_⟩
    · intro session ns id source bearing
      rw [source] at same
      exact origin_eq_entity x25519 bearing same
    · intro mine theirs source
      rw [source] at same
      exact origin_eq_sharing x25519 same
    · intro key source
      rw [source] at same
      exact origin_eq_given x25519 same

end Runs

section ReferenceRun

/-- One master key, and one key passed in as it is. -/
def sampleDomain : Domain where
  given key := key = FixedBytes.fill 32 0
  secrets secret := secret = FixedBytes.fill 32 1

theorem sampleDomain_separated : Separated Reference.packedHkdf sampleDomain := by
  constructor
  · apply Reference.packedHkdf_collisionFree
    intro secret other known known' _
    rw [known, known']
  · rintro secret _ key - ⟨ns, id, rfl⟩ expanded zero
    rw [zero] at expanded
    exact Reference.packedHkdf_ne_zero secret ns id expanded

def sampleSession : SessionKey := ⟨FixedBytes.fill 32 1⟩

def directCall : Producing Rows Values := .encrypt (FixedBytes.fill 32 0) (asBytes "secret")

def entityCall : Producing Rows Values :=
  .sealEntityString sampleSession () (EntityIsolation.ProfileRow.mk 5) "secret"

def secretBlob : Bytes := Reference.nonce.val ++ (asBytes "secret" ++ List.replicate 16 0)

/-- The key that the sample expansion gives the profile. -/
def sampleKey : Key :=
  ⟨Reference.pad 29 ((asBytes (KeyNamespace.profile.info 5)).drop 8) ++ [1, 1, 1], by
    rw [List.length_append, Reference.pad_length]
    rfl⟩

/-- A text sealed for a profile, after the same bytes were encrypted directly. -/
def mixed : State Rows Values where
  ledger := [⟨sampleKey, Reference.nonce, asBytes "secret"⟩,
    ⟨FixedBytes.fill 32 0, Reference.nonce, asBytes "secret"⟩]
  made := [⟨entityCall, Reference.nonce, .row (Sealed.wire Reference.base64 secretBlob)⟩,
    ⟨directCall, Reference.nonce, .blob secretBlob⟩]

theorem mixed_reachable :
    (system Reference.symbolicAead Reference.base64 Reference.packedHkdf Reference.productX25519
      (fun _ => Sealed.referenceJson) fun call =>
        sampleDomain.Covers (origin Reference.productX25519 call.source)).Reachable mixed := by
  have start : (system Reference.symbolicAead Reference.base64 Reference.packedHkdf
      Reference.productX25519 (fun _ => Sealed.referenceJson) fun call =>
        sampleDomain.Covers (origin Reference.productX25519 call.source)).Reachable
          (⟨[], []⟩ : State Rows Values) := .of_start ⟨rfl, rfl⟩
  have first := start.next (.produce _ directCall Reference.nonce (.blob secretBlob)
    (FixedBytes.fill 32 0) (asBytes "secret") rfl rfl rfl rfl)
  have second := first.next (.produce _ entityCall Reference.nonce
    (.row (Sealed.wire Reference.base64 secretBlob)) sampleKey (asBytes "secret")
    ⟨rfl, .profile, 5, rfl⟩ rfl rfl rfl)
  exact second

def sampleReader : Opening Rows Values :=
  .unsealEntityString sampleSession () (EntityIsolation.ProfileRow.mk 5)
    (Sealed.wire Reference.base64 secretBlob)

theorem sampleReader_reads :
    sampleReader.run (Reference.symbolicAead.after mixed.ledger) Reference.base64
      Reference.packedHkdf Reference.productX25519 (fun _ => Sealed.referenceJson) =
        .ok "secret" :=
  run_of_made _ _ _ _ _ Reference.symbolicAead_opensProduced Reference.symbolicAead_overhead
    Reference.base64_standard (inv_reachable _ _ _ _ _ _ mixed_reachable) List.mem_cons_self rfl rfl
    rfl rfl (.inr (.inl rfl)) (Sealed.toText_asBytes "secret")

theorem domain_separation_sample :
    ∃ made ∈ mixed.made, ∃ other,
      made.call.source = .entity other .profile 5 ∧ other.asBytes = FixedBytes.fill 32 1 := by
  obtain ⟨made, called, -, entity, -⟩ := domain_separation _ _ _ _ _
    Reference.symbolicAead_opensProduced Reference.symbolicAead_overhead Reference.base64_standard
    sampleDomain sampleDomain_separated mixed mixed_reachable sampleReader
    ⟨rfl, .profile, 5, rfl⟩ (by simp [sampleReader, Opening.stored]) "secret" sampleReader_reads
  exact ⟨made, called, entity sampleSession .profile 5 rfl (by decide)⟩

end ReferenceRun

end IncokitE2ee.Vault
