import IncokitE2ee.Entity
import IncokitE2ee.ReferenceHkdf
import IncokitE2ee.SealedWire
import IncokitE2ee.Transition

set_option autoImplicit false

/- Entity isolation: a client that seals rows, a storage operator that rewrites
them at will, and what the strict reader can still return. -/
namespace IncokitE2ee.EntityIsolation

open EncryptedEntity (NAMESPACE entityId)

structure SealCall (Session : Type) where
  session : Session
  ns : KeyNamespace
  id : Int64
  plaintext : String

structure State (Row Session : Type) where
  rows : Row → String
  ledger : List (Aead.Encryption Key Nonce)
  /-- The successful calls, newest first. -/
  calls : List (SealCall Session)
  /-- The call whose result the row holds, unless the operator wrote over it. -/
  latest : Row → Option (SealCall Session)

variable {Row Session : Type}
variable (aead : Aead.Symbolic Key Nonce) (base64 : Base64.Engine) (hkdf : Hkdf)
variable (sessions : Session → SessionKey)

/-- A table before the first call: any rows, legacy ones included. -/
def Unused (state : State Row Session) : Prop :=
  state.ledger = [] ∧ state.calls = [] ∧ ∀ row, state.latest row = none

structure Made (entry : Aead.Encryption Key Nonce) (call : SealCall Session) : Prop where
  bearing : call.ns.IdBearing
  derived : call.ns.deriveKey hkdf (sessions call.session).asBytes call.id = .ok entry.key
  plaintext : entry.plaintext = asBytes call.plaintext

structure Inv (state : State Row Session) : Prop where
  recorded : ∀ entry ∈ state.ledger, ∃ call ∈ state.calls, Made hkdf sessions entry call
  current : ∀ row call, state.latest row = some call → ∃ entry ∈ state.ledger,
    Made hkdf sessions entry call ∧
      Sealed.sealString (aead.after state.ledger) base64 entry.key entry.nonce call.plaintext =
        .ok (state.rows row)

theorem inv_start (state : State Row Session)
    (starts : Unused state) :
    Inv aead base64 hkdf sessions state := by
  obtain ⟨noLedger, -, noLatest⟩ := starts
  constructor
  · intro entry member
    rw [noLedger] at member
    cases member
  · intro row call held
    rw [noLatest] at held
    cases held

def KeysApart : Prop :=
  hkdf.CollisionFree (fun secret => ∃ session, (sessions session).asBytes = secret)
    (fun info => ∃ (ns : KeyNamespace) (id : Int64), asBytes (ns.info id) = info)

theorem deriveKey_injective (apart : KeysApart hkdf sessions) {session session' : Session}
    {ns ns' : KeyNamespace} {id id' : Int64} {key : Key} (bearing : ns.IdBearing)
    (first : ns.deriveKey hkdf (sessions session).asBytes id = .ok key)
    (second : ns'.deriveKey hkdf (sessions session').asBytes id' = .ok key) :
    (sessions session).asBytes = (sessions session').asBytes ∧ ns = ns' ∧ id = id' := by
  have expanded := (KeyNamespace.deriveKey_eq_ok_iff hkdf ns _ id key).mp first
  have expanded' := (KeyNamespace.deriveKey_eq_ok_iff hkdf ns' _ id' key).mp second
  obtain ⟨secrets, infos⟩ := apart _ _ _ _ key ⟨session, rfl⟩ ⟨session', rfl⟩ ⟨ns, id, rfl⟩
    ⟨ns', id', rfl⟩ expanded expanded'
  obtain ⟨namespaces, ids⟩ := KeyNamespace.info_injective (asBytes_injective infos)
  exact ⟨secrets, namespaces, ids bearing⟩

/-- Whatever opens strictly was sealed for that very entity and session key. -/
theorem opened_was_sealed (symbolic : aead.OpensProduced) (apart : KeysApart hkdf sessions)
    {state : State Row Session}
    (inv : Inv aead base64 hkdf sessions state) {E : Type} [EncryptedEntity E] (session : Session)
    (entity : E) (stored plaintext : String)
    (opened : unsealEntityString (aead.after state.ledger) base64 hkdf (sessions session) entity
      stored = .ok plaintext) :
    ∃ call ∈ state.calls, (sessions call.session).asBytes = (sessions session).asBytes ∧
      call.ns = NAMESPACE E ∧ call.id = entityId entity ∧ call.plaintext = plaintext := by
  obtain ⟨key, derived, inner⟩ := (bind_eq_ok_iff _ _ _).mp opened
  have bytes := (Sealed.unsealString_eq_ok_iff _ base64 key stored plaintext).mp inner
  obtain ⟨raw, -, -, decrypted⟩ := Sealed.carries_of_unsealBytes _ base64 bytes
  obtain ⟨nonce, member, -⟩ :=
    Encryption.recorded_of_decrypt symbolic.opensOnlyProduced decrypted
  obtain ⟨call, called, maker⟩ := inv.recorded _ member
  obtain ⟨sameSecret, sameNs, sameId⟩ :=
    deriveKey_injective hkdf sessions apart maker.bearing maker.derived derived
  exact ⟨call, called, sameSecret, sameNs, sameId, (asBytes_injective maker.plaintext).symm⟩

theorem latest_reads_back (symbolic : aead.OpensProduced) (overhead : aead.Overhead 16)
    (standard : base64.Standard) {state : State Row Session}
    (inv : Inv aead base64 hkdf sessions state) {row : Row} {call : SealCall Session}
    (held : state.latest row = some call) {E : Type} [EncryptedEntity E] (entity : E)
    (sameNs : NAMESPACE E = call.ns) (sameId : entityId entity = call.id) :
    unsealEntityString (aead.after state.ledger) base64 hkdf (sessions call.session) entity
        (state.rows row) = .ok call.plaintext ∧
      tryUnsealEntityString (aead.after state.ledger) base64 hkdf (sessions call.session) entity
        (state.rows row) = .ok call.plaintext := by
  obtain ⟨entry, member, maker, sealing⟩ := inv.current row call held
  have opens : (aead.after state.ledger).OpensBack entry.key entry.nonce
      (asBytes call.plaintext) := by
    rw [← maker.plaintext]
    exact symbolic.opensBack member
  have derived : (sessions call.session).entityKey hkdf entity = .ok entry.key := by
    rw [SessionKey.entityKey, SessionKey.derive, sameNs, sameId]
    exact maker.derived
  rw [unsealEntityString, tryUnsealEntityString, derived]
  exact ⟨Sealed.unsealString_sealString _ base64 (overhead.after _) standard opens sealing,
    Sealed.tryUnsealString_sealString _ base64 (overhead.after _) standard opens sealing⟩

variable [DecidableEq Row]

/-- The operator may write any text over any row. A failed seal changes nothing
and is no step. -/
inductive Step : State Row Session → State Row Session → Prop where
  | sealRow {E : Type} [EncryptedEntity E] (state : State Row Session) (row : Row)
      (session : Session) (entity : E) (nonce : Nonce) (plaintext stored : String) (key : Key)
      (bearing : (NAMESPACE E).IdBearing)
      (derived : (sessions session).entityKey hkdf entity = .ok key)
      (success : sealEntityString (aead.after state.ledger) base64 hkdf (sessions session) entity
        nonce plaintext = .ok stored) :
      Step state
        { rows := Function.update state.rows row stored
          ledger := ⟨key, nonce, asBytes plaintext⟩ :: state.ledger
          calls := ⟨session, NAMESPACE E, entityId entity, plaintext⟩ :: state.calls
          latest := Function.update state.latest row
            (some ⟨session, NAMESPACE E, entityId entity, plaintext⟩) }
  | overwriteRow (state : State Row Session) (row : Row) (stored : String) :
      Step state
        { state with
          rows := Function.update state.rows row stored
          latest := Function.update state.latest row none }

def system : Transition (State Row Session) where
  start := Unused
  step := Step aead base64 hkdf sessions

/-- Sealing encrypts and never opens, so what it writes does not depend on the
ledger: rows sealed earlier keep their meaning as the ledger grows. -/
theorem inv_step (state after : State Row Session) (inv : Inv aead base64 hkdf sessions state)
    (step : Step aead base64 hkdf sessions state after) :
    Inv aead base64 hkdf sessions after := by
  cases step with
  | sealRow _ row session entity nonce plaintext stored key bearing derived success =>
      have made : Made hkdf sessions ⟨key, nonce, asBytes plaintext⟩
          (⟨session, _, entityId entity, plaintext⟩ : SealCall Session) :=
        ⟨bearing, derived, rfl⟩
      have sealing : Sealed.sealString (aead.after state.ledger) base64 key nonce plaintext =
          .ok stored := by
        rwa [sealEntityString, derived] at success
      constructor
      · intro entry member
        rcases List.mem_cons.mp member with rfl | older
        · exact ⟨_, List.mem_cons_self, made⟩
        · obtain ⟨call, called, maker⟩ := inv.recorded entry older
          exact ⟨call, List.mem_cons_of_mem _ called, maker⟩
      · intro other call held
        by_cases same : other = row
        · subst same
          simp only [Function.update_self, Option.some.injEq] at held
          subst held
          refine ⟨_, List.mem_cons_self, made, ?_⟩
          simp only [Function.update_self]
          exact sealing
        · simp only [Function.update_of_ne same] at held
          obtain ⟨entry, older, maker, holds⟩ := inv.current other call held
          refine ⟨entry, List.mem_cons_of_mem _ older, maker, ?_⟩
          simp only [Function.update_of_ne same]
          exact holds
  | overwriteRow _ row stored =>
      refine ⟨inv.recorded, ?_⟩
      intro other call held
      by_cases same : other = row
      · subst same
        simp only [Function.update_self] at held
        cases held
      · simp only [Function.update_of_ne same] at held
        simpa only [Function.update_of_ne same] using inv.current other call held

theorem inv_reachable (state : State Row Session)
    (reachable : (system aead base64 hkdf sessions).Reachable state) :
    Inv aead base64 hkdf sessions state :=
  reachable.invariant (inv_start aead base64 hkdf sessions)
    (inv_step aead base64 hkdf sessions)

/-- Entity isolation in every reachable state, against every stored text. -/
theorem entity_isolation (symbolic : aead.OpensProduced) (overhead : aead.Overhead 16)
    (standard : base64.Standard) (apart : KeysApart hkdf sessions) (state : State Row Session)
    (reachable : (system aead base64 hkdf sessions).Reachable state) :
    (∀ {E : Type} [EncryptedEntity E] (session : Session) (entity : E) (stored plaintext : String),
      unsealEntityString (aead.after state.ledger) base64 hkdf (sessions session) entity stored =
        .ok plaintext →
      ∃ call ∈ state.calls, (sessions call.session).asBytes = (sessions session).asBytes ∧
        call.ns = NAMESPACE E ∧ call.id = entityId entity ∧ call.plaintext = plaintext) ∧
    (∀ row call, state.latest row = some call →
      ∀ {E : Type} [EncryptedEntity E] (entity : E), NAMESPACE E = call.ns →
        entityId entity = call.id →
        unsealEntityString (aead.after state.ledger) base64 hkdf (sessions call.session) entity
            (state.rows row) = .ok call.plaintext ∧
          tryUnsealEntityString (aead.after state.ledger) base64 hkdf (sessions call.session)
            entity (state.rows row) = .ok call.plaintext) := by
  have inv := inv_reachable aead base64 hkdf sessions state reachable
  constructor
  · intro E _ session entity stored plaintext opened
    exact opened_was_sealed aead base64 hkdf sessions symbolic apart inv session entity
      stored plaintext opened
  · intro row call held E _ entity sameNs sameId
    exact latest_reads_back aead base64 hkdf sessions symbolic overhead standard inv held entity
      sameNs sameId

structure ProfileRow where
  id : Int64

instance : EncryptedEntity ProfileRow where
  NAMESPACE := .profile
  entityId row := row.id

def twoSessions (second : Bool) : SessionKey := ⟨FixedBytes.fill 32 (if second then 2 else 1)⟩

theorem twoSessions_apart : KeysApart Reference.packedHkdf twoSessions := by
  apply Reference.packedHkdf_collisionFree
  rintro _ _ ⟨session, rfl⟩ ⟨session', rfl⟩
  cases session <;> cases session' <;> decide

def sealedSecret : String :=
  Sealed.e2eePrefix ++ Reference.base64.encode
    (Reference.nonce.val ++ (asBytes "secret" ++ List.replicate 16 0))

/-- A client seals a profile with a negative id, and the operator copies the
sealed row over another one. -/
theorem entity_isolation_sample :
    ∃ state : State Nat Bool,
      (system Reference.symbolicAead Reference.base64 Reference.packedHkdf twoSessions).Reachable
        state ∧
      state.rows 1 = state.rows 0 ∧
      unsealEntityString (Reference.symbolicAead.after state.ledger) Reference.base64
        Reference.packedHkdf (twoSessions true) (ProfileRow.mk (-1)) (state.rows 0) =
          .ok "secret" := by
  have start : (system Reference.symbolicAead Reference.base64 Reference.packedHkdf
      twoSessions).Reachable (⟨fun _ => "legacy", [], [], fun _ => none⟩ : State Nat Bool) :=
    .of_start ⟨rfl, rfl, fun _ => rfl⟩
  have first := start.next (.sealRow _ 0 true (ProfileRow.mk (-1)) Reference.nonce "secret"
    sealedSecret _ (by decide) rfl rfl)
  have second := first.next (.overwriteRow _ 1 sealedSecret)
  exact ⟨_, second, rfl, ((entity_isolation _ _ _ _ Reference.symbolicAead_opensProduced
    Reference.symbolicAead_overhead Reference.base64_standard twoSessions_apart _ second).2 0
    ⟨true, .profile, -1, "secret"⟩ rfl (ProfileRow.mk (-1)) rfl rfl).1⟩

end IncokitE2ee.EntityIsolation
