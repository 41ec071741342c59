import IncokitE2ee.EntityIsolation
import IncokitE2ee.LegacyJson

set_option autoImplicit false

/- A migration of whole tables through the entity helpers: every row under the
key of its own entity, as a text or as a JSON value. -/
namespace IncokitE2ee.JsonMigration

open Sealed (Table)

section Rows

variable (aead : Aead Key Nonce) (base64 : Base64.Engine) (hkdf : Hkdf)
variable {E : Type} [EncryptedEntity E]

/-- A row's text, read leniently and sealed again. -/
def resealEntityString (session : SessionKey) (entity : E) (nonce : Nonce) (stored : String) :
    CryptoResult String := do
  let text ← tryUnsealEntityString aead base64 hkdf session entity stored
  sealEntityString aead base64 hkdf session entity nonce text

/-- A row's value, read leniently and serialised anew. -/
def resealEntityJson {V : Type} (json : SerdeJson V) (session : SessionKey) (entity : E)
    (nonce : Nonce) (stored : String) : CryptoResult String := do
  let value ← tryUnsealEntityJson aead base64 hkdf json session entity stored
  sealEntityJson aead base64 hkdf json session entity nonce value

theorem resealEntityString_of_key (session : SessionKey) (entity : E) (nonce : Nonce)
    (stored : String) {key : Key} (derived : session.entityKey hkdf entity = .ok key) :
    resealEntityString aead base64 hkdf session entity nonce stored =
      Sealed.reseal aead base64 key nonce stored := by
  simp only [resealEntityString, tryUnsealEntityString, sealEntityString, derived, bind_ok]
  rfl

theorem sealEntityJson_of_key {V : Type} (json : SerdeJson V) (session : SessionKey) (entity : E)
    (nonce : Nonce) (value : V) {key : Key} (derived : session.entityKey hkdf entity = .ok key) :
    sealEntityJson aead base64 hkdf json session entity nonce value =
      Sealed.sealJson aead base64 json key nonce value := by
  rw [sealEntityJson, derived, bind_ok]

theorem tryUnsealEntityJson_of_key {V : Type} (json : SerdeJson V) (session : SessionKey)
    (entity : E) (stored : String) {key : Key}
    (derived : session.entityKey hkdf entity = .ok key) :
    tryUnsealEntityJson aead base64 hkdf json session entity stored =
      Sealed.tryUnsealJson aead base64 json key stored := by
  rw [tryUnsealEntityJson, derived, bind_ok]

theorem unsealEntityJson_of_key {V : Type} (json : SerdeJson V) (session : SessionKey)
    (entity : E) (stored : String) {key : Key}
    (derived : session.entityKey hkdf entity = .ok key) :
    unsealEntityJson aead base64 hkdf json session entity stored =
      Sealed.unsealJson aead base64 json key stored := by
  rw [unsealEntityJson, derived, bind_ok]

end Rows

/-- The rows of a table: whose they are and what they hold. -/
structure Schema (Row : Type) where
  E : Row → Type
  V : Row → Type
  encrypted : ∀ row, EncryptedEntity (E row)
  entity : ∀ row, E row
  session : Row → SessionKey
  json : ∀ row, SerdeJson (V row)

namespace Schema

variable {Row : Type} (schema : Schema Row)
variable (aead : Aead Key Nonce) (base64 : Base64.Engine) (hkdf : Hkdf)

instance (row : Row) : EncryptedEntity (schema.E row) := schema.encrypted row

def lenient (row : Row) (stored : String) : CryptoResult (schema.V row) :=
  tryUnsealEntityJson aead base64 hkdf (schema.json row) (schema.session row) (schema.entity row)
    stored

def strict (row : Row) (stored : String) : CryptoResult (schema.V row) :=
  unsealEntityJson aead base64 hkdf (schema.json row) (schema.session row) (schema.entity row)
    stored

def sealed (row : Row) (nonce : Nonce) (value : schema.V row) : CryptoResult String :=
  sealEntityJson aead base64 hkdf (schema.json row) (schema.session row) (schema.entity row) nonce
    value

/-- What a turn makes of a row: its text or its value under a new nonce. -/
def turn (asJson : Bool) (row : Row) (nonce : Nonce) (stored : String) : CryptoResult String :=
  if asJson then
    resealEntityJson aead base64 hkdf (schema.json row) (schema.session row) (schema.entity row)
      nonce stored
  else
    resealEntityString aead base64 hkdf (schema.session row) (schema.entity row) nonce stored

end Schema

section Steps

variable {Row : Type} [DecidableEq Row]

/-- A row that could be sealed is written, any other is left as it was. -/
def put (row : Row) (result : CryptoResult String) (table : Table Row) : Table Row :=
  match result with
  | .error _ => table
  | .ok stored =>
      { rows := Function.update table.rows row stored
        resealed := fun other => other = row ∨ table.resealed other }

variable (schema : Schema Row) (aead : Aead Key Nonce) (base64 : Base64.Engine) (hkdf : Hkdf)

def resealRow (asJson : Bool) (row : Row) (nonce : Nonce) (table : Table Row) : Table Row :=
  put row (schema.turn aead base64 hkdf asJson row nonce (table.rows row)) table

/-- Rows in any order, each in either form and as often as one likes. -/
def migration (column : Row → String) : Transition (Table Row) where
  start table := table = { rows := column, resealed := fun _ => False }
  step table after :=
    ∃ asJson row nonce, after = resealRow schema aead base64 hkdf asJson row nonce table

/-- One pass over rows as JSON values. -/
def pass (turns : List (Row × Nonce)) (table : Table Row) : Table Row :=
  turns.foldl (fun table turn => resealRow schema aead base64 hkdf true turn.1 turn.2 table) table

end Steps

section Reading

variable {Row : Type} (schema : Schema Row)
variable {aead : Aead Key Nonce} {base64 : Base64.Engine} {hkdf : Hkdf}
variable (exactness : aead.Exact) (overhead : aead.Overhead 16) (standard : base64.Standard)
variable {depth : ∀ row, schema.V row → Nat} {limit : Row → Nat}
variable (invertsBelow : ∀ row, (schema.json row).InvertsBelow (depth row) (limit row))
variable (readsBelow : ∀ row, (schema.json row).ReadsBelow (depth row) (limit row))

theorem exists_key_of_turn {asJson : Bool} {row : Row} {nonce : Nonce} {stored sealed : String}
    (turned : schema.turn aead base64 hkdf asJson row nonce stored = .ok sealed) :
    ∃ key, (schema.session row).entityKey hkdf (schema.entity row) = .ok key := by
  cases derived : (schema.session row).entityKey hkdf (schema.entity row) with
  | ok key => exact ⟨key, rfl⟩
  | error error =>
      cases asJson with
      | true =>
          rw [Schema.turn, if_pos rfl, resealEntityJson, tryUnsealEntityJson, derived] at turned
          cases turned
      | false =>
          rw [Schema.turn, if_neg Bool.false_ne_true, resealEntityString, tryUnsealEntityString,
            derived] at turned
          cases turned

include exactness overhead standard invertsBelow readsBelow

/-- The value is the same in both readers, though its text may be another. -/
theorem read_of_turn {asJson : Bool} {row : Row} {nonce : Nonce} {stored sealed : String}
    (turned : schema.turn aead base64 hkdf asJson row nonce stored = .ok sealed) :
    schema.lenient aead base64 hkdf row sealed = schema.lenient aead base64 hkdf row stored ∧
      schema.strict aead base64 hkdf row sealed = schema.lenient aead base64 hkdf row stored := by
  obtain ⟨key, derived⟩ := exists_key_of_turn schema turned
  simp only [Schema.lenient, Schema.strict, tryUnsealEntityJson_of_key _ _ _ _ _ _ _ derived,
    unsealEntityJson_of_key _ _ _ _ _ _ _ derived]
  cases asJson with
  | false =>
      rw [Schema.turn, if_neg Bool.false_ne_true,
        resealEntityString_of_key _ _ _ _ _ _ _ derived] at turned
      obtain ⟨lenient, strict⟩ := Sealed.read_of_reseal exactness overhead standard turned
      rw [Sealed.tryUnsealJson, Sealed.tryUnsealJson, Sealed.unsealJson, lenient, strict]
      exact ⟨rfl, rfl⟩
  | true =>
      rw [Schema.turn, if_pos rfl] at turned
      obtain ⟨value, read, sealing⟩ := (bind_eq_ok_iff _ _ _).mp turned
      rw [tryUnsealEntityJson_of_key _ _ _ _ _ _ _ derived] at read
      rw [sealEntityJson_of_key _ _ _ _ _ _ _ _ derived] at sealing
      obtain ⟨text, written, strict, lenient⟩ := Sealed.unsealJson_sealJson aead base64
        (schema.json row) exactness.inverts overhead standard sealing
      obtain ⟨found, -, parsed⟩ := (bind_eq_ok_iff _ _ _).mp read
      have shallow := readsBelow row found value ((Sealed.parseJson_eq_ok_iff _ _ _).mp parsed)
      have again := (Sealed.parseJson_eq_ok_iff _ _ _).mpr
        (invertsBelow row value text written shallow)
      rw [strict, lenient, again, read]
      exact ⟨rfl, rfl⟩

end Reading

section Migrating

variable {Row : Type} (schema : Schema Row)

/-- What a migration keeps of the column it began with. -/
structure Kept (aead : Aead Key Nonce) (base64 : Base64.Engine) (hkdf : Hkdf)
    (column : Row → String) (table : Table Row) : Prop where
  value : ∀ row, schema.lenient aead base64 hkdf row (table.rows row) =
    schema.lenient aead base64 hkdf row (column row)
  strict : ∀ row, table.resealed row → schema.strict aead base64 hkdf row (table.rows row) =
    schema.lenient aead base64 hkdf row (column row)
  untouched : ∀ row, ¬ table.resealed row → table.rows row = column row

variable [DecidableEq Row]

theorem resealed_put (row other : Row) (result : CryptoResult String) (table : Table Row)
    (before : table.resealed other) : (put row result table).resealed other := by
  cases result with
  | error error => exact before
  | ok stored => exact .inr before

variable {aead : Aead Key Nonce} {base64 : Base64.Engine} {hkdf : Hkdf}
variable (exactness : aead.Exact) (overhead : aead.Overhead 16) (standard : base64.Standard)
variable {depth : ∀ row, schema.V row → Nat} {limit : Row → Nat}
variable (invertsBelow : ∀ row, (schema.json row).InvertsBelow (depth row) (limit row))
variable (readsBelow : ∀ row, (schema.json row).ReadsBelow (depth row) (limit row))
include exactness overhead standard invertsBelow readsBelow

/-- A turn writes one row, and that row keeps its value. -/
theorem kept_resealRow {column : Row → String} {table : Table Row}
    (kept : Kept schema aead base64 hkdf column table) (asJson : Bool) (row : Row)
    (nonce : Nonce) :
    Kept schema aead base64 hkdf column
      (resealRow schema aead base64 hkdf asJson row nonce table) := by
  rw [resealRow]
  cases turned : schema.turn aead base64 hkdf asJson row nonce (table.rows row) with
  | error error => exact kept
  | ok sealed =>
      have read := read_of_turn schema exactness overhead standard invertsBelow readsBelow turned
      constructor
      · intro other
        change schema.lenient aead base64 hkdf other
          (Function.update table.rows row sealed other) = _
        by_cases same : other = row
        · subst same
          rw [Function.update_self, read.1]
          exact kept.value other
        · rw [Function.update_of_ne same]
          exact kept.value other
      · intro other written
        change schema.strict aead base64 hkdf other
          (Function.update table.rows row sealed other) = _
        by_cases same : other = row
        · subst same
          rw [Function.update_self, read.2]
          exact kept.value other
        · rw [Function.update_of_ne same]
          exact kept.strict other (written.resolve_left same)
      · intro other bare
        obtain ⟨different, before⟩ := not_or.mp bare
        change Function.update table.rows row sealed other = _
        rw [Function.update_of_ne different]
        exact kept.untouched other before

/-- By induction on the run: the start has re-sealed nothing. -/
theorem kept_of_reachable {column : Row → String} {table : Table Row}
    (reachable : (migration schema aead base64 hkdf column).Reachable table) :
    Kept schema aead base64 hkdf column table := by
  apply reachable.invariant
  · intro first starts
    rw [starts]
    exact ⟨fun _ => rfl, fun _ impossible => impossible.elim, fun _ _ => rfl⟩
  · intro before after kept step
    obtain ⟨asJson, row, nonce, changed⟩ := step
    rw [changed]
    exact kept_resealRow schema exactness overhead standard invertsBelow readsBelow kept asJson
      row nonce

omit exactness overhead standard invertsBelow readsBelow in
theorem resealed_of_sealed {table : Table Row} {row : Row} {nonce : Nonce} {value : schema.V row}
    {stored : String} (read : schema.lenient aead base64 hkdf row (table.rows row) = .ok value)
    (sealing : schema.sealed aead base64 hkdf row nonce value = .ok stored) :
    (resealRow schema aead base64 hkdf true row nonce table).resealed row := by
  have turned : schema.turn aead base64 hkdf true row nonce (table.rows row) = .ok stored := by
    rw [Schema.turn, if_pos rfl]
    exact (bind_eq_ok_iff _ _ _).mpr ⟨value, read, sealing⟩
  rw [resealRow, turned]
  exact Or.inl rfl

omit exactness overhead standard invertsBelow readsBelow in
theorem resealed_pass (turns : List (Row × Nonce)) (row : Row) {table : Table Row}
    (before : table.resealed row) : (pass schema aead base64 hkdf turns table).resealed row := by
  induction turns generalizing table with
  | nil => exact before
  | cons turn turns ih => exact ih (resealed_put turn.1 row _ table before)

omit exactness overhead standard invertsBelow readsBelow in
/-- A pass is part of a run. -/
theorem reachable_pass {column : Row → String} (turns : List (Row × Nonce)) {table : Table Row}
    (reachable : (migration schema aead base64 hkdf column).Reachable table) :
    (migration schema aead base64 hkdf column).Reachable
      (pass schema aead base64 hkdf turns table) := by
  induction turns generalizing table with
  | nil => exact reachable
  | cons turn turns ih => exact ih (reachable.next ⟨true, turn.1, turn.2, rfl⟩)

/-- By induction on the turns: when a row's turn comes it still has its value,
and no later turn takes it off the record. -/
theorem resealed_of_pass {column : Row → String} (turns : List (Row × Nonce)) {table : Table Row}
    (reachable : (migration schema aead base64 hkdf column).Reachable table)
    (sealable : ∀ turn ∈ turns, ∀ value,
      schema.lenient aead base64 hkdf turn.1 (column turn.1) = .ok value →
        ∃ stored, schema.sealed aead base64 hkdf turn.1 turn.2 value = .ok stored)
    {row : Row} (listed : row ∈ turns.map Prod.fst) {value : schema.V row}
    (read : schema.lenient aead base64 hkdf row (column row) = .ok value) :
    (pass schema aead base64 hkdf turns table).resealed row := by
  induction turns generalizing table with
  | nil => cases listed
  | cons turn turns ih =>
      have later := reachable.next ⟨true, turn.1, turn.2, rfl⟩
      by_cases here : row = turn.1
      · subst here
        obtain ⟨stored, sealing⟩ := sealable turn List.mem_cons_self value read
        have kept := kept_of_reachable schema exactness overhead standard invertsBelow readsBelow
          reachable
        exact resealed_pass schema turns turn.1
          (resealed_of_sealed schema ((kept.value turn.1).trans read) sealing)
      · exact ih later (fun other inside => sealable other (List.mem_cons_of_mem _ inside))
          ((List.mem_cons.mp listed).resolve_left here)

end Migrating

/-- Wherever a migration stops, every row has its value: for the lenient reader
in any case, and for the strict one where it was written. A row that was not is
the text it was, and after a whole pass the strict reader is enough. -/
theorem json_migration_preserves {Row : Type} [DecidableEq Row] (schema : Schema Row)
    (aead : Aead Key Nonce) (base64 : Base64.Engine) (hkdf : Hkdf) (exactness : aead.Exact)
    (overhead : aead.Overhead 16) (standard : base64.Standard)
    (depth : ∀ row, schema.V row → Nat) (limit : Row → Nat)
    (invertsBelow : ∀ row, (schema.json row).InvertsBelow (depth row) (limit row))
    (readsBelow : ∀ row, (schema.json row).ReadsBelow (depth row) (limit row))
    (column : Row → String) (table : Table Row)
    (reachable : (migration schema aead base64 hkdf column).Reachable table) :
    (∀ row, schema.lenient aead base64 hkdf row (table.rows row) =
        schema.lenient aead base64 hkdf row (column row) ∧
      (table.resealed row → schema.strict aead base64 hkdf row (table.rows row) =
        schema.lenient aead base64 hkdf row (column row)) ∧
      (¬ table.resealed row → table.rows row = column row)) ∧
    ∀ turns : List (Row × Nonce), (∀ turn ∈ turns, ∀ value,
        schema.lenient aead base64 hkdf turn.1 (column turn.1) = .ok value →
          ∃ stored, schema.sealed aead base64 hkdf turn.1 turn.2 value = .ok stored) →
      ∀ row ∈ turns.map Prod.fst, ∀ value,
        schema.lenient aead base64 hkdf row (column row) = .ok value →
          schema.strict aead base64 hkdf row
            ((pass schema aead base64 hkdf turns table).rows row) = .ok value := by
  constructor
  · intro row
    have kept := kept_of_reachable schema exactness overhead standard invertsBelow readsBelow
      reachable
    exact ⟨kept.value row, kept.strict row, kept.untouched row⟩
  · intro turns sealable row listed value read
    have resealed := resealed_of_pass schema exactness overhead standard invertsBelow readsBelow
      turns reachable sealable listed read
    have kept := kept_of_reachable schema exactness overhead standard invertsBelow readsBelow
      (reachable_pass schema turns reachable)
    rw [kept.strict row resealed, read]

section ReferenceRun

theorem referenceJson_readsBelow : Sealed.referenceJson.ReadsBelow Json.Value.depth 128 := by
  intro text value read
  have found := (Sealed.referenceJson_eq_ok_iff text value).mp read
  exact Nat.lt_succ_of_le (Json.readText_depth 127 text.toList value.val found)

/-- Two profiles of one session. -/
def profiles : Schema Bool where
  E _ := EntityIsolation.ProfileRow
  V _ := Json.Value
  encrypted _ := inferInstance
  entity second := ⟨if second then 2 else 1⟩
  session _ := ⟨Reference.key⟩
  json _ := Sealed.referenceJson

def emptyJson : Json.Value := ⟨.array [], trivial⟩

theorem profiles_legacy (second : Bool) :
    profiles.lenient (Reference.markedAead Reference.key) Reference.base64 Reference.secretHkdf
      second "[ ]" = .ok emptyJson := by
  have derived : (profiles.session second).entityKey Reference.secretHkdf
      (profiles.entity second) = .ok Reference.key := rfl
  have found : Json.readText 127 "[ ]".toList = .ok emptyJson.val := rfl
  rw [Schema.lenient, tryUnsealEntityJson_of_key _ _ _ _ _ _ _ derived]
  exact Sealed.tryUnsealJson_legacy Sealed.referenceJson_acceptsOnly Reference.key
    ((Sealed.referenceJson_eq_ok_iff "[ ]" emptyJson).mpr found)

/-- A legacy text that is not the one its value is written as. -/
theorem json_migration_preserves_blank :
    profiles.strict (Reference.markedAead Reference.key) Reference.base64 Reference.secretHkdf true
      ((pass profiles (Reference.markedAead Reference.key) Reference.base64 Reference.secretHkdf
        [(false, Reference.nonce), (true, Reference.nonce)]
        ⟨fun _ => "[ ]", fun _ => False⟩).rows true) = .ok emptyJson :=
  (json_migration_preserves profiles _ _ Reference.secretHkdf
    (Reference.markedAead_exact Reference.key) (Reference.markedAead_overhead _)
    Reference.base64_standard (fun _ => Json.Value.depth) (fun _ => 128)
    (fun _ => Sealed.referenceJson_invertsBelow) (fun _ => referenceJson_readsBelow) (fun _ => "[ ]")
    ⟨fun _ => "[ ]", fun _ => False⟩ (.of_start rfl)).2
    [(false, Reference.nonce), (true, Reference.nonce)]
    (fun turn _ value _ => Sealed.exists_sealBytes _ _
      (Reference.markedAead_accepts _ (asBytes (String.ofList (Json.write value.val))).length)
      Reference.key turn.2 _ (Nat.le_refl _))
    true (by decide) emptyJson (profiles_legacy true)

end ReferenceRun

end IncokitE2ee.JsonMigration
