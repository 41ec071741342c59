import IncokitE2ee.SealedWire
import IncokitE2ee.Transition
import Mathlib.Logic.Function.Iterate

set_option autoImplicit false

/- Legacy and sealed texts in one column: what the lenient reader returns, the
migration that re-seals rows one by one, and seals around seals. -/
namespace IncokitE2ee.Sealed

variable (aead : Aead Key Nonce) (base64 : Base64.Engine)

def reseal (key : Key) (nonce : Nonce) (stored : String) : CryptoResult String := do
  let text ← tryUnsealString aead base64 key stored
  sealString aead base64 key nonce text

/-- A table under migration. `resealed` records the rows that were written. -/
structure Table (Row : Type) where
  rows : Row → String
  resealed : Row → Prop

section Steps

variable {Row : Type} [DecidableEq Row]

/-- One row is re-sealed; a row that fails is left as it was. -/
def resealRow (key : Key) (row : Row) (nonce : Nonce) (table : Table Row) : Table Row :=
  match reseal aead base64 key nonce (table.rows row) with
  | .error _ => table
  | .ok stored =>
      { rows := Function.update table.rows row stored
        resealed := fun other => other = row ∨ table.resealed other }

/-- Rows are re-sealed in any order and as often as one likes; a run of any
length is one that was interrupted there. -/
def migration (key : Key) (column : Row → String) : Transition (Table Row) where
  start table := table = { rows := column, resealed := fun _ => False }
  step table after := ∃ row nonce, after = resealRow aead base64 key row nonce table

end Steps

/-- Seals around a text, the innermost first. -/
def sealInTurn (layers : List (Key × Nonce)) (text : String) : CryptoResult String :=
  layers.foldlM (fun inner layer => sealString aead base64 layer.1 layer.2 inner) text

def readInTurn (keys : List Key) (stored : String) : CryptoResult String :=
  keys.foldlM (fun outer key => tryUnsealString aead base64 key outer) stored

section Reading

variable {aead base64} (exactness : aead.Exact) (overhead : aead.Overhead 16)
  (standard : base64.Standard)
include exactness overhead standard

theorem unsealString_eq_ok_iff_sealed (key : Key) (stored text : String) :
    unsealString aead base64 key stored = .ok text ↔
      ∃ nonce, sealString aead base64 key nonce text = .ok stored := by
  rw [unsealString_eq_ok_iff,
    unsealBytes_eq_ok_iff_sealed aead base64 exactness overhead standard]
  rfl

theorem tryUnsealString_eq_ok_iff (key : Key) (stored text : String) :
    tryUnsealString aead base64 key stored = .ok text ↔
      (startsWith e2eePrefix stored = false ∧ text = stored) ∨
        ∃ nonce, sealString aead base64 key nonce text = .ok stored := by
  cases starts : startsWith e2eePrefix stored with
  | false =>
      rw [tryUnsealString_unprefixed aead base64 key stored starts, Except.ok.injEq]
      constructor
      · intro same
        exact .inl ⟨rfl, same.symm⟩
      · rintro (⟨-, same⟩ | ⟨nonce, sealing⟩)
        · exact same.symm
        · exact absurd ⟨nonce, text, sealing⟩
            (not_sealed_of_unprefixed aead base64 key stored starts)
  | true =>
      rw [tryUnsealString_prefixed aead base64 key stored starts,
        unsealString_eq_ok_iff_sealed exactness overhead standard]
      simp

end Reading

section Migrating

variable {Row : Type}

/-- What a migration keeps of the column it began with. -/
structure Kept (key : Key) (column : Row → String) (table : Table Row) : Prop where
  value : ∀ row, tryUnsealString aead base64 key (table.rows row) =
    tryUnsealString aead base64 key (column row)
  strict : ∀ row, table.resealed row → unsealString aead base64 key (table.rows row) =
    tryUnsealString aead base64 key (column row)

variable {aead base64} (exactness : aead.Exact) (overhead : aead.Overhead 16)
  (standard : base64.Standard)
include exactness overhead standard

theorem read_of_reseal {key : Key} {nonce : Nonce} {stored sealed : String}
    (resealed : reseal aead base64 key nonce stored = .ok sealed) :
    tryUnsealString aead base64 key sealed = tryUnsealString aead base64 key stored ∧
      unsealString aead base64 key sealed = tryUnsealString aead base64 key stored := by
  obtain ⟨text, read, sealing⟩ := (bind_eq_ok_iff _ _ _).mp resealed
  have strict := (unsealString_eq_ok_iff_sealed exactness overhead standard key sealed text).mpr
    ⟨nonce, sealing⟩
  have prefixed := sealString_startsWith aead base64 sealing
  rw [tryUnsealString_prefixed aead base64 key sealed prefixed, strict, read]
  exact ⟨rfl, rfl⟩

variable [DecidableEq Row]

/-- A step writes one row, and that row keeps its value. -/
theorem kept_resealRow {key : Key} {column : Row → String} {table : Table Row}
    (kept : Kept aead base64 key column table) (row : Row) (nonce : Nonce) :
    Kept aead base64 key column (resealRow aead base64 key row nonce table) := by
  cases resealed : reseal aead base64 key nonce (table.rows row) with
  | error error =>
      -- Nothing is written when the row cannot be read or sealed.
      simp only [resealRow, resealed]
      exact kept
  | ok sealed =>
      have read := read_of_reseal exactness overhead standard resealed
      simp only [resealRow, resealed]
      constructor
      · intro other
        change tryUnsealString aead base64 key (Function.update table.rows row sealed other) = _
        by_cases same : other = row
        · rw [same, Function.update_self, read.1]
          exact kept.value row
        · rw [Function.update_of_ne same]
          exact kept.value other
      · intro other written
        change unsealString aead base64 key (Function.update table.rows row sealed other) = _
        by_cases same : other = row
        · rw [same, Function.update_self, read.2]
          exact kept.value row
        · rw [Function.update_of_ne same]
          exact kept.strict other (written.resolve_left same)

/-- By induction on the run: the start has re-sealed nothing. -/
theorem kept_of_reachable {key : Key} {column : Row → String} {table : Table Row}
    (reachable : (migration aead base64 key column).Reachable table) :
    Kept aead base64 key column table := by
  apply reachable.invariant
  · intro first starts
    rw [starts]
    exact ⟨fun _ => rfl, fun _ impossible => impossible.elim⟩
  · intro before after kept step
    obtain ⟨row, nonce, changed⟩ := step
    rw [changed]
    exact kept_resealRow exactness overhead standard kept row nonce

omit exactness overhead standard in
/-- A readable row is written whenever the AEAD encrypts its value. -/
theorem resealed_of_encrypted {key : Key} {table : Table Row} {row : Row} {nonce : Nonce}
    {text : String} {ciphertext : Bytes}
    (read : tryUnsealString aead base64 key (table.rows row) = .ok text)
    (encrypted : aead.encrypt key nonce (asBytes text) = some ciphertext) :
    (resealRow aead base64 key row nonce table).resealed row := by
  have produced := (Encryption.encrypt_eq_ok_iff aead key nonce (asBytes text) _).mpr
    ⟨ciphertext, encrypted, rfl⟩
  have sealing := (sealBytes_eq_ok_iff aead base64 key nonce (asBytes text) _).mpr
    ⟨_, produced, rfl⟩
  have resealed := (bind_eq_ok_iff (tryUnsealString aead base64 key (table.rows row))
    (sealString aead base64 key nonce) _).mpr ⟨text, read, sealing⟩
  rw [← reseal] at resealed
  rw [resealRow, resealed]
  exact Or.inl rfl

end Migrating

section Nesting

def sealedWidth (width : Nat) : Nat := 5 + 4 * ((width + 30) / 3)

variable {aead base64} (exactness : aead.Exact) (overhead : aead.Overhead 16)
  (standard : base64.Standard)
include overhead standard

theorem width_of_sealed {key : Key} {nonce : Nonce} {text stored : String}
    (sealing : sealString aead base64 key nonce text = .ok stored) :
    (asBytes stored).length = sealedWidth (asBytes text).length := by
  obtain ⟨raw, encrypted, rfl⟩ := (sealBytes_eq_ok_iff aead base64 key nonce _ stored).mp sealing
  obtain ⟨ciphertext, produced, rfl⟩ :=
    (Encryption.encrypt_eq_ok_iff aead key nonce (asBytes text) raw).mp encrypted
  have width := overhead key nonce (asBytes text) ciphertext produced
  have nonceWidth := nonce.property
  have prefixWidth : (asBytes e2eePrefix).length = 5 := by decide
  rw [asBytes_append, List.length_append, prefixWidth, standard.encodes,
    asBytes_ascii _ (Base64.encode_ascii _), List.length_map, Base64.length_encode,
    List.length_append, nonceWidth, width, sealedWidth]
  omega

/-- Sealing in turn, then reading with the keys in reverse order, is the identity. -/
theorem readInTurn_sealInTurn (inverts : aead.Inverts) {layers : List (Key × Nonce)}
    {text stored : String} (sealing : sealInTurn aead base64 layers text = .ok stored) :
    readInTurn aead base64 (layers.map Prod.fst).reverse stored = .ok text := by
  induction layers generalizing text with
  | nil =>
      cases sealing
      rfl
  | cons layer layers ih =>
      rw [sealInTurn, List.foldlM_cons, bind_eq_ok_iff] at sealing
      obtain ⟨inner, first, later⟩ := sealing
      have outer := ih later
      rw [readInTurn] at outer
      rw [readInTurn, List.map_cons, List.reverse_cons, List.foldlM_append, outer, bind_ok,
        List.foldlM_cons, tryUnsealString_sealString aead base64 overhead standard
          (inverts layer.1 layer.2 (asBytes text)) first]
      rfl

theorem width_of_sealInTurn {layers : List (Key × Nonce)} {text stored : String}
    (sealing : sealInTurn aead base64 layers text = .ok stored) :
    (asBytes stored).length = sealedWidth^[layers.length] (asBytes text).length := by
  induction layers generalizing text with
  | nil =>
      cases sealing
      rfl
  | cons layer layers ih =>
      rw [sealInTurn, List.foldlM_cons, bind_eq_ok_iff] at sealing
      obtain ⟨inner, first, later⟩ := sealing
      rw [ih later, width_of_sealed overhead standard first, List.length_cons,
        Function.iterate_succ_apply]

include exactness

/-- A read takes off one layer at most, whatever the key: of two bytes the last
quantum does not tell. -/
theorem width_of_read {key : Key} {stored text : String} {width : Nat}
    (read : tryUnsealString aead base64 key stored = .ok text)
    (wide : sealedWidth width ≤ (asBytes stored).length + 2) :
    width ≤ (asBytes text).length + 2 := by
  rcases (tryUnsealString_eq_ok_iff exactness overhead standard key stored text).mp read with
    legacy | sealed
  · rw [legacy.2]
    unfold sealedWidth at wide
    omega
  · obtain ⟨nonce, sealing⟩ := sealed
    rw [width_of_sealed overhead standard sealing] at wide
    unfold sealedWidth at wide
    omega

/-- By induction on the reads: each leaves all layers but one. -/
theorem width_of_readInTurn {keys : List Key} {stored text : String} {width left : Nat}
    (read : readInTurn aead base64 keys stored = .ok text)
    (wide : sealedWidth^[left + keys.length] width ≤ (asBytes stored).length + 2) :
    sealedWidth^[left] width ≤ (asBytes text).length + 2 := by
  induction keys generalizing stored with
  | nil =>
      cases read
      exact wide
  | cons key keys ih =>
      rw [readInTurn, List.foldlM_cons, bind_eq_ok_iff] at read
      obtain ⟨middle, first, later⟩ := read
      rw [List.length_cons, ← Nat.add_assoc, Function.iterate_succ_apply'] at wide
      exact ih later (width_of_read exactness overhead standard first wide)

omit overhead standard exactness in
theorem lt_sealedWidth_iterate (layers width : Nat) :
    width + 2 < sealedWidth^[layers + 1] width := by
  induction layers with
  | zero =>
      simp only [Nat.zero_add, Function.iterate_one, sealedWidth]
      omega
  | succ layers ih =>
      rw [Function.iterate_succ_apply']
      unfold sealedWidth at ih ⊢
      omega

/-- Fewer reads than there are seals never reach the text, under any keys. -/
theorem readInTurn_ne {layers : List (Key × Nonce)} {text stored : String} {keys : List Key}
    (sealing : sealInTurn aead base64 layers text = .ok stored)
    (fewer : keys.length < layers.length) : readInTurn aead base64 keys stored ≠ .ok text := by
  intro read
  have remaining : layers.length - keys.length - 1 + 1 + keys.length = layers.length := by omega
  have wide := width_of_readInTurn exactness overhead standard read
    (by rw [remaining, width_of_sealInTurn overhead standard sealing]; exact Nat.le_add_right _ 2)
  have wider := lt_sealedWidth_iterate (layers.length - keys.length - 1) (asBytes text).length
  omega

end Nesting

/-- Lenient reads are exact, a migration keeps every value wherever it stops,
and every read takes off exactly one layer. -/
theorem migration_preserves (exactness : aead.Exact) (overhead : aead.Overhead 16)
    (standard : base64.Standard) :
    (∀ key stored text, tryUnsealString aead base64 key stored = .ok text ↔
      (startsWith e2eePrefix stored = false ∧ text = stored) ∨
        ∃ nonce, sealString aead base64 key nonce text = .ok stored) ∧
    (∀ key stored, tryUnsealString aead base64 key stored ≠ .error .missingE2eePrefix) ∧
    (∀ key stored, startsWith e2eePrefix stored = true →
      tryUnsealString aead base64 key stored = unsealString aead base64 key stored) ∧
    (∀ (Row : Type) [DecidableEq Row] key (column : Row → String) table,
      (migration aead base64 key column).Reachable table →
      ∀ row text, tryUnsealString aead base64 key (column row) = .ok text →
        tryUnsealString aead base64 key (table.rows row) = .ok text ∧
        (table.resealed row → unsealString aead base64 key (table.rows row) = .ok text) ∧
        (∀ nonce ciphertext, aead.encrypt key nonce (asBytes text) = some ciphertext →
          (resealRow aead base64 key row nonce table).resealed row)) ∧
    (∀ layers text stored, sealInTurn aead base64 layers text = .ok stored →
      readInTurn aead base64 (layers.map Prod.fst).reverse stored = .ok text ∧
      ∀ keys : List Key, keys.length < layers.length →
        readInTurn aead base64 keys stored ≠ .ok text) := by
  refine ⟨tryUnsealString_eq_ok_iff exactness overhead standard,
    tryUnsealString_ne_missing aead base64, tryUnsealString_prefixed aead base64, ?_, ?_⟩
  · intro Row _ key column table reachable row text read
    have kept := kept_of_reachable exactness overhead standard reachable
    have value : tryUnsealString aead base64 key (table.rows row) = .ok text := by
      rw [kept.value row, read]
    refine ⟨value, ?_, ?_⟩
    · intro written
      rw [kept.strict row written, read]
    · intro nonce ciphertext encrypted
      exact resealed_of_encrypted value encrypted
  · intro layers text stored sealing
    exact ⟨readInTurn_sealInTurn overhead standard exactness.inverts sealing,
      fun keys fewer => readInTurn_ne exactness overhead standard sealing fewer⟩

theorem migration_preserves_twice :
    readInTurn (Reference.markedAead Reference.key) Reference.base64
      [Reference.key, Reference.key]
      (e2eePrefix ++ Reference.base64.encode (Reference.nonce.val ++
        (asBytes (e2eePrefix ++ sampleBody) ++ List.replicate 16 0))) =
      .ok "integrity matters" :=
  ((migration_preserves _ _ (Reference.markedAead_exact _) (Reference.markedAead_overhead _)
    Reference.base64_standard).2.2.2.2
      [(Reference.key, Reference.nonce), (Reference.key, Reference.nonce)] "integrity matters" _
      (by
        rw [sealInTurn, List.foldlM_cons, sealString_sample, bind_ok]
        exact (bind_eq_ok_iff _ _ _).mpr
          ⟨_, (sealBytes_eq_ok_iff _ _ _ _ _ _).mpr ⟨_, rfl, rfl⟩, rfl⟩)).1

end IncokitE2ee.Sealed
