set_option autoImplicit false

/- Authenticated encryption as a pair of functions, the laws a caller may ask
of it, and its symbolic reading, in which opening consults what was encrypted. -/

/-- Encryption may refuse a plaintext over its limit; decryption may refuse
anything. -/
structure Aead (Key Nonce : Type) where
  encrypt : Key → Nonce → List UInt8 → Option (List UInt8)
  decrypt : Key → Nonce → List UInt8 → Option (List UInt8)

namespace Aead

variable {Key Nonce : Type}

/-- The ciphertext of this one encryption opens, under its key, to its plaintext. -/
def OpensBack (aead : Aead Key Nonce) (key : Key) (nonce : Nonce) (plaintext : List UInt8) : Prop :=
  ∀ ciphertext, aead.encrypt key nonce plaintext = some ciphertext →
    aead.decrypt key nonce ciphertext = some plaintext

/-- Decryption inverts encryption. -/
def Inverts (aead : Aead Key Nonce) : Prop :=
  ∀ key nonce plaintext, aead.OpensBack key nonce plaintext

/-- Decryption is exact: both directions at once. -/
def Exact (aead : Aead Key Nonce) : Prop :=
  ∀ key nonce plaintext ciphertext, aead.decrypt key nonce ciphertext = some plaintext ↔
    aead.encrypt key nonce plaintext = some ciphertext

/-- A ciphertext is longer than its plaintext by a tag of this many bytes. -/
def Overhead (aead : Aead Key Nonce) (tag : Nat) : Prop :=
  ∀ key nonce plaintext ciphertext, aead.encrypt key nonce plaintext = some ciphertext →
    ciphertext.length = plaintext.length + tag

/-- Plaintexts up to this length are encrypted. -/
def Accepts (aead : Aead Key Nonce) (limit : Nat) : Prop :=
  ∀ key nonce plaintext, plaintext.length ≤ limit →
    ∃ ciphertext, aead.encrypt key nonce plaintext = some ciphertext

/-- The ciphertext of this one encryption opens under no other key. -/
def RejectsElsewhere (aead : Aead Key Nonce) (key : Key) (nonce : Nonce)
    (plaintext : List UInt8) : Prop :=
  ∀ ciphertext, aead.encrypt key nonce plaintext = some ciphertext →
    ∀ other, other ≠ key → aead.decrypt other nonce ciphertext = none

/-- No proper beginning of this one encryption's ciphertext opens under its key. -/
def RejectsPrefixes (aead : Aead Key Nonce) (key : Key) (nonce : Nonce)
    (plaintext : List UInt8) : Prop :=
  ∀ ciphertext, aead.encrypt key nonce plaintext = some ciphertext →
    ∀ front rest, ciphertext = front ++ rest → rest ≠ [] → aead.decrypt key nonce front = none

theorem Exact.inverts {aead : Aead Key Nonce} (exactness : aead.Exact) : aead.Inverts :=
  fun key nonce plaintext ciphertext => (exactness key nonce plaintext ciphertext).mpr

/-- One encryption: what a ledger records. -/
structure Encryption (Key Nonce : Type) where
  key : Key
  nonce : Nonce
  plaintext : List UInt8

/-- Symbolic authenticated encryption: whether a ciphertext opens depends on
the encryptions made so far. -/
structure Symbolic (Key Nonce : Type) where
  encrypt : Key → Nonce → List UInt8 → Option (List UInt8)
  decrypt : List (Encryption Key Nonce) → Key → Nonce → List UInt8 → Option (List UInt8)

namespace Symbolic

/-- The AEAD its user meets once the encryptions of the ledger have been made. -/
def after (aead : Symbolic Key Nonce) (ledger : List (Encryption Key Nonce)) : Aead Key Nonce where
  encrypt := aead.encrypt
  decrypt := aead.decrypt ledger

/-- A key opens only nonce and ciphertext pairs produced under it. -/
def OpensOnlyProduced (aead : Symbolic Key Nonce) : Prop :=
  ∀ ledger key nonce plaintext ciphertext,
    aead.decrypt ledger key nonce ciphertext = some plaintext →
      ⟨key, nonce, plaintext⟩ ∈ ledger ∧ aead.encrypt key nonce plaintext = some ciphertext

/-- A key opens exactly the nonce and ciphertext pairs produced under it. -/
def OpensProduced (aead : Symbolic Key Nonce) : Prop :=
  ∀ ledger key nonce plaintext ciphertext,
    aead.decrypt ledger key nonce ciphertext = some plaintext ↔
      ⟨key, nonce, plaintext⟩ ∈ ledger ∧ aead.encrypt key nonce plaintext = some ciphertext

def Overhead (aead : Symbolic Key Nonce) (tag : Nat) : Prop := (aead.after []).Overhead tag

theorem OpensProduced.opensOnlyProduced {aead : Symbolic Key Nonce}
    (symbolic : aead.OpensProduced) : aead.OpensOnlyProduced :=
  fun ledger key nonce plaintext ciphertext =>
    (symbolic ledger key nonce plaintext ciphertext).mp

theorem OpensProduced.opensBack {aead : Symbolic Key Nonce} (symbolic : aead.OpensProduced)
    {ledger : List (Encryption Key Nonce)} {entry : Encryption Key Nonce}
    (recorded : entry ∈ ledger) :
    (aead.after ledger).OpensBack entry.key entry.nonce entry.plaintext :=
  fun ciphertext produced =>
    (symbolic ledger entry.key entry.nonce entry.plaintext ciphertext).mpr ⟨recorded, produced⟩

theorem Overhead.after {aead : Symbolic Key Nonce} {tag : Nat} (overhead : aead.Overhead tag)
    (ledger : List (Encryption Key Nonce)) : (aead.after ledger).Overhead tag := overhead

variable [DecidableEq Key] [DecidableEq Nonce]

/-- Opening by looking the pair up in the ledger. -/
def lookup (encrypt : Key → Nonce → List UInt8 → Option (List UInt8)) : Symbolic Key Nonce where
  encrypt := encrypt
  decrypt ledger key nonce ciphertext :=
    (ledger.find? fun entry =>
      entry.key = key ∧ entry.nonce = nonce ∧ encrypt key nonce entry.plaintext = some ciphertext)
      |>.map Encryption.plaintext

theorem lookup_opensProduced (encrypt : Key → Nonce → List UInt8 → Option (List UInt8))
    (injective : ∀ key nonce left right ciphertext, encrypt key nonce left = some ciphertext →
      encrypt key nonce right = some ciphertext → left = right) :
    (lookup encrypt).OpensProduced := by
  intro ledger key nonce plaintext ciphertext
  simp only [lookup, Option.map_eq_some_iff]
  constructor
  · rintro ⟨entry, found, rfl⟩
    have member := List.mem_of_find?_eq_some found
    have same := List.find?_some found
    simp only [decide_eq_true_eq] at same
    obtain ⟨rfl, rfl, produced⟩ := same
    exact ⟨member, produced⟩
  · rintro ⟨member, produced⟩
    cases found : ledger.find? fun entry =>
        entry.key = key ∧ entry.nonce = nonce ∧
          encrypt key nonce entry.plaintext = some ciphertext with
    | none =>
        have absent := List.find?_eq_none.mp found _ member
        simp [produced] at absent
    | some entry =>
        have same := List.find?_some found
        simp only [decide_eq_true_eq] at same
        exact ⟨entry, rfl, injective key nonce _ _ ciphertext same.2.2 produced⟩

end Symbolic

/-- The plaintext in clear, followed by a tag its key chooses. It hides
nothing and shows that the laws hold together. -/
def tagged (tag : Key → List UInt8) : Aead Key Nonce where
  encrypt key _ plaintext := some (plaintext ++ tag key)
  decrypt key _ ciphertext :=
    if tag key <:+ ciphertext then some (ciphertext.take (ciphertext.length - (tag key).length))
    else none

theorem tagged_exact (tag : Key → List UInt8) : (tagged tag : Aead Key Nonce).Exact := by
  intro key nonce plaintext ciphertext
  simp only [tagged, Option.some.injEq]
  constructor
  · intro opened
    split at opened
    · rename_i suffixed
      obtain ⟨head, rfl⟩ := suffixed
      simpa using opened.symm
    · cases opened
  · rintro rfl
    simp

theorem tagged_overhead (tag : Key → List UInt8) (width : Nat)
    (fixed : ∀ key, (tag key).length = width) : (tagged tag : Aead Key Nonce).Overhead width := by
  rintro key nonce plaintext ciphertext ⟨⟩
  rw [List.length_append, fixed]

theorem tagged_accepts (tag : Key → List UInt8) (limit : Nat) :
    (tagged tag : Aead Key Nonce).Accepts limit :=
  fun key _ plaintext _ => ⟨plaintext ++ tag key, rfl⟩

theorem tagged_rejectsElsewhere (tag : Key → List UInt8) (key : Key) (nonce : Nonce)
    (plaintext : List UInt8) (fixed : ∀ other, (tag other).length = (tag key).length)
    (apart : ∀ other, other ≠ key → tag other ≠ tag key) :
    (tagged tag : Aead Key Nonce).RejectsElsewhere key nonce plaintext := by
  rintro ciphertext ⟨⟩ other different
  simp only [tagged]
  rw [if_neg]
  rintro ⟨head, joined⟩
  exact apart other different (List.append_inj' joined (fixed other)).2

/-- A ciphertext in which the tag stands only at the end. -/
theorem tagged_rejectsPrefixes (tag : Key → List UInt8) (key : Key) (nonce : Nonce)
    (plaintext : List UInt8)
    (once : ∀ width < (plaintext ++ tag key).length,
      ¬ tag key <:+ (plaintext ++ tag key).take width) :
    (tagged tag : Aead Key Nonce).RejectsPrefixes key nonce plaintext := by
  rintro ciphertext ⟨⟩ front rest joined cut
  have positive := List.length_pos_iff.mpr cut
  have shorter : front.length < (plaintext ++ tag key).length := by
    rw [joined, List.length_append]
    omega
  have absent := once front.length shorter
  rw [joined, List.take_left] at absent
  exact if_neg absent

end Aead
