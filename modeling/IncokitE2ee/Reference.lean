import IncokitE2ee.Base64
import IncokitE2ee.Crates

set_option autoImplicit false

/- Small instances of the other crates' functions, at which the behaviour the
proofs ask for holds together. None of them keeps anything secret. -/
namespace IncokitE2ee.Reference

/-- The key and the nonce that the instances are run at. -/
def key : Key := FixedBytes.fill 32 7

def nonce : Nonce := FixedBytes.fill 12 0

/-- The plaintext in clear under every key, and a tag that tells one key from
all the others. -/
def markedAead (marked : Key) : Aead Key Nonce :=
  Aead.tagged fun key => List.replicate 16 (if key = marked then 0 else 1)

theorem markedAead_exact (marked : Key) : (markedAead marked).Exact := Aead.tagged_exact _

theorem markedAead_overhead (marked : Key) : (markedAead marked).Overhead 16 :=
  Aead.tagged_overhead _ 16 (fun _ => List.length_replicate)

theorem markedAead_accepts (marked : Key) (limit : Nat) : (markedAead marked).Accepts limit :=
  Aead.tagged_accepts _ limit

theorem markedAead_rejectsElsewhere (marked : Key) (nonce : Nonce) (plaintext : Bytes) :
    (markedAead marked).RejectsElsewhere marked nonce plaintext := by
  apply Aead.tagged_rejectsElsewhere
  · intro other
    rw [List.length_replicate, List.length_replicate]
  · intro other different
    rw [if_neg different, if_pos rfl]
    decide

/-- The plaintext in clear with a constant tag, opened by lookup. -/
def symbolicAead : Aead.Symbolic Key Nonce :=
  Aead.Symbolic.lookup fun _ _ plaintext => some (plaintext ++ List.replicate 16 0)

theorem symbolicAead_opensProduced : symbolicAead.OpensProduced := by
  apply Aead.Symbolic.lookup_opensProduced
  intro key nonce left right ciphertext first second
  exact List.append_cancel_right (Option.some.inj (first.trans second.symm))

theorem symbolicAead_overhead : symbolicAead.Overhead 16 := by
  intro key nonce plaintext ciphertext produced
  rw [← Option.some.inj produced, List.length_append, List.length_replicate]

def base64 : Base64.Engine := Base64.Engine.rfc4648 "Invalid input"

theorem base64_standard : base64.Standard := Base64.Engine.rfc4648_standard _

/-- The secret is the key, whatever the info. -/
def secretHkdf : Hkdf where
  expand secret _ := .ok secret

theorem secretHkdf_total : secretHkdf.Total := fun secret _ => ⟨secret, rfl⟩

theorem secretHkdf_collisionFree (secrets : Key → Prop) (info : Bytes) :
    secretHkdf.CollisionFree secrets (· = info) := by
  rintro secret other _ _ key - - rfl rfl first second
  exact ⟨Except.ok.inj (first.trans second.symm), rfl⟩

/-- A 32-byte password is its own hash. -/
def passwordArgon2 : Argon2 where
  Params := Unit
  newParams _ _ _ _ := .ok ()
  hashPasswordInto _ _ _ password _ :=
    if width : password.length = 32 then .ok ⟨password, width⟩ else .ok (FixedBytes.fill 32 0)

/-- Agreement by bytewise product, with base point all ones. -/
def productX25519 : X25519 where
  publicKey mine := mine
  diffieHellman mine theirs :=
    ⟨List.zipWith (· * ·) mine.val theirs.val, by
      simp [mine.property, theirs.property]⟩

theorem productX25519_commutes : productX25519.Commutes := by
  intro a b
  apply Subtype.ext
  exact List.zipWith_comm_of_comm (fun x y => UInt8.mul_comm x y)

/-- The all-zero public key is of low order, as it is for the real curve. -/
theorem productX25519_lowOrder : productX25519.LowOrder (FixedBytes.fill 32 0) := by
  intro mine
  apply Subtype.ext
  apply List.eq_replicate_iff.mpr
  refine ⟨(productX25519.diffieHellman mine _).property, ?_⟩
  intro byte member
  obtain ⟨index, inside, rfl⟩ := List.getElem_of_mem member
  simp only [productX25519, FixedBytes.fill, List.getElem_zipWith, List.getElem_replicate,
    UInt8.mul_zero]

/-- The all-zero private key reaches the zero secret with every public key. -/
theorem productX25519_contributory : productX25519.Contributory := by
  intro theirs notLow
  obtain ⟨mine, contributes⟩ := Classical.not_forall.mp notLow
  refine ⟨mine, FixedBytes.fill 32 0, ?_⟩
  have zero := productX25519_lowOrder theirs
  have swapped := productX25519_commutes theirs (FixedBytes.fill 32 0)
  have zero' : productX25519.diffieHellman (FixedBytes.fill 32 0) theirs = FixedBytes.fill 32 0 :=
    swapped.symm.trans zero
  rw [zero']
  exact contributes

end IncokitE2ee.Reference
