import IncokitE2ee.Keys
import IncokitE2ee.Reference

set_option autoImplicit false

/- The sharing path from stored keys to an opened envelope, and which private
keys open an envelope. -/
namespace IncokitE2ee.Keys

variable (aead : Aead Key Nonce) (hkdf : Hkdf) (x25519 : X25519)

theorem encryptBlobForSharing_eq_ok_iff (mine theirs : Key) (nonce : Nonce)
    (plaintext blob : Bytes) :
    encryptBlobForSharing aead hkdf x25519 mine theirs nonce plaintext = .ok blob ↔
      ∃ key, deriveSharingKey hkdf (x25519.diffieHellman mine theirs) = .ok key ∧
        Encryption.encrypt aead key nonce plaintext = .ok blob :=
  bind_eq_ok_iff _ _ _

theorem decryptSharedBlob_eq_ok_iff (mine theirs : Key) (blob plaintext : Bytes) :
    decryptSharedBlob aead hkdf x25519 mine theirs blob = .ok plaintext ↔
      ∃ key, deriveSharingKey hkdf (x25519.diffieHellman mine theirs) = .ok key ∧
        Encryption.decrypt aead key blob = .ok plaintext :=
  bind_eq_ok_iff _ _ _

theorem decryptSharedProfileKey_eq_ok_iff (mine theirs : Key) (blob : Bytes) (profileKey : Key) :
    decryptSharedProfileKey aead hkdf x25519 mine theirs blob = .ok profileKey ↔
      decryptSharedBlob aead hkdf x25519 mine theirs blob = .ok profileKey.val := by
  rw [decryptSharedProfileKey, bind_eq_ok_iff]
  simp only [Encryption.toKey_eq_ok_iff, exists_eq_right]

/-- The envelope opens for whoever reaches the sealer's secret. -/
theorem decryptSharedBlob_same_secret (inverts : aead.Inverts) (overhead : aead.Overhead 16)
    {mine theirs mine' theirs' : Key} {nonce : Nonce} {plaintext blob : Bytes}
    (sealing : encryptBlobForSharing aead hkdf x25519 mine theirs nonce plaintext = .ok blob)
    (same : x25519.diffieHellman mine' theirs' = x25519.diffieHellman mine theirs) :
    decryptSharedBlob aead hkdf x25519 mine' theirs' blob = .ok plaintext := by
  obtain ⟨key, derived, encrypted⟩ :=
    (encryptBlobForSharing_eq_ok_iff aead hkdf x25519 mine theirs nonce plaintext blob).mp sealing
  apply (decryptSharedBlob_eq_ok_iff aead hkdf x25519 mine' theirs' blob plaintext).mpr
  exact ⟨key, by rw [same, derived],
    Encryption.decrypt_encrypt aead overhead (inverts key nonce plaintext) encrypted⟩

/-- The AEAD rejects this one envelope under every key but its own. -/
def EnvelopeRejectsElsewhere (mine theirs : Key) (nonce : Nonce) (plaintext : Bytes) : Prop :=
  ∀ key, deriveSharingKey hkdf (x25519.diffieHellman mine theirs) = .ok key →
    aead.RejectsElsewhere key nonce plaintext

/-- It opens for exactly those key pairs, and then to what was sealed. -/
theorem decryptSharedBlob_eq_ok_iff_secret (inverts : aead.Inverts) (overhead : aead.Overhead 16)
    (injective : hkdf.CollisionFree (fun _ => True) (· = sharingInfo))
    {mine theirs : Key} {nonce : Nonce} {plaintext blob : Bytes}
    (rejects : EnvelopeRejectsElsewhere aead hkdf x25519 mine theirs nonce plaintext)
    (sealing : encryptBlobForSharing aead hkdf x25519 mine theirs nonce plaintext = .ok blob)
    (mine' theirs' : Key) (opened : Bytes) :
    decryptSharedBlob aead hkdf x25519 mine' theirs' blob = .ok opened ↔
      x25519.diffieHellman mine' theirs' = x25519.diffieHellman mine theirs ∧
        opened = plaintext := by
  obtain ⟨key, derived, encrypted⟩ :=
    (encryptBlobForSharing_eq_ok_iff aead hkdf x25519 mine theirs nonce plaintext blob).mp sealing
  constructor
  · intro success
    obtain ⟨key', derived', decrypted⟩ :=
      (decryptSharedBlob_eq_ok_iff aead hkdf x25519 mine' theirs' blob opened).mp success
    by_cases sameKey : key' = key
    · subst sameKey
      have expected := Encryption.decrypt_encrypt aead overhead (inverts key' nonce plaintext)
        encrypted
      rw [decrypted] at expected
      exact ⟨deriveSharingKey_injective hkdf injective trivial trivial derived' derived,
        Except.ok.inj expected⟩
    · rw [Encryption.decrypt_other_key aead overhead (rejects key derived) encrypted sameKey]
        at decrypted
      cases decrypted
  · rintro ⟨same, rfl⟩
    exact decryptSharedBlob_same_secret aead hkdf x25519 inverts overhead sealing same

theorem exists_encryptBlobForSharing {limit : Nat} (accepts : aead.Accepts limit)
    (total : hkdf.Total) (mine theirs : Key) (nonce : Nonce) (plaintext : Bytes)
    (within : plaintext.length ≤ limit) :
    ∃ blob, encryptBlobForSharing aead hkdf x25519 mine theirs nonce plaintext = .ok blob := by
  obtain ⟨key, derived⟩ := exists_deriveSharingKey hkdf total (x25519.diffieHellman mine theirs)
  obtain ⟨ciphertext, encrypted⟩ := accepts key nonce plaintext within
  exact ⟨_, (encryptBlobForSharing_eq_ok_iff aead hkdf x25519 mine theirs nonce plaintext _).mpr
    ⟨key, derived, (Encryption.encrypt_eq_ok_iff aead key nonce plaintext _).mpr
      ⟨ciphertext, encrypted, rfl⟩⟩⟩

/-- A private key through the server: wrapped, stored, unwrapped. -/
def restorePrivateKey (masterKey : Key) (nonce : Nonce) (privateKey : Key) : CryptoResult Key := do
  let stored ← encryptPrivateKey aead masterKey nonce privateKey
  decryptPrivateKey aead masterKey stored

/-- A profile key through the server. -/
def restoreProfileKey (masterKey : Key) (nonce : Nonce) (profileKey : Key) : CryptoResult Key := do
  let stored ← wrapProfileKeyWithMaster aead masterKey nonce profileKey
  unwrapProfileKeyWithMaster aead masterKey stored

/-- Encrypting and decrypting a key under one key gives the key back. -/
theorem encrypt_decrypt_toKey (inverts : aead.Inverts) (overhead : aead.Overhead 16)
    {limit : Nat} (accepts : aead.Accepts limit) (roomy : 32 ≤ limit) (wrappingKey : Key)
    (nonce : Nonce) (payload : Key) :
    (do
      let stored ← Encryption.encrypt aead wrappingKey nonce payload.val
      let plaintext ← Encryption.decrypt aead wrappingKey stored
      Encryption.toKey plaintext) = .ok payload := by
  obtain ⟨ciphertext, encrypted⟩ := accepts wrappingKey nonce payload.val
    (by rw [payload.property]; exact roomy)
  have sealing := (Encryption.encrypt_eq_ok_iff aead wrappingKey nonce payload.val _).mpr
    ⟨ciphertext, encrypted, rfl⟩
  rw [sealing, bind_ok]
  exact Encryption.decrypt_toKey_encrypt aead overhead (inverts wrappingKey nonce payload.val)
    sealing

theorem restorePrivateKey_eq (inverts : aead.Inverts) (overhead : aead.Overhead 16)
    {limit : Nat} (accepts : aead.Accepts limit) (roomy : 32 ≤ limit) (masterKey : Key)
    (nonce : Nonce) (privateKey : Key) :
    restorePrivateKey aead masterKey nonce privateKey = .ok privateKey :=
  encrypt_decrypt_toKey aead inverts overhead accepts roomy masterKey nonce privateKey

theorem restoreProfileKey_eq (inverts : aead.Inverts) (overhead : aead.Overhead 16)
    {limit : Nat} (accepts : aead.Accepts limit) (roomy : 32 ≤ limit) (masterKey : Key)
    (nonce : Nonce) (profileKey : Key) :
    restoreProfileKey aead masterKey nonce profileKey = .ok profileKey :=
  encrypt_decrypt_toKey aead inverts overhead accepts roomy masterKey nonce profileKey

/-- The sharing path over stored keys: it gives the profile key and the payload
back, and the payload's envelope opens for exactly the holders of the secret. -/
theorem sharing_path (inverts : aead.Inverts) (overhead : aead.Overhead 16) (limit : Nat)
    (accepts : aead.Accepts limit) (roomy : 32 ≤ limit) (total : hkdf.Total)
    (injective : hkdf.CollisionFree (fun _ => True) (· = sharingInfo)) (commutes : x25519.Commutes)
    (a b ownerMaster recipientMaster profileKey : Key)
    (ownerNonce recipientNonce profileNonce keyNonce blobNonce : Nonce) (payload : Bytes)
    (rejects : EnvelopeRejectsElsewhere aead hkdf x25519 a (x25519.publicKey b) blobNonce payload) :
    ∃ owner recipient shared,
      restorePrivateKey aead ownerMaster ownerNonce a = .ok owner ∧
      restorePrivateKey aead recipientMaster recipientNonce b = .ok recipient ∧
      restoreProfileKey aead ownerMaster profileNonce profileKey = .ok shared ∧
      (∃ envelope,
        encryptProfileKeyForSharing aead hkdf x25519 owner (x25519.publicKey b) keyNonce shared =
          .ok envelope ∧
        decryptSharedProfileKey aead hkdf x25519 recipient (x25519.publicKey a) envelope =
          .ok profileKey) ∧
      (payload.length ≤ limit → ∃ envelope,
        encryptBlobForSharing aead hkdf x25519 owner (x25519.publicKey b) blobNonce payload =
          .ok envelope) ∧
      ∀ envelope,
        encryptBlobForSharing aead hkdf x25519 owner (x25519.publicKey b) blobNonce payload =
          .ok envelope →
        decryptSharedBlob aead hkdf x25519 recipient (x25519.publicKey a) envelope = .ok payload ∧
        ∀ mine theirs,
          ((∃ opened, decryptSharedBlob aead hkdf x25519 mine theirs envelope = .ok opened) ↔
            x25519.diffieHellman mine theirs = x25519.diffieHellman a (x25519.publicKey b)) ∧
          ∀ opened, decryptSharedBlob aead hkdf x25519 mine theirs envelope = .ok opened →
            opened = payload := by
  have symmetric := commutes b a
  refine ⟨a, b, profileKey,
    restorePrivateKey_eq aead inverts overhead accepts roomy ownerMaster ownerNonce a,
    restorePrivateKey_eq aead inverts overhead accepts roomy recipientMaster recipientNonce b,
    restoreProfileKey_eq aead inverts overhead accepts roomy ownerMaster profileNonce profileKey,
    ?_, ?_, ?_⟩
  · obtain ⟨envelope, sealing⟩ := exists_encryptBlobForSharing aead hkdf x25519 accepts total a
      (x25519.publicKey b) keyNonce profileKey.val (by rw [profileKey.property]; exact roomy)
    refine ⟨envelope, sealing, ?_⟩
    apply (decryptSharedProfileKey_eq_ok_iff aead hkdf x25519 _ _ envelope profileKey).mpr
    exact decryptSharedBlob_same_secret aead hkdf x25519 inverts overhead sealing symmetric
  · exact exists_encryptBlobForSharing aead hkdf x25519 accepts total a _ blobNonce payload
  · intro envelope sealing
    have opens := decryptSharedBlob_eq_ok_iff_secret aead hkdf x25519 inverts overhead injective
      rejects sealing
    refine ⟨(opens b _ payload).mpr ⟨symmetric, rfl⟩, ?_⟩
    intro mine theirs
    refine ⟨⟨?_, ?_⟩, ?_⟩
    · rintro ⟨opened, success⟩
      exact ((opens mine theirs opened).mp success).1
    · intro same
      exact ⟨payload, (opens mine theirs payload).mpr ⟨same, rfl⟩⟩
    · intro opened success
      exact ((opens mine theirs opened).mp success).2

section ReferenceKeys

/-- Two private keys whose agreement is the reference key. -/
def ownerPrivate : Key := Reference.key

def recipientPrivate : Key := FixedBytes.fill 32 1

theorem reference_secret :
    Reference.productX25519.diffieHellman ownerPrivate
      (Reference.productX25519.publicKey recipientPrivate) = Reference.key := by
  decide

/-- At the reference instances the key of an envelope is its secret. -/
theorem reference_rejects (mine theirs : Key) (nonce : Nonce) (payload : Bytes) :
    EnvelopeRejectsElsewhere
      (Reference.markedAead (Reference.productX25519.diffieHellman mine theirs))
      Reference.secretHkdf Reference.productX25519 mine theirs nonce payload := by
  intro key derived
  have secret := (deriveSharingKey_eq_ok_iff Reference.secretHkdf _ key).mp derived
  rw [← Except.ok.inj secret]
  exact Reference.markedAead_rejectsElsewhere _ nonce payload

theorem sharing_path_reference :
    ∃ envelope,
      encryptBlobForSharing (Reference.markedAead Reference.key) Reference.secretHkdf
        Reference.productX25519 ownerPrivate recipientPrivate Reference.nonce [1, 2, 3] =
          .ok envelope ∧
      decryptSharedBlob (Reference.markedAead Reference.key) Reference.secretHkdf
        Reference.productX25519 recipientPrivate ownerPrivate envelope = .ok [1, 2, 3] := by
  have rejects := reference_rejects ownerPrivate
    (Reference.productX25519.publicKey recipientPrivate) Reference.nonce [1, 2, 3]
  rw [reference_secret] at rejects
  obtain ⟨owner, recipient, shared, restored, restored', -, -, sealable, opens⟩ :=
    sharing_path _ _ _ (Reference.markedAead_exact Reference.key).inverts
      (Reference.markedAead_overhead _) 64 (Reference.markedAead_accepts _ 64) (by decide)
      Reference.secretHkdf_total (Reference.secretHkdf_collisionFree _ _)
      Reference.productX25519_commutes ownerPrivate recipientPrivate Reference.key Reference.key
      Reference.key Reference.nonce Reference.nonce Reference.nonce Reference.nonce
      Reference.nonce [1, 2, 3] rejects
  obtain ⟨envelope, sealing⟩ := sealable (by decide)
  have opened := (opens envelope sealing).1
  cases Except.ok.inj (restored.symm.trans (restorePrivateKey_eq _
    (Reference.markedAead_exact _).inverts (Reference.markedAead_overhead _)
    (Reference.markedAead_accepts _ 64) (by decide) _ _ _))
  cases Except.ok.inj (restored'.symm.trans (restorePrivateKey_eq _
    (Reference.markedAead_exact _).inverts (Reference.markedAead_overhead _)
    (Reference.markedAead_accepts _ 64) (by decide) _ _ _))
  exact ⟨envelope, sealing, opened⟩

end ReferenceKeys

/-- The envelope depends on a secret unless the recipient's public key is of
low order: the agreement is used without a contributory check. -/
theorem envelope_secret_iff (inverts : aead.Inverts) (overhead : aead.Overhead 16)
    (injective : hkdf.CollisionFree (fun _ => True) (· = sharingInfo))
    (contributory : x25519.Contributory) (senderPrivate recipientPublic : Key) (nonce : Nonce)
    (plaintext blob : Bytes)
    (rejects : EnvelopeRejectsElsewhere aead hkdf x25519 senderPrivate recipientPublic nonce
      plaintext)
    (sealing : encryptBlobForSharing aead hkdf x25519 senderPrivate recipientPublic nonce
      plaintext = .ok blob) :
    (∃ mine, decryptSharedBlob aead hkdf x25519 mine recipientPublic blob ≠ .ok plaintext) ↔
      ¬ x25519.LowOrder recipientPublic := by
  constructor
  · rintro ⟨mine, refused⟩ low
    apply refused
    apply decryptSharedBlob_same_secret aead hkdf x25519 inverts overhead sealing
    exact (low mine).trans (low senderPrivate).symm
  · intro notLow
    obtain ⟨mine, other, apart⟩ := contributory recipientPublic notLow
    apply Classical.byContradiction
    intro allOpen
    have secrets : ∀ anyone, x25519.diffieHellman anyone recipientPublic =
        x25519.diffieHellman senderPrivate recipientPublic := by
      intro anyone
      have opened := Classical.not_not.mp (not_exists.mp allOpen anyone)
      exact ((decryptSharedBlob_eq_ok_iff_secret aead hkdf x25519 inverts overhead injective
        rejects sealing anyone recipientPublic plaintext).mp opened).1
    exact apart ((secrets mine).trans (secrets other).symm)

/-- The owner's envelope for a recipient whose public key is of full order. -/
theorem envelope_secret_recipient :
    ∃ mine, decryptSharedBlob
      (Reference.markedAead (Reference.productX25519.diffieHellman ownerPrivate recipientPrivate))
      Reference.secretHkdf Reference.productX25519 mine recipientPrivate
      (Reference.nonce.val ++ ([1, 2, 3] ++ List.replicate 16 0)) ≠ .ok [1, 2, 3] := by
  apply (envelope_secret_iff _ _ _ (Reference.markedAead_exact _).inverts
    (Reference.markedAead_overhead _) (Reference.secretHkdf_collisionFree _ _)
    Reference.productX25519_contributory ownerPrivate recipientPrivate Reference.nonce [1, 2, 3] _
    (reference_rejects ownerPrivate recipientPrivate Reference.nonce [1, 2, 3]) rfl).mpr
  intro low
  exact absurd (low recipientPrivate) (by decide)

/-- A server that hands out 32 zero bytes as the recipient's public key makes an
envelope that every private key opens. -/
theorem zero_public_key_opens_for_everyone :
    (Reference.markedAead Reference.key).Inverts ∧ Reference.productX25519.Commutes ∧
    Reference.productX25519.LowOrder (FixedBytes.fill 32 0) ∧
    ¬ ∀ (senderPrivate recipientPublic : Key) (nonce : Nonce) (plaintext blob : Bytes),
      encryptBlobForSharing (Reference.markedAead Reference.key) Reference.secretHkdf
        Reference.productX25519 senderPrivate recipientPublic nonce plaintext = .ok blob →
      ∃ mine, decryptSharedBlob (Reference.markedAead Reference.key) Reference.secretHkdf
        Reference.productX25519 mine recipientPublic blob ≠ .ok plaintext := by
  refine ⟨(Reference.markedAead_exact _).inverts, Reference.productX25519_commutes,
    Reference.productX25519_lowOrder, ?_⟩
  intro dependent
  have low := Reference.productX25519_lowOrder
  have sealing : encryptBlobForSharing (Reference.markedAead Reference.key) Reference.secretHkdf
      Reference.productX25519 ownerPrivate (FixedBytes.fill 32 0) Reference.nonce [1, 2, 3] =
        .ok (Reference.nonce.val ++ ([1, 2, 3] ++ List.replicate 16 1)) := by
    rw [encryptBlobForSharing, x25519DiffieHellman, low ownerPrivate]
    rfl
  obtain ⟨mine, refused⟩ := dependent ownerPrivate (FixedBytes.fill 32 0) Reference.nonce
    [1, 2, 3] _ sealing
  apply refused
  exact decryptSharedBlob_same_secret _ _ _ (Reference.markedAead_exact _).inverts
    (Reference.markedAead_overhead _) sealing ((low mine).trans (low ownerPrivate).symm)

end IncokitE2ee.Keys
