import IncokitE2ee.Panicking
import IncokitE2ee.SealedWire

set_option autoImplicit false

/- A sealed text that was cut, or that is read under another key, fails in the
layer that broke. -/
namespace IncokitE2ee.Sealed

/-- The error of a sealed text cut to `width` characters: the prefix, then the
quanta, then the nonce and the tag, then the authentication. -/
def CutError (width : Nat) (error : CryptoError) : Prop :=
  if width < 5 then error = .missingE2eePrefix
  else if (width - 5) % 4 ≠ 0 then ∃ message, error = .base64 message
  else if width - 5 ≤ 36 then error = .ciphertextTooShort 28 (3 * (width - 5) / 4)
  else error = .decrypt

variable (aead : Aead Key Nonce) (base64 : Base64.Engine)

structure Refused (key : Key) (text : String) (error : CryptoError) : Prop where
  string : unsealString aead base64 key text = .error error
  lenient : tryUnsealString aead base64 key text = .error error
  json : ∀ (T : Type) (json : SerdeJson T), unsealJson aead base64 json key text = .error error
  lenientJson : ∀ (T : Type) (json : SerdeJson T),
    tryUnsealJson aead base64 json key text = .error error

theorem refused_of_unsealBytes {key : Key} {text : String} {error : CryptoError}
    (sealed : startsWith e2eePrefix text = true)
    (refused : unsealBytes aead base64 key text = .error error) :
    Refused aead base64 key text error := by
  have string : unsealString aead base64 key text = .error error := by
    rw [unsealString, refused, bind_error]
  have lenient : tryUnsealString aead base64 key text = .error error := by
    rw [tryUnsealString_prefixed aead base64 key text sealed, string]
  refine ⟨string, lenient, ?_, ?_⟩
  · intro T json
    rw [unsealJson, string, bind_error]
  · intro T json
    rw [tryUnsealJson, lenient, bind_error]

theorem length_prefixed (b64 : String) : (e2eePrefix ++ b64).length = b64.length + 5 := by
  rw [String.length_append, Nat.add_comm]
  rfl

theorem exists_front_of_cut {body cut rest : String} (joined : e2eePrefix ++ body = cut ++ rest)
    (long : 5 ≤ cut.length) : ∃ front, cut = e2eePrefix ++ front ∧ body = front ++ rest := by
  have chars : e2eePrefix.toList ++ body.toList = cut.toList ++ rest.toList := by
    rw [← String.toList_append, ← String.toList_append, joined]
  have width : e2eePrefix.toList.length ≤ cut.toList.length := by
    rw [String.length_toList]
    exact long
  obtain ⟨front, split⟩ := List.prefix_of_prefix_length_le
    (List.prefix_append _ body.toList) (chars ▸ List.prefix_append cut.toList rest.toList) width
  have whole : cut = e2eePrefix ++ String.ofList front := by
    rw [← String.toList_inj, String.toList_append, String.toList_ofList, split]
  refine ⟨String.ofList front, whole, ?_⟩
  rw [← split, List.append_assoc] at chars
  rw [← String.toList_inj, String.toList_append, String.toList_ofList]
  exact List.append_cancel_left chars

theorem unprefixed_of_short {cut : String} (short : cut.length < 5) :
    startsWith e2eePrefix cut = false := by
  cases starts : startsWith e2eePrefix cut with
  | false => rfl
  | true =>
      obtain ⟨front, rfl⟩ := (startsWith_iff e2eePrefix cut).mp starts
      rw [length_prefixed] at short
      omega

/-- A proper beginning of `nonce || ciphertext` is too short, or it keeps the
nonce and does not open. -/
theorem decrypt_beginning {key : Key} {nonce : Nonce} {plaintext raw : Bytes}
    (rejects : aead.RejectsPrefixes key nonce plaintext)
    (encrypted : Encryption.encrypt aead key nonce plaintext = .ok raw) (width : Nat)
    (shorter : width < raw.length) :
    Encryption.decrypt aead key (raw.take width) =
      if width < 28 then .error (.ciphertextTooShort 28 width) else .error .decrypt := by
  have length : (raw.take width).length = width := by
    rw [List.length_take]
    omega
  by_cases short : width < 28
  · rw [if_pos short, Encryption.decrypt_short aead key _ (by omega), length]
  · obtain ⟨ciphertext, produced, rfl⟩ :=
      (Encryption.encrypt_eq_ok_iff aead key nonce plaintext raw).mp encrypted
    have nonceWidth := nonce.property
    rw [List.length_append] at shorter
    have front : (nonce.val ++ ciphertext).take width =
        nonce.val ++ ciphertext.take (width - 12) := by
      rw [List.take_append, nonceWidth, List.take_of_length_le (by omega)]
    -- What is left behind the nonce is a proper beginning of the ciphertext.
    have refused := rejects ciphertext produced (ciphertext.take (width - 12))
      (ciphertext.drop (width - 12)) (List.take_append_drop _ _).symm (by
        rw [← List.length_pos_iff, List.length_drop]
        omega)
    rw [if_neg short, front, Encryption.decrypt_append aead key nonce _ (by
      rw [List.length_take]
      omega), refused]

theorem unsealBytes_cut (standard : base64.Standard) {key : Key} {nonce : Nonce}
    {plaintext raw : Bytes} (rejects : aead.RejectsPrefixes key nonce plaintext)
    (encrypted : Encryption.encrypt aead key nonce plaintext = .ok raw) {front rest : String}
    (joined : base64.encode raw = front ++ rest) (cut : rest ≠ "") :
    ∃ error, unsealBytes aead base64 key (e2eePrefix ++ front) = .error error ∧
      CutError (front.length + 5) error := by
  rw [unsealBytes_prefixed]
  have long : ¬ front.length + 5 < 5 := by omega
  by_cases whole : front.length % 4 = 0
  · obtain ⟨decoded, shorter⟩ := standard.decode_beginning joined cut whole
    have opened := decrypt_beginning aead rejects encrypted _ shorter
    have bytes : 3 * front.length / 4 = 3 * (front.length / 4) := by omega
    rw [decoded]
    simp only [opened, CutError, if_neg long, Nat.add_sub_cancel, whole, ne_eq, not_true_eq_false,
      if_false]
    -- 36 characters are 27 bytes, one short of a nonce and a tag.
    by_cases short : front.length ≤ 36
    · have few : 3 * (front.length / 4) < 28 := by omega
      exact ⟨_, if_pos few, by rw [if_pos short, bytes]⟩
    · have enough : ¬ 3 * (front.length / 4) < 28 := by omega
      exact ⟨_, if_neg enough, by rw [if_neg short]⟩
  · obtain ⟨message, refused⟩ := standard.decode_broken front whole
    refine ⟨.base64 message, by rw [refused], ?_⟩
    simp only [CutError, if_neg long, Nat.add_sub_cancel, ne_eq, whole, not_false_eq_true, if_true]
    exact ⟨message, rfl⟩

/-- Every proper beginning of a sealed text fails with the error of the layer
it was cut in, and the whole text fails to decrypt under every other key. -/
theorem truncation_located (overhead : aead.Overhead 16) (standard : base64.Standard)
    (key : Key) (nonce : Nonce) (plaintext stored : String)
    (sealing : sealString aead base64 key nonce plaintext = .ok stored)
    (rejectsPrefixes : aead.RejectsPrefixes key nonce (asBytes plaintext))
    (rejectsElsewhere : aead.RejectsElsewhere key nonce (asBytes plaintext)) :
    (∀ cut rest, stored = cut ++ rest → rest ≠ "" →
      ∃ error, CutError cut.length error ∧ unsealString aead base64 key cut = .error error ∧
        (5 ≤ cut.length → Refused aead base64 key cut error)) ∧
    (∀ other, other ≠ key → Refused aead base64 other stored .decrypt) ∧
    (∀ reading text,
      unsealStringOrPanic aead base64 reading text =
        some (unsealString aead base64 reading text) ∧
      tryUnsealStringOrPanic aead base64 reading text =
        some (tryUnsealString aead base64 reading text) ∧
      ∀ (T : Type) (json : SerdeJson T),
        unsealJsonOrPanic aead base64 json reading text =
          some (unsealJson aead base64 json reading text) ∧
        tryUnsealJsonOrPanic aead base64 json reading text =
          some (tryUnsealJson aead base64 json reading text)) := by
  have sealed := sealString_startsWith aead base64 sealing
  obtain ⟨raw, encrypted, rfl⟩ := (sealBytes_eq_ok_iff aead base64 key nonce _ stored).mp sealing
  refine ⟨?_, ?_, ?_⟩
  · intro cut rest joined proper
    by_cases short : cut.length < 5
    · refine ⟨.missingE2eePrefix, by rw [CutError, if_pos short],
        unsealString_unprefixed aead base64 key cut (unprefixed_of_short short), ?_⟩
      intro long
      omega
    · obtain ⟨front, rfl, body⟩ := exists_front_of_cut joined (Nat.le_of_not_lt short)
      obtain ⟨error, refused, located⟩ :=
        unsealBytes_cut aead base64 standard rejectsPrefixes encrypted body proper
      have every := refused_of_unsealBytes aead base64
        ((startsWith_iff e2eePrefix _).mpr ⟨front, rfl⟩) refused
      rw [← length_prefixed] at located
      exact ⟨error, located, every.string, fun _ => every⟩
  · intro other different
    apply refused_of_unsealBytes aead base64 sealed
    rw [← wire, unsealBytes_wire aead base64 standard]
    exact Encryption.decrypt_other_key aead overhead rejectsElsewhere encrypted different
  · intro reading text
    exact ⟨unsealStringOrPanic_eq aead base64 reading text,
      tryUnsealStringOrPanic_eq aead base64 reading text, fun T json =>
        ⟨unsealJsonOrPanic_eq aead base64 json reading text,
          tryUnsealJsonOrPanic_eq aead base64 json reading text⟩⟩

/-- The tag of the reference AEAD does not stand inside this ciphertext. -/
theorem markedAead_rejectsPrefixes :
    (Reference.markedAead Reference.key).RejectsPrefixes Reference.key Reference.nonce
      (asBytes "integrity matters") := by
  apply Aead.tagged_rejectsPrefixes
  decide

/-- A row cut down to its prefix reads as a ciphertext of no bytes. -/
theorem truncation_located_prefix :
    ∃ error, CutError 5 error ∧
      unsealString (Reference.markedAead Reference.key) Reference.base64 Reference.key
        e2eePrefix = .error error ∧
      (5 ≤ 5 → Refused (Reference.markedAead Reference.key) Reference.base64 Reference.key
        e2eePrefix error) :=
  (truncation_located _ _ (Reference.markedAead_overhead _) Reference.base64_standard
    Reference.key Reference.nonce "integrity matters" _ sealString_sample
    markedAead_rejectsPrefixes
    (Reference.markedAead_rejectsElsewhere _ _ _)).1 e2eePrefix sampleBody rfl (by decide)

end IncokitE2ee.Sealed
