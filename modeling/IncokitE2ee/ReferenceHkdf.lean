import IncokitE2ee.NamespaceInfo
import IncokitE2ee.Reference

set_option autoImplicit false

/- An expansion that keeps entities apart: the info string past its common
head, padded, and the front of the secret. -/
namespace IncokitE2ee.Reference

def pad (width : Nat) (bytes : Bytes) : Bytes := (bytes ++ List.replicate width 0).take width

theorem pad_length (width : Nat) (bytes : Bytes) : (pad width bytes).length = width := by
  simp [pad]

/-- Padding keeps a short byte string without zero bytes. -/
theorem filter_pad (width : Nat) (bytes : Bytes) (short : bytes.length ≤ width)
    (nonzero : 0 ∉ bytes) : (pad width bytes).filter (· ≠ 0) = bytes := by
  have kept : bytes.filter (· ≠ 0) = bytes := by
    apply List.filter_eq_self.mpr
    intro byte member
    simpa using fun (zero : byte = 0) => nonzero (zero ▸ member)
  rw [pad, List.take_append, List.take_of_length_le short, List.take_replicate, List.filter_append,
    kept, List.filter_replicate]
  simp

/-- The part of an info string after `incokit-`. -/
def infoTail (ns : KeyNamespace) (id : Int64) : List Char :=
  match ns with
  | .profileSharing => ns.asStr.toList
  | _ => ns.asStr.toList ++ ':' :: (toString id).toList

theorem info_eq (ns : KeyNamespace) (id : Int64) :
    ns.info id = "incokit-" ++ String.ofList (infoTail ns id) := by
  rw [← String.toList_inj]
  cases ns <;> simp [KeyNamespace.info, infoTail, String.toList_append]

theorem repr_chars (n : Nat) (char : Char) (member : char ∈ n.repr.toList) :
    0 < char.toNat ∧ char.toNat < 128 := by
  rw [Nat.toList_repr] at member
  have digit := Nat.isDigit_of_mem_toDigits (by decide) (by decide) member
  simp only [Char.isDigit, Bool.and_eq_true, decide_eq_true_eq] at digit
  have low : 48 ≤ char.toNat := digit.1
  have high : char.toNat ≤ 57 := digit.2
  omega

theorem repr_length (n : Nat) (bound : n < 10 ^ 19) : n.repr.toList.length ≤ 19 := by
  rw [Nat.toList_repr]
  exact (Nat.length_toDigits_le_iff (by decide) (by decide)).mpr bound

/-- A printed id is a sign at most and digits. -/
theorem toString_id_chars (id : Int64) :
    (toString id).toList.length ≤ 20 ∧
      ∀ char ∈ (toString id).toList, 0 < char.toNat ∧ char.toNat < 128 := by
  have lower := id.le_toInt
  have upper := id.toInt_lt
  change id.toInt.repr.toList.length ≤ 20 ∧
    ∀ char ∈ id.toInt.repr.toList, 0 < char.toNat ∧ char.toNat < 128
  cases printed : id.toInt with
  | ofNat n =>
      rw [printed, Int.ofNat_eq_natCast] at upper
      have short := repr_length n (by omega)
      exact ⟨show n.repr.toList.length ≤ 20 by omega, repr_chars n⟩
  | negSucc n =>
      rw [printed, Int.negSucc_eq] at lower
      have short := repr_length (n + 1) (by omega)
      have spelled : (Int.negSucc n).repr.toList = '-' :: (n + 1).repr.toList := by
        rw [Int.repr, String.toList_append]
        rfl
      rw [spelled]
      refine ⟨by simp only [List.length_cons]; omega, ?_⟩
      intro char member
      rcases List.mem_cons.mp member with rfl | digit
      · decide
      · exact repr_chars (n + 1) char digit

theorem asStr_chars (ns : KeyNamespace) :
    ns.asStr.toList.length ≤ 18 ∧ (ns.IdBearing → ns.asStr.toList.length ≤ 8) ∧
      ∀ char ∈ ns.asStr.toList, 0 < char.toNat ∧ char.toNat < 128 := by
  cases ns <;> simp [KeyNamespace.asStr, KeyNamespace.IdBearing]

theorem infoTail_chars (ns : KeyNamespace) (id : Int64) :
    (infoTail ns id).length ≤ 29 ∧
      ∀ char ∈ infoTail ns id, 0 < char.toNat ∧ char.toNat < 128 := by
  have names := asStr_chars ns
  have digits := toString_id_chars id
  by_cases bearing : ns.IdBearing
  · have shape : infoTail ns id = ns.asStr.toList ++ ':' :: (toString id).toList := by
      cases ns with
      | profileSharing => exact absurd rfl bearing
      | _ => rfl
    have short := names.2.1 bearing
    rw [shape]
    refine ⟨by simp only [List.length_append, List.length_cons]; omega, ?_⟩
    intro char member
    rcases List.mem_append.mp member with front | back
    · exact names.2.2 char front
    · rcases List.mem_cons.mp back with rfl | digit
      · decide
      · exact digits.2 char digit
  · have sharing : ns = .profileSharing := not_not.mp bearing
    subst sharing
    exact ⟨Nat.le_trans names.1 (by decide), names.2.2⟩

/-- The tail's bytes fit the padding and hold no zero. -/
theorem infoTail_bytes (ns : KeyNamespace) (id : Int64) :
    (asBytes (String.ofList (infoTail ns id))).length ≤ 29 ∧
      0 ∉ asBytes (String.ofList (infoTail ns id)) := by
  obtain ⟨short, chars⟩ := infoTail_chars ns id
  rw [asBytes_ascii _ (fun char member => (chars char member).2)]
  refine ⟨by rwa [List.length_map], ?_⟩
  intro zero
  obtain ⟨char, member, same⟩ := List.mem_map.mp zero
  obtain ⟨positive, ascii⟩ := chars char member
  have value := congrArg UInt8.toNat same
  simp only [UInt8.toNat_ofNat', UInt8.toNat_zero] at value
  omega

def packedHkdf : Hkdf where
  expand secret info :=
    .ok ⟨pad 29 (info.drop 8) ++ secret.val.take 3, by simp [pad_length, secret.property]⟩

/-- Secrets that differ in their first three bytes, and the info strings of all
namespaces and ids, never collide. -/
theorem packedHkdf_collisionFree (secrets : Key → Prop)
    (apart : ∀ secret other, secrets secret → secrets other →
      secret.val.take 3 = other.val.take 3 → secret = other) :
    packedHkdf.CollisionFree secrets
      (fun info => ∃ (ns : KeyNamespace) (id : Int64), asBytes (ns.info id) = info) := by
  rintro secret other _ _ key known known' ⟨ns, id, rfl⟩ ⟨ns', id', rfl⟩ first second
  have same := congrArg Subtype.val (Except.ok.inj (first.trans second.symm))
  obtain ⟨infos, fronts⟩ := List.append_inj same (by rw [pad_length, pad_length])
  refine ⟨apart secret other known known' fronts, ?_⟩
  have head : (asBytes "incokit-").length = 8 := by decide
  have tails := infoTail_bytes ns id
  have tails' := infoTail_bytes ns' id'
  simp only [info_eq, asBytes_append, List.drop_left' head] at infos
  have filtered := congrArg (List.filter (· ≠ 0)) infos
  rw [filter_pad 29 _ tails.1 tails.2, filter_pad 29 _ tails'.1 tails'.2] at filtered
  rw [info_eq, info_eq, asBytes_append, asBytes_append, filtered]

/-- No info string of the crate is expanded to the zero key. -/
theorem packedHkdf_ne_zero (secret : Key) (ns : KeyNamespace) (id : Int64) :
    packedHkdf.expand secret (asBytes (ns.info id)) ≠ .ok (FixedBytes.fill 32 0) := by
  intro expanded
  have bytes := congrArg Subtype.val (Except.ok.inj expanded)
  have zeros : List.replicate 32 (0 : UInt8) = List.replicate 29 0 ++ List.replicate 3 0 := rfl
  have front : pad 29 ((asBytes (ns.info id)).drop 8) = List.replicate 29 0 := by
    refine (List.append_inj (bytes.trans zeros) ?_).1
    rw [pad_length, List.length_replicate]
  have head : (asBytes "incokit-").length = 8 := by decide
  have tail := infoTail_bytes ns id
  rw [info_eq, asBytes_append, List.drop_left' head] at front
  have kept := filter_pad 29 _ tail.1 tail.2
  rw [front] at kept
  have empty : asBytes (String.ofList (infoTail ns id)) = asBytes "" := kept.symm
  have chars := congrArg String.toList (asBytes_injective empty)
  rw [String.toList_ofList] at chars
  cases ns <;> simp [infoTail, KeyNamespace.asStr] at chars

end IncokitE2ee.Reference
