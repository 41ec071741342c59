import Mathlib
import IncokitE2ee.Keys

set_option autoImplicit false

/- The info strings of two entities never coincide. -/
namespace IncokitE2ee.KeyNamespace

/-- Decimal printing of an id, its sign included, determines the id. -/
theorem toString_id_injective {i j : Int64} (h : toString i = toString j) : i = j := by
  have printed : i.toInt.repr = j.toInt.repr := h
  exact Int64.toInt_inj.mp (Int.repr_injective printed)

theorem colon_not_mem_asStr (ns : KeyNamespace) : ':' ∉ ns.asStr.toList := by
  cases ns <;> decide

theorem asStr_injective {ns ns' : KeyNamespace} (h : ns.asStr = ns'.asStr) : ns = ns' := by
  revert h
  cases ns <;> cases ns' <;> decide

/-- Splitting at the first separator is unique. -/
theorem append_colon_inj {head head' tail tail' : List Char} (clean : ':' ∉ head)
    (clean' : ':' ∉ head') (h : head ++ ':' :: tail = head' ++ ':' :: tail') :
    head = head' ∧ tail = tail' := by
  rcases List.append_eq_append_iff.mp h with ⟨middle, longer, rest⟩ | ⟨middle, longer, rest⟩
  · cases middle with
    | nil => simpa [longer] using rest
    | cons char more =>
        have separator : char = ':' := by simpa using (List.cons.inj rest).1.symm
        exact absurd (by simp [longer, separator]) clean'
  · cases middle with
    | nil => simpa [longer, eq_comm] using rest
    | cons char more =>
        have separator : char = ':' := by simpa using (List.cons.inj rest).1.symm
        exact absurd (by simp [longer, separator]) clean

theorem info_profileSharing (id : Int64) :
    info .profileSharing id = "incokit-profile-sharing-v1" := by
  change "incokit-" ++ "profile-sharing-v1" = "incokit-profile-sharing-v1"
  decide

theorem info_idBearing (ns : KeyNamespace) (id : Int64) (bearing : ns.IdBearing) :
    ns.info id = "incokit-" ++ ns.asStr ++ ":" ++ toString id := by
  cases ns with
  | profileSharing => exact absurd rfl bearing
  | _ => rfl

/-- An info string with an id has a separator; the sharing one has none. -/
theorem colon_mem_info_iff (ns : KeyNamespace) (id : Int64) :
    ':' ∈ (ns.info id).toList ↔ ns.IdBearing := by
  constructor
  · rintro separated rfl
    rw [info_profileSharing] at separated
    revert separated
    decide
  · intro bearing
    rw [info_idBearing ns id bearing]
    simp [String.toList_append]

/-- Equal info strings come from one namespace, and from one id where there is one. -/
theorem info_injective {ns ns' : KeyNamespace} {i j : Int64} (h : ns.info i = ns'.info j) :
    ns = ns' ∧ (ns.IdBearing → i = j) := by
  by_cases bearing : ns.IdBearing
  · have bearing' : ns'.IdBearing := by
      rw [← colon_mem_info_iff ns' j, ← h]
      exact (colon_mem_info_iff ns i).mpr bearing
    rw [info_idBearing ns i bearing, info_idBearing ns' j bearing', ← String.toList_inj] at h
    simp only [String.toList_append, List.append_assoc, List.append_cancel_left_eq] at h
    have parts := append_colon_inj (colon_not_mem_asStr ns) (colon_not_mem_asStr ns') h
    have same := asStr_injective (String.toList_inj.mp parts.1)
    exact ⟨same, fun _ => toString_id_injective (String.toList_inj.mp parts.2)⟩
  · have bare' : ¬ ns'.IdBearing := by
      rw [← colon_mem_info_iff ns' j, ← h]
      exact fun separated => bearing ((colon_mem_info_iff ns i).mp separated)
    have sharing : ns = .profileSharing := not_not.mp bearing
    have sharing' : ns' = .profileSharing := not_not.mp bare'
    exact ⟨sharing.trans sharing'.symm, fun bad => absurd bad bearing⟩

theorem sharingInfo_eq (id : Int64) : Keys.sharingInfo = asBytes (info .profileSharing id) := by
  rw [info_profileSharing, Keys.sharingInfo]

/-- The id is ignored, and failures carry the same text. -/
theorem deriveSharingKey_eq_deriveKey (hkdf : Hkdf) (secret : Key) (id : Int64) :
    Keys.deriveSharingKey hkdf secret = deriveKey hkdf .profileSharing secret id := by
  cases expanded : hkdf.expand secret Keys.sharingInfo <;>
    simp only [Keys.deriveSharingKey, deriveKey, ← sharingInfo_eq id, expanded]

theorem asBytes_info_eq_iff (ns ns' : KeyNamespace) (i j : Int64) :
    asBytes (ns.info i) = asBytes (ns'.info j) ↔ ns = ns' ∧ (i = j ∨ ns = .profileSharing) := by
  constructor
  · intro same
    obtain ⟨namespaces, ids⟩ := info_injective (asBytes_injective same)
    refine ⟨namespaces, ?_⟩
    by_cases bearing : ns.IdBearing
    · exact .inl (ids bearing)
    · exact .inr (not_not.mp bearing)
  · rintro ⟨rfl, rfl | rfl⟩
    · rfl
    · rw [info_profileSharing, info_profileSharing]

/-- The strings that keys are derived with are apart for any two entities, and
from the one string of the sharing flow, in either of its spellings. -/
theorem derivation_strings_separate :
    (∀ (hkdf : Hkdf) (ns : KeyNamespace) (masterKey : Key) (id : Int64) (key : Key),
      ns.deriveKey hkdf masterKey id = .ok key ↔
        hkdf.expand masterKey (asBytes (ns.info id)) = .ok key) ∧
    (∀ (ns ns' : KeyNamespace) (i j : Int64),
      asBytes (ns.info i) = asBytes (ns'.info j) ↔ ns = ns' ∧ (i = j ∨ ns = .profileSharing)) ∧
    (∀ (hkdf : Hkdf) (secret : Key) (id : Int64),
      Keys.deriveSharingKey hkdf secret = deriveKey hkdf .profileSharing secret id) ∧
    (∀ (ns : KeyNamespace) (id : Int64), ns.IdBearing →
      asBytes (ns.info id) ≠ Keys.sharingInfo) := by
  refine ⟨deriveKey_eq_ok_iff, asBytes_info_eq_iff, deriveSharingKey_eq_deriveKey, ?_⟩
  intro ns id bearing same
  rw [sharingInfo_eq 0] at same
  exact bearing ((asBytes_info_eq_iff ns .profileSharing id 0).mp same).1

end IncokitE2ee.KeyNamespace
