import IncokitE2ee.Crates
import IncokitE2ee.Error

set_option autoImplicit false

/- `namespace.rs`: HKDF key derivation for each entity, by namespace and id. -/
namespace IncokitE2ee

inductive KeyNamespace where
  | profile
  | proxy
  | session
  | bookmark
  | profileSharing
  deriving DecidableEq

namespace KeyNamespace

/-- The `{namespace}` segment of the info string. -/
def asStr : KeyNamespace → String
  | .profile => "profile"
  | .proxy => "proxy"
  | .session => "session"
  | .bookmark => "bookmark"
  | .profileSharing => "profile-sharing-v1"

/-- The HKDF info string. The sharing namespace has no id suffix. -/
def info (ns : KeyNamespace) (id : Int64) : String :=
  match ns with
  | .profileSharing => "incokit-" ++ ns.asStr
  | _ => "incokit-" ++ ns.asStr ++ ":" ++ toString id

def deriveKey (hkdf : Hkdf) (ns : KeyNamespace) (masterKey : Key) (id : Int64) :
    CryptoResult Key :=
  match hkdf.expand masterKey (asBytes (ns.info id)) with
  | .error message => .error (.hkdf message)
  | .ok key => .ok key

theorem deriveKey_eq_ok_iff (hkdf : Hkdf) (ns : KeyNamespace) (masterKey : Key) (id : Int64)
    (key : Key) : deriveKey hkdf ns masterKey id = .ok key ↔
      hkdf.expand masterKey (asBytes (ns.info id)) = .ok key := by
  rw [deriveKey]
  cases hkdf.expand masterKey (asBytes (ns.info id)) <;> simp

/-- The namespaces whose info string ends in the id. -/
def IdBearing (ns : KeyNamespace) : Prop := ns ≠ .profileSharing

instance (ns : KeyNamespace) : Decidable ns.IdBearing :=
  inferInstanceAs (Decidable (ns ≠ .profileSharing))

end KeyNamespace

end IncokitE2ee
