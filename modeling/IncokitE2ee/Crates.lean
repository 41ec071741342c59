import IncokitE2ee.Aead
import IncokitE2ee.Bytes
import IncokitE2ee.Outcome

set_option autoImplicit false

/- The other crates' functions that this one calls, with the behaviour the
proofs ask of them. Errors are the `Display` texts of the crates' own. -/
namespace IncokitE2ee

/-- `hkdf` at SHA-256: `Hkdf::new(None, secret)` expanded to 32 bytes. -/
structure Hkdf where
  expand : (secret : Key) → (info : Bytes) → Except String Key

namespace Hkdf

def Total (hkdf : Hkdf) : Prop := ∀ secret info, ∃ key, hkdf.expand secret info = .ok key

def CollisionFree (hkdf : Hkdf) (secrets : Key → Prop) (infos : Bytes → Prop) : Prop :=
  ∀ secret other info info' key, secrets secret → secrets other → infos info → infos info' →
    hkdf.expand secret info = .ok key → hkdf.expand other info' = .ok key →
    secret = other ∧ info = info'

end Hkdf

/-- `x25519-dalek`: `PublicKey::from` a static secret, and its agreement. -/
structure X25519 where
  publicKey : Key → Key
  diffieHellman : (mine theirs : Key) → Key

namespace X25519

def Commutes (x25519 : X25519) : Prop :=
  ∀ a b, x25519.diffieHellman a (x25519.publicKey b) = x25519.diffieHellman b (x25519.publicKey a)

/-- A public key of low order: the agreement is 32 zero bytes for every private key. -/
def LowOrder (x25519 : X25519) (theirs : Key) : Prop :=
  ∀ mine, x25519.diffieHellman mine theirs = FixedBytes.fill 32 0

/-- Any other public key tells two private keys apart. -/
def Contributory (x25519 : X25519) : Prop :=
  ∀ theirs, ¬ x25519.LowOrder theirs →
    ∃ mine other, x25519.diffieHellman mine theirs ≠ x25519.diffieHellman other theirs

end X25519

inductive Argon2.Algorithm where
  | argon2d
  | argon2i
  | argon2id
  deriving DecidableEq

inductive Argon2.Version where
  | v0x10
  | v0x13
  deriving DecidableEq

/-- `argon2`: validated parameters, and hashing into a 32-byte buffer. -/
structure Argon2 where
  Params : Type
  newParams : (memory iterations lanes : Nat) → (outputLength : Option Nat) → Except String Params
  hashPasswordInto : Argon2.Algorithm → Argon2.Version → Params → (password salt : Bytes) → Except String Key

/-- `serde_json` at one type: its writer and its reader. -/
structure SerdeJson (T : Type) where
  toString : T → Except String String
  fromStr : String → Except String T

namespace SerdeJson

variable {T : Type} (json : SerdeJson T) (depth : T → Nat) (limit : Nat)

def Writes : Prop := ∀ value, ∃ text, json.toString value = .ok text

def InvertsBelow : Prop :=
  ∀ value text, json.toString value = .ok text → depth value < limit →
    json.fromStr text = .ok value

def RefusesFrom : Prop :=
  ∀ value text, json.toString value = .ok text → limit ≤ depth value →
    Outcome.Failed (json.fromStr text)

def ReadsBelow : Prop := ∀ text value, json.fromStr text = .ok value → depth value < limit

def AcceptsOnly (grammar : List Char → Prop) : Prop :=
  ∀ text value, json.fromStr text = .ok value → grammar text.toList

end SerdeJson

end IncokitE2ee
