import PasswordSeal.Argon2id.Basic
import PasswordSeal.Fault
import PasswordSeal.Pbkdf2
import PasswordSeal.Scheme

/-!
# Key derivation

A key is bytes under the name of the algorithm that they are meant for. A key derivation makes a
key from a password; it has a natural length, which a request may replace by a number of bits.
-/
namespace PasswordSeal

structure Key where
  algorithm : String
  material : Bytes
  deriving DecidableEq

namespace Key

def rewrap (key : Key) (algorithm : String) : Key :=
  { key with algorithm }

def describe (key : Key) : String :=
  Description.partialRecord "SecretKey"
    [("algorithm", Text.quote key.algorithm), ("len", toString key.material.length)]

end Key

structure KeyRequest where
  password : String
  salt : Bytes
  iterations : UInt32
  keyBits : Option UInt32

def KeyRequest.length (request : KeyRequest) (natural : Nat) : Except Fault Nat :=
  match request.keyBits with
  | none => .ok natural
  | some bits =>
    if bits = 0 ∨ bits.toNat % 8 ≠ 0 then .error .cryptographic else .ok (bits.toNat / 8)

def Pbkdf2.derive (d : Digest) (password salt : Bytes) (rounds : UInt32) (length : Nat) :
    Except Fault Bytes :=
  if rounds = 0 then .error .cryptographic
  else if salt = [] then .error .cryptographic
  else .ok (stream d password salt rounds.toNat length)

/-- Key material from a memory that is filled at least once, unless an input or the output has a
length that is out of bounds. -/
def Argon2id.deriveChecked (password salt : Bytes) (passes : UInt32) (length : Nat) :
    Except Fault Bytes :=
  if passes = 0 ∨ length < minLength ∨ salt.length < minSaltLength then .error .cryptographic
  else if maxInputLength < password.length ∨ maxInputLength < salt.length then
    .error .cryptographic
  else .ok (derive password salt passes.toNat length)

structure KeyDerivation where
  algorithm : String
  naturalLength : Nat
  derive : KeyRequest → Except Fault Key

namespace KeyDerivation

def pbkdf2 (algorithm : String) (d : Digest) (naturalLength : Nat) : KeyDerivation where
  algorithm
  naturalLength
  derive request := do
    let length ← request.length naturalLength
    let material ←
      Pbkdf2.derive d (Utf8.encode request.password) request.salt request.iterations length
    return ⟨algorithm, material⟩

def stem : String := "PBKDF2WithHmac"

def ofDigest (d : Digest) : KeyDerivation :=
  pbkdf2 (stem ++ d.label) d d.size

def ofScheme (s : Scheme) : KeyDerivation :=
  pbkdf2 s.name s.digest s.keyBytes

def argon2id : KeyDerivation where
  algorithm := "Argon2id"
  naturalLength := 32
  derive request := do
    let length ← request.length 32
    let material ← Argon2id.deriveChecked (Utf8.encode request.password) request.salt
      request.iterations length
    return ⟨"Argon2id", material⟩

def ofName? (name : String) : Option KeyDerivation :=
  if Text.sameIgnoringCase argon2id.algorithm name then some argon2id
  else
    match Scheme.ofName? name with
    | some s => some (ofScheme s)
    | none => (Digest.all.map ofDigest).find? fun k => Text.sameIgnoringCase k.algorithm name

end KeyDerivation
end PasswordSeal
