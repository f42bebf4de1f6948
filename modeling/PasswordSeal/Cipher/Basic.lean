import PasswordSeal.Aes.Basic
import PasswordSeal.KeyDerivation
import PasswordSeal.Mode.Cbc
import PasswordSeal.Mode.Gcm

/-!
# Ciphers

Binding a cipher fixes a direction, a key and parameters; a bound cipher transforms byte strings.
A bound cipher may answer differently once it has been used, so its answer is a function of the
inputs before and of the input itself.

The cipher of a scheme derives its key from the key material that it is given, by the salt and the
iterations of the parameters. Bound for encryption without an initialization vector, it draws one.
Under `gcm` it encrypts only once, since a second text would be added to the same stream. A text
that is too long for the mode is refused, and yet it was the only one.
-/
namespace PasswordSeal

structure Draw where
  bytes : Nat → Bytes
  length_bytes : ∀ count, (bytes count).length = count

def Draw.ofBytes (source : Bytes) : Draw where
  bytes count := source.take count ++ List.replicate (count - source.length) 0
  length_bytes count := by
    simp only [List.length_append, List.length_take, List.length_replicate]
    omega

structure Binding where
  parameters : Option Parameters
  transform : (earlier : List Bytes) → (input : Bytes) → Except Fault Bytes

structure Cipher where
  transformation : String
  bind : Draw → Direction → Key → Parameters → Except Fault Binding

namespace Scheme

structure Bound where
  direction : Direction
  key : Bytes
  iv : Bytes
  parameters : Parameters

def chooseIv (s : Scheme) (draw : Draw) (direction : Direction) (iv : Option Bytes) :
    Except Fault Bytes :=
  match iv, direction with
  | some iv, _ => if iv.length = s.mode.ivLength then .ok iv else .error .cryptographic
  | none, .encrypt => .ok (draw.bytes s.mode.ivLength)
  | none, .decrypt => .error .cryptographic

def bind (s : Scheme) (draw : Draw) (direction : Direction) (key : Key) (p : Parameters) :
    Except Fault Bound :=
  if key.material = [] then .error .cryptographic
  else do
    let iv ← s.chooseIv draw direction p.iv
    let aesKey ← Pbkdf2.derive s.digest key.material p.salt p.iterations s.keyBytes
    return ⟨direction, aesKey, iv, p.withIv iv⟩

def apply (s : Scheme) (b : Bound) (cipher : BlockCipher) (input : Bytes) : Option Bytes :=
  match s.mode, b.direction with
  | .cbc, .encrypt => some (Cbc.encrypt cipher b.iv input)
  | .cbc, .decrypt => Cbc.decrypt? cipher b.iv input
  | .gcm, .encrypt => Gcm.encrypt? cipher b.iv input
  | .gcm, .decrypt => Gcm.decrypt? cipher b.iv input

/-- The answer of a bound cipher; `used` says whether it has answered before. -/
def transform (s : Scheme) (b : Bound) (used : Bool) (input : Bytes) : Except Fault Bytes :=
  if used ∧ s.mode = .gcm ∧ b.direction = .encrypt then .error .cryptographic
  else
    match (Aes.keyed? b.key).bind fun cipher => s.apply b cipher input with
    | some output => .ok output
    | none => .error .cryptographic

def cipher (s : Scheme) : Cipher where
  transformation := s.name
  bind draw direction key p := do
    let b ← s.bind draw direction key p
    return ⟨some b.parameters, fun earlier input => s.transform b (!earlier.isEmpty) input⟩

end Scheme
end PasswordSeal
