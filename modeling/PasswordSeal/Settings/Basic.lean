import PasswordSeal.Cipher.Basic

/-!
# Settings of an engine

Settings are optional. Four of them have no default and must be there; the others follow from
them. Settling the settings reports what is missing, in a fixed order, before it reads the text of
an initialization vector.
-/
namespace PasswordSeal

structure Settings where
  keyAlgorithm : Option String := none
  transformation : Option String := none
  parametersAlgorithm : Option String := none
  iterations : Option UInt32 := none
  salt : Option Bytes := none
  keyBits : Option UInt32 := none
  password : Option String := none
  direction : Option Direction := none
  cipherIterations : Option UInt32 := none
  cipherSalt : Option Bytes := none
  alphabet : Alphabet := .base64
  iv : Option Bytes := none
  encodedIv : Option String := none
  parameters : Option Parameters := none

structure Plan where
  keyAlgorithm : String
  transformation : String
  parametersAlgorithm : String
  iterations : UInt32
  salt : Bytes
  keyBits : Option UInt32
  password : String
  direction : Direction
  cipherIterations : UInt32
  cipherSalt : Bytes
  alphabet : Alphabet
  iv : Option Bytes
  parameters : Option Parameters
  deriving DecidableEq

namespace Settings

def defaultKeyAlgorithm : String := "PBEWithHmacSHA1andAES_128"

def require {α : Type} (missing : Requirement) : Option α → Except Fault α
  | some value => .ok value
  | none => .error (.incomplete missing)

def settleIv (s : Settings) : Except Fault (Option Bytes) :=
  match s.iv, s.encodedIv with
  | some iv, _ => .ok (some iv)
  | none, some text => (s.alphabet.read text).map some
  | none, none => .ok none

/-- Check the settings and put defaults in place. An empty salt or password counts as missing, and
a key length of zero as none. -/
def settle (s : Settings) : Except Fault Plan := do
  let iterations ← require .iterations s.iterations
  let salt ← require .salt (s.salt.filter (· ≠ []))
  let password ← require .password (s.password.filter (· ≠ ""))
  let direction ← require .direction s.direction
  let iv ← s.settleIv
  let keyAlgorithm := s.keyAlgorithm.getD defaultKeyAlgorithm
  return {
    keyAlgorithm
    transformation := s.transformation.getD keyAlgorithm
    parametersAlgorithm := s.parametersAlgorithm.getD keyAlgorithm
    iterations
    salt
    keyBits := s.keyBits.filter (· ≠ 0)
    password
    direction
    cipherIterations := s.cipherIterations.getD iterations
    cipherSalt := s.cipherSalt.getD salt
    alphabet := s.alphabet
    iv
    parameters := s.parameters }

def describe (s : Settings) : String :=
  let number (n : UInt32) : String := toString n.toNat
  let hex (bytes : Bytes) : String := Text.quote (Hex.encode bytes)
  let optional {α : Type} (f : α → String) (x : Option α) : String := Description.optional f x
  Description.record "PbeConfig"
    [("key_algorithm", optional Text.quote s.keyAlgorithm),
      ("transformation", optional Text.quote s.transformation),
      ("parameters_algorithm", optional Text.quote s.parametersAlgorithm),
      ("iteration", optional number s.iterations),
      ("salt", optional hex s.salt),
      ("key_length", optional number s.keyBits),
      ("password", optional (fun _ => Text.quote "<redacted>") s.password),
      ("cipher_mode", optional Direction.describe s.direction),
      ("cipher_iteration", optional number s.cipherIterations),
      ("cipher_salt", optional hex s.cipherSalt),
      ("alphabet", s.alphabet.describe),
      ("iv", optional hex s.iv),
      ("encoded_iv", optional Text.quote s.encodedIv),
      ("algorithm_parameters", optional Parameters.describe s.parameters)]

end Settings
end PasswordSeal
