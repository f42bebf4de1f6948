import PasswordSeal.Cipher.Basic
import PasswordSeal.Text.NormalForm.Basic

/-!
# Engines

An engine turns secrets into text, or text back into secrets. Its direction, key and parameters are
fixed when it is built. Secrets are brought to their normal form first, so that a secret typed in
two ways is the same secret. An engine remembers what its cipher has been fed with, as that may
change later answers.
-/
namespace PasswordSeal

structure Engine where
  transformation : String
  direction : Direction
  alphabet : Alphabet
  parameters : Parameters
  binding : Binding
  earlier : List Bytes

namespace Engine

def ensure (e : Engine) (wanted : Direction) : Except Fault Unit :=
  if e.direction = wanted then .ok () else .error (.wrongDirection wanted e.direction)

def feed (e : Engine) (input : Bytes) : Except Fault Bytes × Engine :=
  (e.binding.transform e.earlier input, { e with earlier := e.earlier ++ [input] })

def encrypt (e : Engine) (secret : String) : Except Fault String × Engine :=
  match e.ensure .encrypt with
  | .error fault => (.error fault, e)
  | .ok () =>
    let (answer, e) := e.feed (Utf8.encode (NormalForm.normalize secret))
    (answer.map e.alphabet.encode, e)

def encryptChars (e : Engine) (secret : List Char) : Except Fault String × Engine :=
  e.encrypt (String.ofList secret)

def secretOf (bytes : Bytes) : Except Fault String :=
  (Utf8.decode bytes).mapError fun _ => .cryptographic

def decrypt (e : Engine) (text : String) : Except Fault String × Engine :=
  match e.ensure .decrypt with
  | .error fault => (.error fault, e)
  | .ok () =>
    match e.alphabet.read text with
    | .error fault => (.error fault, e)
    | .ok input =>
      let (answer, e) := e.feed input
      (answer.bind secretOf, e)

def encodedIv (e : Engine) : Option String :=
  e.parameters.iv.map e.alphabet.encode

def describe (e : Engine) : String :=
  Description.record "PasswordBasedEncryption"
    [("transformation", Text.quote e.transformation),
      ("algorithm_parameters", e.parameters.describe),
      ("alphabet", e.alphabet.describe),
      ("mode", e.direction.describe)]

end Engine
end PasswordSeal
