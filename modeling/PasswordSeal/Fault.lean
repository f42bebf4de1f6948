import PasswordSeal.Alphabet.Code
import PasswordSeal.Parameters.Blob

/-!
# Faults

Why a request was refused. Whatever goes wrong inside key derivation, parameters or the transform
of a text is one and the same fault, so that a wrong padding cannot be told from a wrong tag.
-/
namespace PasswordSeal

inductive Direction where
  | encrypt
  | decrypt
  deriving Repr, DecidableEq

namespace Direction

def word : Direction → String
  | encrypt => "encrypt"
  | decrypt => "decrypt"

def describe : Direction → String
  | encrypt => "Encrypt"
  | decrypt => "Decrypt"

end Direction

inductive Requirement where
  | iterations
  | salt
  | password
  | direction
  deriving Repr, DecidableEq

def Requirement.words : Requirement → String
  | iterations => "iteration count"
  | salt => "salt"
  | password => "initial key (password)"
  | direction => "cipher mode"

inductive Service where
  | keyDerivation
  | cipher
  | parameters
  deriving Repr, DecidableEq

def Service.words : Service → String
  | keyDerivation => "key derivation"
  | cipher => "cipher"
  | parameters => "algorithm parameters"

inductive Fault where
  | incomplete (missing : Requirement)
  | unavailable (service : Service) (name : String)
  | unknownProvider (name : String)
  | cryptographic
  | wrongDirection (wanted built : Direction)
  | undecodable (flaw : Alphabet.Flaw)
  | unknownAlphabet (name : String)
  | blob (flaw : Blob.Flaw)
  deriving Repr, DecidableEq

def Fault.message : Fault → String
  | incomplete missing => "Configuration incomplete: " ++ missing.words ++ " not specified"
  | unavailable service name => "No such " ++ service.words ++ " algorithm: " ++ name
  | unknownProvider name => "Security provider not found: " ++ name
  | cryptographic => "Cryptographic operation failed"
  | wrongDirection wanted built =>
    "Engine initialized for " ++ built.word ++ ", cannot " ++ wanted.word
  | undecodable flaw => "Invalid encoded text: " ++ flaw.message
  | unknownAlphabet name => "Unknown alphabet: " ++ name
  | blob flaw => "Serialization error: " ++ flaw.message

namespace Alphabet

def ofName (name : String) : Except Fault Alphabet :=
  match ofName? name with
  | some a => .ok a
  | none => .error (.unknownAlphabet name)

def read (a : Alphabet) (text : String) : Except Fault Bytes :=
  (a.decode text).mapError .undecodable

end Alphabet

namespace Parameters

def toBlob (p : Parameters) : Except Fault Bytes :=
  (Blob.write p).mapError .blob

def ofBlob (blob : Bytes) : Except Fault Parameters :=
  (Blob.read blob).mapError .blob

end Parameters
end PasswordSeal
