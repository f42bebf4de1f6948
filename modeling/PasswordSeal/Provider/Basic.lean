import PasswordSeal.Cipher.Basic

/-!
# Providers

A provider knows algorithms by name, for each of three services: to derive keys, to encrypt and to
generate parameters. The built-in one knows the schemes and the plain key derivations.
-/
namespace PasswordSeal

structure ParameterGenerator where
  algorithm : String
  generate : ParameterSpec → Except Fault Parameters

def ParameterGenerator.ofScheme (s : Scheme) : ParameterGenerator where
  algorithm := s.name
  generate spec :=
    if spec.salt = [] then .error .cryptographic
    else if spec.iterations = 0 then .error .cryptographic
    else
      match spec.iv with
      | none => .ok (spec.named s.name)
      | some iv =>
        if iv.length = s.mode.ivLength then .ok (spec.named s.name) else .error .cryptographic

structure Provider where
  name : String
  keyDerivation? : String → Option KeyDerivation
  cipher? : String → Option Cipher
  generator? : String → Option ParameterGenerator
  algorithms : List String

namespace Provider

def builtIn : Provider where
  name := "RustCrypto"
  keyDerivation? := KeyDerivation.ofName?
  cipher? name := (Scheme.ofName? name).map Scheme.cipher
  generator? name := (Scheme.ofName? name).map ParameterGenerator.ofScheme
  algorithms :=
    Scheme.all.map Scheme.name ++ Digest.all.map (fun d => (KeyDerivation.ofDigest d).algorithm) ++
      [KeyDerivation.argon2id.algorithm]

end Provider
end PasswordSeal
