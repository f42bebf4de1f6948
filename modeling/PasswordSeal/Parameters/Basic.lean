import PasswordSeal.Bytes.Hex
import PasswordSeal.Text.Description

/-!
# Parameters of an encryption

Decryption needs exactly the parameters that encryption ran with: the name of the algorithm, the
salt and the iteration count of its key derivation, and the initialization vector.
-/
namespace PasswordSeal

structure ParameterSpec where
  salt : Bytes
  iterations : UInt32
  iv : Option Bytes
  deriving Repr, DecidableEq

structure Parameters extends ParameterSpec where
  algorithm : String
  deriving Repr, DecidableEq

namespace ParameterSpec

def describedFields (spec : ParameterSpec) : List (String × String) :=
  let hex (bytes : Bytes) : String := Text.quote (Hex.encode bytes)
  [("salt", hex spec.salt), ("iteration_count", toString spec.iterations.toNat),
    ("iv", Description.optional hex spec.iv)]

def describe (spec : ParameterSpec) : String :=
  Description.record "PbeParameterSpec" spec.describedFields

def named (spec : ParameterSpec) (algorithm : String) : Parameters :=
  ⟨spec, algorithm⟩

end ParameterSpec

namespace Parameters

def withIv (p : Parameters) (iv : Bytes) : Parameters :=
  { p with iv := some iv }

def describe (p : Parameters) : String :=
  Description.record "AlgorithmParameters"
    (("algorithm", Text.quote p.algorithm) :: p.toParameterSpec.describedFields)

end Parameters
end PasswordSeal
