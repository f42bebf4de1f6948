import PasswordSeal.Digest.Basic
import PasswordSeal.Text.Basic
import PasswordSeal.Text.Description

/-!
# Schemes

A scheme says how a text is encrypted under a password: the hash function of the key derivation,
the size of the key and how blocks are put together. Its name spells all three.
-/
namespace PasswordSeal

inductive BlockMode where
  | cbc
  | gcm
  deriving Repr, DecidableEq

namespace BlockMode

def ivLength : BlockMode → Nat
  | cbc => 16
  | gcm => 12

def ending : BlockMode → String
  | cbc => ""
  | gcm => "_GCM"

def describe : BlockMode → String
  | cbc => "Cbc"
  | gcm => "Gcm"

end BlockMode

def Digest.ofLabel? (label : String) : Option Digest :=
  all.find? fun d => Text.sameIgnoringCase d.label label

structure Scheme where
  digest : Digest
  keyBytes : Nat
  mode : BlockMode
  deriving Repr, DecidableEq

namespace Scheme

def stem : String := "PBEWithHmac"

def joint : String := "AndAES_"

def name (s : Scheme) : String :=
  stem ++ s.digest.label ++ joint ++ toString (s.keyBytes * 8) ++ s.mode.ending

def keySizes : List Nat := [16, 32]

def all : List Scheme :=
  [BlockMode.cbc, BlockMode.gcm].flatMap fun mode =>
    Digest.all.flatMap fun digest => keySizes.map fun keyBytes => ⟨digest, keyBytes, mode⟩

/-- What stands before and behind the first joint in small letters. -/
def splitAtJoint? (cs : List Char) : Option (List Char × List Char) :=
  match "andaes_".toList.isPrefixOf? cs with
  | some behind => some ([], behind)
  | none =>
    match cs with
    | [] => none
    | c :: rest => (splitAtJoint? rest).map fun (before, behind) => (c :: before, behind)

def readMode (cs : List Char) : List Char × BlockMode :=
  match "_gcm".toList.isSuffixOf? cs with
  | some before => (before, .gcm)
  | none => (cs, .cbc)

def readKeyBytes? (bits : List Char) : Option Nat :=
  if bits = "128".toList then some 16
  else if bits = "256".toList then some 32
  else none

def ofName? (name : String) : Option Scheme := do
  let behindStem ← "pbewithhmac".toList.isPrefixOf? (Text.small name)
  let (label, behindJoint) ← splitAtJoint? behindStem
  let digest ← Digest.ofLabel? (String.ofList label)
  let (bits, mode) := readMode behindJoint
  let keyBytes ← readKeyBytes? bits
  return ⟨digest, keyBytes, mode⟩

def describeDigest : Digest → String
  | .sha1 => "HmacSha1"
  | .sha224 => "HmacSha224"
  | .sha256 => "HmacSha256"
  | .sha384 => "HmacSha384"
  | .sha512 => "HmacSha512"

def describe (s : Scheme) : String :=
  Description.record "Pbes2Scheme"
    [("prf", describeDigest s.digest), ("key_size", toString s.keyBytes),
      ("kind", s.mode.describe)]

end Scheme
end PasswordSeal
