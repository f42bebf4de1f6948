import PasswordSeal.Text.Basic

/-!
# Alphabets

An alphabet belongs to a family, which fixes how many bits a symbol carries, and lists its
symbols in the order of their values.
-/
namespace PasswordSeal

inductive Family where
  | base64
  | base32
  deriving Repr, DecidableEq

namespace Family

def bits : Family → Nat
  | base64 => 6
  | base32 => 5

def blockBytes : Family → Nat
  | base64 => 3
  | base32 => 5

def blockSymbols : Family → Nat
  | base64 => 4
  | base32 => 8

theorem bits_mul_blockSymbols (f : Family) : f.bits * f.blockSymbols = 8 * f.blockBytes := by
  cases f <;> rfl

end Family

inductive Alphabet where
  | base64
  | base64Url
  | base64Unpadded
  | base32
  | base32Lower
  | base32Hex
  deriving Repr, DecidableEq, Inhabited

namespace Alphabet

def all : List Alphabet :=
  [base64, base64Url, base64Unpadded, base32, base32Lower, base32Hex]

def family : Alphabet → Family
  | base64 | base64Url | base64Unpadded => .base64
  | base32 | base32Lower | base32Hex => .base32

def padded : Alphabet → Bool
  | base64Unpadded => false
  | _ => true

def name : Alphabet → String
  | base64 => "base64"
  | base64Url => "base64url"
  | base64Unpadded => "base64-nopad"
  | base32 => "base32"
  | base32Lower => "base32-lower"
  | base32Hex => "base32hex"

def ofName? (name : String) : Option Alphabet :=
  all.find? fun a => Text.sameIgnoringCase a.name name

def describe : Alphabet → String
  | base64 => "Base64(Standard)"
  | base64Url => "Base64(UrlSafe)"
  | base64Unpadded => "Base64(StandardNoPad)"
  | base32 => "Base32(Standard)"
  | base32Lower => "Base32(Lowercase)"
  | base32Hex => "Base32(Hex)"

def symbols : Alphabet → String
  | base64 | base64Unpadded => "ABCDEFGHIJKLMNOPQRSTUVWXYZabcdefghijklmnopqrstuvwxyz0123456789+/"
  | base64Url => "ABCDEFGHIJKLMNOPQRSTUVWXYZabcdefghijklmnopqrstuvwxyz0123456789-_"
  | base32 => "ABCDEFGHIJKLMNOPQRSTUVWXYZ234567"
  | base32Lower => "abcdefghijklmnopqrstuvwxyz234567"
  | base32Hex => "0123456789ABCDEFGHIJKLMNOPQRSTUV"

def symbol (a : Alphabet) (value : Nat) : Char :=
  a.symbols.toList.getD value '='

def value? (a : Alphabet) (symbol : UInt8) : Option Nat :=
  a.symbols.toList.idxOf? (Char.ofNat symbol.toNat)

end Alphabet
end PasswordSeal
