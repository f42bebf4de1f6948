import PasswordSeal.Text.Description
import PasswordSeal.Text.Utf8

/-!
# Bytes in hexadecimal

Bytes are written as two small digits each. Both cases are read; an odd count is reported before
any character that is no digit.
-/
namespace PasswordSeal.Hex

def digit (value : Nat) : Char :=
  "0123456789abcdef".toList.getD value '0'

def encode (bytes : Bytes) : String :=
  String.ofList (bytes.flatMap fun b => [digit (b.toNat / 16), digit (b.toNat % 16)])

inductive Flaw where
  | oddCount
  | noDigit (byte : UInt8) (position : Nat)
  deriving Repr, DecidableEq

/-- The wording of a flaw; a byte is shown as the character of its number. -/
def Flaw.message : Flaw → String
  | oddCount => "Odd number of digits"
  | noDigit byte position =>
    let shown := Text.quoteChar (Char.ofNat byte.toNat)
    s!"Invalid character {shown} at position {position}"

def value? (b : UInt8) : Option UInt8 :=
  if 0x30 ≤ b ∧ b ≤ 0x39 then some (b - 0x30)
  else if 0x41 ≤ b ∧ b ≤ 0x46 then some (b - 0x41 + 10)
  else if 0x61 ≤ b ∧ b ≤ 0x66 then some (b - 0x61 + 10)
  else none

def readDigit (position : Nat) (b : UInt8) : Except Flaw UInt8 :=
  match value? b with
  | some value => .ok value
  | none => .error (.noDigit b position)

def readPairs (position : Nat) : Bytes → Except Flaw Bytes
  | [] => .ok []
  | [_] => .error .oddCount
  | high :: low :: rest => do
    let h ← readDigit position high
    let l ← readDigit (position + 1) low
    let bytes ← readPairs (position + 2) rest
    return (h * 16 + l) :: bytes

def decode (text : String) : Except Flaw Bytes :=
  let digits := Utf8.encode text
  if digits.length % 2 = 0 then readPairs 0 digits else .error .oddCount

end PasswordSeal.Hex
