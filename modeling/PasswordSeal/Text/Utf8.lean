import PasswordSeal.Bytes.Numeral

/-!
# Text as UTF-8 bytes

Reading names the first place where the bytes stop being UTF-8. A sequence is its leading byte and
the ranges that the bytes after it must lie in; the ranges of the second byte keep out over-long
forms, surrogates and numbers above U+10FFFF.
-/
namespace PasswordSeal.Utf8

def encode (text : String) : Bytes :=
  text.toList.flatMap String.utf8EncodeChar

/-- Where reading stopped, and how many bytes there begin a sequence that the next byte breaks;
`none` when the bytes end inside a sequence. -/
structure Flaw where
  position : Nat
  broken : Option Nat
  deriving Repr, DecidableEq

def Flaw.message (flaw : Flaw) : String :=
  match flaw.broken with
  | some count => s!"invalid utf-8 sequence of {count} bytes from index {flaw.position}"
  | none => s!"incomplete utf-8 byte sequence from index {flaw.position}"

abbrev Range := UInt8 × UInt8

def continuing : Range := (0x80, 0xBF)

def second (lead : UInt8) : Range :=
  if lead = 0xE0 then (0xA0, 0xBF)
  else if lead = 0xED then (0x80, 0x9F)
  else if lead = 0xF0 then (0x90, 0xBF)
  else if lead = 0xF4 then (0x80, 0x8F)
  else continuing

def lead? (b : UInt8) : Option (Nat × List Range) :=
  if b < 0x80 then some (b.toNat, [])
  else if b < 0xC2 then none
  else if b < 0xE0 then some (b.toNat % 32, [continuing])
  else if b < 0xF0 then some (b.toNat % 16, [second b, continuing])
  else if b < 0xF5 then some (b.toNat % 8, [second b, continuing, continuing])
  else none

/-- The character of a sequence, from the bytes that follow its leading byte; `seen` counts the
bytes of the sequence so far. -/
def follow (seen value : Nat) : List Range → Bytes → Except (Option Nat) Char
  | [], _ => .ok (Char.ofNat value)
  | _ :: _, [] => .error none
  | (low, high) :: ranges, b :: bytes =>
    if low ≤ b ∧ b ≤ high then follow (seen + 1) (value * 64 + b.toNat % 64) ranges bytes
    else .error (some seen)

def decodeOnto (before : List Char) (position : Nat) (bytes : Bytes) : Except Flaw (List Char) :=
  match bytes with
  | [] => .ok before.reverse
  | b :: rest =>
    match lead? b with
    | none => .error ⟨position, some 1⟩
    | some (value, ranges) =>
      match follow 1 value ranges rest with
      | .error broken => .error ⟨position, broken⟩
      | .ok c =>
        decodeOnto (c :: before) (position + 1 + ranges.length) (rest.drop ranges.length)
  termination_by bytes.length
  decreasing_by simp only [List.length_drop, List.length_cons]; omega

def decode (bytes : Bytes) : Except Flaw String :=
  (decodeOnto [] 0 bytes).map String.ofList

end PasswordSeal.Utf8
