import PasswordSeal.Alphabet.Basic
import PasswordSeal.Bytes.Chunks
import PasswordSeal.Text.Utf8

/-!
# Writing bytes in an alphabet and reading them back

Bytes are cut into blocks. A block is one number, written in digits of the family's size; a short
block at the end is first moved up to a whole number of digits, and the bits so added are zero.
Padded alphabets fill its text up with `=`.

Reading goes block by block as well. In a padded alphabet every block may be a short one, so the
texts of several byte strings, glued together, read as the bytes glued together. The first flaw is
reported with its place in the UTF-8 bytes of the text; a length that no text has comes before all
else.
-/
namespace PasswordSeal.Alphabet

def digitCount (f : Family) (count : Nat) : Nat :=
  (8 * count + f.bits - 1) / f.bits

def blockDigits (f : Family) (block : Bytes) : List Nat :=
  let count := digitCount f block.length
  Numeral.digits (2 ^ f.bits) count
    (Numeral.ofBytes block * 2 ^ (f.bits * count - 8 * block.length))

def encodeBlock (a : Alphabet) (block : Bytes) : List Char :=
  let symbols := (blockDigits a.family block).map a.symbol
  if a.padded then symbols ++ List.replicate (a.family.blockSymbols - symbols.length) '='
  else symbols

def encode (a : Alphabet) (bytes : Bytes) : String :=
  String.ofList ((chunks a.family.blockBytes bytes).flatMap a.encodeBlock)

inductive Defect where
  | length
  | symbol
  | trailingBits
  | padding
  deriving Repr, DecidableEq

structure Flaw where
  defect : Defect
  position : Nat
  deriving Repr, DecidableEq

def Defect.message : Defect → String
  | length => "invalid length"
  | symbol => "invalid symbol"
  | trailingBits => "non-zero trailing bits"
  | padding => "invalid padding length"

def Flaw.message (flaw : Flaw) : String :=
  s!"{flaw.defect.message} at {flaw.position}"

def readDigits (a : Alphabet) (position : Nat) : Bytes → Except Flaw (List Nat)
  | [] => .ok []
  | b :: rest =>
    match a.value? b with
    | none => .error ⟨.symbol, position⟩
    | some value => (a.readDigits (position + 1) rest).map (value :: ·)

/-- The bytes of one block without its padding. The bits past the last whole byte must be zero;
the last symbol holds them. -/
def readSymbols (a : Alphabet) (position : Nat) (symbols : Bytes) : Except Flaw Bytes :=
  match a.readDigits position symbols with
  | .error flaw => .error flaw
  | .ok digits =>
    let bitCount := a.family.bits * digits.length
    let number := Numeral.ofDigits (2 ^ a.family.bits) digits
    if number % 2 ^ (bitCount % 8) = 0 then
      .ok (Numeral.toBytes (bitCount / 8) (number / 2 ^ (bitCount % 8)))
    else .error ⟨.trailingBits, position + symbols.length - 1⟩

/-- Whether so many symbols, padding aside, can end a block: they are some, and the bits past the
last whole byte are fewer than a symbol holds. -/
def canEnd (f : Family) (count : Nat) : Bool :=
  decide (0 < count) && decide (f.bits * count % 8 < f.bits)

def dropPadding (block : Bytes) : Bytes :=
  (block.reverse.dropWhile (· == 0x3D)).reverse

def readBlock (a : Alphabet) (position : Nat) (block : Bytes) : Except Flaw Bytes :=
  if a.padded then
    let symbols := dropPadding block
    if canEnd a.family symbols.length then a.readSymbols position symbols
    else .error ⟨.padding, position + symbols.length⟩
  else a.readSymbols position block

def readBlocks (a : Alphabet) (position : Nat) : List Bytes → Except Flaw Bytes
  | [] => .ok []
  | block :: blocks =>
    match a.readBlock position block with
    | .error flaw => .error flaw
    | .ok bytes => (a.readBlocks (position + block.length) blocks).map (bytes ++ ·)

/-- The largest length up to `length` that a text of the alphabet can have: whole blocks when
padded, and else no symbol that carries less than a bit of the last byte. -/
def fittingLength (a : Alphabet) (length : Nat) : Nat :=
  if a.padded then length - length % a.family.blockSymbols
  else length - a.family.bits * length % 8 / a.family.bits

def decodeBytes (a : Alphabet) (text : Bytes) : Except Flaw Bytes :=
  if a.fittingLength text.length = text.length then
    a.readBlocks 0 (chunks a.family.blockSymbols text)
  else .error ⟨.length, a.fittingLength text.length⟩

def decode (a : Alphabet) (text : String) : Except Flaw Bytes :=
  a.decodeBytes (Utf8.encode text)

end PasswordSeal.Alphabet
