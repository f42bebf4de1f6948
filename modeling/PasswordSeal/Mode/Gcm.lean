import PasswordSeal.Aes.Block

/-!
# Counted blocks with a tag

A text is added to a stream of encrypted counters, and a tag of sixteen bytes is put behind it. The
tag is a polynomial in a secret element of a field of 2¹²⁸ elements, whose coefficients are the
encrypted text and its length, and it is hidden by one more encrypted counter. A text of more than
2³⁶ bytes is refused, and so is whatever is longer than such a text and its tag.
-/
namespace PasswordSeal.Gcm

/-- An element of the field, the coefficient of the lowest power in the highest bit. -/
structure Element where
  high : UInt64
  low : UInt64
  deriving DecidableEq

namespace Element

def add (x y : Element) : Element :=
  ⟨x.high ^^^ y.high, x.low ^^^ y.low⟩

def shift (x : Element) : Element :=
  let low := x.low >>> 1 ||| x.high <<< 63
  let high := x.high >>> 1
  if x.low &&& 1 = 0 then ⟨high, low⟩ else ⟨high ^^^ 0xE100000000000000, low⟩

def accumulate : (count : Nat) → (x y sum : Element) → Element
  | 0, _, _, sum => sum
  | count + 1, x, y, sum =>
    let rest : Element := ⟨x.high <<< 1 ||| x.low >>> 63, x.low <<< 1⟩
    accumulate count rest y.shift (if x.high >>> 63 = 0 then sum else sum.add y)

def mul (x y : Element) : Element :=
  accumulate 128 x y ⟨0, 0⟩

def ofBytes (bytes : Bytes) : Element :=
  let word (bytes : Bytes) : UInt64 := bytes.foldl (fun x b => x <<< 8 ||| b.toUInt64) 0
  let block := (Block.ofBytes bytes).toBytes
  ⟨word (block.take 8), word (block.drop 8)⟩

def toBytes (x : Element) : Bytes :=
  Numeral.toBytes 8 x.high.toNat ++ Numeral.toBytes 8 x.low.toNat

@[simp] theorem length_toBytes (x : Element) : x.toBytes.length = 16 := by
  simp [toBytes]

end Element

def counter (iv : Bytes) (number : Nat) : Block :=
  .ofBytes (iv ++ Numeral.toBytes 4 number)

def stream (encrypt : Block → Block) (iv : Bytes) (number : Nat) : List Bytes → Bytes
  | [] => []
  | piece :: rest =>
    piece.xor (encrypt (counter iv number)).toBytes ++ stream encrypt iv (number + 1) rest

/-- Encrypt or decrypt a text without its tag; counter one is left for the tag. -/
def cover (encrypt : Block → Block) (iv text : Bytes) : Bytes :=
  stream encrypt iv 2 (chunks 16 text)

def evaluate (secret : Element) (pieces : List Bytes) : Element :=
  pieces.foldl (fun sum piece => (Element.add sum (.ofBytes piece)).mul secret) ⟨0, 0⟩

def tag (encrypt : Block → Block) (iv text : Bytes) : Bytes :=
  let secret := Element.ofBytes (encrypt (.ofBytes [])).toBytes
  let lengths := Numeral.toBytes 8 0 ++ Numeral.toBytes 8 (8 * text.length)
  (evaluate secret (chunks 16 text ++ [lengths])).toBytes.xor (encrypt (counter iv 1)).toBytes

def textLimit : Nat := 0x1000000000

def encrypt? (cipher : BlockCipher) (iv text : Bytes) : Option Bytes :=
  if textLimit < text.length then none
  else
    let covered := cover cipher.encrypt iv text
    some (covered ++ tag cipher.encrypt iv covered)

def decrypt? (cipher : BlockCipher) (iv text : Bytes) : Option Bytes :=
  if text.length < 16 ∨ textLimit + 16 < text.length then none
  else
    let covered := text.take (text.length - 16)
    if text.drop (text.length - 16) = tag cipher.encrypt iv covered then
      some (cover cipher.encrypt iv covered)
    else none

end PasswordSeal.Gcm
