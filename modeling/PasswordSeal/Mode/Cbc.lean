import PasswordSeal.Aes.Block

/-!
# Chained blocks

Every block is added to the encrypted block before it and then encrypted, the first to the
initialization vector. A text is filled up to whole blocks: behind it stands the number of bytes
that are added, that many times.
-/
namespace PasswordSeal.Cbc

def pad (text : Bytes) : Bytes :=
  let count := 16 - text.length % 16
  text ++ List.replicate count count.toUInt8

def unpad? (padded : Bytes) : Option Bytes :=
  match padded.getLast? with
  | none => none
  | some last =>
    let count := last.toNat
    let kept := padded.length - count
    if 1 ≤ count ∧ count ≤ 16 ∧ count ≤ padded.length ∧
        padded.drop kept = List.replicate count last then
      some (padded.take kept)
    else none

def encryptBlocks (encrypt : Block → Block) (before : Block) : List Block → List Block
  | [] => []
  | x :: rest =>
    let y := encrypt (x.xor before)
    y :: encryptBlocks encrypt y rest

def decryptBlocks (decrypt : Block → Block) (before : Block) : List Block → List Block
  | [] => []
  | y :: rest => (decrypt y).xor before :: decryptBlocks decrypt y rest

def encrypt (cipher : BlockCipher) (iv text : Bytes) : Bytes :=
  Block.join (encryptBlocks cipher.encrypt (.ofBytes iv) (Block.split (pad text)))

def decrypt? (cipher : BlockCipher) (iv text : Bytes) : Option Bytes :=
  if text.length % 16 = 0 then
    unpad? (Block.join (decryptBlocks cipher.decrypt (.ofBytes iv) (Block.split text)))
  else none

end PasswordSeal.Cbc
