import PasswordSeal.Bytes.Chunks
import PasswordSeal.Bytes.Numeral

/-!
# Words of a hash function

The hash functions work on words of 32 or 64 bits, which they read from a message with the highest
byte first. The end of every message is marked, and its length in bits is written behind it, so
that the whole fills blocks.
-/
namespace PasswordSeal

class Word (w : Type) extends Add w, XorOp w, AndOp w where
  size : Nat
  rotateRight : w → Nat → w
  shiftRight : w → Nat → w
  ofBytes : Bytes → w
  toBytes : w → Bytes
  length_toBytes : ∀ x, (toBytes x).length = size

@[inline, always_inline] instance : Word UInt32 where
  size := 4
  rotateRight x n := x >>> n.toUInt32 ||| x <<< (32 - n).toUInt32
  shiftRight x n := x >>> n.toUInt32
  ofBytes bytes := bytes.foldl (fun x b => x <<< 8 ||| b.toUInt32) 0
  toBytes x := [(x >>> 24).toUInt8, (x >>> 16).toUInt8, (x >>> 8).toUInt8, x.toUInt8]
  length_toBytes _ := rfl

@[inline, always_inline] instance : Word UInt64 where
  size := 8
  rotateRight x n := x >>> n.toUInt64 ||| x <<< (64 - n).toUInt64
  shiftRight x n := x >>> n.toUInt64
  ofBytes bytes := bytes.foldl (fun x b => x <<< 8 ||| b.toUInt64) 0
  toBytes x :=
    [(x >>> 56).toUInt8, (x >>> 48).toUInt8, (x >>> 40).toUInt8, (x >>> 32).toUInt8,
      (x >>> 24).toUInt8, (x >>> 16).toUInt8, (x >>> 8).toUInt8, x.toUInt8]
  length_toBytes _ := rfl

namespace Digest

@[specialize] def blockWords {w : Type} [Word w] (block : Bytes) : List w :=
  (chunks (Word.size w) block).map Word.ofBytes

def padded (blockSize lengthBytes : Nat) (message : Bytes) : Bytes :=
  let used := message.length + 1 + lengthBytes
  message ++ 0x80 :: List.replicate ((blockSize - used % blockSize) % blockSize) 0 ++
    Numeral.toBytes lengthBytes (8 * message.length)

def messageBlocks (blockSize lengthBytes : Nat) (message : Bytes) : List Bytes :=
  chunks blockSize (padded blockSize lengthBytes message)

end Digest
end PasswordSeal
