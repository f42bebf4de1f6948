import PasswordSeal.Digest.Word

/-!
# SHA-1

Eighty steps on five words of 32 bits; the digest has 20 bytes.
-/
namespace PasswordSeal.Digest.Sha1

structure State where
  a : UInt32
  b : UInt32
  c : UInt32
  d : UInt32
  e : UInt32

def start : State := ⟨0x67452301, 0xEFCDAB89, 0x98BADCFE, 0x10325476, 0xC3D2E1F0⟩

@[inline] def rotateLeft (x n : UInt32) : UInt32 := x <<< n ||| x >>> (32 - n)

def extend : Nat → List UInt32 → List UInt32
  | 0, words => words
  | count + 1, words =>
    match words with
    | _ :: _ :: w3 :: _ :: _ :: _ :: _ :: w8 :: _ :: _ :: _ :: _ :: _ :: w14 :: _ :: w16 :: _ =>
      extend count (rotateLeft (w3 ^^^ w8 ^^^ w14 ^^^ w16) 1 :: words)
    | _ => words

@[inline] def mix (t : Nat) (b c d : UInt32) : UInt32 :=
  if t < 20 then (d ^^^ (b &&& (c ^^^ d))) + 0x5A827999
  else if t < 40 then (b ^^^ c ^^^ d) + 0x6ED9EBA1
  else if t < 60 then ((b &&& c) ^^^ (b &&& d) ^^^ (c &&& d)) + 0x8F1BBCDC
  else (b ^^^ c ^^^ d) + 0xCA62C1D6

def steps (t : Nat) : List UInt32 → (a b c d e : UInt32) → State
  | [], a, b, c, d, e => ⟨a, b, c, d, e⟩
  | word :: words, a, b, c, d, e =>
    steps (t + 1) words (rotateLeft a 5 + mix t b c d + e + word) a (rotateLeft b 30) c d

def compress (s : State) (block : Bytes) : State :=
  let schedule := (extend 64 (blockWords block).reverse).reverse
  let r := steps 0 schedule s.a s.b s.c s.d s.e
  ⟨s.a + r.a, s.b + r.b, s.c + r.c, s.d + r.d, s.e + r.e⟩

def hash (message : Bytes) : Bytes :=
  let s := (messageBlocks 64 8 message).foldl compress start
  Word.toBytes s.a ++ Word.toBytes s.b ++ Word.toBytes s.c ++ Word.toBytes s.d ++ Word.toBytes s.e

@[simp] theorem length_hash (message : Bytes) : (hash message).length = 20 := rfl

end PasswordSeal.Digest.Sha1
