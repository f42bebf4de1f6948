import PasswordSeal.Blake2b

/-!
# Blocks of the memory that Argon2id fills

A block has 1024 bytes: eight rows of eight pairs of words, so that it has eight columns of pairs
as well. Two blocks are combined by mixing the rows and then the columns of their sum.
-/
namespace PasswordSeal.Argon2id

open Blake2b (Square Quad)

structure Block where
  (r0 r1 r2 r3 r4 r5 r6 r7 : Square)

namespace Block

def zero : Block :=
  ⟨.zero, .zero, .zero, .zero, .zero, .zero, .zero, .zero⟩

def xor (b c : Block) : Block :=
  ⟨b.r0.xor c.r0, b.r1.xor c.r1, b.r2.xor c.r2, b.r3.xor c.r3, b.r4.xor c.r4, b.r5.xor c.r5,
    b.r6.xor c.r6, b.r7.xor c.r7⟩

def columns (b : Block) : Block :=
  ⟨⟨b.r0.w0, b.r0.w1, b.r1.w0, b.r1.w1, b.r2.w0, b.r2.w1, b.r3.w0, b.r3.w1, b.r4.w0, b.r4.w1,
      b.r5.w0, b.r5.w1, b.r6.w0, b.r6.w1, b.r7.w0, b.r7.w1⟩,
    ⟨b.r0.w2, b.r0.w3, b.r1.w2, b.r1.w3, b.r2.w2, b.r2.w3, b.r3.w2, b.r3.w3, b.r4.w2, b.r4.w3,
      b.r5.w2, b.r5.w3, b.r6.w2, b.r6.w3, b.r7.w2, b.r7.w3⟩,
    ⟨b.r0.w4, b.r0.w5, b.r1.w4, b.r1.w5, b.r2.w4, b.r2.w5, b.r3.w4, b.r3.w5, b.r4.w4, b.r4.w5,
      b.r5.w4, b.r5.w5, b.r6.w4, b.r6.w5, b.r7.w4, b.r7.w5⟩,
    ⟨b.r0.w6, b.r0.w7, b.r1.w6, b.r1.w7, b.r2.w6, b.r2.w7, b.r3.w6, b.r3.w7, b.r4.w6, b.r4.w7,
      b.r5.w6, b.r5.w7, b.r6.w6, b.r6.w7, b.r7.w6, b.r7.w7⟩,
    ⟨b.r0.w8, b.r0.w9, b.r1.w8, b.r1.w9, b.r2.w8, b.r2.w9, b.r3.w8, b.r3.w9, b.r4.w8, b.r4.w9,
      b.r5.w8, b.r5.w9, b.r6.w8, b.r6.w9, b.r7.w8, b.r7.w9⟩,
    ⟨b.r0.w10, b.r0.w11, b.r1.w10, b.r1.w11, b.r2.w10, b.r2.w11, b.r3.w10, b.r3.w11, b.r4.w10,
      b.r4.w11, b.r5.w10, b.r5.w11, b.r6.w10, b.r6.w11, b.r7.w10, b.r7.w11⟩,
    ⟨b.r0.w12, b.r0.w13, b.r1.w12, b.r1.w13, b.r2.w12, b.r2.w13, b.r3.w12, b.r3.w13, b.r4.w12,
      b.r4.w13, b.r5.w12, b.r5.w13, b.r6.w12, b.r6.w13, b.r7.w12, b.r7.w13⟩,
    ⟨b.r0.w14, b.r0.w15, b.r1.w14, b.r1.w15, b.r2.w14, b.r2.w15, b.r3.w14, b.r3.w15, b.r4.w14,
      b.r4.w15, b.r5.w14, b.r5.w15, b.r6.w14, b.r6.w15, b.r7.w14, b.r7.w15⟩⟩

/-- A sum that also takes in twice the product of the lower halves. -/
@[inline] def sum (a b : UInt64) : UInt64 :=
  a + b + 2 * (a &&& 0xFFFFFFFF) * (b &&& 0xFFFFFFFF)

def mixRow (s : Square) : Square :=
  s.mixed fun _ q => q.mix sum sum sum

def mixRows (b : Block) : Block :=
  ⟨mixRow b.r0, mixRow b.r1, mixRow b.r2, mixRow b.r3, mixRow b.r4, mixRow b.r5, mixRow b.r6,
    mixRow b.r7⟩

def combine (b c : Block) : Block :=
  let both := b.xor c
  both.mixRows.columns.mixRows.columns.xor both

def row (b : Block) (place : Nat) : Square :=
  match place with
  | 0 => b.r0
  | 1 => b.r1
  | 2 => b.r2
  | 3 => b.r3
  | 4 => b.r4
  | 5 => b.r5
  | 6 => b.r6
  | _ => b.r7

def word (b : Block) (place : Nat) : UInt64 :=
  (b.row (place / 16)).word (place % 16)

def toBytes (b : Block) : Bytes :=
  (List.range 8).flatMap fun place => (b.row place).toBytes

def ofBytes (bytes : Bytes) : Block :=
  let r (place : Nat) : Square := .ofBytes ((bytes.drop (128 * place)).take 128)
  ⟨r 0, r 1, r 2, r 3, r 4, r 5, r 6, r 7⟩

end Block
end PasswordSeal.Argon2id
