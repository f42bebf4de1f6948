import PasswordSeal.Digest.Word

/-!
# SHA-2

SHA-224 and SHA-256 work on words of 32 bits in 64 steps, SHA-384 and SHA-512 on words of 64 bits
in 80 steps. Apart from the word size they differ in how far words are turned, in the constants of
the steps and in the start; the two shorter ones also leave out the last words of the result.
-/
namespace PasswordSeal.Digest.Sha2

structure State (w : Type) where
  a : w
  b : w
  c : w
  d : w
  e : w
  f : w
  g : w
  h : w

/-- How far words are turned, and the constant of each step. In `narrow0` and `narrow1` the last
number is a shift. -/
structure Rules (w : Type) where
  wide0 : Nat × Nat × Nat
  wide1 : Nat × Nat × Nat
  narrow0 : Nat × Nat × Nat
  narrow1 : Nat × Nat × Nat
  constants : List w

section
variable {w : Type} [Word w]

@[inline] def wide (by3 : Nat × Nat × Nat) (x : w) : w :=
  Word.rotateRight x by3.1 ^^^ Word.rotateRight x by3.2.1 ^^^ Word.rotateRight x by3.2.2

@[inline] def narrow (by3 : Nat × Nat × Nat) (x : w) : w :=
  Word.rotateRight x by3.1 ^^^ Word.rotateRight x by3.2.1 ^^^ Word.shiftRight x by3.2.2

@[specialize] def extend (rules : Rules w) : Nat → List w → List w
  | 0, words => words
  | count + 1, words =>
    match words with
    | _ :: w2 :: _ :: _ :: _ :: _ :: w7 :: _ :: _ :: _ :: _ :: _ :: _ :: _ :: w15 :: w16 :: _ =>
      extend rules count
        ((narrow rules.narrow1 w2 + w7 + narrow rules.narrow0 w15 + w16) :: words)
    | _ => words

@[specialize] def steps (rules : Rules w) : List w → (a b c d e f g h : w) → State w
  | [], a, b, c, d, e, f, g, h => ⟨a, b, c, d, e, f, g, h⟩
  | word :: words, a, b, c, d, e, f, g, h =>
    let t1 := h + wide rules.wide1 e + (g ^^^ (e &&& (f ^^^ g))) + word
    let t2 := wide rules.wide0 a + ((a &&& b) ^^^ (a &&& c) ^^^ (b &&& c))
    steps rules words (t1 + t2) a b c (d + t1) e f g

@[specialize] def compress (rules : Rules w) (s : State w) (block : Bytes) : State w :=
  let schedule := (extend rules (rules.constants.length - 16) (blockWords block).reverse).reverse
  let r := steps rules (List.zipWith (· + ·) rules.constants schedule)
    s.a s.b s.c s.d s.e s.f s.g s.h
  ⟨s.a + r.a, s.b + r.b, s.c + r.c, s.d + r.d, s.e + r.e, s.f + r.f, s.g + r.g, s.h + r.h⟩

@[specialize] def State.toBytes (s : State w) : Bytes :=
  Word.toBytes s.a ++ Word.toBytes s.b ++ Word.toBytes s.c ++ Word.toBytes s.d ++
    Word.toBytes s.e ++ Word.toBytes s.f ++ Word.toBytes s.g ++ Word.toBytes s.h

theorem State.length_toBytes (s : State w) : s.toBytes.length = 8 * Word.size w := by
  simp only [State.toBytes, List.length_append, Word.length_toBytes]
  omega

end

def rules32 : Rules UInt32 where
  wide0 := (2, 13, 22)
  wide1 := (6, 11, 25)
  narrow0 := (7, 18, 3)
  narrow1 := (17, 19, 10)
  constants :=
    [0x428A2F98, 0x71374491, 0xB5C0FBCF, 0xE9B5DBA5, 0x3956C25B, 0x59F111F1, 0x923F82A4,
      0xAB1C5ED5, 0xD807AA98, 0x12835B01, 0x243185BE, 0x550C7DC3, 0x72BE5D74, 0x80DEB1FE,
      0x9BDC06A7, 0xC19BF174, 0xE49B69C1, 0xEFBE4786, 0x0FC19DC6, 0x240CA1CC, 0x2DE92C6F,
      0x4A7484AA, 0x5CB0A9DC, 0x76F988DA, 0x983E5152, 0xA831C66D, 0xB00327C8, 0xBF597FC7,
      0xC6E00BF3, 0xD5A79147, 0x06CA6351, 0x14292967, 0x27B70A85, 0x2E1B2138, 0x4D2C6DFC,
      0x53380D13, 0x650A7354, 0x766A0ABB, 0x81C2C92E, 0x92722C85, 0xA2BFE8A1, 0xA81A664B,
      0xC24B8B70, 0xC76C51A3, 0xD192E819, 0xD6990624, 0xF40E3585, 0x106AA070, 0x19A4C116,
      0x1E376C08, 0x2748774C, 0x34B0BCB5, 0x391C0CB3, 0x4ED8AA4A, 0x5B9CCA4F, 0x682E6FF3,
      0x748F82EE, 0x78A5636F, 0x84C87814, 0x8CC70208, 0x90BEFFFA, 0xA4506CEB, 0xBEF9A3F7,
      0xC67178F2]

def rules64 : Rules UInt64 where
  wide0 := (28, 34, 39)
  wide1 := (14, 18, 41)
  narrow0 := (1, 8, 7)
  narrow1 := (19, 61, 6)
  constants :=
    [0x428A2F98D728AE22, 0x7137449123EF65CD, 0xB5C0FBCFEC4D3B2F, 0xE9B5DBA58189DBBC,
      0x3956C25BF348B538, 0x59F111F1B605D019, 0x923F82A4AF194F9B, 0xAB1C5ED5DA6D8118,
      0xD807AA98A3030242, 0x12835B0145706FBE, 0x243185BE4EE4B28C, 0x550C7DC3D5FFB4E2,
      0x72BE5D74F27B896F, 0x80DEB1FE3B1696B1, 0x9BDC06A725C71235, 0xC19BF174CF692694,
      0xE49B69C19EF14AD2, 0xEFBE4786384F25E3, 0x0FC19DC68B8CD5B5, 0x240CA1CC77AC9C65,
      0x2DE92C6F592B0275, 0x4A7484AA6EA6E483, 0x5CB0A9DCBD41FBD4, 0x76F988DA831153B5,
      0x983E5152EE66DFAB, 0xA831C66D2DB43210, 0xB00327C898FB213F, 0xBF597FC7BEEF0EE4,
      0xC6E00BF33DA88FC2, 0xD5A79147930AA725, 0x06CA6351E003826F, 0x142929670A0E6E70,
      0x27B70A8546D22FFC, 0x2E1B21385C26C926, 0x4D2C6DFC5AC42AED, 0x53380D139D95B3DF,
      0x650A73548BAF63DE, 0x766A0ABB3C77B2A8, 0x81C2C92E47EDAEE6, 0x92722C851482353B,
      0xA2BFE8A14CF10364, 0xA81A664BBC423001, 0xC24B8B70D0F89791, 0xC76C51A30654BE30,
      0xD192E819D6EF5218, 0xD69906245565A910, 0xF40E35855771202A, 0x106AA07032BBD1B8,
      0x19A4C116B8D2D0C8, 0x1E376C085141AB53, 0x2748774CDF8EEB99, 0x34B0BCB5E19B48A8,
      0x391C0CB3C5C95A63, 0x4ED8AA4AE3418ACB, 0x5B9CCA4F7763E373, 0x682E6FF3D6B2B8A3,
      0x748F82EE5DEFB2FC, 0x78A5636F43172F60, 0x84C87814A1F0AB72, 0x8CC702081A6439EC,
      0x90BEFFFA23631E28, 0xA4506CEBDE82BDE9, 0xBEF9A3F7B2C67915, 0xC67178F2E372532B,
      0xCA273ECEEA26619C, 0xD186B8C721C0C207, 0xEADA7DD6CDE0EB1E, 0xF57D4F7FEE6ED178,
      0x06F067AA72176FBA, 0x0A637DC5A2C898A6, 0x113F9804BEF90DAE, 0x1B710B35131C471B,
      0x28DB77F523047D84, 0x32CAAB7B40C72493, 0x3C9EBE0A15C9BEBC, 0x431D67C49C100D4C,
      0x4CC5D4BECB3E42B6, 0x597F299CFC657E2A, 0x5FCB6FAB3AD6FAEC, 0x6C44198C4A475817]

def start224 : State UInt32 :=
  ⟨0xC1059ED8, 0x367CD507, 0x3070DD17, 0xF70E5939,
    0xFFC00B31, 0x68581511, 0x64F98FA7, 0xBEFA4FA4⟩

def start256 : State UInt32 :=
  ⟨0x6A09E667, 0xBB67AE85, 0x3C6EF372, 0xA54FF53A,
    0x510E527F, 0x9B05688C, 0x1F83D9AB, 0x5BE0CD19⟩

def start384 : State UInt64 :=
  ⟨0xCBBB9D5DC1059ED8, 0x629A292A367CD507, 0x9159015A3070DD17, 0x152FECD8F70E5939,
    0x67332667FFC00B31, 0x8EB44A8768581511, 0xDB0C2E0D64F98FA7, 0x47B5481DBEFA4FA4⟩

def start512 : State UInt64 :=
  ⟨0x6A09E667F3BCC908, 0xBB67AE8584CAA73B, 0x3C6EF372FE94F82B, 0xA54FF53A5F1D36F1,
    0x510E527FADE682D1, 0x9B05688C2B3E6C1F, 0x1F83D9ABFB41BD6B, 0x5BE0CD19137E2179⟩

def hash32 (start : State UInt32) (message : Bytes) : Bytes :=
  ((messageBlocks 64 8 message).foldl (compress rules32) start).toBytes

def hash64 (start : State UInt64) (message : Bytes) : Bytes :=
  ((messageBlocks 128 16 message).foldl (compress rules64) start).toBytes

@[simp] theorem length_hash32 (start : State UInt32) (message : Bytes) :
    (hash32 start message).length = 32 := State.length_toBytes _

@[simp] theorem length_hash64 (start : State UInt64) (message : Bytes) :
    (hash64 start message).length = 64 := State.length_toBytes _

end PasswordSeal.Digest.Sha2
