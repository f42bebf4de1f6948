import PasswordSeal.Bytes.Chunks
import PasswordSeal.Bytes.Numeral

/-!
# Blocks of sixteen bytes

A block is four columns of four bytes. It holds its bytes by type, so that a block written as
bytes and read again is the same block.
-/
namespace PasswordSeal

structure Column where
  a : UInt8
  b : UInt8
  c : UInt8
  d : UInt8
  deriving DecidableEq

structure Block where
  c0 : Column
  c1 : Column
  c2 : Column
  c3 : Column
  deriving DecidableEq

namespace Column

@[inline] def map (f : UInt8 → UInt8) (x : Column) : Column :=
  ⟨f x.a, f x.b, f x.c, f x.d⟩

def xor (x y : Column) : Column :=
  ⟨x.a ^^^ y.a, x.b ^^^ y.b, x.c ^^^ y.c, x.d ^^^ y.d⟩

def toBytes (x : Column) : Bytes :=
  [x.a, x.b, x.c, x.d]

def ofBytes (bytes : Bytes) : Column :=
  ⟨bytes.getD 0 0, bytes.getD 1 0, bytes.getD 2 0, bytes.getD 3 0⟩

end Column

namespace Block

@[inline] def map (f : Column → Column) (x : Block) : Block :=
  ⟨f x.c0, f x.c1, f x.c2, f x.c3⟩

def xor (x y : Block) : Block :=
  ⟨x.c0.xor y.c0, x.c1.xor y.c1, x.c2.xor y.c2, x.c3.xor y.c3⟩

def toBytes (x : Block) : Bytes :=
  x.c0.toBytes ++ x.c1.toBytes ++ x.c2.toBytes ++ x.c3.toBytes

/-- The block of sixteen bytes; missing bytes count as zero. -/
def ofBytes (bytes : Bytes) : Block :=
  ⟨.ofBytes bytes, .ofBytes (bytes.drop 4), .ofBytes (bytes.drop 8), .ofBytes (bytes.drop 12)⟩

@[simp] theorem length_toBytes (x : Block) : x.toBytes.length = 16 := rfl

@[simp] theorem ofBytes_toBytes (x : Block) : ofBytes x.toBytes = x := rfl

def split (bytes : Bytes) : List Block :=
  (chunks 16 bytes).map ofBytes

def join (blocks : List Block) : Bytes :=
  blocks.flatMap toBytes

@[simp] theorem split_join (blocks : List Block) : split (join blocks) = blocks := by
  induction blocks with
  | nil => simp [split, join]
  | cons b blocks ih =>
    simp only [split, join, List.flatMap_cons] at ih ⊢
    rw [chunks_append (by decide) (length_toBytes b), List.map_cons, ih, ofBytes_toBytes]

end Block

structure BlockCipher where
  encrypt : Block → Block
  decrypt : Block → Block

end PasswordSeal
