import PasswordSeal.Digest.Basic

/-!
# PBKDF2

A key of HMAC fills one block of the hash function: a longer key is replaced by its digest, a
shorter one is filled up with zero bytes. So a key and the same key with zero bytes behind it give
the same tags as long as both fit into the block.

Key material is cut from one stream of blocks. Block `i` chains tags of the password, the first
over the salt and `i`, and adds them bit by bit; neither the length asked for nor any other block
enters it.
-/
namespace PasswordSeal

namespace Hmac

def blockKey (d : Digest) (key : Bytes) : Bytes :=
  let short := if key.length ≤ d.blockSize then key else d.hash key
  short ++ List.replicate (d.blockSize - short.length) 0

def tagWith (d : Digest) (blockKey message : Bytes) : Bytes :=
  d.hash (blockKey.map (· ^^^ 0x5C) ++ d.hash (blockKey.map (· ^^^ 0x36) ++ message))

@[simp] theorem length_tagWith (d : Digest) (blockKey message : Bytes) :
    (tagWith d blockKey message).length = d.size := by
  simp [tagWith]

end Hmac

namespace Pbkdf2

/-- So many further tags, each of the one before it, added to `sum`. -/
def chain (tag : Bytes → Bytes) : Nat → (last sum : Bytes) → Bytes
  | 0, _, sum => sum
  | count + 1, last, sum =>
    let next := tag last
    chain tag count next (sum.xor next)

def block (tag : Bytes → Bytes) (salt : Bytes) (rounds number : Nat) : Bytes :=
  let first := tag (salt ++ Numeral.toBytes 4 number)
  chain tag (rounds - 1) first first

def stream (d : Digest) (password salt : Bytes) (rounds length : Nat) : Bytes :=
  let key := Hmac.blockKey d password
  let count := (length + d.size - 1) / d.size
  ((List.range count).flatMap fun i => block (Hmac.tagWith d key) salt rounds (i + 1)).take length

theorem length_chain {tag : Bytes → Bytes} {size : Nat} (h : ∀ m, (tag m).length = size)
    (count : Nat) {last sum : Bytes} (hs : sum.length = size) :
    (chain tag count last sum).length = size := by
  induction count generalizing last sum with
  | zero => exact hs
  | succ count ih => exact ih (by simp [h, hs])

theorem length_block {tag : Bytes → Bytes} {size : Nat} (h : ∀ m, (tag m).length = size)
    (salt : Bytes) (rounds number : Nat) : (block tag salt rounds number).length = size :=
  length_chain h _ (h _)

theorem length_blocks {tag : Bytes → Bytes} {size : Nat} (h : ∀ m, (tag m).length = size)
    (salt : Bytes) (rounds count : Nat) : ((List.range count).flatMap fun i =>
      block tag salt rounds (i + 1)).length = count * size := by
  induction count with
  | zero => simp
  | succ count ih => simp [List.range_succ, ih, length_block h, Nat.succ_mul]

theorem le_blockCount_mul {size : Nat} (h : 0 < size) (length : Nat) :
    length ≤ (length + size - 1) / size * size := by
  have hmod := Nat.div_add_mod (length + size - 1) size
  have hlt := Nat.mod_lt (length + size - 1) h
  rw [Nat.mul_comm]
  omega

@[simp] theorem length_stream (d : Digest) (password salt : Bytes) (rounds length : Nat) :
    (stream d password salt rounds length).length = length := by
  have hblocks := length_blocks (Hmac.length_tagWith d (Hmac.blockKey d password)) salt rounds
    ((length + d.size - 1) / d.size)
  have hle := le_blockCount_mul d.size_pos length
  rw [stream, List.length_take, hblocks, Nat.min_eq_left hle]

end Pbkdf2
end PasswordSeal
