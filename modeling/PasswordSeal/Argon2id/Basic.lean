import PasswordSeal.Argon2id.Block

/-!
# Argon2id

Key material from a memory of blocks. The memory is cut into lanes, which are filled side by side,
and into four slices of segments. Every block combines the one before it in its lane with one that
two pseudo-random numbers pick. In the first half of the first pass these numbers depend only on
the place, afterwards they are read from the block before.
-/
namespace PasswordSeal.Argon2id

open Blake2b (Square)

def memoryBlocks : Nat := 65536

def lanes : Nat := 4

def slices : Nat := 4

def laneLength : Nat := memoryBlocks / lanes

def segmentLength : Nat := laneLength / slices

def version : Nat := 0x13

def variant : Nat := 2

def minSaltLength : Nat := 8

def minLength : Nat := 4

/-- The most bytes that a password or a salt may have; four bytes hold their lengths. -/
def maxInputLength : Nat := 0xFFFFFFFF

def count32 (n : Nat) : Bytes :=
  (Numeral.toBytes 4 n).reverse

/-- Digests of 64 bytes, each of the one before it: the first halves of `count` of them, and the
last one. -/
def halves : Nat → Bytes → Bytes × Bytes
  | 0, digest => ([], digest)
  | count + 1, digest =>
    let later := halves count (Blake2b.hash 64 digest)
    (digest.take 32 ++ later.1, later.2)

/-- A digest of any length: halves of chained digests and one digest of the rest. -/
def longHash (length : Nat) (message : Bytes) : Bytes :=
  let message := count32 length ++ message
  if length ≤ 64 then Blake2b.hash length message
  else
    let count := (length + 31) / 32 - 2
    let found := halves (count - 1) (Blake2b.hash 64 message)
    found.1 ++ found.2.take 32 ++ Blake2b.hash (length - 32 * count) found.2

def seed (password salt : Bytes) (passes length : Nat) : Bytes :=
  Blake2b.hash 64 <|
    count32 lanes ++ count32 length ++ count32 memoryBlocks ++ count32 passes ++ count32 version ++
      count32 variant ++ count32 password.length ++ password ++ count32 salt.length ++ salt ++
      count32 0 ++ count32 0

structure Segment where
  pass : Nat
  lane : Nat
  slice : Nat

namespace Segment

def placeOnly (s : Segment) : Bool :=
  s.pass == 0 && s.slice < 2

def numbers (s : Segment) (passes group : Nat) : Block :=
  let input : Square :=
    ⟨s.pass.toUInt64, s.lane.toUInt64, s.slice.toUInt64, memoryBlocks.toUInt64,
      passes.toUInt64, variant.toUInt64, group.toUInt64, 0, 0, 0, 0, 0, 0, 0, 0, 0⟩
  Block.zero.combine (Block.zero.combine { Block.zero with r0 := input })

def picked (s : Segment) (index : Nat) (number : UInt64) : Nat :=
  let lane := if s.pass = 0 ∧ s.slice = 0 then s.lane else (number >>> 32).toNat % lanes
  let own := lane = s.lane
  let finished := if s.pass = 0 then s.slice * segmentLength else laneLength - segmentLength
  let area := if own then finished + index - 1 else if index = 0 then finished - 1 else finished
  let low := number &&& 0xFFFFFFFF
  let square := (low * low) >>> 32
  let back := ((area.toUInt64 * square) >>> 32).toNat
  let first := if s.pass = 0 then 0 else (s.slice + 1) * segmentLength
  lane * laneLength + (first + area - 1 - back) % laneLength

/-- Fill the last `count` blocks of a segment. `known` holds the pseudo-random numbers of the group
where filling stands, if they depend on the place alone. -/
def fill (s : Segment) (passes : Nat) : Nat → (known : Block) → Array Block → Array Block
  | 0, _, memory => memory
  | count + 1, known, memory =>
    let index := segmentLength - (count + 1)
    let column := s.slice * segmentLength + index
    let place := s.lane * laneLength + column
    let before := s.lane * laneLength + (column + laneLength - 1) % laneLength
    let known :=
      if s.placeOnly && index % 128 == 0 then s.numbers passes (index / 128 + 1) else known
    let previous := memory.getD before .zero
    let number := if s.placeOnly then known.word (index % 128) else previous.r0.w0
    let fresh := previous.combine (memory.getD (s.picked index number) .zero)
    let block := if s.pass = 0 then fresh else fresh.xor (memory.getD place .zero)
    fill s passes count known (memory.setIfInBounds place block)

def fillAll (passes : Nat) (memory : Array Block) (s : Segment) : Array Block :=
  if s.pass = 0 ∧ s.slice = 0 then
    -- The first two blocks of a lane are there from the start.
    s.fill passes (segmentLength - 2) (s.numbers passes 1) memory
  else s.fill passes segmentLength .zero memory

end Segment

def segments (passes : Nat) : List Segment :=
  (List.range passes).flatMap fun pass =>
    (List.range slices).flatMap fun slice =>
      (List.range lanes).map fun lane => ⟨pass, lane, slice⟩

def startMemory (seed : Bytes) : Array Block :=
  (List.range lanes).foldl
    (fun memory lane =>
      let block (column : Nat) : Block :=
        .ofBytes (longHash 1024 (seed ++ count32 column ++ count32 lane))
      (memory.setIfInBounds (lane * laneLength) (block 0)).setIfInBounds
        (lane * laneLength + 1) (block 1))
    (Array.replicate memoryBlocks .zero)

def lastBlocks (memory : Array Block) : Block :=
  (List.range lanes).foldl
    (fun sum lane => sum.xor (memory.getD (lane * laneLength + laneLength - 1) .zero)) .zero

def derive (password salt : Bytes) (passes length : Nat) : Bytes :=
  let memory := startMemory (seed password salt passes length)
  longHash length (lastBlocks ((segments passes).foldl (Segment.fillAll passes) memory)).toBytes

theorem length_halves (count : Nat) {digest : Bytes} (h : digest.length = 64) :
    (halves count digest).1.length = 32 * count ∧ (halves count digest).2.length = 64 := by
  induction count generalizing digest with
  | zero => simp [halves, h]
  | succ count ih =>
    obtain ⟨hlater, hlast⟩ := ih (Blake2b.length_hash (Nat.le_refl 64) digest)
    refine ⟨?_, hlast⟩
    simp only [halves, List.length_append, List.length_take, hlater, h]
    omega

@[simp] theorem length_longHash (length : Nat) (message : Bytes) :
    (longHash length message).length = length := by
  unfold longHash
  split
  · next h => exact Blake2b.length_hash h _
  · next h =>
    have hs := Blake2b.length_hash (Nat.le_refl 64) (count32 length ++ message)
    have hh := length_halves ((length + 31) / 32 - 2 - 1) hs
    simp only [List.length_append, List.length_take, hh]
    rw [Blake2b.length_hash (by omega)]
    omega

@[simp] theorem length_derive (password salt : Bytes) (passes length : Nat) :
    (derive password salt passes length).length = length := by
  simp [derive]

end PasswordSeal.Argon2id
