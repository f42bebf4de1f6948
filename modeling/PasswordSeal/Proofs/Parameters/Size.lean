import PasswordSeal.Fault
import PasswordSeal.Proofs.Parameters.Blob

/-!
# The size of a blob

How long a blob gets is known before it is written: every field takes its own bytes, a text, a salt
and a vector take a number for their length, and whether there is a vector takes one more byte. So
the size limit is a limit on parameters. Those that keep to it have a blob, which no other
parameters have, and the others have none.
-/
namespace PasswordSeal
namespace Blob

def numberSize (n : Nat) : Nat :=
  if n < 251 then 1 else if n < 0x10000 then 3 else if n < 0x100000000 then 5 else 9

def bytesSize (length : Nat) : Nat :=
  numberSize length + length

def ivSize : Option Bytes → Nat
  | none => 1
  | some iv => 1 + bytesSize iv.length

def size (p : Parameters) : Nat :=
  bytesSize p.algorithm.utf8ByteSize + bytesSize p.salt.length +
    numberSize p.iterations.toNat + ivSize p.iv

theorem length_writeNumber (n : Nat) : (writeNumber n).length = numberSize n := by
  have h16 : UInt16.size = 0x10000 := rfl
  have h32 : UInt32.size = 0x100000000 := rfl
  rw [writeNumber, numberSize, h16, h32]
  split
  · rfl
  split
  · rw [List.length_cons, length_lowestFirst]
  split
  · rw [List.length_cons, length_lowestFirst]
  · rw [List.length_cons, length_lowestFirst]

theorem length_writeBytes (bytes : Bytes) : (writeBytes bytes).length = bytesSize bytes.length := by
  rw [writeBytes, List.length_append, length_writeNumber, bytesSize]

theorem length_writeIv (iv : Option Bytes) : (writeIv iv).length = ivSize iv := by
  cases iv with
  | none => rfl
  | some bytes => rw [writeIv, List.length_cons, length_writeBytes, ivSize, Nat.add_comm]

theorem length_encode (text : String) : (Utf8.encode text).length = text.utf8ByteSize := by
  rw [Utf8.encode, String.utf8ByteSize, ← String.utf8Encode_toList, List.utf8Encode,
    List.size_toByteArray]

theorem length_writeFields (p : Parameters) : (writeFields p).length = size p := by
  simp only [writeFields, size, List.length_append, length_writeBytes, length_writeNumber,
    length_writeIv, length_encode]

theorem write_eq_ok {p : Parameters} {blob : Bytes} :
    write p = .ok blob ↔ size p ≤ sizeLimit ∧ writeFields p = blob := by
  rw [write, length_writeFields]
  split <;> simp [*]

theorem write_eq_error {p : Parameters} {flaw : Flaw} :
    write p = .error flaw ↔ sizeLimit < size p ∧ .tooLarge = flaw := by
  rw [write, length_writeFields]
  split
  · next h => simp [Nat.not_lt.2 h]
  · next h => simp [Nat.lt_of_not_le h]

end Blob

namespace Parameters
variable {p q : Parameters} {blob : Bytes}

theorem toBlob_eq_ok :
    p.toBlob = .ok blob ↔ Blob.size p ≤ Blob.sizeLimit ∧ Blob.writeFields p = blob :=
  mapError_eq_ok.trans Blob.write_eq_ok

theorem ofBlob_toBlob (h : p.toBlob = .ok blob) : ofBlob blob = .ok p := by
  rw [toBlob, mapError_eq_ok] at h
  rw [ofBlob, Blob.read_write h]
  rfl

theorem toBlob_injective (hp : p.toBlob = .ok blob) (hq : q.toBlob = .ok blob) : p = q :=
  Except.ok.inj ((ofBlob_toBlob hp).symm.trans (ofBlob_toBlob hq))

/-- Parameters have a blob exactly when its size is within the limit. The blob has this size, is
read as these parameters, and is the blob of no others. -/
theorem toBlob_exact (p : Parameters) :
    ((∃ blob, p.toBlob = .ok blob) ↔ Blob.size p ≤ 4096) ∧
      (p.toBlob = .error (.blob .tooLarge) ↔ 4096 < Blob.size p) ∧
      ∀ blob, p.toBlob = .ok blob → blob.length = Blob.size p ∧ ofBlob blob = .ok p ∧
        ∀ q, q.toBlob = .ok blob → q = p := by
  refine ⟨?_, ?_, ?_⟩
  · simp only [toBlob_eq_ok, exists_and_left, exists_eq', and_true]
    rfl
  · simp only [toBlob, mapError_eq_error, Blob.write_eq_error]
    constructor
    · rintro ⟨flaw, ⟨hsize, -⟩, -⟩
      exact hsize
    · intro hsize
      exact ⟨.tooLarge, ⟨hsize, rfl⟩, rfl⟩
  · intro blob h
    refine ⟨?_, ofBlob_toBlob h, fun q hq => toBlob_injective hq h⟩
    rw [← (toBlob_eq_ok.1 h).2, Blob.length_writeFields]

end Parameters
end PasswordSeal
