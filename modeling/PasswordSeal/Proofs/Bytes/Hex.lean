import PasswordSeal.Bytes.Hex
import PasswordSeal.Text.Utf8.Lemmas
import Mathlib.Data.List.Basic

/-!
# Reading what was written in hexadecimal

The digits are ASCII characters and each has its value back, so two of them give back a byte.
-/
namespace PasswordSeal.Hex

def code (value : Nat) : UInt8 :=
  (digit value).toUInt8

def pair (b : UInt8) : Bytes :=
  [code (b.toNat / 16), code (b.toNat % 16)]

theorem utf8EncodeChar_digit {value : Nat} (h : value < 16) :
    String.utf8EncodeChar (digit value) = [code value] := by
  have hall : ∀ v ∈ List.range 16, String.utf8EncodeChar (digit v) = [code v] := by decide
  exact hall value (List.mem_range.2 h)

theorem readDigit_code {value : Nat} (h : value < 16) (position : Nat) :
    readDigit position (code value) = .ok (UInt8.ofNat value) := by
  have hall : ∀ v ∈ List.range 16, value? (code v) = some (UInt8.ofNat v) := by decide
  rw [readDigit, hall value (List.mem_range.2 h)]

theorem digit_mem {value : Nat} (h : value < 16) : digit value ∈ "0123456789abcdef".toList := by
  have hall : ∀ v ∈ List.range 16, digit v ∈ "0123456789abcdef".toList := by decide
  exact hall value (List.mem_range.2 h)

theorem halves_lt (b : UInt8) : b.toNat / 16 < 16 ∧ b.toNat % 16 < 16 := by
  have hb := b.toNat_lt
  omega

theorem ofNat_halves (b : UInt8) :
    UInt8.ofNat (b.toNat / 16) * 16 + UInt8.ofNat (b.toNat % 16) = b := by
  have hb := b.toNat_lt
  have hhigh : (UInt8.ofNat (b.toNat / 16)).toNat = b.toNat / 16 := Utf8.toNat_ofNat (by omega)
  have hlow : (UInt8.ofNat (b.toNat % 16)).toNat = b.toNat % 16 := Utf8.toNat_ofNat (by omega)
  have h16 : (16 : UInt8).toNat = 16 := rfl
  apply UInt8.toNat.inj
  rw [UInt8.toNat_add, UInt8.toNat_mul, hhigh, hlow, h16]
  omega

theorem encode_encode (bytes : Bytes) : Utf8.encode (encode bytes) = bytes.flatMap pair := by
  rw [Utf8.encode, encode, String.toList_ofList, List.flatMap_assoc]
  refine List.flatMap_congr fun b _ => ?_
  have hb := halves_lt b
  simp only [List.flatMap_cons, List.flatMap_nil, utf8EncodeChar_digit hb.1,
    utf8EncodeChar_digit hb.2]
  rfl

theorem readPairs_pairs (position : Nat) (bytes : Bytes) :
    readPairs position (bytes.flatMap pair) = .ok bytes := by
  induction bytes generalizing position with
  | nil => rfl
  | cons b bytes ih =>
    have hb := halves_lt b
    have hcons : (b :: bytes).flatMap pair =
        code (b.toNat / 16) :: code (b.toNat % 16) :: bytes.flatMap pair := rfl
    rw [hcons, readPairs, readDigit_code hb.1, readDigit_code hb.2, ih (position + 2)]
    exact congrArg (fun c => Except.ok (c :: bytes)) (ofNat_halves b)

theorem length_pairs (bytes : Bytes) : (bytes.flatMap pair).length = 2 * bytes.length := by
  induction bytes with
  | nil => rfl
  | cons b bytes ih =>
    rw [List.flatMap_cons, List.length_append, ih, List.length_cons, pair]
    simp only [List.length_cons, List.length_nil]
    omega

@[simp] theorem decode_encode (bytes : Bytes) : decode (encode bytes) = .ok bytes := by
  have heven : (bytes.flatMap pair).length % 2 = 0 := by rw [length_pairs, Nat.mul_mod_right]
  rw [decode, encode_encode, if_pos heven, readPairs_pairs]

theorem mem_encode {bytes : Bytes} {c : Char} (h : c ∈ (encode bytes).toList) :
    c ∈ "0123456789abcdef".toList := by
  rw [encode, String.toList_ofList] at h
  obtain ⟨b, -, hc⟩ := List.mem_flatMap.1 h
  have hb := halves_lt b
  rcases List.mem_pair.1 hc with rfl | rfl
  · exact digit_mem hb.1
  · exact digit_mem hb.2

end PasswordSeal.Hex
