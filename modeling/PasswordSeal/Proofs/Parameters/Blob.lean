import PasswordSeal.Parameters.Blob
import PasswordSeal.Proofs.Except
import PasswordSeal.Text.Utf8.Lemmas

/-!
# Reading what was written into a blob

Each field's reader takes the bytes that its writer put down and leaves what stands behind them.
-/
namespace PasswordSeal.Blob

theorem readExactly_append (short : Flaw) {count : Nat} {bytes : Bytes}
    (h : bytes.length = count) (rest : Bytes) :
    readExactly short count (bytes ++ rest) = .ok (bytes, rest) := by
  subst h
  rw [readExactly, if_pos (by simp), List.take_left, List.drop_left]

theorem length_lowestFirst (count n : Nat) : (lowestFirst count n).length = count := by
  rw [lowestFirst, List.length_reverse, Numeral.length_toBytes]

theorem readLowestFirst_append {count n : Nat} (h : n < 256 ^ count) (rest : Bytes) :
    readLowestFirst count (lowestFirst count n ++ rest) = .ok (n, rest) := by
  rw [readLowestFirst, readExactly_append _ (length_lowestFirst count n)]
  dsimp only
  rw [lowestFirst, List.reverse_reverse, Numeral.ofBytes_toBytes h]

theorem readNumber_append {n : Nat} (h : n < UInt64.size) (rest : Bytes) :
    readNumber (writeNumber n ++ rest) = .ok (n, rest) := by
  have h16 : UInt16.size = 256 ^ 2 := rfl
  have h32 : UInt32.size = 256 ^ 4 := rfl
  have h64 : UInt64.size = 256 ^ 8 := rfl
  rw [writeNumber]
  split
  · next h1 =>
    have hn : n.toUInt8.toNat = n := Utf8.toNat_ofNat (by omega)
    have hlt : n.toUInt8 < 251 := by
      rw [UInt8.lt_iff_toNat_lt, hn]
      exact h1
    rw [List.singleton_append, readNumber, if_pos hlt, hn]
  split
  · next h2 =>
    rw [List.cons_append, readNumber, if_neg (by decide), if_pos rfl,
      readLowestFirst_append (by omega)]
  split
  · next h3 =>
    rw [List.cons_append, readNumber, if_neg (by decide), if_neg (by decide), if_pos rfl,
      readLowestFirst_append (by omega)]
  · rw [List.cons_append, readNumber, if_neg (by decide), if_neg (by decide),
      if_neg (by decide), if_pos rfl, readLowestFirst_append (by omega)]

theorem readBytes_append (short : Flaw) {bytes : Bytes} (h : bytes.length < UInt64.size)
    (rest : Bytes) : readBytes short (writeBytes bytes ++ rest) = .ok (bytes, rest) := by
  rw [readBytes, writeBytes, List.append_assoc, readNumber_append h]
  exact readExactly_append short rfl rest

theorem readText_append {text : String} (h : (Utf8.encode text).length < UInt64.size)
    (rest : Bytes) : readText (writeBytes (Utf8.encode text) ++ rest) = .ok (text, rest) := by
  rw [readText, readBytes_append _ h]
  dsimp only
  rw [Utf8.decode_encode]

theorem readCount_append (count : UInt32) (rest : Bytes) :
    readCount (writeNumber count.toNat ++ rest) = .ok (count, rest) := by
  have hc : count.toNat < UInt32.size := count.toNat_lt
  have hle : UInt32.size ≤ UInt64.size := by decide
  rw [readCount, readNumber_append (Nat.lt_of_lt_of_le hc hle)]
  dsimp only
  rw [if_pos hc, UInt32.ofNat_toNat]

theorem readIv_append {iv : Option Bytes}
    (h : ∀ bytes, iv = some bytes → bytes.length < UInt64.size) (rest : Bytes) :
    readIv (writeIv iv ++ rest) = .ok (iv, rest) := by
  cases iv with
  | none => rfl
  | some bytes =>
    have hb := readBytes_append .endOfInput (h bytes rfl) rest
    rw [writeIv, List.cons_append, readIv, if_neg (by decide), if_pos rfl, hb]

structure Sized (p : Parameters) : Prop where
  algorithm : (Utf8.encode p.algorithm).length < UInt64.size
  salt : p.salt.length < UInt64.size
  iv : ∀ bytes, p.iv = some bytes → bytes.length < UInt64.size

theorem readFields_append {p : Parameters} (h : Sized p) (rest : Bytes) :
    readFields (writeFields p ++ rest) = .ok (p, rest) := by
  simp only [readFields, writeFields, List.append_assoc, readText_append h.algorithm, ok_bind,
    readBytes_append _ h.salt, readCount_append, readIv_append h.iv]
  rfl

theorem sized_of_length_le {p : Parameters} (h : (writeFields p).length ≤ sizeLimit) :
    Sized p := by
  have h64 : sizeLimit < UInt64.size := by decide
  simp only [writeFields, writeBytes, List.length_append] at h
  refine ⟨by omega, by omega, fun bytes hb => ?_⟩
  simp only [hb, writeIv, writeBytes, List.length_cons, List.length_append] at h
  omega

theorem read_write {p : Parameters} {blob : Bytes} (h : write p = .ok blob) :
    read blob = .ok p := by
  rw [write] at h
  split at h
  · next hl =>
    obtain rfl := Except.ok.inj h
    have hr := readFields_append (sized_of_length_le hl) []
    rw [List.append_nil] at hr
    rw [read, hr]
  · cases h

end PasswordSeal.Blob
