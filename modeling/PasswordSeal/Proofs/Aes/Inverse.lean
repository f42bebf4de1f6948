import PasswordSeal.Aes.Basic

/-!
# Decrypting a block undoes encrypting it

Every step of a round has an inverse. The two substitution tables are compared as two numbers with
256 digits each, of which a digit is found by one division. The maps of columns cancel because
doubling adds up: what is left of a byte is its doubles, each an even number of times.
-/
namespace PasswordSeal

theorem Numeral.getD_digits (base count n : Nat) {i : Nat} (h : i < count) :
    (digits base count n).getD i 0 = n / base ^ (count - 1 - i) % base := by
  induction count generalizing n with
  | zero => omega
  | succ count ih =>
    rw [digits, List.getD_eq_getElem?_getD]
    by_cases hi : i < count
    · rw [List.getElem?_append_left (by simpa using hi), ← List.getD_eq_getElem?_getD, ih _ hi,
        Nat.div_div_eq_div_mul, ← Nat.pow_succ']
      congr 3
      omega
    · obtain rfl : i = count := by omega
      simp

theorem Numeral.getD_toNat (bytes : Bytes) {i : Nat} (h : i < bytes.length) :
    (bytes.getD i 0).toNat = ofBytes bytes / 256 ^ (bytes.length - 1 - i) % 256 := by
  have hd := digits_ofDigits (by decide) _ (toNat_lt_of_mem bytes)
  rw [← getD_digits 256 bytes.length _ h, ofBytes]
  rw [List.length_map] at hd
  rw [hd]
  simp [List.getD_eq_getElem?_getD, h]

theorem Column.xor_xor (x y : Column) : (x.xor y).xor y = x := by
  obtain ⟨a, b, c, d⟩ := x
  simp only [xor, UInt8.xor_assoc, UInt8.xor_self, UInt8.xor_zero]

@[simp] theorem Block.xor_xor (x y : Block) : (x.xor y).xor y = x := by
  obtain ⟨c0, c1, c2, c3⟩ := x
  simp only [xor, Column.xor_xor]

theorem Block.xor_comm (x y : Block) : x.xor y = y.xor x := by
  simp only [xor, Column.xor, UInt8.xor_comm]

theorem Block.xor_left_cancel {x y z : Block} (h : x.xor y = x.xor z) : y = z := by
  rw [← xor_xor y x, ← xor_xor z x, xor_comm y, xor_comm z, h]

structure BlockCipher.Permutes (cipher : BlockCipher) : Prop where
  decrypt_encrypt : ∀ x, cipher.decrypt (cipher.encrypt x) = x
  encrypt_decrypt : ∀ x, cipher.encrypt (cipher.decrypt x) = x

theorem BlockCipher.Permutes.injective {cipher : BlockCipher} (h : cipher.Permutes) :
    Function.Injective cipher.encrypt :=
  Function.LeftInverse.injective h.decrypt_encrypt

namespace Aes

/-! ## Substitution -/

/-- The entry at `place` of a table of 256 bytes that is read as one number. -/
def entry (table place : Nat) : Nat :=
  table / 256 ^ (255 - place) % 256

theorem toNat_getD {table : Array UInt8} (h : table.size = 256) (x : UInt8) :
    (table.getD x.toNat 0).toNat = entry (Numeral.ofBytes table.toList) x.toNat := by
  have hx : x.toNat < table.toList.length := by simpa [h] using x.toNat_lt
  have hd := Numeral.getD_toNat table.toList hx
  rw [Array.length_toList, h] at hd
  rw [entry, ← hd]
  simp

theorem size_sBox : sBox.size = 256 := by decide +kernel

theorem size_inverseSBox : inverseSBox.size = 256 := by decide +kernel

theorem entry_entry : ∀ n < 256,
    entry (Numeral.ofBytes inverseSBox.toList) (entry (Numeral.ofBytes sBox.toList) n) = n ∧
      entry (Numeral.ofBytes sBox.toList) (entry (Numeral.ofBytes inverseSBox.toList) n) = n := by
  decide +kernel

@[simp] theorem unsubstitute_substitute (x : UInt8) : unsubstitute (substitute x) = x := by
  apply UInt8.toNat_inj.1
  rw [unsubstitute, toNat_getD size_inverseSBox, substitute, toNat_getD size_sBox]
  exact (entry_entry _ x.toNat_lt).1

@[simp] theorem substitute_unsubstitute (x : UInt8) : substitute (unsubstitute x) = x := by
  apply UInt8.toNat_inj.1
  rw [substitute, toNat_getD size_sBox, unsubstitute, toNat_getD size_inverseSBox]
  exact (entry_entry _ x.toNat_lt).2

@[simp] theorem gather_scatter (x : Block) : gather (scatter x) = x := by
  simp [gather, scatter, Block.map, Column.map]

@[simp] theorem scatter_gather (x : Block) : scatter (gather x) = x := by
  simp [gather, scatter, Block.map, Column.map, unshiftRows, shiftRows]

/-! ## Columns -/

theorem double_eq (x : UInt8) :
    double x = (x <<< 1) ^^^ (if x.toBitVec.msb then 0x1B else 0) := by
  have hx : x < 0x80 ↔ ¬ x.toBitVec.msb := by
    simp [UInt8.lt_iff_toNat_lt, BitVec.msb_eq_decide]
  rw [double]
  split
  · next h => rw [if_neg (hx.1 h), UInt8.xor_zero]
  · next h => rw [if_pos (Classical.not_not.1 fun hn => h (hx.2 hn))]

theorem double_xor (x y : UInt8) : double (x ^^^ y) = double x ^^^ double y := by
  have hc : (0x1B : UInt8) ^^^ 0x1B = 0 := rfl
  rw [double_eq, double_eq, double_eq, UInt8.shiftLeft_xor, UInt8.toBitVec_xor, BitVec.msb_xor]
  cases x.toBitVec.msb <;> cases y.toBitVec.msb <;> grind only

theorem doubles_cancel (b : UInt8) : b ^^^ b = 0 ∧ double b ^^^ double b = 0 ∧
    double (double b) ^^^ double (double b) = 0 ∧
    double (double (double b)) ^^^ double (double (double b)) = 0 ∧
    double (double (double (double b))) ^^^ double (double (double (double b))) = 0 := by
  simp

@[simp] theorem unmixColumn_mixColumn (x : Column) : unmixColumn (mixColumn x) = x := by
  obtain ⟨a, b, c, d⟩ := x
  have ha := doubles_cancel a
  have hb := doubles_cancel b
  have hc := doubles_cancel c
  have hd := doubles_cancel d
  simp only [unmixColumn, mixColumn, double_xor, Column.mk.injEq]
  refine ⟨?_, ?_, ?_, ?_⟩ <;> grind only

@[simp] theorem mixColumn_unmixColumn (x : Column) : mixColumn (unmixColumn x) = x := by
  obtain ⟨a, b, c, d⟩ := x
  have ha := doubles_cancel a
  have hb := doubles_cancel b
  have hc := doubles_cancel c
  have hd := doubles_cancel d
  simp only [unmixColumn, mixColumn, double_xor, Column.mk.injEq]
  refine ⟨?_, ?_, ?_, ?_⟩ <;> grind only

/-! ## Rounds -/

theorem unrounds_cons (key next : Block) (keys : List Block) (x : Block) :
    unrounds (key :: next :: keys) x =
      gather (((unrounds (next :: keys) x).xor key).map unmixColumn) :=
  rfl

theorem rounds_cons (key next : Block) (keys : List Block) (x : Block) :
    rounds (key :: next :: keys) x = rounds (next :: keys) (((scatter x).map mixColumn).xor key) :=
  rfl

theorem unrounds_rounds (keys : List Block) (x : Block) : unrounds keys (rounds keys x) = x := by
  have hm (y : Block) : (y.map mixColumn).map unmixColumn = y := by simp [Block.map]
  induction keys generalizing x with
  | nil => rfl
  | cons key keys ih =>
    cases keys with
    | nil =>
      change gather (((scatter x).xor key).xor key) = x
      rw [Block.xor_xor, gather_scatter]
    | cons next keys => rw [rounds_cons, unrounds_cons, ih, Block.xor_xor, hm, gather_scatter]

theorem rounds_unrounds (keys : List Block) (x : Block) : rounds keys (unrounds keys x) = x := by
  have hm (y : Block) : (y.map unmixColumn).map mixColumn = y := by simp [Block.map]
  induction keys with
  | nil => rfl
  | cons key keys ih =>
    cases keys with
    | nil =>
      change (scatter (gather (x.xor key))).xor key = x
      rw [scatter_gather, Block.xor_xor]
    | cons next keys => rw [unrounds_cons, rounds_cons, scatter_gather, hm, Block.xor_xor, ih]

theorem decrypt_encrypt (first : Block) (keys : List Block) (x : Block) :
    decrypt first keys (encrypt first keys x) = x := by
  rw [decrypt, encrypt, unrounds_rounds, Block.xor_xor]

theorem encrypt_decrypt (first : Block) (keys : List Block) (x : Block) :
    encrypt first keys (decrypt first keys x) = x := by
  rw [encrypt, decrypt, Block.xor_xor, rounds_unrounds]

/-! ## Keys -/

theorem length_le_expand (size count place : Nat) (round : UInt8) (columns : List Column) :
    columns.length ≤ (expand size count place round columns).length := by
  induction count generalizing place round columns with
  | zero => exact Nat.le_refl _
  | succ count ih =>
    rw [expand]
    split
    · exact Nat.le_trans (Nat.le_succ _) (ih _ _ (_ :: columns))
    · exact Nat.le_refl _

theorem blocks_ne_nil {columns : List Column} (h : 4 ≤ columns.length) : blocks columns ≠ [] := by
  match columns, h with
  | _ :: _ :: _ :: _ :: _, _ => simp [blocks]

theorem roundKeys_ne_nil {key : Bytes} (h : 16 ≤ key.length) : roundKeys key ≠ [] := by
  apply blocks_ne_nil
  have hc : (chunks 4 key).length = (key.length + 4 - 1) / 4 := length_chunks (by decide) key
  have he := length_le_expand ((chunks 4 key).map Column.ofBytes).length
    (4 * (((chunks 4 key).map Column.ofBytes).length + 7) -
      ((chunks 4 key).map Column.ofBytes).length)
    ((chunks 4 key).map Column.ofBytes).length 1 ((chunks 4 key).map Column.ofBytes).reverse
  simp only [List.length_reverse, List.length_map] at he ⊢
  omega

theorem keyed?_isSome (key : Bytes) :
    (keyed? key).isSome ↔ key.length = 16 ∨ key.length = 32 := by
  rw [keyed?]
  split
  · next h =>
    have hk : roundKeys key ≠ [] := roundKeys_ne_nil (by omega)
    split
    · next he => exact absurd he hk
    · simpa using h
  · next h => simpa using h

theorem keyed?_permutes {key : Bytes} {cipher : BlockCipher} (h : keyed? key = some cipher) :
    cipher.Permutes := by
  rw [keyed?] at h
  split at h
  · split at h
    · cases h
    · cases h
      exact ⟨decrypt_encrypt _ _, encrypt_decrypt _ _⟩
  · cases h

end Aes
end PasswordSeal
