/-!
# Byte strings and numerals

Byte strings are lists, so that they can be taken apart and glued by the list lemmas. Digits of a
number are listed most significant first. A number below `base ^ count` and its `count` digits
determine each other; base 256 gives the big-endian form of a number.
-/
namespace PasswordSeal

abbrev Bytes := List UInt8

namespace Bytes

def xor (a b : Bytes) : Bytes :=
  List.zipWith (· ^^^ ·) a b

@[simp] theorem length_xor (a b : Bytes) : (xor a b).length = min a.length b.length := by
  simp [xor]

theorem xor_xor_cancel {a b : Bytes} (h : a.length ≤ b.length) : xor (xor a b) b = a := by
  induction a generalizing b with
  | nil => simp [xor]
  | cons x a ih =>
    cases b with
    | nil => simp at h
    | cons y b =>
      have hab : a.length ≤ b.length := by simpa using h
      have ht := ih hab
      have hx : x ^^^ y ^^^ y = x := by rw [UInt8.xor_assoc, UInt8.xor_self, UInt8.xor_zero]
      simp only [xor] at ht
      simp only [xor, List.zipWith_cons_cons, ht, hx]

end Bytes

-- Powers of numbers are those of the core library, also where a library knows others.
attribute [instance (2000)] instPowNat

namespace Numeral

def digits (base : Nat) : Nat → Nat → List Nat
  | 0, _ => []
  | count + 1, n => digits base count (n / base) ++ [n % base]

def ofDigits (base : Nat) (ds : List Nat) : Nat :=
  ds.foldl (fun n d => n * base + d) 0

def toBytes (count n : Nat) : Bytes :=
  (digits 256 count n).map UInt8.ofNat

def ofBytes (bytes : Bytes) : Nat :=
  ofDigits 256 (bytes.map UInt8.toNat)

@[simp] theorem length_digits (base count n : Nat) : (digits base count n).length = count := by
  induction count generalizing n with
  | zero => rfl
  | succ count ih => simp [digits, ih]

@[simp] theorem length_toBytes (count n : Nat) : (toBytes count n).length = count := by
  simp [toBytes]

theorem lt_of_mem_digits {base : Nat} (h : 0 < base) {count n d : Nat}
    (hd : d ∈ digits base count n) : d < base := by
  induction count generalizing n with
  | zero => simp [digits] at hd
  | succ count ih =>
    simp only [digits, List.mem_append, List.mem_singleton] at hd
    rcases hd with hd | rfl
    · exact ih hd
    · exact Nat.mod_lt _ h

theorem head?_digits (base count n : Nat) :
    (digits base (count + 1) n).head? = some (n / base ^ count % base) := by
  induction count generalizing n with
  | zero => rw [digits, digits, List.nil_append, List.head?_cons, Nat.pow_zero, Nat.div_one]
  | succ count ih =>
    rw [digits, List.head?_append, ih, Option.some_or, Nat.div_div_eq_div_mul, Nat.pow_succ']

theorem ofDigits_concat (base : Nat) (ds : List Nat) (d : Nat) :
    ofDigits base (ds ++ [d]) = ofDigits base ds * base + d := by
  simp [ofDigits]

theorem ofDigits_digits (base count n : Nat) :
    ofDigits base (digits base count n) = n % base ^ count := by
  induction count generalizing n with
  | zero => simp [digits, ofDigits, Nat.mod_one]
  | succ count ih =>
    rw [digits, ofDigits_concat, ih, Nat.pow_succ', Nat.mod_mul, Nat.mul_comm]
    omega

theorem digits_ofDigits {base : Nat} (hb : 0 < base) (ds : List Nat) (h : ∀ d ∈ ds, d < base) :
    digits base ds.length (ofDigits base ds) = ds := by
  obtain ⟨rs, rfl⟩ : ∃ rs, ds = rs.reverse := ⟨ds.reverse, by simp⟩
  induction rs with
  | nil => rfl
  | cons d rs ih =>
    have hd : d < base := h d (by simp)
    have hdiv : (ofDigits base rs.reverse * base + d) / base = ofDigits base rs.reverse := by
      rw [Nat.mul_comm, Nat.mul_add_div hb, Nat.div_eq_of_lt hd, Nat.add_zero]
    have hmod : (ofDigits base rs.reverse * base + d) % base = d := by
      rw [Nat.mul_comm, Nat.mul_add_mod, Nat.mod_eq_of_lt hd]
    rw [List.reverse_cons, ofDigits_concat, List.length_append, List.length_singleton, digits,
      hdiv, hmod, ih fun e he => h e (by simp_all)]

theorem ofBytes_toBytes {count n : Nat} (h : n < 256 ^ count) : ofBytes (toBytes count n) = n := by
  have hmap : ((digits 256 count n).map UInt8.ofNat).map UInt8.toNat = digits 256 count n := by
    rw [List.map_map]
    refine (List.map_congr_left fun d hd => ?_).trans (List.map_id _)
    have := lt_of_mem_digits (by decide) hd
    simp [Nat.mod_eq_of_lt this]
  rw [ofBytes, toBytes, hmap, ofDigits_digits, Nat.mod_eq_of_lt h]

theorem toNat_lt_of_mem (bytes : Bytes) : ∀ d ∈ bytes.map UInt8.toNat, d < 256 := by
  intro d hd
  obtain ⟨b, -, rfl⟩ := List.mem_map.1 hd
  exact b.toNat_lt

theorem toBytes_ofBytes (bytes : Bytes) : toBytes bytes.length (ofBytes bytes) = bytes := by
  have hd := digits_ofDigits (by decide) _ (toNat_lt_of_mem bytes)
  rw [List.length_map] at hd
  rw [toBytes, ofBytes, hd, List.map_map]
  exact (List.map_congr_left fun b _ => UInt8.ofNat_toNat).trans (List.map_id _)

theorem ofDigits_lt {base : Nat} (hb : 0 < base) {ds : List Nat} (h : ∀ d ∈ ds, d < base) :
    ofDigits base ds < base ^ ds.length := by
  rw [← digits_ofDigits hb ds h, ofDigits_digits, length_digits]
  exact Nat.mod_lt _ (Nat.pow_pos hb)

theorem ofBytes_lt (bytes : Bytes) : ofBytes bytes < 256 ^ bytes.length := by
  have h := ofDigits_lt (by decide) (toNat_lt_of_mem bytes)
  rwa [List.length_map] at h

end Numeral
end PasswordSeal
