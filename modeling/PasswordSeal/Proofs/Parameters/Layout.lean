import PasswordSeal.Proofs.Parameters.Size

/-!
# Which bytes are a blob

A number has up to four forms, of which one is the shortest. A layout says how the fields of a blob
are written: which form each number takes, and which bytes stand behind it. Reading accepts the
bytes of a layout and nothing else, and it finds the parameters that the layout holds. No two
layouts have the same bytes, even with more bytes behind them, so it makes sense to speak of the
numbers in a blob: writing what was read gives the same bytes again when they all are in their
shortest form, and fewer bytes otherwise.

The size limit is one on writing alone. Parameters that were read are written again exactly when
their size is within it.
-/
namespace PasswordSeal
namespace Blob

/-! ## Numbers -/

/-- The bytes that a number takes: one of its own, or so many behind a marker. -/
inductive Width where
  | one
  | two
  | four
  | eight
  deriving Repr, DecidableEq

namespace Width

def marker : Width → Bytes
  | one => []
  | two => [251]
  | four => [252]
  | eight => [253]

def digits : Width → Nat
  | one => 1
  | two => 2
  | four => 4
  | eight => 8

def bound : Width → Nat
  | one => 251
  | two => 0x10000
  | four => 0x100000000
  | eight => 0x10000000000000000

theorem bound_le (w : Width) : w.bound ≤ 256 ^ w.digits := by
  cases w <;> decide

theorem bound_le_eight (w : Width) : w.bound ≤ UInt64.size := by
  cases w <;> decide

theorem length_injective {v w : Width}
    (h : v.marker.length + v.digits = w.marker.length + w.digits) : v = w := by
  cases v <;> cases w <;> first | rfl | cases h

end Width

structure Written where
  width : Width
  value : Nat
  value_lt : value < width.bound
  deriving Repr, DecidableEq

namespace Written

def bytes (n : Written) : Bytes :=
  n.width.marker ++ lowestFirst n.width.digits n.value

def Shortest (n : Written) : Prop :=
  ∀ m : Written, m.value = n.value → n.bytes.length ≤ m.bytes.length

end Written

theorem readExactly_eq_ok {short : Flaw} {count : Nat} {bytes found rest : Bytes} :
    readExactly short count bytes = .ok (found, rest) ↔
      found.length = count ∧ found ++ rest = bytes := by
  constructor
  · intro h
    rw [readExactly] at h
    split at h
    · next hle =>
      cases h
      exact ⟨by rw [List.length_take, Nat.min_eq_left hle], List.take_append_drop _ _⟩
    · cases h
  · rintro ⟨hl, rfl⟩
    exact readExactly_append short hl rest

theorem readLowestFirst_eq_ok {count n : Nat} {bytes rest : Bytes} :
    readLowestFirst count bytes = .ok (n, rest) ↔
      n < 256 ^ count ∧ lowestFirst count n ++ rest = bytes := by
  constructor
  · intro h
    rw [readLowestFirst] at h
    split at h
    · cases h
    · next digits behind hr =>
      obtain ⟨hl, rfl⟩ := readExactly_eq_ok.1 hr
      cases h
      have hlen : digits.reverse.length = count := by rw [List.length_reverse, hl]
      have hlt := Numeral.ofBytes_lt digits.reverse
      have hback := Numeral.toBytes_ofBytes digits.reverse
      rw [hlen] at hlt hback
      exact ⟨hlt, by rw [lowestFirst, hback, List.reverse_reverse]⟩
  · rintro ⟨hlt, rfl⟩
    exact readLowestFirst_append hlt rest

theorem readNumber_marker {w : Width} (h : w ≠ .one) (rest : Bytes) :
    readNumber (w.marker ++ rest) = readLowestFirst w.digits rest := by
  cases w with
  | one => exact absurd rfl h
  | two => rfl
  | four => rfl
  | eight => rfl

theorem lowestFirst_one (b : UInt8) : lowestFirst 1 b.toNat = [b] := by
  have hn : Numeral.ofBytes [b] = b.toNat := Nat.zero_add _
  have hb := Numeral.toBytes_ofBytes [b]
  rw [hn, List.length_singleton] at hb
  rw [lowestFirst, hb, List.reverse_singleton]

theorem readNumber_written (n : Written) (rest : Bytes) :
    readNumber (n.bytes ++ rest) = .ok (n.value, rest) := by
  obtain ⟨width, value, hlt⟩ := n
  rw [Written.bytes, List.append_assoc]
  by_cases hw : width = .one
  · subst hw
    have hnat : value.toUInt8.toNat = value := Utf8.toNat_ofNat (Nat.lt_trans hlt (by decide))
    have hsmall : value.toUInt8 < 251 := by
      rw [UInt8.lt_iff_toNat_lt, hnat]
      exact hlt
    have hdigits : lowestFirst 1 value = [value.toUInt8] := by
      rw [← lowestFirst_one, hnat]
    dsimp only [Width.marker, Width.digits]
    rw [hdigits, List.nil_append, List.singleton_append, readNumber, if_pos hsmall, hnat]
  · rw [readNumber_marker hw]
    exact readLowestFirst_append (Nat.lt_of_lt_of_le hlt width.bound_le) rest

theorem exists_marker {b : UInt8} {bytes rest : Bytes} {n : Nat} (hb : ¬ b < 251)
    (h : readNumber (b :: bytes) = .ok (n, rest)) :
    ∃ w : Width, w ≠ .one ∧ w.marker = [b] := by
  rw [readNumber, if_neg hb] at h
  by_cases h1 : b = 251
  · exact ⟨.two, by decide, by rw [h1]; rfl⟩
  by_cases h2 : b = 252
  · exact ⟨.four, by decide, by rw [h2]; rfl⟩
  by_cases h3 : b = 253
  · exact ⟨.eight, by decide, by rw [h3]; rfl⟩
  rw [if_neg h1, if_neg h2, if_neg h3] at h
  split at h <;> cases h

theorem readNumber_eq_ok {bytes rest : Bytes} {n : Nat} :
    readNumber bytes = .ok (n, rest) ↔ ∃ w : Written, w.value = n ∧ w.bytes ++ rest = bytes := by
  constructor
  · intro h
    match bytes with
    | [] => cases h
    | b :: tail =>
      by_cases hb : b < 251
      · rw [readNumber, if_pos hb] at h
        cases h
        refine ⟨⟨.one, b.toNat, UInt8.lt_iff_toNat_lt.1 hb⟩, rfl, ?_⟩
        dsimp only [Written.bytes, Width.marker, Width.digits]
        rw [lowestFirst_one]
        rfl
      · obtain ⟨w, hw, hmarker⟩ := exists_marker hb h
        have hbytes : b :: tail = w.marker ++ tail := by rw [hmarker]; rfl
        rw [hbytes, readNumber_marker hw] at h
        obtain ⟨hlt, htail⟩ := readLowestFirst_eq_ok.1 h
        have hbound : w.bound = 256 ^ w.digits := by
          cases w with
          | one => exact absurd rfl hw
          | two | four | eight => rfl
        refine ⟨⟨w, n, hbound ▸ hlt⟩, rfl, ?_⟩
        rw [Written.bytes, List.append_assoc, htail, hbytes]
  · rintro ⟨w, rfl, rfl⟩
    exact readNumber_written w rest

namespace Written

theorem length_bytes (n : Written) :
    n.bytes.length = n.width.marker.length + n.width.digits := by
  rw [bytes, List.length_append, length_lowestFirst]

theorem eq_of_length {m n : Written} (hv : m.value = n.value)
    (hl : m.bytes.length = n.bytes.length) : m = n := by
  obtain ⟨v, value, hm⟩ := m
  obtain ⟨w, _, hn⟩ := n
  obtain rfl : value = _ := hv
  rw [length_bytes, length_bytes] at hl
  obtain rfl : v = w := Width.length_injective hl
  rfl

theorem bytes_append_inj {m n : Written} {behind behind' : Bytes}
    (h : m.bytes ++ behind = n.bytes ++ behind') : m = n ∧ behind = behind' := by
  have hread := readNumber_written m behind
  rw [h, readNumber_written n behind'] at hread
  injection hread with hpair
  injection hpair with hv hb
  subst hb
  exact ⟨eq_of_length hv.symm (congrArg List.length (List.append_cancel_right h)), rfl⟩

theorem numberSize_le (n : Written) : numberSize n.value ≤ n.bytes.length := by
  obtain ⟨width, value, hlt⟩ := n
  rw [length_bytes, numberSize]
  cases width <;> grind [Width.bound, Width.marker, Width.digits]

theorem value_lt_size (n : Written) : n.value < UInt64.size :=
  Nat.lt_of_lt_of_le n.value_lt n.width.bound_le_eight

theorem exists_eq_writeNumber (n : Written) :
    ∃ m : Written, m.value = n.value ∧ m.bytes = writeNumber n.value := by
  obtain ⟨m, hv, hb⟩ := readNumber_eq_ok.1 (readNumber_append n.value_lt_size [])
  exact ⟨m, hv, by simpa using hb⟩

def excess (n : Written) : Nat :=
  n.bytes.length - numberSize n.value

theorem length_eq_add_excess (n : Written) : n.bytes.length = numberSize n.value + n.excess :=
  (Nat.add_sub_cancel' n.numberSize_le).symm

theorem shortest_iff {n : Written} : n.Shortest ↔ n.excess = 0 := by
  have hn := n.length_eq_add_excess
  constructor
  · intro h
    obtain ⟨m, hv, hb⟩ := n.exists_eq_writeNumber
    have hle := h m hv
    rw [hb, length_writeNumber] at hle
    omega
  · intro h m hv
    have hm := m.numberSize_le
    rw [hv] at hm
    omega

theorem writeNumber_of_shortest {n : Written} (h : n.Shortest) :
    writeNumber n.value = n.bytes := by
  obtain ⟨m, hv, hb⟩ := n.exists_eq_writeNumber
  have hm : m = n := by
    apply eq_of_length hv
    rw [hb, length_writeNumber, n.length_eq_add_excess, shortest_iff.1 h, Nat.add_zero]
  rw [← hb, hm]

end Written

/-! ## Fields -/

structure Counted where
  count : Written
  content : Bytes
  count_value : count.value = content.length
  deriving Repr, DecidableEq

def Counted.bytes (c : Counted) : Bytes :=
  c.count.bytes ++ c.content

def ivBytes : Option Counted → Bytes
  | none => [0]
  | some c => 1 :: c.bytes

theorem readBytes_eq_ok {short : Flaw} {bytes content rest : Bytes} :
    readBytes short bytes = .ok (content, rest) ↔
      ∃ c : Counted, c.content = content ∧ c.bytes ++ rest = bytes := by
  constructor
  · intro h
    rw [readBytes] at h
    split at h
    · cases h
    · next count behind hr =>
      obtain ⟨n, rfl, rfl⟩ := readNumber_eq_ok.1 hr
      obtain ⟨hl, rfl⟩ := readExactly_eq_ok.1 h
      exact ⟨⟨n, content, hl.symm⟩, rfl, List.append_assoc _ _ _⟩
  · rintro ⟨c, rfl, rfl⟩
    rw [readBytes, Counted.bytes, List.append_assoc, readNumber_written]
    exact readExactly_append short c.count_value.symm rest

theorem readText_eq_ok {bytes rest : Bytes} {text : String} :
    readText bytes = .ok (text, rest) ↔
      ∃ c : Counted, c.content = Utf8.encode text ∧ c.bytes ++ rest = bytes := by
  have hbytes : readBytes .endOfText bytes = .ok (Utf8.encode text, rest) ↔ _ := readBytes_eq_ok
  rw [← hbytes, readText]
  cases readBytes .endOfText bytes with
  | error flaw => simp
  | ok found =>
    obtain ⟨encoded, behind⟩ := found
    dsimp only
    rw [Except.ok.injEq, Prod.mk.injEq, ← Utf8.decode_eq_ok_iff]
    cases Utf8.decode encoded <;> simp

theorem readCount_eq_ok {bytes rest : Bytes} {count : UInt32} :
    readCount bytes = .ok (count, rest) ↔
      ∃ n : Written, n.value = count.toNat ∧ n.bytes ++ rest = bytes := by
  rw [← readNumber_eq_ok, readCount]
  cases readNumber bytes with
  | error flaw => simp
  | ok found =>
    obtain ⟨n, behind⟩ := found
    dsimp only
    split
    · next hlt =>
      simp only [Except.ok.injEq, Prod.mk.injEq]
      refine and_congr_left' ⟨?_, ?_⟩
      · rintro rfl
        exact (UInt32.toNat_ofNat_of_lt' hlt).symm
      · rintro rfl
        exact UInt32.ofNat_toNat
    · next hge =>
      simp only [reduceCtorEq, Except.ok.injEq, Prod.mk.injEq, false_iff, not_and]
      rintro rfl
      exact absurd count.toNat_lt hge

theorem readIv_eq_ok {bytes rest : Bytes} {iv : Option Bytes} :
    readIv bytes = .ok (iv, rest) ↔
      ∃ c : Option Counted, c.map Counted.content = iv ∧ ivBytes c ++ rest = bytes := by
  constructor
  · intro h
    match bytes with
    | [] => cases h
    | tag :: tail =>
      rw [readIv] at h
      split at h
      · next h0 =>
        cases h
        exact ⟨none, rfl, by rw [h0]; rfl⟩
      split at h
      · next h1 =>
        split at h
        · cases h
        · next content behind hr =>
          cases h
          obtain ⟨c, rfl, rfl⟩ := readBytes_eq_ok.1 hr
          exact ⟨some c, rfl, by rw [h1]; rfl⟩
      · cases h
  · rintro ⟨c, rfl, rfl⟩
    cases c with
    | none => rfl
    | some c =>
      have hr : readBytes .endOfInput (c.bytes ++ rest) = .ok (c.content, rest) :=
        readBytes_eq_ok.2 ⟨c, rfl, rfl⟩
      rw [ivBytes, List.cons_append, readIv, if_neg (by decide), if_pos rfl, hr]
      rfl

/-! ## Layouts -/

structure Layout where
  algorithm : Counted
  salt : Counted
  iterations : Written
  iv : Option Counted
  deriving Repr, DecidableEq

namespace Layout

def bytes (l : Layout) : Bytes :=
  l.algorithm.bytes ++ (l.salt.bytes ++ (l.iterations.bytes ++ ivBytes l.iv))

def numbers (l : Layout) : List Written :=
  [l.algorithm.count, l.salt.count, l.iterations] ++ (l.iv.map Counted.count).toList

def excess (l : Layout) : Nat :=
  l.algorithm.count.excess + l.salt.count.excess + l.iterations.excess +
    (l.iv.map (·.count.excess)).getD 0

theorem excess_eq_zero_iff {l : Layout} : l.excess = 0 ↔ ∀ n ∈ l.numbers, n.Shortest := by
  obtain ⟨a, s, n, c⟩ := l
  cases c <;> simp [excess, numbers, Written.shortest_iff, and_assoc]

structure Holds (l : Layout) (p : Parameters) : Prop where
  algorithm : l.algorithm.content = Utf8.encode p.algorithm
  salt : l.salt.content = p.salt
  iterations : l.iterations.value = p.iterations.toNat
  iv : l.iv.map Counted.content = p.iv

end Layout

theorem readFields_eq_ok {bytes rest : Bytes} {p : Parameters} :
    readFields bytes = .ok (p, rest) ↔ ∃ l : Layout, l.Holds p ∧ l.bytes ++ rest = bytes := by
  simp only [readFields, bind_eq_ok, Prod.exists, readText_eq_ok, readBytes_eq_ok,
    readCount_eq_ok, readIv_eq_ok]
  constructor
  · rintro ⟨algorithm, _, ⟨a, ha, rfl⟩, salt, _, ⟨s, hs, rfl⟩, iterations, _, ⟨n, hn, rfl⟩, iv, _,
      ⟨c, hc, rfl⟩, h⟩
    cases h
    exact ⟨⟨a, s, n, c⟩, ⟨ha, hs, hn, hc⟩, by simp only [Layout.bytes, List.append_assoc]⟩
  · rintro ⟨l, h, rfl⟩
    refine ⟨_, _, ⟨l.algorithm, h.algorithm, ?_⟩, _, _, ⟨l.salt, h.salt, rfl⟩, _, _,
      ⟨l.iterations, h.iterations, rfl⟩, _, _, ⟨l.iv, h.iv, rfl⟩, rfl⟩
    simp only [Layout.bytes, List.append_assoc]

theorem read_eq_ok {blob : Bytes} {p : Parameters} :
    read blob = .ok p ↔ ∃ l : Layout, l.Holds p ∧ l.bytes = blob := by
  have hfields : readFields blob = .ok (p, []) ↔ ∃ l : Layout, l.Holds p ∧ l.bytes ++ [] = blob :=
    readFields_eq_ok
  simp only [List.append_nil] at hfields
  rw [← hfields, read]
  split
  · next h => simp [h]
  · next h => simp [h]
  · next h => simp [h]

namespace Counted

theorem length_bytes (c : Counted) :
    c.bytes.length = bytesSize c.content.length + c.count.excess := by
  rw [bytes, List.length_append, c.count.length_eq_add_excess, c.count_value, bytesSize]
  omega

theorem bytes_append_inj {c d : Counted} {behind behind' : Bytes}
    (h : c.bytes ++ behind = d.bytes ++ behind') : c = d ∧ behind = behind' := by
  obtain ⟨m, content, hm⟩ := c
  obtain ⟨n, content', hn⟩ := d
  simp only [bytes, List.append_assoc] at h
  obtain ⟨rfl, hrest⟩ := Written.bytes_append_inj h
  obtain ⟨rfl, rfl⟩ := List.append_inj hrest (hm.symm.trans hn)
  exact ⟨rfl, rfl⟩

theorem writeBytes_of_shortest {c : Counted} (h : c.count.Shortest) :
    writeBytes c.content = c.bytes := by
  rw [writeBytes, bytes, ← c.count_value, Written.writeNumber_of_shortest h]

end Counted

theorem ivBytes_append_inj {c d : Option Counted} {behind behind' : Bytes}
    (h : ivBytes c ++ behind = ivBytes d ++ behind') : c = d ∧ behind = behind' := by
  cases c with
  | none =>
    cases d with
    | none => exact ⟨rfl, List.append_cancel_left h⟩
    | some d => exact absurd (List.cons.inj h).1 (by decide)
  | some c =>
    cases d with
    | none => exact absurd (List.cons.inj h).1 (by decide)
    | some d =>
      obtain ⟨rfl, hrest⟩ := Counted.bytes_append_inj (List.cons.inj h).2
      exact ⟨rfl, hrest⟩

namespace Layout

/-- No layout's bytes begin those of another, and no two layouts have the same. -/
theorem bytes_append_inj {l k : Layout} {behind behind' : Bytes}
    (h : l.bytes ++ behind = k.bytes ++ behind') : l = k ∧ behind = behind' := by
  obtain ⟨a, s, n, c⟩ := l
  obtain ⟨a', s', n', c'⟩ := k
  simp only [bytes, List.append_assoc] at h
  obtain ⟨rfl, hsalt⟩ := Counted.bytes_append_inj h
  obtain ⟨rfl, hiterations⟩ := Counted.bytes_append_inj hsalt
  obtain ⟨rfl, hiv⟩ := Written.bytes_append_inj hiterations
  obtain ⟨rfl, hbehind⟩ := ivBytes_append_inj hiv
  exact ⟨rfl, hbehind⟩

theorem bytes_injective {l k : Layout} (h : l.bytes = k.bytes) : l = k :=
  (bytes_append_inj (congrArg (· ++ []) h)).1

section
variable {l : Layout} {p : Parameters} (h : l.Holds p)
include h

theorem Holds.length_bytes : l.bytes.length = size p + l.excess := by
  obtain ⟨a, s, n, c⟩ := l
  obtain ⟨ha, hs, hn, hc⟩ := h
  dsimp only at ha hs hn hc
  rw [size, ← length_encode, ← ha, ← hs, ← hn, ← hc]
  simp only [bytes, excess, List.length_append, Counted.length_bytes,
    Written.length_eq_add_excess n]
  cases c with
  | none =>
    simp [ivBytes, ivSize]
    omega
  | some c =>
    simp [ivBytes, ivSize, Counted.length_bytes]
    omega

theorem Holds.sized : Sized p where
  algorithm := by
    rw [← h.algorithm, ← l.algorithm.count_value]
    exact l.algorithm.count.value_lt_size
  salt := by
    rw [← h.salt, ← l.salt.count_value]
    exact l.salt.count.value_lt_size
  iv := by
    intro bytes hbytes
    obtain ⟨c, -, rfl⟩ := Option.map_eq_some_iff.1 (h.iv.trans hbytes)
    rw [← c.count_value]
    exact c.count.value_lt_size

theorem Holds.writeFields_of_shortest (hshort : ∀ n ∈ l.numbers, n.Shortest) :
    writeFields p = l.bytes := by
  obtain ⟨a, s, n, c⟩ := l
  obtain ⟨ha, hs, hn, hc⟩ := h
  dsimp only at ha hs hn hc
  have hiv : writeIv (c.map Counted.content) = ivBytes c := by
    cases c with
    | none => rfl
    | some c =>
      exact congrArg (1 :: ·) (Counted.writeBytes_of_shortest (hshort _ (by simp [numbers])))
  rw [writeFields, ← ha, ← hs, ← hn, ← hc, hiv,
    Counted.writeBytes_of_shortest (hshort _ (by simp [numbers])),
    Counted.writeBytes_of_shortest (hshort _ (by simp [numbers])),
    Written.writeNumber_of_shortest (hshort _ (by simp [numbers]))]
  simp only [bytes, List.append_assoc]

theorem Holds.writeFields_eq_iff :
    writeFields p = l.bytes ↔ ∀ n ∈ l.numbers, n.Shortest := by
  constructor
  · intro heq
    have hlen := h.length_bytes
    rw [← heq, length_writeFields] at hlen
    exact excess_eq_zero_iff.1 (by omega)
  · exact h.writeFields_of_shortest

end

end Layout
end Blob

/-! ## Blobs of parameters -/

namespace Parameters
variable {p : Parameters} {blob written : Bytes}

theorem ofBlob_eq_ok :
    ofBlob blob = .ok p ↔ ∃ l : Blob.Layout, l.Holds p ∧ l.bytes = blob :=
  mapError_eq_ok.trans Blob.read_eq_ok

theorem ofBlob_eq_error {fault : Fault} (h : ofBlob blob = .error fault) :
    ∃ flaw, fault = .blob flaw := by
  obtain ⟨flaw, -, rfl⟩ := mapError_eq_error.1 h
  exact ⟨flaw, rfl⟩

/-- A blob is the bytes of its one layout, and anything else is refused as no blob. It can only be
longer than what is written of its parameters, and is the same if and only if its numbers are in
their shortest forms. -/
theorem ofBlob_exact (blob : Bytes) :
    (∀ p, ofBlob blob = .ok p ↔ ∃ l : Blob.Layout, l.Holds p ∧ l.bytes = blob) ∧
      (∀ l k : Blob.Layout, l.bytes = blob → k.bytes = blob → l = k) ∧
      ((∃ flaw, ofBlob blob = .error (.blob flaw)) ↔
        ¬ ∃ p, ∃ l : Blob.Layout, l.Holds p ∧ l.bytes = blob) ∧
      ∀ p written, ofBlob blob = .ok p → p.toBlob = .ok written → written.length ≤ blob.length ∧
        ∀ l : Blob.Layout, l.bytes = blob →
          (written = blob ↔ ∀ n ∈ l.numbers, n.Shortest) := by
  refine ⟨fun p => ofBlob_eq_ok, ?_, ?_, ?_⟩
  · rintro l k rfl hk
    exact (Blob.Layout.bytes_injective hk).symm
  · simp only [← ofBlob_eq_ok]
    cases h : ofBlob blob with
    | ok p => simp
    | error fault =>
      obtain ⟨flaw, rfl⟩ := ofBlob_eq_error h
      simp
  · intro p written hread hwrite
    obtain ⟨l, hl, rfl⟩ := ofBlob_eq_ok.1 hread
    obtain ⟨-, rfl⟩ := toBlob_eq_ok.1 hwrite
    refine ⟨?_, ?_⟩
    · rw [Blob.length_writeFields, hl.length_bytes]
      exact Nat.le_add_right _ _
    · intro k hk
      obtain rfl := Blob.Layout.bytes_injective hk
      exact hl.writeFields_eq_iff

example : ofBlob [251, 0, 0, 251, 1, 0, 7, 252, 2, 0, 0, 0, 0] = .ok ⟨⟨[7], 2, none⟩, ""⟩ := by
  cbv

/-! ## The size limit -/

theorem ofBlob_writeFields (h : Blob.Sized p) : ofBlob (Blob.writeFields p) = .ok p := by
  have hread := Blob.readFields_append h []
  rw [List.append_nil] at hread
  rw [ofBlob, Blob.read, hread]
  rfl

theorem exists_toBlob : (∃ written, p.toBlob = .ok written) ↔ Blob.size p ≤ Blob.sizeLimit := by
  simp only [toBlob_eq_ok, exists_and_left, exists_eq', and_true]

/-- What was read can be written again if its size is within the limit, as it is when the blob is
within the limit. Reading has no limit: parameters of any size that were read are read from their
shortest blob too. -/
theorem toBlob_of_ofBlob (h : ofBlob blob = .ok p) :
    ((∃ written, p.toBlob = .ok written) ↔ Blob.size p ≤ 4096) ∧
      (blob.length ≤ 4096 → ∃ written, p.toBlob = .ok written) ∧
      (Blob.writeFields p).length = Blob.size p ∧ ofBlob (Blob.writeFields p) = .ok p := by
  obtain ⟨l, hl, rfl⟩ := ofBlob_eq_ok.1 h
  refine ⟨exists_toBlob, ?_, Blob.length_writeFields p, ofBlob_writeFields hl.sized⟩
  intro hlen
  rw [hl.length_bytes] at hlen
  exact exists_toBlob.2 (Nat.le_trans (Nat.le_add_right _ _) hlen)

def Sample.salted (count : Nat) : Parameters :=
  ⟨⟨List.replicate count 0, 1, none⟩, ""⟩

theorem Sample.size_salted (count : Nat) :
    Blob.size (salted count) = Blob.bytesSize count + 3 := by
  have hsize : Blob.size (salted count) =
      Blob.bytesSize 0 + Blob.bytesSize (List.replicate count (0 : UInt8)).length + 1 + 1 := rfl
  have hnone : Blob.bytesSize 0 = 1 := rfl
  rw [hsize, hnone, List.length_replicate]
  omega

theorem Sample.ofBlob_salted (count : Nat) (h : count < UInt64.size) :
    ofBlob (Blob.writeFields (salted count)) = .ok (salted count) := by
  have hname : (Utf8.encode "").length < UInt64.size := by decide
  refine ofBlob_writeFields ⟨hname, ?_, nofun⟩
  simpa [salted] using h

theorem toBlob_of_ofBlob_salted :
    ofBlob (Blob.writeFields (Sample.salted 4096)) = .ok (Sample.salted 4096) ∧
      ¬ ∃ written, (Sample.salted 4096).toBlob = .ok written := by
  have hread := Sample.ofBlob_salted 4096 (by decide)
  refine ⟨hread, ?_⟩
  rw [(toBlob_of_ofBlob hread).1, Sample.size_salted]
  decide

/-- The limit is not one on reading. -/
theorem not_forall_length_le : ¬ ∀ blob p, ofBlob blob = .ok p →
    blob.length ≤ 4096 ∧ ∃ written, p.toBlob = .ok written := by
  intro hall
  have hle := (hall _ _ (Sample.ofBlob_salted 4096 (by decide))).1
  rw [Blob.length_writeFields, Sample.size_salted] at hle
  exact absurd hle (by decide)

end Parameters
end PasswordSeal
