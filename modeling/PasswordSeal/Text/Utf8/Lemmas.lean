import PasswordSeal.Text.Utf8

/-!
# Reading UTF-8 accepts what writing produces

`decode_eq_ok_iff` says that bytes read as a text exactly when they are the bytes of that text. Both
directions go character by character: `read_encodeChar` reads what was written, and
`encodeChar_of_read` finds that what was read is what is written.
-/
namespace PasswordSeal.Utf8

/-! ## Bytes as numbers -/

theorem toNat_ofNat {n : Nat} (h : n < 256) : (UInt8.ofNat n).toNat = n :=
  UInt8.toNat_ofNat_of_lt' h

theorem ofNat_eq {b : UInt8} {n : Nat} (h : n = b.toNat) : UInt8.ofNat n = b := by
  rw [h, UInt8.ofNat_toNat]

theorem continuing_iff (b : UInt8) :
    (continuing.1 ≤ b ∧ b ≤ continuing.2) ↔ 0x80 ≤ b.toNat ∧ b.toNat ≤ 0xBF := by
  simp [continuing, UInt8.le_iff_toNat_le]

theorem second_iff (lead b : UInt8) : ((second lead).1 ≤ b ∧ b ≤ (second lead).2) ↔
    (0x80 ≤ b.toNat ∧ b.toNat ≤ 0xBF) ∧ (lead.toNat = 0xE0 → 0xA0 ≤ b.toNat) ∧
      (lead.toNat = 0xED → b.toNat ≤ 0x9F) ∧ (lead.toNat = 0xF0 → 0x90 ≤ b.toNat) ∧
      (lead.toNat = 0xF4 → b.toNat ≤ 0x8F) := by
  simp only [second, continuing, ← UInt8.toNat_inj, UInt8.le_iff_toNat_le, UInt8.reduceToNat]
  repeat' split
  all_goals simp only [UInt8.reduceToNat]; omega

theorem lead?_eq (b : UInt8) : lead? b =
    if b.toNat < 0x80 then some (b.toNat, [])
    else if b.toNat < 0xC2 then none
    else if b.toNat < 0xE0 then some (b.toNat % 32, [continuing])
    else if b.toNat < 0xF0 then some (b.toNat % 16, [second b, continuing])
    else if b.toNat < 0xF5 then some (b.toNat % 8, [second b, continuing, continuing])
    else none := by
  simp only [lead?, UInt8.lt_iff_toNat_lt, UInt8.reduceToNat]

theorem follow_cons {seen value : Nat} {range : Range} {ranges : List Range} {bytes : Bytes}
    {c : Char} : follow seen value (range :: ranges) bytes = .ok c ↔
      ∃ b rest, bytes = b :: rest ∧ (range.1 ≤ b ∧ b ≤ range.2) ∧
        follow (seen + 1) (value * 64 + b.toNat % 64) ranges rest = .ok c := by
  match bytes with
  | [] => simp [follow]
  | b :: rest =>
    rw [follow]
    constructor
    · intro h
      split at h
      · next hb => exact ⟨b, rest, rfl, hb, h⟩
      · cases h
    · rintro ⟨_, _, ⟨⟩, hb, h⟩
      rw [if_pos hb, h]

/-! ## Characters of one to four bytes -/

theorem val_ofNat {n : Nat} (h : n.isValidChar) : (Char.ofNat n).val.toNat = n := by
  rw [Char.ofNat, dif_pos h]
  rfl

theorem encodeChar_one {n : Nat} (h : n < 0x80) :
    String.utf8EncodeChar (Char.ofNat n) = [UInt8.ofNat n] := by
  rw [String.utf8EncodeChar, val_ofNat (Or.inl (by omega))]
  exact if_pos (by omega)

theorem encodeChar_two {n : Nat} (h : 0x80 ≤ n) (h' : n < 0x800) :
    String.utf8EncodeChar (Char.ofNat n) =
      [UInt8.ofNat (n / 64 + 0xC0), UInt8.ofNat (n % 64 + 0x80)] := by
  rw [String.utf8EncodeChar, val_ofNat (Or.inl (by omega)), if_neg (by omega), if_pos (by omega),
    Nat.mod_eq_of_lt (a := n / 64) (by omega)]

theorem encodeChar_three {n : Nat} (h : 0x800 ≤ n) (h' : n < 0x10000) (hn : n.isValidChar) :
    String.utf8EncodeChar (Char.ofNat n) =
      [UInt8.ofNat (n / 4096 + 0xE0), UInt8.ofNat (n / 64 % 64 + 0x80),
        UInt8.ofNat (n % 64 + 0x80)] := by
  rw [String.utf8EncodeChar, val_ofNat hn, if_neg (by omega), if_neg (by omega), if_pos (by omega),
    Nat.mod_eq_of_lt (a := n / 4096) (by omega)]

theorem encodeChar_four {n : Nat} (h : 0x10000 ≤ n) (hn : n.isValidChar) :
    String.utf8EncodeChar (Char.ofNat n) =
      [UInt8.ofNat (n / 262144 + 0xF0), UInt8.ofNat (n / 4096 % 64 + 0x80),
        UInt8.ofNat (n / 64 % 64 + 0x80), UInt8.ofNat (n % 64 + 0x80)] := by
  have := hn
  simp only [Nat.isValidChar] at this
  rw [String.utf8EncodeChar, val_ofNat hn, if_neg (by omega), if_neg (by omega), if_neg (by omega),
    Nat.mod_eq_of_lt (a := n / 262144) (by omega)]

theorem read_encodeChar (c : Char) (rest : Bytes) :
    ∃ b tail value ranges, String.utf8EncodeChar c = b :: tail ∧ lead? b = some (value, ranges) ∧
      ranges.length = tail.length ∧ follow 1 value ranges (tail ++ rest) = .ok c := by
  obtain ⟨n, hn, rfl⟩ : ∃ n : Nat, n.isValidChar ∧ Char.ofNat n = c :=
    ⟨c.val.toNat, c.valid, Char.ofNat_toNat c⟩
  have hn' := hn
  simp only [Nat.isValidChar] at hn'
  by_cases h1 : n < 0x80
  · refine ⟨_, _, n, [], encodeChar_one h1, ?_, rfl, rfl⟩
    rw [lead?_eq, toNat_ofNat (by omega), if_pos h1]
  by_cases h2 : n < 0x800
  · refine ⟨_, _, n / 64, [continuing], encodeChar_two (by omega) h2, ?_, rfl, ?_⟩
    · rw [lead?_eq, toNat_ofNat (by omega), if_neg (by omega), if_neg (by omega),
        if_pos (by omega)]
      congr 2
      omega
    · refine follow_cons.2 ⟨_, _, rfl, ?_, ?_⟩
      · rw [continuing_iff, toNat_ofNat (by omega)]
        omega
      · rw [follow, toNat_ofNat (by omega)]
        congr 2
        omega
  by_cases h3 : n < 0x10000
  · refine ⟨_, _, n / 4096, [second (UInt8.ofNat (n / 4096 + 0xE0)), continuing],
      encodeChar_three (by omega) h3 hn, ?_, rfl, ?_⟩
    · rw [lead?_eq, toNat_ofNat (by omega), if_neg (by omega), if_neg (by omega),
        if_neg (by omega), if_pos (by omega)]
      congr 2
      omega
    · refine follow_cons.2 ⟨_, _, rfl, ?_, follow_cons.2 ⟨_, _, rfl, ?_, ?_⟩⟩
      · rw [second_iff, toNat_ofNat (by omega), toNat_ofNat (by omega)]
        omega
      · rw [continuing_iff, toNat_ofNat (by omega)]
        omega
      · rw [follow, toNat_ofNat (by omega), toNat_ofNat (by omega)]
        congr 2
        omega
  · refine ⟨_, _, n / 262144, [second (UInt8.ofNat (n / 262144 + 0xF0)), continuing, continuing],
      encodeChar_four (by omega) hn, ?_, rfl, ?_⟩
    · rw [lead?_eq, toNat_ofNat (by omega), if_neg (by omega), if_neg (by omega),
        if_neg (by omega), if_neg (by omega), if_pos (by omega)]
      congr 2
      omega
    · refine follow_cons.2 ⟨_, _, rfl, ?_, follow_cons.2 ⟨_, _, rfl, ?_,
        follow_cons.2 ⟨_, _, rfl, ?_, ?_⟩⟩⟩
      · rw [second_iff, toNat_ofNat (by omega), toNat_ofNat (by omega)]
        omega
      · rw [continuing_iff, toNat_ofNat (by omega)]
        omega
      · rw [continuing_iff, toNat_ofNat (by omega)]
        omega
      · rw [follow, toNat_ofNat (by omega), toNat_ofNat (by omega), toNat_ofNat (by omega)]
        congr 2
        omega

theorem encodeChar_of_read {b : UInt8} {value : Nat} {ranges : List Range} {bytes : Bytes}
    {c : Char} (hl : lead? b = some (value, ranges)) (hf : follow 1 value ranges bytes = .ok c) :
    b :: bytes = String.utf8EncodeChar c ++ bytes.drop ranges.length := by
  have hb := b.toNat_lt
  rw [lead?_eq] at hl
  split at hl
  · next h =>
    cases hl
    cases hf
    rw [encodeChar_one h, ofNat_eq rfl]
    rfl
  split at hl
  · cases hl
  split at hl
  · cases hl
    obtain ⟨b1, rest, rfl, h1, hf⟩ := follow_cons.1 hf
    rw [continuing_iff] at h1
    cases hf
    rw [encodeChar_two (by omega) (by omega), ofNat_eq (b := b) (by omega),
      ofNat_eq (b := b1) (by omega)]
    rfl
  split at hl
  · cases hl
    obtain ⟨b1, rest, rfl, h1, hf⟩ := follow_cons.1 hf
    obtain ⟨b2, rest, rfl, h2, hf⟩ := follow_cons.1 hf
    rw [second_iff] at h1
    rw [continuing_iff] at h2
    cases hf
    rw [encodeChar_three (by omega) (by omega) (by simp only [Nat.isValidChar]; omega),
      ofNat_eq (b := b) (by omega), ofNat_eq (b := b1) (by omega), ofNat_eq (b := b2) (by omega)]
    rfl
  split at hl
  · cases hl
    obtain ⟨b1, rest, rfl, h1, hf⟩ := follow_cons.1 hf
    obtain ⟨b2, rest, rfl, h2, hf⟩ := follow_cons.1 hf
    obtain ⟨b3, rest, rfl, h3, hf⟩ := follow_cons.1 hf
    rw [second_iff] at h1
    rw [continuing_iff] at h2 h3
    cases hf
    rw [encodeChar_four (by omega) (by simp only [Nat.isValidChar]; omega),
      ofNat_eq (b := b) (by omega), ofNat_eq (b := b1) (by omega), ofNat_eq (b := b2) (by omega),
      ofNat_eq (b := b3) (by omega)]
    rfl
  · cases hl

/-! ## Texts -/

theorem decodeOnto_encodeChars (before : List Char) (position : Nat) (cs : List Char) :
    decodeOnto before position (cs.flatMap String.utf8EncodeChar) = .ok (before.reverse ++ cs) := by
  induction cs generalizing before position with
  | nil => rw [List.flatMap_nil, decodeOnto, List.append_nil]
  | cons c cs ih =>
    obtain ⟨b, tail, value, ranges, hc, hl, hr, hf⟩ :=
      read_encodeChar c (cs.flatMap String.utf8EncodeChar)
    rw [List.flatMap_cons, hc, List.cons_append, decodeOnto, hl]
    dsimp only
    rw [hf]
    dsimp only
    rw [hr, List.drop_left, ih, List.reverse_cons, List.append_assoc, List.singleton_append]

theorem encodeChars_of_decodeOnto {before : List Char} {position : Nat} {bytes : Bytes}
    {cs : List Char} (h : decodeOnto before position bytes = .ok cs) :
    ∃ after, cs = before.reverse ++ after ∧ bytes = after.flatMap String.utf8EncodeChar := by
  fun_induction decodeOnto before position bytes with
  | case1 => exact ⟨[], by simpa using h.symm, rfl⟩
  | case2 => cases h
  | case3 => cases h
  | case4 before position b rest value ranges hl c hf ih =>
    obtain ⟨after, rfl, hrest⟩ := ih h
    refine ⟨c :: after, by simp, ?_⟩
    rw [List.flatMap_cons, ← hrest, ← encodeChar_of_read hl hf]

@[simp] theorem decode_encode (text : String) : decode (encode text) = .ok text := by
  rw [decode, encode, decodeOnto_encodeChars]
  simp [Except.map]

theorem encode_injective : Function.Injective encode := by
  intro text text' h
  have hread := decode_encode text
  rw [h, decode_encode] at hread
  exact (Except.ok.inj hread).symm

theorem decode_eq_ok_iff {bytes : Bytes} {text : String} :
    decode bytes = .ok text ↔ bytes = encode text := by
  refine ⟨fun h => ?_, fun h => h ▸ decode_encode text⟩
  rw [decode] at h
  cases hd : decodeOnto [] 0 bytes with
  | error flaw => rw [hd] at h; cases h
  | ok cs =>
    rw [hd] at h
    cases h
    obtain ⟨after, rfl, rfl⟩ := encodeChars_of_decodeOnto hd
    simp [encode]

end PasswordSeal.Utf8
