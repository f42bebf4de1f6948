import PasswordSeal.Proofs.Alphabet.RoundTrip

/-!
# The shape of a written text

A text is written in the symbols of its alphabet, and `=` where short blocks are filled up. How long
it gets follows from the number of bytes alone.
-/
namespace PasswordSeal.Alphabet

/-- The length of the text of so many bytes: whole blocks when padded, and else no more symbols than
the bits of the bytes fill. -/
def textLength (a : Alphabet) (count : Nat) : Nat :=
  if a.padded then
    a.family.blockSymbols * ((count + a.family.blockBytes - 1) / a.family.blockBytes)
  else digitCount a.family count

theorem symbol_mem {a : Alphabet} {value : Nat} (h : value < 2 ^ a.family.bits) :
    a.symbol value ∈ a.symbols.toList := by
  have hv : value < a.symbols.toList.length := by
    rw [symbols_toList, List.length_map, length_codes]
    exact h
  rw [symbol, List.getD_eq_getElem?_getD, List.getElem?_eq_getElem hv]
  exact List.getElem_mem hv

theorem length_encodeBlock (a : Alphabet) {block : Bytes}
    (h : block.length ≤ a.family.blockBytes) : (a.encodeBlock block).length =
      if a.padded then a.family.blockSymbols else digitCount a.family block.length := by
  have hd := digitCount_le a.family h
  rw [encodeBlock]
  split
  · rw [List.length_append, List.length_replicate, List.length_map, length_blockDigits]
    omega
  · rw [List.length_map, length_blockDigits]

theorem digitCount_add_block (f : Family) (count : Nat) :
    digitCount f (f.blockBytes + count) = f.blockSymbols + digitCount f count := by
  cases f <;> simp only [digitCount, Family.bits, Family.blockBytes, Family.blockSymbols] <;> omega

theorem textLength_add_block (a : Alphabet) (count : Nat) :
    a.textLength (a.family.blockBytes + count) = a.family.blockSymbols + a.textLength count := by
  have hbytes := blockBytes_pos a.family
  rw [textLength, textLength]
  split
  · rw [show a.family.blockBytes + count + a.family.blockBytes - 1 =
        count + a.family.blockBytes - 1 + a.family.blockBytes by omega,
      Nat.add_div_right _ hbytes, Nat.mul_succ, Nat.add_comm]
  · exact digitCount_add_block _ _

theorem textLength_short (a : Alphabet) {count : Nat} (h0 : 0 < count)
    (h : count ≤ a.family.blockBytes) : a.textLength count =
      if a.padded then a.family.blockSymbols else digitCount a.family count := by
  have hblocks : (count + a.family.blockBytes - 1) / a.family.blockBytes = 1 := by
    rw [show count + a.family.blockBytes - 1 = count - 1 + a.family.blockBytes by omega,
      Nat.add_div_right _ (by omega), Nat.div_eq_of_lt (by omega)]
  rw [textLength, hblocks, Nat.mul_one]

theorem length_encode (a : Alphabet) (bytes : Bytes) :
    (a.encode bytes).length = a.textLength bytes.length := by
  have hbytes := blockBytes_pos a.family
  rw [encode, String.length_ofList]
  induction bytes using chunks_cases _ hbytes with
  | nil =>
    rw [chunks_nil]
    cases a <;> rfl
  | short bytes hne hlt =>
    have hpos := List.length_pos_iff.2 hne
    rw [chunks_short hne (Nat.le_of_lt hlt), List.flatMap_singleton,
      length_encodeBlock a (Nat.le_of_lt hlt), textLength_short a hpos (Nat.le_of_lt hlt)]
  | whole block rest hb ih =>
    rw [chunks_append hbytes hb, List.flatMap_cons, List.length_append, ih, List.length_append, hb,
      textLength_add_block, length_encodeBlock a (Nat.le_of_eq hb), hb, digitCount_block, ite_self]

/-! ## Symbols and padding -/

def written (a : Alphabet) (bytes : Bytes) : List Char :=
  (chunks a.family.blockBytes bytes).flatMap fun block => (blockDigits a.family block).map a.symbol

theorem mem_written {a : Alphabet} {bytes : Bytes} {c : Char} (h : c ∈ a.written bytes) :
    c ∈ a.symbols.toList := by
  obtain ⟨block, -, hc⟩ := List.mem_flatMap.1 h
  obtain ⟨value, hvalue, rfl⟩ := List.mem_map.1 hc
  exact symbol_mem (lt_of_mem_blockDigits a.family block value hvalue)

theorem encodeBlock_eq (a : Alphabet) {block : Bytes} (h0 : 0 < block.length)
    (h : block.length ≤ a.family.blockBytes) : a.encodeBlock block =
      (blockDigits a.family block).map a.symbol ++
        List.replicate (a.textLength block.length - digitCount a.family block.length) '=' := by
  rw [encodeBlock, textLength_short a h0 h, List.length_map, length_blockDigits]
  split
  · rfl
  · rw [Nat.sub_self, List.replicate_zero, List.append_nil]

/-- All symbols stand before all padding, since only the last block can be a short one. -/
theorem toList_encode (a : Alphabet) (bytes : Bytes) : (a.encode bytes).toList = a.written bytes ++
    List.replicate (a.textLength bytes.length - digitCount a.family bytes.length) '=' := by
  have hbytes := blockBytes_pos a.family
  rw [encode, String.toList_ofList, written]
  induction bytes using chunks_cases _ hbytes with
  | nil =>
    rw [chunks_nil]
    cases a <;> rfl
  | short bytes hne hlt =>
    rw [chunks_short hne (Nat.le_of_lt hlt), List.flatMap_singleton, List.flatMap_singleton,
      encodeBlock_eq a (List.length_pos_iff.2 hne) (Nat.le_of_lt hlt)]
  | whole block rest hb ih =>
    have hblock := encodeBlock_eq a (Nat.lt_of_lt_of_eq hbytes hb.symm) (Nat.le_of_eq hb)
    rw [textLength_short a (by omega) (Nat.le_of_eq hb), hb, digitCount_block, ite_self,
      Nat.sub_self, List.replicate_zero, List.append_nil] at hblock
    rw [chunks_append hbytes hb, List.flatMap_cons, List.flatMap_cons, ih, hblock,
      List.length_append, hb, textLength_add_block, digitCount_add_block, Nat.add_sub_add_left,
      List.append_assoc]

theorem mem_encode {a : Alphabet} {bytes : Bytes} {c : Char} (h : c ∈ (a.encode bytes).toList) :
    c ∈ a.symbols.toList ∨ c = '=' := by
  rw [toList_encode] at h
  rcases List.mem_append.1 h with hc | hc
  · exact Or.inl (mem_written hc)
  · exact Or.inr (List.eq_of_mem_replicate hc)

theorem equals_not_mem (a : Alphabet) : '=' ∉ a.symbols.toList := by
  rw [symbols_toList]
  intro h
  obtain ⟨code, hcode, he⟩ := List.mem_map.1 h
  have hc := codes_ascii a code hcode
  have hval := congrArg (fun c : Char => c.val.toNat) he
  rw [Utf8.val_ofNat (Or.inl (by omega))] at hval
  exact hc.2 hval

theorem encode_injective (a : Alphabet) : Function.Injective a.encode := by
  intro bytes bytes' h
  have hread := decode_encode a bytes
  rw [h, decode_encode] at hread
  exact (Except.ok.inj hread).symm

/-- How an alphabet writes: so that it can be read, first symbols and then padding, and at a length
that tells nothing but the number of bytes. -/
structure Writes (a : Alphabet) : Prop where
  readable : ∀ bytes, a.decode (a.encode bytes) = .ok bytes
  shape : ∀ bytes, ∃ symbols count,
    (a.encode bytes).toList = symbols ++ List.replicate count '=' ∧
      (∀ c ∈ symbols, c ∈ a.symbols.toList) ∧ (a.padded = false → count = 0)
  padding : '=' ∉ a.symbols.toList
  length : ∀ bytes, (a.encode bytes).length =
    match a.family, a.padded with
    | .base64, true => 4 * ((bytes.length + 2) / 3)
    | .base64, false => (4 * bytes.length + 2) / 3
    | .base32, _ => 8 * ((bytes.length + 4) / 5)
  injective : Function.Injective a.encode
  revealing : ∀ bytes bytes' : Bytes, bytes.length = bytes'.length →
    (a.encode bytes).length = (a.encode bytes').length

theorem encode_writes (a : Alphabet) : a.Writes where
  readable := decode_encode a
  shape bytes := by
    refine ⟨a.written bytes, _, toList_encode a bytes, fun c hc => mem_written hc, ?_⟩
    intro hp
    rw [textLength, hp, if_neg (by decide), Nat.sub_self]
  padding := equals_not_mem a
  length bytes := by
    rw [length_encode]
    cases a <;> simp only [textLength, digitCount, family, padded, Family.bits, Family.blockBytes,
      Family.blockSymbols, if_true, Bool.false_eq_true, if_false] <;> omega
  injective := encode_injective a
  revealing bytes bytes' h := by
    rw [length_encode, length_encode, h]

end PasswordSeal.Alphabet
