import PasswordSeal.Alphabet.Code
import PasswordSeal.Text.Utf8.Lemmas
import Mathlib.Data.List.Basic
import Mathlib.Data.List.DropRight

/-!
# Reading what an alphabet has written

The symbols of an alphabet are ASCII characters other than `=`, all different, so that a value is
found again from the byte of its symbol. A block of text therefore reads as the block of bytes that
it was written from, and a written text falls into exactly these blocks.
-/
namespace PasswordSeal.Alphabet

/-! ## Symbols and values -/

def codes : Alphabet → List Nat
  | base64 | base64Unpadded =>
    List.range' 65 26 ++ List.range' 97 26 ++ List.range' 48 10 ++ [43, 47]
  | base64Url => List.range' 65 26 ++ List.range' 97 26 ++ List.range' 48 10 ++ [45, 95]
  | base32 => List.range' 65 26 ++ List.range' 50 6
  | base32Lower => List.range' 97 26 ++ List.range' 50 6
  | base32Hex => List.range' 48 10 ++ List.range' 65 22

theorem symbols_toList (a : Alphabet) : a.symbols.toList = a.codes.map Char.ofNat := by
  have h : a.symbols = String.ofList (a.codes.map Char.ofNat) := by cases a <;> rfl
  rw [h, String.toList_ofList]

theorem length_codes (a : Alphabet) : a.codes.length = 2 ^ a.family.bits := by
  cases a <;> decide

theorem nodup_codes (a : Alphabet) : a.codes.Nodup := by
  cases a <;> decide +kernel

theorem codes_ascii (a : Alphabet) : ∀ c ∈ a.codes, c < 128 ∧ c ≠ 61 := by
  cases a <;> decide

def code (a : Alphabet) (value : Nat) : UInt8 :=
  UInt8.ofNat (a.codes.getD value 61)

section
variable {a : Alphabet} {value : Nat} (h : value < 2 ^ a.family.bits)
include h

theorem codes_getD_mem : a.codes.getD value 61 ∈ a.codes := by
  have hv : value < a.codes.length := by rwa [length_codes]
  rw [List.getD_eq_getElem?_getD, List.getElem?_eq_getElem hv]
  exact List.getElem_mem hv

theorem symbol_eq : a.symbol value = Char.ofNat (a.codes.getD value 61) := by
  have hv : value < a.codes.length := by rwa [length_codes]
  rw [symbol, symbols_toList]
  simp [List.getD_eq_getElem?_getD, hv]

theorem encodeChar_symbol : String.utf8EncodeChar (a.symbol value) = [a.code value] := by
  have hc := codes_ascii a _ (codes_getD_mem h)
  rw [symbol_eq h, Utf8.encodeChar_one hc.1, code]

theorem code_ne : a.code value ≠ 0x3D := by
  have hc := codes_ascii a _ (codes_getD_mem h)
  intro he
  have hn := congrArg UInt8.toNat he
  rw [code, Utf8.toNat_ofNat (Nat.lt_trans hc.1 (by decide))] at hn
  exact hc.2 hn

theorem value?_code : a.value? (a.code value) = some value := by
  have hv : value < a.codes.length := by rwa [length_codes]
  have hc := (codes_ascii a _ (codes_getD_mem h)).1
  have hget : a.codes.getD value 61 = a.codes[value] := by
    rw [List.getD_eq_getElem?_getD, List.getElem?_eq_getElem hv, Option.getD_some]
  rw [value?, symbols_toList, code, Utf8.toNat_ofNat (Nat.lt_trans hc (by decide)), hget]
  refine List.idxOf?_eq_some_iff.2 ⟨by simpa using hv, by simp, fun j hj he => ?_⟩
  rw [List.getElem_map] at he
  have hj' : j < a.codes.length := by omega
  have hcj := (codes_ascii a _ (List.getElem_mem hj')).1
  have hcv := (codes_ascii a _ (List.getElem_mem hv)).1
  have hn := congrArg (fun c : Char => c.val.toNat) he
  rw [Utf8.val_ofNat (Or.inl (by omega)), Utf8.val_ofNat (Or.inl (by omega))] at hn
  exact List.pairwise_iff_getElem.1 (nodup_codes a) j value hj' hv hj hn

end

/-! ## Digits of a block -/

theorem digitCount_bounds (f : Family) (count : Nat) :
    8 * count ≤ f.bits * digitCount f count ∧
      f.bits * digitCount f count < 8 * count + f.bits := by
  cases f <;> simp only [digitCount, Family.bits] <;> omega

theorem digitCount_block (f : Family) : digitCount f f.blockBytes = f.blockSymbols := by
  cases f <;> rfl

theorem digitCount_le (f : Family) {count : Nat} (h : count ≤ f.blockBytes) :
    digitCount f count ≤ f.blockSymbols := by
  cases f <;> simp only [digitCount, Family.bits, Family.blockBytes, Family.blockSymbols] at h ⊢ <;>
    omega

theorem bits_bounds (f : Family) : 0 < f.bits ∧ f.bits < 8 := by
  cases f <;> decide

theorem blockBytes_pos (f : Family) : 0 < f.blockBytes := by
  cases f <;> decide

theorem blockSymbols_pos (f : Family) : 0 < f.blockSymbols := by
  cases f <;> decide

theorem length_blockDigits (f : Family) (block : Bytes) :
    (blockDigits f block).length = digitCount f block.length := by
  simp [blockDigits]

theorem lt_of_mem_blockDigits (f : Family) (block : Bytes) :
    ∀ d ∈ blockDigits f block, d < 2 ^ f.bits :=
  fun _ hd => Numeral.lt_of_mem_digits (Nat.pow_pos (by decide)) hd

theorem ofDigits_blockDigits (f : Family) (block : Bytes) :
    Numeral.ofDigits (2 ^ f.bits) (blockDigits f block) = Numeral.ofBytes block *
      2 ^ (f.bits * digitCount f block.length - 8 * block.length) := by
  have hb := (digitCount_bounds f block.length).1
  rw [blockDigits, Numeral.ofDigits_digits]
  apply Nat.mod_eq_of_lt
  calc Numeral.ofBytes block * 2 ^ (f.bits * digitCount f block.length - 8 * block.length)
      < 256 ^ block.length * 2 ^ (f.bits * digitCount f block.length - 8 * block.length) :=
        Nat.mul_lt_mul_of_pos_right (Numeral.ofBytes_lt block) (Nat.pow_pos (by decide))
    _ = 2 ^ (8 * block.length) *
          2 ^ (f.bits * digitCount f block.length - 8 * block.length) := by
        rw [Nat.pow_mul]
    _ = (2 ^ f.bits) ^ digitCount f block.length := by
        rw [← Nat.pow_add, Nat.add_sub_cancel' hb, Nat.pow_mul]

theorem readDigits_codes (a : Alphabet) (position : Nat) {ds : List Nat}
    (h : ∀ d ∈ ds, d < 2 ^ a.family.bits) :
    a.readDigits position (ds.map a.code) = .ok ds := by
  induction ds generalizing position with
  | nil => rfl
  | cons d ds ih =>
    have hd := value?_code (h d (by simp))
    have hds := ih (position + 1) fun e he => h e (by simp [he])
    rw [List.map_cons, readDigits, hd]
    dsimp only
    rw [hds]
    rfl

theorem readSymbols_codes (a : Alphabet) (position : Nat) (block : Bytes) :
    a.readSymbols position ((blockDigits a.family block).map a.code) = .ok block := by
  have hb := digitCount_bounds a.family block.length
  have hf := (bits_bounds a.family).2
  have hmod : a.family.bits * digitCount a.family block.length % 8 =
      a.family.bits * digitCount a.family block.length - 8 * block.length := by omega
  have hdiv : a.family.bits * digitCount a.family block.length / 8 = block.length := by omega
  rw [readSymbols, readDigits_codes a position (lt_of_mem_blockDigits _ _)]
  dsimp only
  rw [length_blockDigits, ofDigits_blockDigits, hmod, hdiv, Nat.mul_mod_left, if_pos rfl,
    Nat.mul_div_cancel _ (Nat.pow_pos (by decide)), Numeral.toBytes_ofBytes]

/-! ## Blocks of text -/

def blockText (a : Alphabet) (block : Bytes) : Bytes :=
  (blockDigits a.family block).map a.code ++
    if a.padded then
      List.replicate (a.family.blockSymbols - digitCount a.family block.length) 0x3D
    else []

theorem encode_symbols (a : Alphabet) {ds : List Nat} (h : ∀ d ∈ ds, d < 2 ^ a.family.bits) :
    (ds.map a.symbol).flatMap String.utf8EncodeChar = ds.map a.code := by
  induction ds with
  | nil => rfl
  | cons d ds ih =>
    have hd := encodeChar_symbol (h d (by simp))
    have hds := ih fun e he => h e (by simp [he])
    rw [List.map_cons, List.flatMap_cons, hd, hds, List.map_cons, List.singleton_append]

theorem encode_padding (count : Nat) :
    (List.replicate count '=').flatMap String.utf8EncodeChar = List.replicate count 0x3D := by
  have hc : String.utf8EncodeChar '=' = [0x3D] := by decide
  induction count with
  | zero => rfl
  | succ count ih =>
    rw [List.replicate_succ, List.flatMap_cons, ih, hc, List.replicate_succ,
      List.singleton_append]

theorem encode_encodeBlock (a : Alphabet) (block : Bytes) :
    (a.encodeBlock block).flatMap String.utf8EncodeChar = a.blockText block := by
  have hs := encode_symbols a (lt_of_mem_blockDigits a.family block)
  rw [encodeBlock, blockText, List.length_map, length_blockDigits]
  split
  · rw [List.flatMap_append, hs, encode_padding]
  · rw [hs, List.append_nil]

theorem encode_encode (a : Alphabet) (bytes : Bytes) :
    Utf8.encode (a.encode bytes) = (chunks a.family.blockBytes bytes).flatMap a.blockText := by
  rw [Utf8.encode, encode, String.toList_ofList, List.flatMap_assoc]
  exact List.flatMap_congr fun block _ => encode_encodeBlock a block

theorem rdropWhile_fill {α : Type} [BEq α] [LawfulBEq α] {xs : List α} {fill : α} (count : Nat)
    (h : fill ∉ xs) : (xs ++ List.replicate count fill).rdropWhile (· == fill) = xs := by
  induction count with
  | zero =>
    rw [List.replicate_zero, List.append_nil]
    refine List.rdropWhile_eq_self_iff.2 fun hne hlast => h ?_
    exact eq_of_beq hlast ▸ List.getLast_mem hne
  | succ count ih =>
    rw [List.replicate_succ', ← List.append_assoc,
      List.rdropWhile_concat_pos (· == fill) _ fill (beq_self_eq_true fill), ih]

theorem dropPadding_blockText {a : Alphabet} (h : a.padded = true) (block : Bytes) :
    dropPadding (a.blockText block) = (blockDigits a.family block).map a.code := by
  rw [blockText, if_pos h]
  apply rdropWhile_fill
  intro hmem
  obtain ⟨d, hd, hcode⟩ := List.mem_map.1 hmem
  exact code_ne (lt_of_mem_blockDigits _ _ d hd) hcode

theorem canEnd_digitCount (f : Family) {count : Nat} (h : 0 < count) :
    canEnd f (digitCount f count) = true := by
  have hb := digitCount_bounds f count
  have hf := bits_bounds f
  have hpos : 0 < digitCount f count := by
    apply Nat.pos_of_ne_zero
    intro h0
    rw [h0, Nat.mul_zero] at hb
    omega
  rw [canEnd, decide_eq_true hpos, decide_eq_true (by omega), Bool.and_self]

theorem readBlock_blockText (a : Alphabet) (position : Nat) {block : Bytes}
    (h : 0 < block.length) : a.readBlock position (a.blockText block) = .ok block := by
  rw [readBlock]
  split
  · next hp =>
    dsimp only
    rw [dropPadding_blockText hp, List.length_map, length_blockDigits,
      if_pos (canEnd_digitCount _ h), readSymbols_codes]
  · next hp => rw [blockText, if_neg hp, List.append_nil, readSymbols_codes]

theorem readBlocks_blockTexts (a : Alphabet) (position : Nat) {blocks : List Bytes}
    (h : ∀ block ∈ blocks, 0 < block.length) :
    a.readBlocks position (blocks.map a.blockText) = .ok blocks.flatten := by
  induction blocks generalizing position with
  | nil => rfl
  | cons block blocks ih =>
    have hblock := readBlock_blockText a position (h block (by simp))
    have hblocks := ih (position + (a.blockText block).length) fun b hb => h b (by simp [hb])
    rw [List.map_cons, readBlocks, hblock]
    dsimp only
    rw [hblocks]
    rfl

/-! ## Texts -/

theorem length_blockText (a : Alphabet) {block : Bytes}
    (h : block.length ≤ a.family.blockBytes) : (a.blockText block).length =
      if a.padded then a.family.blockSymbols else digitCount a.family block.length := by
  have hd := digitCount_le a.family h
  rw [blockText, List.length_append, List.length_map, length_blockDigits]
  split
  · rw [List.length_replicate]
    omega
  · rfl

theorem length_blockText_whole (a : Alphabet) {block : Bytes}
    (h : block.length = a.family.blockBytes) :
    (a.blockText block).length = a.family.blockSymbols := by
  rw [length_blockText a (Nat.le_of_eq h), h, digitCount_block]
  exact ite_self _

theorem length_blockText_bounds (a : Alphabet) {block : Bytes} (h0 : 0 < block.length)
    (h : block.length ≤ a.family.blockBytes) :
    0 < (a.blockText block).length ∧ (a.blockText block).length ≤ a.family.blockSymbols := by
  have hd := digitCount_le a.family h
  have hb := digitCount_bounds a.family block.length
  have hpos := blockSymbols_pos a.family
  rw [length_blockText a h]
  split
  · omega
  · refine ⟨Nat.pos_of_ne_zero fun hz => ?_, hd⟩
    rw [hz, Nat.mul_zero] at hb
    omega

theorem chunks_blockTexts (a : Alphabet) (bytes : Bytes) :
    chunks a.family.blockSymbols ((chunks a.family.blockBytes bytes).flatMap a.blockText) =
      (chunks a.family.blockBytes bytes).map a.blockText := by
  refine chunks_flatMap (blockBytes_pos _) (blockSymbols_pos _)
    (fun _ => length_blockText_whole a) ?_ bytes
  intro block hne hlt
  obtain ⟨hpos, hle⟩ := length_blockText_bounds a (List.length_pos_iff.2 hne) (Nat.le_of_lt hlt)
  exact ⟨List.length_pos_iff.1 hpos, hle⟩

/-- Lengths that whole blocks, and at most one short block, add up to. -/
def Fits (a : Alphabet) (length : Nat) : Prop :=
  if a.padded then length % a.family.blockSymbols = 0
  else a.family.bits * length % 8 < a.family.bits

theorem fits_add_block {a : Alphabet} {length : Nat} :
    a.Fits (a.family.blockSymbols + length) ↔ a.Fits length := by
  rw [Fits, Fits, Nat.add_mod_left, Nat.mul_add, Family.bits_mul_blockSymbols, Nat.mul_add_mod]

theorem fits_zero (a : Alphabet) : a.Fits 0 := by
  have hf := (bits_bounds a.family).1
  rw [Fits]
  split
  · exact Nat.zero_mod _
  · rwa [Nat.mul_zero, Nat.zero_mod]

theorem fits_blockTexts (a : Alphabet) (bytes : Bytes) :
    a.Fits ((chunks a.family.blockBytes bytes).flatMap a.blockText).length := by
  have hbytes := blockBytes_pos a.family
  induction bytes using chunks_cases _ hbytes with
  | nil =>
    rw [chunks_nil]
    exact fits_zero a
  | short bytes hne hlt =>
    have hb := digitCount_bounds a.family bytes.length
    have hf := (bits_bounds a.family).2
    rw [chunks_short hne (Nat.le_of_lt hlt), List.flatMap_singleton,
      length_blockText a (Nat.le_of_lt hlt), Fits]
    split
    · exact Nat.mod_self _
    · omega
  | whole block rest hb ih =>
    rw [chunks_append hbytes hb, List.flatMap_cons, List.length_append,
      length_blockText_whole a hb]
    exact fits_add_block.2 ih

theorem fittingLength_eq_iff {a : Alphabet} {length : Nat} :
    a.fittingLength length = length ↔ a.Fits length := by
  have hf := (bits_bounds a.family).1
  have hle := Nat.mod_le length a.family.blockSymbols
  rw [fittingLength, Fits]
  split
  · omega
  · rw [← Nat.div_eq_zero_iff_lt hf]
    constructor
    · intro h
      by_cases h0 : length = 0
      · rw [h0, Nat.mul_zero, Nat.zero_mod, Nat.zero_div]
      · omega
    · omega

@[simp] theorem decode_encode (a : Alphabet) (bytes : Bytes) :
    a.decode (a.encode bytes) = .ok bytes := by
  have hbytes := blockBytes_pos a.family
  have hpos : ∀ block ∈ chunks a.family.blockBytes bytes, 0 < block.length :=
    fun block hb => (length_of_mem_chunks hbytes hb).1
  rw [decode, encode_encode, decodeBytes, if_pos (fittingLength_eq_iff.2 (fits_blockTexts a bytes)),
    chunks_blockTexts, readBlocks_blockTexts a 0 hpos, flatten_chunks]

end PasswordSeal.Alphabet
