import Mathlib.Data.List.DropRight
import Mathlib.Data.List.Forall2
import Mathlib.Data.List.GetD
import PasswordSeal.Fault
import PasswordSeal.Proofs.Alphabet.Shape

/-!
# The alphabets of a family are one code

Two alphabets of a family that pad alike differ in their symbols only. What one writes is what the
other writes with each symbol replaced by the one of the same value, and a text that is renamed in
this way is read as it was before: as the same bytes, or with the same flaw in the same place.

Reading looks at a byte in two ways, for its value and for whether it is padding. Bytes that agree
in both are `Twin`s, and every stage of reading takes twins to the same result.
-/
namespace PasswordSeal.Alphabet

/-! ## Reading bytes that mean the same -/

structure Twin (a b : Alphabet) (x y : UInt8) : Prop where
  value : b.value? y = a.value? x
  padding : y = 0x3D ↔ x = 0x3D

section
variable {a b : Alphabet} {xs ys : Bytes}

theorem readDigits_twin (position : Nat) (h : List.Forall₂ (Twin a b) xs ys) :
    b.readDigits position ys = a.readDigits position xs := by
  induction h generalizing position with
  | nil => rfl
  | cons hxy _ ih => rw [readDigits, readDigits, hxy.value, ih]

theorem dropWhile_twin (h : List.Forall₂ (Twin a b) xs ys) :
    List.Forall₂ (Twin a b) (xs.dropWhile (· == 0x3D)) (ys.dropWhile (· == 0x3D)) := by
  induction h with
  | nil => exact .nil
  | @cons x y xs ys hxy hrest ih =>
    by_cases hx : x = 0x3D
    · rw [List.dropWhile_cons_of_pos (by simpa using hx),
        List.dropWhile_cons_of_pos (by simpa using hxy.padding.2 hx)]
      exact ih
    · have hy : y ≠ 0x3D := fun hy => hx (hxy.padding.1 hy)
      rw [List.dropWhile_cons_of_neg (by simpa using hx),
        List.dropWhile_cons_of_neg (by simpa using hy)]
      exact .cons hxy hrest

theorem dropPadding_twin (h : List.Forall₂ (Twin a b) xs ys) :
    List.Forall₂ (Twin a b) (dropPadding xs) (dropPadding ys) :=
  List.forall₂_reverse_iff.2 (dropWhile_twin (List.forall₂_reverse_iff.2 h))

theorem chunks_twin (size : Nat) (h : List.Forall₂ (Twin a b) xs ys) :
    List.Forall₂ (List.Forall₂ (Twin a b)) (chunks size xs) (chunks size ys) := by
  -- Both sides are cut at the same places, since a cut looks at nothing but the size.
  fun_induction chunks size xs generalizing ys with
  | case1 =>
    cases h
    rw [chunks_nil]
    exact .nil
  | case2 x rest ih =>
    cases h with
    | cons hxy hrest =>
      rw [chunks]
      exact .cons (.cons hxy (List.forall₂_take _ hrest)) (ih (List.forall₂_drop _ hrest))

variable (hfamily : a.family = b.family)
include hfamily

theorem readSymbols_twin (position : Nat) (h : List.Forall₂ (Twin a b) xs ys) :
    b.readSymbols position ys = a.readSymbols position xs := by
  rw [readSymbols, readSymbols, readDigits_twin position h, hfamily, h.length_eq]

variable (hpadded : a.padded = b.padded)
include hpadded

theorem readBlock_twin (position : Nat) (h : List.Forall₂ (Twin a b) xs ys) :
    b.readBlock position ys = a.readBlock position xs := by
  have hdropped := dropPadding_twin h
  rw [readBlock, readBlock]
  dsimp only
  rw [readSymbols_twin hfamily position h, readSymbols_twin hfamily position hdropped, hfamily,
    hpadded, hdropped.length_eq]

theorem readBlocks_twin (position : Nat) {blocks blocks' : List Bytes}
    (h : List.Forall₂ (List.Forall₂ (Twin a b)) blocks blocks') :
    b.readBlocks position blocks' = a.readBlocks position blocks := by
  induction h generalizing position with
  | nil => rfl
  | cons hblock _ ih =>
    rw [readBlocks, readBlocks, readBlock_twin hfamily hpadded position hblock, hblock.length_eq,
      ih]

theorem decodeBytes_twin (h : List.Forall₂ (Twin a b) xs ys) :
    b.decodeBytes ys = a.decodeBytes xs := by
  have hblocks := readBlocks_twin hfamily hpadded 0 (chunks_twin b.family.blockSymbols h)
  rw [decodeBytes, decodeBytes, hblocks, fittingLength, fittingLength, hfamily, hpadded,
    h.length_eq]

end

/-! ## Renamed texts -/

/-- The `k`th character of `new` in place of the `k`th of `old`; other characters stay. -/
def substitute (old new : String) (c : Char) : Char :=
  match old.toList.idxOf? c with
  | some k => new.toList.getD k c
  | none => c

/-- Writing and reading do not tell the alphabets apart, but for the names of the symbols. -/
structure Renames (f : Char → Char) (a b : Alphabet) : Prop where
  encode : ∀ bytes, b.encode bytes = (a.encode bytes).map f
  read : ∀ text : String, (∀ c ∈ text.toList, c ∈ a.symbols.toList ∨ c = '=') →
    b.read (text.map f) = a.read text

structure Respects (f : Char → Char) (a b : Alphabet) : Prop where
  symbol : ∀ value < 2 ^ a.family.bits, f (a.symbol value) = b.symbol value
  padding : f '=' = '='

theorem exists_symbol {a : Alphabet} {c : Char} (h : c ∈ a.symbols.toList) :
    ∃ value < 2 ^ a.family.bits, a.symbol value = c := by
  obtain ⟨value, hvalue, rfl⟩ := List.mem_iff_getElem.1 h
  refine ⟨value, ?_, ?_⟩
  · rwa [symbols_toList, List.length_map, length_codes] at hvalue
  · rw [symbol, List.getD_eq_getElem?_getD, List.getElem?_eq_getElem hvalue, Option.getD_some]

theorem value?_equals (a : Alphabet) : a.value? 0x3D = none :=
  List.idxOf?_eq_none_iff.2 (equals_not_mem a)

theorem idxOf?_symbol {a : Alphabet} {value : Nat} (h : value < 2 ^ a.family.bits) :
    a.symbols.toList.idxOf? (a.symbol value) = some value := by
  have hlt := Nat.lt_trans (codes_ascii a _ (codes_getD_mem h)).1 (by decide : 128 < 256)
  have hread := value?_code h
  rwa [value?, code, Utf8.toNat_ofNat hlt, ← symbol_eq h] at hread

namespace Respects
variable {f : Char → Char} {a b : Alphabet} (h : Respects f a b) (hfamily : a.family = b.family)
include h hfamily

theorem encodeChar_twin {c : Char} (hc : c ∈ a.symbols.toList ∨ c = '=') :
    List.Forall₂ (Twin a b) (String.utf8EncodeChar c) (String.utf8EncodeChar (f c)) := by
  rcases hc with hc | rfl
  · obtain ⟨value, hvalue, rfl⟩ := exists_symbol hc
    have hvalue' : value < 2 ^ b.family.bits := hfamily ▸ hvalue
    rw [h.symbol value hvalue, encodeChar_symbol hvalue, encodeChar_symbol hvalue']
    refine .cons ⟨?_, ?_⟩ .nil
    · rw [value?_code hvalue, value?_code hvalue']
    · exact iff_of_false (code_ne hvalue') (code_ne hvalue)
  · have hpadding : String.utf8EncodeChar '=' = [0x3D] := by decide
    rw [h.padding, hpadding]
    exact .cons ⟨by rw [value?_equals, value?_equals], iff_of_true rfl rfl⟩ .nil

theorem encodeChars_twin {cs : List Char} (hcs : ∀ c ∈ cs, c ∈ a.symbols.toList ∨ c = '=') :
    List.Forall₂ (Twin a b) (cs.flatMap String.utf8EncodeChar)
      ((cs.map f).flatMap String.utf8EncodeChar) := by
  induction cs with
  | nil => exact .nil
  | cons c cs ih =>
    obtain ⟨hc, hrest⟩ := List.forall_mem_cons.1 hcs
    rw [List.map_cons, List.flatMap_cons, List.flatMap_cons]
    exact List.rel_append (h.encodeChar_twin hfamily hc) (ih hrest)

variable (hpadded : a.padded = b.padded)
include hpadded

theorem encodeBlock_map (block : Bytes) : b.encodeBlock block = (a.encodeBlock block).map f := by
  have hsymbols : (blockDigits a.family block).map b.symbol =
      ((blockDigits a.family block).map a.symbol).map f := by
    rw [List.map_map]
    refine List.map_congr_left fun value hvalue => ?_
    exact (h.symbol value (lt_of_mem_blockDigits _ _ value hvalue)).symm
  rw [encodeBlock, encodeBlock, ← hfamily, ← hpadded, hsymbols, List.length_map]
  split
  · rw [List.map_append, List.map_replicate, h.padding]
  · rfl

theorem renames : Renames f a b where
  encode bytes := by
    rw [← String.toList_inj, String.toList_map, encode, encode, String.toList_ofList,
      String.toList_ofList, List.map_flatMap, ← hfamily]
    exact List.flatMap_congr fun block _ => h.encodeBlock_map hfamily hpadded block
  read text htext := by
    have htwin := h.encodeChars_twin hfamily htext
    rw [read, read, decode, decode, Utf8.encode, Utf8.encode, String.toList_map,
      decodeBytes_twin hfamily hpadded htwin]

end Respects

theorem respects_substitute {a b : Alphabet} (hfamily : a.family = b.family) :
    Respects (substitute a.symbols b.symbols) a b where
  symbol value hvalue := by
    have hv : value < b.symbols.toList.length := by
      rwa [symbols_toList, List.length_map, length_codes, ← hfamily]
    rw [substitute, idxOf?_symbol hvalue]
    dsimp only
    rw [List.getD_eq_getElem _ _ hv, symbol, List.getD_eq_getElem _ _ hv]
  padding := by
    rw [substitute, List.idxOf?_eq_none_iff.2 (equals_not_mem a)]

theorem respects_url : Respects (substitute "+/" "-_") base64 base64Url where
  symbol := by decide +kernel
  padding := by decide +kernel

theorem respects_lower : Respects Char.toLower base32 base32Lower where
  symbol := by decide +kernel
  padding := by decide

theorem encode_unpadded (bytes : Bytes) : base64Unpadded.encode bytes =
    String.ofList ((base64.encode bytes).toList.rdropWhile (· == '=')) := by
  -- Both are written in the same symbols, of which none can be mistaken for padding.
  rw [← String.toList_inj, String.toList_ofList, toList_encode, toList_encode,
    rdropWhile_fill _ fun h => equals_not_mem base64 (mem_written h)]
  have hlength : base64Unpadded.textLength bytes.length =
      digitCount base64Unpadded.family bytes.length := rfl
  rw [hlength, Nat.sub_self, List.replicate_zero, List.append_nil]
  rfl

structure OneCode : Prop where
  url : Renames (substitute "+/" "-_") base64 base64Url
  unpadded : ∀ bytes, base64Unpadded.encode bytes =
    String.ofList ((base64.encode bytes).toList.rdropWhile (· == '='))
  lower : Renames Char.toLower base32 base32Lower
  hex : Renames (substitute "ABCDEFGHIJKLMNOPQRSTUVWXYZ234567" "0123456789ABCDEFGHIJKLMNOPQRSTUV")
    base32 base32Hex
  family : ∀ a b : Alphabet, a.family = b.family → a.padded = b.padded →
    Renames (substitute a.symbols b.symbols) a b

theorem one_code : OneCode where
  url := respects_url.renames rfl rfl
  unpadded := encode_unpadded
  lower := respects_lower.renames rfl rfl
  hex := (respects_substitute (a := base32) (b := base32Hex) rfl).renames rfl rfl
  family _ _ hfamily hpadded := (respects_substitute hfamily).renames hfamily hpadded

end PasswordSeal.Alphabet
