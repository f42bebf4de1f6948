import PasswordSeal.Fault
import PasswordSeal.Proofs.Alphabet.Shape
import PasswordSeal.Proofs.Except

/-!
# The texts that an alphabet reads

Without padding, an alphabet reads the texts that it writes and no others. With padding, it reads
texts of at most a block, one behind the other. Everything else is refused: characters from
elsewhere, lengths that no text has, and blocks that are not the text of any bytes.

A block that was read is shown to be the block that is written. Its symbols are found from their
values, and its number from the bytes, since the bits past the last byte are zero.
-/
namespace PasswordSeal.Alphabet
variable {a : Alphabet} {position : Nat}

/-! ## Digits that were read -/

theorem value?_eq_some_iff {symbol : UInt8} {value : Nat} :
    a.value? symbol = some value ↔ value < 2 ^ a.family.bits ∧ a.code value = symbol := by
  constructor
  · intro h
    rw [value?, symbols_toList] at h
    obtain ⟨hlt, hchar, -⟩ := List.idxOf?_eq_some_iff.1 h
    rw [List.length_map] at hlt
    rw [List.getElem_map] at hchar
    have hcode := (codes_ascii a _ (List.getElem_mem hlt)).1
    have hsymbol := symbol.toNat_lt
    have hnat := congrArg (fun c : Char => c.val.toNat) hchar
    rw [Utf8.val_ofNat (Or.inl (by omega)), Utf8.val_ofNat (Or.inl (by omega))] at hnat
    refine ⟨length_codes a ▸ hlt, ?_⟩
    rw [code, List.getD_eq_getElem?_getD, List.getElem?_eq_getElem hlt, Option.getD_some]
    exact Utf8.ofNat_eq hnat
  · rintro ⟨hlt, rfl⟩
    exact value?_code hlt

theorem readDigits_eq_ok {symbols : Bytes} {ds : List Nat}
    (h : a.readDigits position symbols = .ok ds) :
    (∀ d ∈ ds, d < 2 ^ a.family.bits) ∧ symbols = ds.map a.code := by
  induction symbols generalizing position ds with
  | nil =>
    obtain rfl := Except.ok.inj h
    exact ⟨nofun, rfl⟩
  | cons symbol rest ih =>
    rw [readDigits] at h
    cases hv : a.value? symbol with
    | none =>
      rw [hv] at h
      cases h
    | some value =>
      rw [hv] at h
      obtain ⟨values, hrest, rfl⟩ := map_eq_ok.1 h
      obtain ⟨hlt, rfl⟩ := value?_eq_some_iff.1 hv
      obtain ⟨hvalues, rfl⟩ := ih hrest
      exact ⟨List.forall_mem_cons.2 ⟨hlt, hvalues⟩, rfl⟩

theorem digitCount_bytes {f : Family} {count : Nat} (h : f.bits * count % 8 < f.bits) :
    digitCount f (f.bits * count / 8) = count := by
  cases f <;> simp only [digitCount, Family.bits] at h ⊢ <;> omega

theorem blockDigits_toBytes {f : Family} {ds : List Nat} (hds : ∀ d ∈ ds, d < 2 ^ f.bits)
    (hfit : f.bits * ds.length % 8 < f.bits)
    (hzero : Numeral.ofDigits (2 ^ f.bits) ds % 2 ^ (f.bits * ds.length % 8) = 0) :
    blockDigits f (Numeral.toBytes (f.bits * ds.length / 8)
      (Numeral.ofDigits (2 ^ f.bits) ds / 2 ^ (f.bits * ds.length % 8))) = ds := by
  have hbase : 0 < 2 ^ f.bits := Nat.pow_pos (by decide)
  have hnumber : Numeral.ofDigits (2 ^ f.bits) ds / 2 ^ (f.bits * ds.length % 8) <
      256 ^ (f.bits * ds.length / 8) := by
    have hlt := Numeral.ofDigits_lt hbase hds
    apply Nat.div_lt_of_lt_mul
    calc Numeral.ofDigits (2 ^ f.bits) ds < (2 ^ f.bits) ^ ds.length := hlt
      _ = 2 ^ (f.bits * ds.length % 8) * 256 ^ (f.bits * ds.length / 8) := by
        rw [show 256 = 2 ^ 8 from rfl, ← Nat.pow_mul, ← Nat.pow_mul, ← Nat.pow_add,
          Nat.mod_add_div]
  have hmod : f.bits * ds.length - 8 * (f.bits * ds.length / 8) = f.bits * ds.length % 8 := by
    omega
  rw [blockDigits, Numeral.length_toBytes, digitCount_bytes hfit, Numeral.ofBytes_toBytes hnumber,
    hmod, Nat.div_mul_cancel (Nat.dvd_of_mod_eq_zero hzero), Numeral.digits_ofDigits hbase ds hds]

theorem readSymbols_eq_ok {symbols piece : Bytes}
    (hfit : a.family.bits * symbols.length % 8 < a.family.bits)
    (h : a.readSymbols position symbols = .ok piece) :
    symbols = (blockDigits a.family piece).map a.code ∧
      piece.length = a.family.bits * symbols.length / 8 := by
  rw [readSymbols] at h
  cases hd : a.readDigits position symbols with
  | error flaw =>
    rw [hd] at h
    cases h
  | ok ds =>
    rw [hd] at h
    obtain ⟨hds, rfl⟩ := readDigits_eq_ok hd
    rw [List.length_map] at hfit ⊢
    dsimp only at h
    split at h
    · next hzero =>
      obtain rfl := Except.ok.inj h
      rw [blockDigits_toBytes hds hfit hzero, Numeral.length_toBytes]
      exact ⟨rfl, rfl⟩
    · cases h

/-! ## Blocks that were read -/

theorem exists_padding (block : Bytes) :
    ∃ count, block = dropPadding block ++ List.replicate count 0x3D := by
  have hfill : block.rtakeWhile (· == 0x3D) =
      List.replicate (block.rtakeWhile (· == 0x3D)).length 0x3D := by
    refine List.eq_replicate_of_mem fun b hb => ?_
    simpa using List.mem_rtakeWhile_imp hb
  refine ⟨(block.rtakeWhile (· == 0x3D)).length, ?_⟩
  rw [← hfill]
  exact List.rdropWhile_append_rtakeWhile.symm

/-- What a reader may cut off as a block: some bytes, at most a block of them, and as many as whole
bytes are written in. -/
structure IsBlock (a : Alphabet) (block : Bytes) : Prop where
  pos : 0 < block.length
  le : block.length ≤ a.family.blockSymbols
  fits : a.Fits block.length

def IsPiece (a : Alphabet) (piece : Bytes) : Prop :=
  0 < piece.length ∧ piece.length ≤ a.family.blockBytes

theorem canEnd_iff {f : Family} {count : Nat} :
    canEnd f count = true ↔ 0 < count ∧ f.bits * count % 8 < f.bits := by
  simp [canEnd]

theorem byteCount_bounds {f : Family} {count : Nat} (h0 : 0 < count) (h : count ≤ f.blockSymbols)
    (hfit : f.bits * count % 8 < f.bits) :
    0 < f.bits * count / 8 ∧ f.bits * count / 8 ≤ f.blockBytes := by
  cases f <;> simp only [Family.bits, Family.blockBytes, Family.blockSymbols] at h hfit ⊢ <;> omega

theorem readBlock_eq_ok {block piece : Bytes} (hb : a.IsBlock block)
    (h : a.readBlock position block = .ok piece) : block = a.blockText piece ∧ a.IsPiece piece := by
  have hle := hb.le
  have hfits := hb.fits
  rw [Fits] at hfits
  rw [readBlock] at h
  split at h
  · next hp =>
    rw [if_pos hp] at hfits
    have hwhole : block.length = a.family.blockSymbols := by
      have hpos := hb.pos
      obtain hlt | heq := Nat.lt_or_eq_of_le hle
      · rw [Nat.mod_eq_of_lt hlt] at hfits
        omega
      · exact heq
    obtain ⟨count, hcount⟩ := exists_padding block
    have hlen := congrArg List.length hcount
    rw [List.length_append, List.length_replicate, hwhole] at hlen
    dsimp only at h
    split at h
    · next hend =>
      obtain ⟨hpos, hfit⟩ := canEnd_iff.1 hend
      obtain ⟨hsymbols, hpiece⟩ := readSymbols_eq_ok hfit h
      have hdigits : (dropPadding block).length = digitCount a.family piece.length := by
        rw [hpiece, digitCount_bytes hfit]
      constructor
      · rw [blockText, if_pos hp, ← hsymbols, ← hdigits, hlen, Nat.add_sub_cancel_left]
        exact hcount
      · rw [IsPiece, hpiece]
        exact byteCount_bounds hpos (by omega) hfit
    · cases h
  · next hp =>
    rw [if_neg hp] at hfits
    obtain ⟨hsymbols, hpiece⟩ := readSymbols_eq_ok hfits h
    constructor
    · rw [blockText, if_neg hp, List.append_nil]
      exact hsymbols
    · rw [IsPiece, hpiece]
      exact byteCount_bounds hb.pos hle hfits

theorem readBlocks_eq_ok {blocks : List Bytes} {bytes : Bytes}
    (hb : ∀ block ∈ blocks, a.IsBlock block) (h : a.readBlocks position blocks = .ok bytes) :
    ∃ pieces : List Bytes, blocks = pieces.map a.blockText ∧ bytes = pieces.flatten ∧
      ∀ piece ∈ pieces, a.IsPiece piece := by
  induction blocks generalizing position bytes with
  | nil =>
    obtain rfl := Except.ok.inj h
    exact ⟨[], rfl, rfl, nofun⟩
  | cons block blocks ih =>
    obtain ⟨hblock, hblocks⟩ := List.forall_mem_cons.1 hb
    rw [readBlocks] at h
    cases hr : a.readBlock position block with
    | error flaw =>
      rw [hr] at h
      cases h
    | ok piece =>
      rw [hr] at h
      obtain ⟨rest, hrest, rfl⟩ := map_eq_ok.1 h
      obtain ⟨rfl, hpiece⟩ := readBlock_eq_ok hblock hr
      obtain ⟨pieces, rfl, rfl, hpieces⟩ := ih hblocks hrest
      exact ⟨piece :: pieces, rfl, rfl, List.forall_mem_cons.2 ⟨hpiece, hpieces⟩⟩

/-! ## Texts that were read -/

theorem isBlock_of_mem_chunks {text block : Bytes} (hfits : a.Fits text.length)
    (h : block ∈ chunks a.family.blockSymbols text) : a.IsBlock block := by
  have hsymbols := blockSymbols_pos a.family
  obtain ⟨hpos, hle⟩ := length_of_mem_chunks hsymbols h
  refine ⟨hpos, hle, ?_⟩
  induction text using chunks_cases _ hsymbols with
  | nil => simp at h
  | short text hne hlt =>
    rw [chunks_short hne (Nat.le_of_lt hlt), List.mem_singleton] at h
    rwa [h]
  | whole first rest hf ih =>
    rw [List.length_append, hf, fits_add_block] at hfits
    rw [chunks_append hsymbols hf, List.mem_cons] at h
    rcases h with rfl | h
    · rw [hf]
      exact fits_add_block.2 (fits_zero a)
    · exact ih hfits h

theorem decodeBytes_eq_ok {text bytes : Bytes} (h : a.decodeBytes text = .ok bytes) :
    ∃ pieces : List Bytes, chunks a.family.blockSymbols text = pieces.map a.blockText ∧
      bytes = pieces.flatten ∧ (∀ piece ∈ pieces, a.IsPiece piece) ∧ a.Fits text.length := by
  rw [decodeBytes] at h
  split at h
  · next hlen =>
    have hfits := fittingLength_eq_iff.1 hlen
    obtain ⟨pieces, hblocks, hbytes, hpieces⟩ :=
      readBlocks_eq_ok (fun block hb => isBlock_of_mem_chunks hfits hb) h
    exact ⟨pieces, hblocks, hbytes, hpieces, hfits⟩
  · cases h

theorem fits_flatten {α : Type} {blocks : List (List α)} (hp : a.padded = true)
    (h : ∀ block ∈ blocks, block.length = a.family.blockSymbols) :
    a.Fits blocks.flatten.length := by
  rw [Fits, if_pos hp, List.length_flatten, List.map_eq_replicate_iff.2 h, List.sum_replicate_nat,
    Nat.mul_mod_left]

theorem decodeBytes_blockTexts {pieces : List Bytes} (hp : a.padded = true)
    (hpieces : ∀ piece ∈ pieces, a.IsPiece piece) :
    a.decodeBytes (pieces.map a.blockText).flatten = .ok pieces.flatten := by
  have hlen : ∀ block ∈ pieces.map a.blockText, block.length = a.family.blockSymbols := by
    intro block hb
    obtain ⟨piece, hpiece, rfl⟩ := List.mem_map.1 hb
    rw [length_blockText a (hpieces piece hpiece).2, if_pos hp]
  rw [decodeBytes, if_pos (fittingLength_eq_iff.2 (fits_flatten hp hlen)), chunks_flatten
    (blockSymbols_pos a.family) hlen, readBlocks_blockTexts a 0 fun piece h => (hpieces piece h).1]

theorem length_piece {piece : Bytes} (hp : a.padded = false) (h : a.IsPiece piece)
    (hlen : (a.blockText piece).length = a.family.blockSymbols) :
    piece.length = a.family.blockBytes := by
  have hle := h.2
  rw [length_blockText a hle, hp, if_neg (by decide)] at hlen
  cases hf : a.family <;> simp only [hf, digitCount, Family.bits, Family.blockBytes,
    Family.blockSymbols] at hlen hle ⊢ <;> omega

theorem chunks_pieces {text : Bytes} {pieces : List Bytes} (hp : a.padded = false)
    (hpieces : ∀ piece ∈ pieces, a.IsPiece piece)
    (h : chunks a.family.blockSymbols text = pieces.map a.blockText) :
    chunks a.family.blockBytes pieces.flatten = pieces := by
  have hbytes := blockBytes_pos a.family
  have hsymbols := blockSymbols_pos a.family
  induction text using chunks_cases _ hsymbols generalizing pieces with
  | nil =>
    rw [chunks_nil] at h
    obtain rfl := List.map_eq_nil_iff.1 h.symm
    exact chunks_nil _
  | short text hne hlt =>
    rw [chunks_short hne (Nat.le_of_lt hlt)] at h
    obtain ⟨piece, rfl, -⟩ := List.map_eq_singleton_iff.1 h.symm
    obtain ⟨hpos, hle⟩ := hpieces piece List.mem_cons_self
    rw [List.flatten_singleton, chunks_short (List.length_pos_iff.1 hpos) hle]
  | whole block rest hb ih =>
    rw [chunks_append hsymbols hb] at h
    obtain ⟨piece, others, rfl, rfl, hrest⟩ := List.map_eq_cons_iff.1 h.symm
    obtain ⟨hpiece, hothers⟩ := List.forall_mem_cons.1 hpieces
    rw [List.flatten_cons, chunks_append hbytes (length_piece hp hpiece hb),
      ih hothers hrest.symm]

/-! ## The language of an alphabet -/

theorem encode_piece {piece : Bytes} (h : a.IsPiece piece) :
    Utf8.encode (a.encode piece) = a.blockText piece := by
  rw [encode_encode, chunks_short (List.length_pos_iff.1 h.1) h.2, List.flatMap_singleton]

theorem length_encode_piece {piece : Bytes} (h : a.IsPiece piece) :
    (a.encode piece).length = (a.blockText piece).length := by
  rw [length_encode, textLength_short a h.1 h.2, length_blockText a h.2]

/-- A text that is cut into blocks, each of which is what is written of a piece. -/
structure Cut (a : Alphabet) (text : String) (pieces : List Bytes) : Prop where
  text_eq : text.toList = pieces.flatMap fun piece => (a.encode piece).toList
  length_block : ∀ piece ∈ pieces, (a.encode piece).length = a.family.blockSymbols
  isPiece : ∀ piece ∈ pieces, a.IsPiece piece

theorem Cut.length_blocks {text : String} {pieces : List Bytes} (h : a.Cut text pieces) :
    ∀ block ∈ pieces.map fun piece => (a.encode piece).toList,
      block.length = a.family.blockSymbols := by
  intro block hblock
  obtain ⟨piece, hpiece, rfl⟩ := List.mem_map.1 hblock
  rw [String.length_toList]
  exact h.length_block piece hpiece

/-- The text stands for the bytes: it is what is written of them or, with padding, what is written
of their pieces. -/
def Spells (a : Alphabet) (text : String) (bytes : Bytes) : Prop :=
  if a.padded then ∃ pieces, a.Cut text pieces ∧ pieces.flatten = bytes
  else text = a.encode bytes

theorem text_eq_iff {text : String} {pieces : List Bytes} (h : ∀ piece ∈ pieces, a.IsPiece piece) :
    text.toList = (pieces.flatMap fun piece => (a.encode piece).toList) ↔
      Utf8.encode text = (pieces.map a.blockText).flatten := by
  have hjoined : Utf8.encode (String.ofList (pieces.flatMap fun piece => (a.encode piece).toList)) =
      (pieces.map a.blockText).flatten := by
    rw [Utf8.encode, String.toList_ofList, List.flatMap_assoc, ← List.flatMap_def]
    exact List.flatMap_congr fun piece hpiece => encode_piece (h piece hpiece)
  rw [← hjoined, Utf8.encode_injective.eq_iff, ← String.toList_inj, String.toList_ofList]

theorem decode_eq_ok_iff {text : String} {bytes : Bytes} :
    a.decode text = .ok bytes ↔ a.Spells text bytes := by
  rw [Spells]
  split
  · next hp =>
    constructor
    · intro h
      obtain ⟨pieces, hblocks, rfl, hpieces, -⟩ := decodeBytes_eq_ok h
      refine ⟨pieces, ⟨(text_eq_iff hpieces).2 ?_, fun piece hpiece => ?_, hpieces⟩, rfl⟩
      · rw [← hblocks, flatten_chunks]
      · rw [length_encode_piece (hpieces piece hpiece),
          length_blockText a (hpieces piece hpiece).2, if_pos hp]
    · rintro ⟨pieces, hcut, rfl⟩
      rw [decode, (text_eq_iff hcut.isPiece).1 hcut.text_eq, decodeBytes_blockTexts hp hcut.isPiece]
  · next hp =>
    constructor
    · intro h
      obtain ⟨pieces, hblocks, rfl, hpieces, -⟩ := decodeBytes_eq_ok h
      apply Utf8.encode_injective
      rw [encode_encode, chunks_pieces (Bool.eq_false_iff.2 hp) hpieces hblocks, List.flatMap_def,
        ← hblocks, flatten_chunks]
    · rintro rfl
      exact decode_encode a bytes

/-! ## Texts that are none of an alphabet's -/

theorem symbol_injective {d e : Nat} (hd : d < 2 ^ a.family.bits) (he : e < 2 ^ a.family.bits)
    (h : a.symbol d = a.symbol e) : d = e := by
  have hcode : [a.code d] = [a.code e] := by rw [← encodeChar_symbol hd, h, encodeChar_symbol he]
  have hvalue := value?_code hd
  rw [List.singleton_inj.1 hcode, value?_code he] at hvalue
  exact (Option.some.inj hvalue).symm

theorem map_symbol_injective {ds es : List Nat} (hd : ∀ d ∈ ds, d < 2 ^ a.family.bits)
    (he : ∀ e ∈ es, e < 2 ^ a.family.bits) (h : ds.map a.symbol = es.map a.symbol) : ds = es := by
  induction ds generalizing es with
  | nil => exact (List.map_eq_nil_iff.1 h.symm).symm
  | cons d ds ih =>
    obtain ⟨e, es', rfl, hsymbol, hrest⟩ := List.map_eq_cons_iff.1 h.symm
    obtain ⟨hdlt, hds⟩ := List.forall_mem_cons.1 hd
    obtain ⟨helt, hes⟩ := List.forall_mem_cons.1 he
    rw [symbol_injective hdlt helt hsymbol.symm, ih hds hes hrest.symm]

theorem equals_not_mem_symbols {ds : List Nat} (h : ∀ d ∈ ds, d < 2 ^ a.family.bits) :
    '=' ∉ ds.map a.symbol := by
  intro hmem
  obtain ⟨d, hd, he⟩ := List.mem_map.1 hmem
  exact equals_not_mem a (he ▸ symbol_mem (h d hd))

theorem symbols_unique {xs ys : List Char} {m n : Nat} (hx : '=' ∉ xs) (hy : '=' ∉ ys)
    (h : xs ++ List.replicate m '=' = ys ++ List.replicate n '=') : xs = ys := by
  have hkept (zs : List Char) (count : Nat) (hz : '=' ∉ zs) :
      (zs ++ List.replicate count '=').filter (· != '=') = zs := by
    rw [List.filter_append, List.filter_replicate_of_neg (by decide), List.append_nil]
    refine List.filter_eq_self.2 fun c hc => ?_
    exact bne_iff_ne.2 fun he => hz (he ▸ hc)
  rw [← hkept xs m hx, h, hkept ys n hy]

theorem eq_of_behind_equals {xs before after : List Char} {c : Char} {count : Nat} (hx : '=' ∉ xs)
    (h : xs ++ List.replicate count '=' = before ++ '=' :: c :: after) : c = '=' := by
  have hfill (front : List Char) (hf : List.replicate count '=' = front ++ '=' :: c :: after) :
      c = '=' := by
    refine List.eq_of_mem_replicate (n := count) ?_
    rw [hf]
    simp
  rcases List.append_eq_append_iff.1 h with ⟨front, -, hrest⟩ | ⟨back, hback, hrest⟩
  · exact hfill front hrest
  · cases back with
    | nil => exact hfill [] hrest.symm
    | cons b back =>
      rw [List.cons_append, List.cons.injEq] at hrest
      refine absurd ?_ hx
      rw [hback, ← hrest.1]
      simp

/-- A block that is not what is written of any bytes: something stands behind padding, the padding
is as long as no bytes leave it, or the bits past the last byte are not zero. -/
inductive MalformedBlock (a : Alphabet) : List Char → Prop
  | misplaced {c : Char} (before after : List Char) (hc : c ≠ '=') :
    MalformedBlock a (before ++ '=' :: c :: after)
  | count {symbols : List Char} (count : Nat) (hs : '=' ∉ symbols)
    (h : canEnd a.family symbols.length = false) :
    MalformedBlock a (symbols ++ List.replicate count '=')
  | trailing {ds : List Nat} (count : Nat) (hd : ∀ d ∈ ds, d < 2 ^ a.family.bits)
    (h : Numeral.ofDigits (2 ^ a.family.bits) ds % 2 ^ (a.family.bits * ds.length % 8) ≠ 0) :
    MalformedBlock a (ds.map a.symbol ++ List.replicate count '=')

/-- A text with a character from elsewhere, of a length that no text has, or with a malformed
block. -/
inductive Malformed (a : Alphabet) : List Char → Prop
  | foreign {text : List Char} {c : Char} (hmem : c ∈ text) (hc : c ∉ a.symbols.toList)
    (hpadding : a.padded = true → c ≠ '=') : Malformed a text
  | length {text : List Char} (h : ¬ a.Fits text.length) : Malformed a text
  | block {before block after : List Char} (hb : before.length % a.family.blockSymbols = 0)
    (h0 : block ≠ []) (hlen : block.length = a.family.blockSymbols ∨
      after = [] ∧ block.length ≤ a.family.blockSymbols)
    (h : a.MalformedBlock block) : Malformed a (before ++ (block ++ after))

theorem isPiece_of_mem_chunks {bytes piece : Bytes}
    (h : piece ∈ chunks a.family.blockBytes bytes) : a.IsPiece piece :=
  length_of_mem_chunks (blockBytes_pos a.family) h

theorem toList_encode_pieces (a : Alphabet) (bytes : Bytes) : (a.encode bytes).toList =
    (chunks a.family.blockBytes bytes).flatMap fun piece => (a.encode piece).toList := by
  rw [encode, String.toList_ofList]
  refine List.flatMap_congr fun piece hpiece => ?_
  obtain ⟨hpos, hle⟩ := isPiece_of_mem_chunks hpiece
  rw [encode, String.toList_ofList, chunks_short (List.length_pos_iff.1 hpos) hle,
    List.flatMap_singleton]

theorem toList_encode_piece {piece : Bytes} (h : a.IsPiece piece) :
    ∃ count, (a.encode piece).toList =
      (blockDigits a.family piece).map a.symbol ++ List.replicate count '=' := by
  refine ⟨a.textLength piece.length - digitCount a.family piece.length, ?_⟩
  rw [toList_encode, written, chunks_short (List.length_pos_iff.1 h.1) h.2, List.flatMap_singleton]

theorem not_malformedBlock {piece : Bytes} (h : a.IsPiece piece) :
    ¬ a.MalformedBlock (a.encode piece).toList := by
  obtain ⟨fill, htext⟩ := toList_encode_piece h
  have hlt := lt_of_mem_blockDigits a.family piece
  have hnone := equals_not_mem_symbols hlt
  rw [htext]
  intro hm
  generalize hblock : (blockDigits a.family piece).map a.symbol ++ List.replicate fill '=' = block
    at hm
  cases hm with
  | misplaced before after hc =>
    exact hc (eq_of_behind_equals hnone hblock)
  | count count hs hend =>
    have hsymbols := symbols_unique hnone hs hblock
    rw [← hsymbols, List.length_map, length_blockDigits, canEnd_digitCount _ h.1] at hend
    cases hend
  | trailing count hd hzero =>
    have hds := map_symbol_injective hlt hd
      (symbols_unique hnone (equals_not_mem_symbols hd) hblock)
    subst hds
    refine hzero ?_
    have hb := digitCount_bounds a.family piece.length
    have hf := (bits_bounds a.family).2
    rw [length_blockDigits, ofDigits_blockDigits, show a.family.bits *
      digitCount a.family piece.length - 8 * piece.length =
        a.family.bits * digitCount a.family piece.length % 8 by omega, Nat.mul_mod_left]

namespace Spells
variable {text : String} {bytes : Bytes} (h : a.Spells text bytes)
include h

theorem exists_pieces : ∃ pieces : List Bytes, (∀ piece ∈ pieces, a.IsPiece piece) ∧
    chunks a.family.blockSymbols text.toList = pieces.map fun piece => (a.encode piece).toList := by
  rw [Spells] at h
  split at h
  · next hp =>
    obtain ⟨pieces, hcut, -⟩ := h
    refine ⟨pieces, hcut.isPiece, ?_⟩
    rw [hcut.text_eq, List.flatMap_def,
      chunks_flatten (blockSymbols_pos a.family) hcut.length_blocks]
  · next hp =>
    refine ⟨chunks a.family.blockBytes bytes, fun _ => isPiece_of_mem_chunks, ?_⟩
    rw [h, toList_encode_pieces]
    refine chunks_flatMap (blockBytes_pos _) (blockSymbols_pos _) ?_ ?_ bytes
    · intro piece hlen
      have hpos := blockBytes_pos a.family
      rw [String.length_toList, length_encode_piece ⟨by omega, Nat.le_of_eq hlen⟩,
        length_blockText_whole a hlen]
    · intro piece hne hlt
      have hpos := List.length_pos_iff.2 hne
      rw [← List.length_pos_iff, String.length_toList,
        length_encode_piece ⟨hpos, Nat.le_of_lt hlt⟩]
      exact length_blockText_bounds a hpos (Nat.le_of_lt hlt)

theorem fits : a.Fits text.length := by
  rw [Spells] at h
  split at h
  · next hp =>
    obtain ⟨pieces, hcut, -⟩ := h
    rw [← String.length_toList, hcut.text_eq, List.flatMap_def]
    exact fits_flatten hp hcut.length_blocks
  · next hp =>
    have hb := digitCount_bounds a.family bytes.length
    rw [h, length_encode, textLength, if_neg hp, Fits, if_neg hp]
    have hf := (bits_bounds a.family).2
    omega

theorem mem_symbols {c : Char} (hc : c ∈ text.toList) :
    c ∈ a.symbols.toList ∨ a.padded = true ∧ c = '=' := by
  rw [Spells] at h
  split at h
  · next hp =>
    obtain ⟨pieces, hcut, -⟩ := h
    rw [hcut.text_eq] at hc
    obtain ⟨piece, -, hmem⟩ := List.mem_flatMap.1 hc
    exact (mem_encode hmem).imp_right fun he => ⟨hp, he⟩
  · next hp =>
    rw [h, toList_encode, textLength, if_neg hp, Nat.sub_self, List.replicate_zero,
      List.append_nil] at hc
    exact Or.inl (mem_written hc)

end Spells

theorem not_malformed {text : String} {bytes : Bytes} (h : a.Spells text bytes) :
    ¬ a.Malformed text.toList := by
  intro hm
  generalize htext : text.toList = chars at hm
  cases hm with
  | foreign hmem hc hpadding =>
    rcases h.mem_symbols (htext ▸ hmem) with hs | ⟨hp, rfl⟩
    · exact hc hs
    · exact hpadding hp rfl
  | length hlen =>
    refine hlen ?_
    rw [← htext, String.length_toList]
    exact h.fits
  | block hb h0 hlen hblock =>
    obtain ⟨pieces, hpieces, hchunks⟩ := h.exists_pieces
    have hmem := mem_chunks_append (blockSymbols_pos a.family) hb h0 hlen
    rw [← htext, hchunks] at hmem
    obtain ⟨piece, hpiece, rfl⟩ := List.mem_map.1 hmem
    exact not_malformedBlock (hpieces piece hpiece) hblock

theorem exists_flaw_iff {text : String} : (∃ flaw, a.read text = .error (.undecodable flaw)) ↔
    ∀ bytes, ¬ a.Spells text bytes := by
  simp only [← decode_eq_ok_iff, read]
  cases a.decode text <;> simp [Except.mapError]

structure Reads (a : Alphabet) : Prop where
  accepts : ∀ text bytes, a.decode text = .ok bytes ↔ a.Spells text bytes
  refuses : ∀ text, (∃ flaw, a.read text = .error (.undecodable flaw)) ↔
    ∀ bytes, ¬ a.Spells text bytes
  malformed : ∀ text : String, a.Malformed text.toList →
    ∃ flaw, a.read text = .error (.undecodable flaw)

/-- Every alphabet reads its language and refuses everything else. -/
theorem decode_reads (a : Alphabet) : a.Reads where
  accepts _ _ := decode_eq_ok_iff
  refuses _ := exists_flaw_iff
  malformed _ hm := exists_flaw_iff.2 fun _ h => not_malformed h hm

/-- Padding may stand in the middle, where a piece ends. -/
example : base64.decode "Zm8=Zg==" = .ok [0x66, 0x6F, 0x66] := by cbv

end PasswordSeal.Alphabet
