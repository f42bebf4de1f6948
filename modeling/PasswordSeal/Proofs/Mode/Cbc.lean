import PasswordSeal.Mode.Cbc
import PasswordSeal.Proofs.Aes.Inverse

/-!
# Chained blocks are read back

Padding fills whole blocks and can be taken off again, whole blocks split and join without loss,
and the chain is undone block by block. So a text comes back under every cipher whose decryption
undoes its encryption. The other way round, whole blocks from which padding can be taken off are
the padded form of what is left, so nothing but the encryption of a text decrypts to it.
-/
namespace PasswordSeal

theorem Block.toBytes_ofBytes {bytes : Bytes} (h : bytes.length = 16) :
    (ofBytes bytes).toBytes = bytes := by
  match bytes, h with
  | [_, _, _, _, _, _, _, _, _, _, _, _, _, _, _, _], _ => rfl

theorem Block.join_split {bytes : Bytes} (h : bytes.length % 16 = 0) :
    join (split bytes) = bytes := by
  induction bytes using chunks_cases 16 (by decide) with
  | nil => simp [split, join]
  | short bytes hne hlt =>
    have hpos := List.length_pos_iff.2 hne
    omega
  | whole block rest hb ih =>
    rw [List.length_append, hb, Nat.add_mod_left] at h
    have hrest := ih h
    simp only [split, join] at hrest ⊢
    rw [chunks_append (by decide) hb, List.map_cons, List.flatMap_cons, toBytes_ofBytes hb, hrest]

namespace Cbc

theorem length_pad (text : Bytes) : (pad text).length = 16 * (text.length / 16 + 1) := by
  simp only [pad, List.length_append, List.length_replicate]
  omega

/-- What stands behind the text is the number of bytes that are added, that many times. -/
def Padded (text padded : Bytes) : Prop :=
  ∃ count, 1 ≤ count ∧ count ≤ 16 ∧ padded = text ++ List.replicate count count.toUInt8

theorem unpad?_eq_some_iff {padded text : Bytes} :
    unpad? padded = some text ↔ Padded text padded := by
  constructor
  · intro h
    rw [unpad?] at h
    cases hlast : padded.getLast? with
    | none =>
      rw [hlast] at h
      cases h
    | some last =>
      rw [hlast] at h
      dsimp only at h
      split at h
      · next hpadding =>
        obtain ⟨hpos, hle, -, hdrop⟩ := hpadding
        obtain rfl := Option.some.inj h
        have hbyte : last.toNat.toUInt8 = last := UInt8.ofNat_toNat
        refine ⟨last.toNat, hpos, hle, ?_⟩
        rw [hbyte, ← hdrop, List.take_append_drop]
      · cases h
  · rintro ⟨count, hpos, hle, rfl⟩
    have hlt : count < 256 := by omega
    have hnat : count.toUInt8.toNat = count := UInt8.toNat_ofNat_of_lt' hlt
    have hlast : (text ++ List.replicate count count.toUInt8).getLast? = some count.toUInt8 := by
      rw [List.getLast?_append, List.getLast?_replicate, if_neg (by omega), Option.some_or]
    have hlen : (text ++ List.replicate count count.toUInt8).length = text.length + count := by
      rw [List.length_append, List.length_replicate]
    rw [unpad?, hlast]
    dsimp only
    rw [hnat, hlen, Nat.add_sub_cancel, List.drop_left, List.take_left]
    exact if_pos ⟨hpos, hle, Nat.le_add_left _ _, rfl⟩

theorem padded_iff_eq_pad {padded text : Bytes} (hwhole : padded.length % 16 = 0) :
    Padded text padded ↔ padded = pad text := by
  constructor
  · rintro ⟨count, hpos, hle, rfl⟩
    rw [List.length_append, List.length_replicate] at hwhole
    have hcount : 16 - text.length % 16 = count := by omega
    rw [pad, hcount]
  · rintro rfl
    exact ⟨16 - text.length % 16, by omega, by omega, rfl⟩

theorem decryptBlocks_encryptBlocks {cipher : BlockCipher} (h : cipher.Permutes) (before : Block)
    (blocks : List Block) :
    decryptBlocks cipher.decrypt before (encryptBlocks cipher.encrypt before blocks) = blocks := by
  induction blocks generalizing before with
  | nil => rfl
  | cons x rest ih =>
    rw [encryptBlocks, decryptBlocks, h.decrypt_encrypt, Block.xor_xor, ih]

theorem encryptBlocks_decryptBlocks {cipher : BlockCipher} (h : cipher.Permutes) (before : Block)
    (blocks : List Block) :
    encryptBlocks cipher.encrypt before (decryptBlocks cipher.decrypt before blocks) = blocks := by
  induction blocks generalizing before with
  | nil => rfl
  | cons y rest ih => rw [decryptBlocks, encryptBlocks, Block.xor_xor, h.encrypt_decrypt, ih]

theorem length_join (blocks : List Block) : (Block.join blocks).length = 16 * blocks.length := by
  induction blocks with
  | nil => rfl
  | cons x rest ih =>
    rw [Block.join, List.flatMap_cons, List.length_append, Block.length_toBytes, List.length_cons]
    rw [Block.join] at ih
    omega

theorem join_split_pad (text : Bytes) : Block.join (Block.split (pad text)) = pad text := by
  apply Block.join_split
  rw [length_pad, Nat.mul_mod_right]

theorem length_split_pad (text : Bytes) :
    (Block.split (pad text)).length = text.length / 16 + 1 := by
  have hlen := congrArg List.length (join_split_pad text)
  rw [length_join, length_pad] at hlen
  omega

theorem length_encryptBlocks (encrypt : Block → Block) (before : Block) (blocks : List Block) :
    (encryptBlocks encrypt before blocks).length = blocks.length := by
  induction blocks generalizing before with
  | nil => rfl
  | cons x rest ih => rw [encryptBlocks, List.length_cons, ih, List.length_cons]

theorem length_encrypt (cipher : BlockCipher) (iv text : Bytes) :
    (encrypt cipher iv text).length = 16 * (text.length / 16 + 1) := by
  rw [encrypt, length_join, length_encryptBlocks, length_split_pad]

theorem decrypt?_eq_some_iff {cipher : BlockCipher} {iv input text : Bytes} :
    decrypt? cipher iv input = some text ↔ input.length % 16 = 0 ∧ Padded text
      (Block.join (decryptBlocks cipher.decrypt (.ofBytes iv) (Block.split input))) := by
  rw [decrypt?]
  split
  · next hwhole => rw [unpad?_eq_some_iff, and_iff_right hwhole]
  · next hwhole => simp [hwhole]

theorem decrypt?_iff_encrypt {cipher : BlockCipher} (h : cipher.Permutes) {iv input text : Bytes} :
    decrypt? cipher iv input = some text ↔ encrypt cipher iv text = input := by
  have hjoined (blocks : List Block) : (Block.join blocks).length % 16 = 0 := by
    rw [length_join, Nat.mul_mod_right]
  rw [decrypt?_eq_some_iff, padded_iff_eq_pad (hjoined _)]
  constructor
  · rintro ⟨hwhole, hpad⟩
    rw [encrypt, ← hpad, Block.split_join, encryptBlocks_decryptBlocks h, Block.join_split hwhole]
  · rintro rfl
    refine ⟨hjoined _, ?_⟩
    rw [encrypt, Block.split_join, decryptBlocks_encryptBlocks h, join_split_pad]

/-- The vector goes into the first block, and padding sees to it that there is one. So a text is not
encrypted alike with two vectors. -/
theorem iv_eq_of_encrypt {cipher : BlockCipher} (h : Function.Injective cipher.encrypt)
    {v w text : Bytes} (hv : v.length = 16) (hw : w.length = 16)
    (he : encrypt cipher v text = encrypt cipher w text) : v = w := by
  have hblocks := congrArg Block.split he
  rw [encrypt, encrypt, Block.split_join, Block.split_join] at hblocks
  cases hsplit : Block.split (pad text) with
  | nil =>
    have hpos := length_split_pad text
    rw [hsplit] at hpos
    cases hpos
  | cons x rest =>
    rw [hsplit, encryptBlocks, encryptBlocks] at hblocks
    have hfirst := Block.xor_left_cancel (h (List.cons.inj hblocks).1)
    rw [← Block.toBytes_ofBytes hv, hfirst, Block.toBytes_ofBytes hw]

end Cbc
end PasswordSeal
