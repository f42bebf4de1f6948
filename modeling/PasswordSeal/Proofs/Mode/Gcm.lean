import PasswordSeal.Mode.Gcm

/-!
# Counted blocks are read back

Adding the stream twice cancels, whatever the length of the last piece, and the tag is computed
over the same covered text in both directions. So a text comes back under every block function, and
nothing but the encryption of a text decrypts to it.
-/
namespace PasswordSeal.Gcm

section
variable (encrypt : Block → Block) (iv : Bytes)

theorem length_xor_block {piece : Bytes} (h : piece.length ≤ 16) (x : Block) :
    (piece.xor x.toBytes).length = piece.length := by
  rw [Bytes.length_xor, Block.length_toBytes]
  omega

theorem length_stream (number : Nat) (text : Bytes) :
    (stream encrypt iv number (chunks 16 text)).length = text.length := by
  induction text using chunks_cases 16 (by decide) generalizing number with
  | nil => simp [stream]
  | short text hne hlt =>
    rw [chunks_short hne (Nat.le_of_lt hlt), stream, stream, List.append_nil,
      length_xor_block (Nat.le_of_lt hlt)]
  | whole block rest hb ih =>
    rw [chunks_append (by decide) hb, stream, List.length_append,
      length_xor_block (Nat.le_of_eq hb), ih, List.length_append]

theorem stream_stream (number : Nat) (text : Bytes) :
    stream encrypt iv number (chunks 16 (stream encrypt iv number (chunks 16 text))) = text := by
  induction text using chunks_cases 16 (by decide) generalizing number with
  | nil => simp [stream]
  | short text hne hlt =>
    have hx := length_xor_block (Nat.le_of_lt hlt) (encrypt (counter iv number))
    have hxne : Bytes.xor text (encrypt (counter iv number)).toBytes ≠ [] := by
      rw [← List.length_pos_iff, hx]
      exact List.length_pos_iff.2 hne
    have hblock : text.length ≤ (encrypt (counter iv number)).toBytes.length := by
      rw [Block.length_toBytes]
      omega
    rw [chunks_short hne (Nat.le_of_lt hlt), stream, stream, List.append_nil,
      chunks_short hxne (by omega), stream, stream, List.append_nil, Bytes.xor_xor_cancel hblock]
  | whole block rest hb ih =>
    have hx := length_xor_block (Nat.le_of_eq hb) (encrypt (counter iv number))
    rw [chunks_append (by decide) hb, stream, chunks_append (by decide) (hx.trans hb), stream,
      Bytes.xor_xor_cancel (Nat.le_of_eq hb), ih]

@[simp] theorem length_cover (text : Bytes) : (cover encrypt iv text).length = text.length :=
  length_stream encrypt iv 2 text

@[simp] theorem cover_cover (text : Bytes) : cover encrypt iv (cover encrypt iv text) = text :=
  stream_stream encrypt iv 2 text

@[simp] theorem length_tag (text : Bytes) : (tag encrypt iv text).length = 16 := by
  rw [tag, Bytes.length_xor, Element.length_toBytes, Block.length_toBytes, Nat.min_self]

end

section
variable {cipher : BlockCipher} {iv input text : Bytes}

theorem encrypt?_eq_some_iff : encrypt? cipher iv text = some input ↔
    text.length ≤ textLimit ∧ input = cover cipher.encrypt iv text ++
      tag cipher.encrypt iv (cover cipher.encrypt iv text) := by
  rw [encrypt?]
  split
  · next hlong => simp [Nat.not_le.2 hlong]
  · next hlong => simp [Nat.not_lt.1 hlong, eq_comm]

theorem decrypt?_eq_some_iff : decrypt? cipher iv input = some text ↔
    ∃ covered, covered.length ≤ textLimit ∧ input = covered ++ tag cipher.encrypt iv covered ∧
      cover cipher.encrypt iv covered = text := by
  constructor
  · intro hd
    rw [decrypt?] at hd
    dsimp only at hd
    split at hd
    · cases hd
    · next hlength =>
      split at hd
      · next htag =>
        refine ⟨input.take (input.length - 16), ?_, ?_, Option.some.inj hd⟩
        · rw [List.length_take]
          omega
        · rw [← htag, List.take_append_drop]
      · cases hd
  · rintro ⟨covered, hshort, rfl, rfl⟩
    have hlen : (covered ++ tag cipher.encrypt iv covered).length = covered.length + 16 := by
      rw [List.length_append, length_tag]
    rw [decrypt?, if_neg (by omega), hlen, Nat.add_sub_cancel]
    simp only [List.take_left, List.drop_left, if_true]

/-- Decryption undoes encryption, and nothing else, under every block function. -/
theorem decrypt?_iff_encrypt? :
    decrypt? cipher iv input = some text ↔ encrypt? cipher iv text = some input := by
  rw [decrypt?_eq_some_iff, encrypt?_eq_some_iff]
  constructor
  · rintro ⟨covered, hshort, rfl, rfl⟩
    rw [length_cover, cover_cover]
    exact ⟨hshort, rfl⟩
  · rintro ⟨hshort, rfl⟩
    refine ⟨cover cipher.encrypt iv text, ?_, rfl, cover_cover _ _ _⟩
    rw [length_cover]
    exact hshort

theorem eq_tag_of_encrypt? {covered ending : Bytes}
    (h : encrypt? cipher iv text = some (covered ++ ending)) (hl : ending.length = 16) :
    ending = tag cipher.encrypt iv covered := by
  obtain ⟨-, hsealed⟩ := encrypt?_eq_some_iff.1 h
  obtain ⟨hcovered, htag⟩ := List.append_inj' hsealed (hl.trans (length_tag _ _ _).symm)
  rw [htag, hcovered]

end

end PasswordSeal.Gcm
