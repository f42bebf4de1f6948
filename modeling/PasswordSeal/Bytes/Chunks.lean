/-!
# Cutting a list into chunks

`chunks size` cuts a list into pieces of `size`, of which only the last may be shorter.
-/
namespace PasswordSeal

/-- The pieces of `size`, or of one when `size` is zero, with a shorter one at the end. -/
def chunks {α : Type} (size : Nat) (xs : List α) : List (List α) :=
  match xs with
  | [] => []
  | x :: rest => (x :: rest.take (size - 1)) :: chunks size (rest.drop (size - 1))
  termination_by xs.length
  decreasing_by simp only [List.length_drop, List.length_cons]; omega

@[simp] theorem chunks_nil {α : Type} (size : Nat) : chunks size ([] : List α) = [] := by
  rw [chunks]

theorem chunks_append {α : Type} {size : Nat} (h : 0 < size) {block : List α}
    (hb : block.length = size) (rest : List α) :
    chunks size (block ++ rest) = block :: chunks size rest := by
  match block, hb with
  | [], hb => simp at hb; omega
  | x :: xs, hb =>
    have hl : xs.length = size - 1 := by simp at hb; omega
    rw [List.cons_append, chunks, ← hl, List.take_left, List.drop_left]

theorem flatten_chunks {α : Type} (size : Nat) (xs : List α) : (chunks size xs).flatten = xs := by
  fun_induction chunks size xs with
  | case1 => rfl
  | case2 x rest ih => rw [List.flatten_cons, ih, List.cons_append, List.take_append_drop]

theorem chunks_short {α : Type} {size : Nat} {xs : List α} (h : xs ≠ [])
    (hs : xs.length ≤ size) : chunks size xs = [xs] := by
  match xs, h with
  | x :: rest, _ =>
    have hl : rest.length ≤ size - 1 := by simp at hs; omega
    rw [chunks, List.take_of_length_le hl, List.drop_of_length_le hl, chunks_nil]

theorem chunks_cases {α : Type} (size : Nat) (hs : 0 < size) {p : List α → Prop} (nil : p [])
    (short : ∀ xs, xs ≠ [] → xs.length < size → p xs)
    (whole : ∀ block rest, block.length = size → p rest → p (block ++ rest)) (xs : List α) :
    p xs := by
  by_cases h0 : xs = []
  · rw [h0]
    exact nil
  · by_cases h : xs.length < size
    · exact short xs h0 h
    · rw [← List.take_append_drop size xs]
      refine whole _ _ (by rw [List.length_take]; omega) ?_
      exact chunks_cases size hs nil short whole (xs.drop size)
  termination_by xs.length
  decreasing_by rw [List.length_drop]; omega

theorem chunks_flatten {α : Type} {size : Nat} (hs : 0 < size) {blocks : List (List α)}
    (h : ∀ block ∈ blocks, block.length = size) : chunks size blocks.flatten = blocks := by
  induction blocks with
  | nil => exact chunks_nil size
  | cons block blocks ih =>
    have hblock := h block List.mem_cons_self
    have hblocks := ih fun b hb => h b (List.mem_cons_of_mem _ hb)
    rw [List.flatten_cons, chunks_append hs hblock, hblocks]

theorem chunks_flatMap {α β : Type} {size size' : Nat} (hs : 0 < size) (hs' : 0 < size')
    {f : List α → List β} (hwhole : ∀ block, block.length = size → (f block).length = size')
    (hshort : ∀ block, block ≠ [] → block.length < size →
      f block ≠ [] ∧ (f block).length ≤ size') (xs : List α) :
    chunks size' ((chunks size xs).flatMap f) = (chunks size xs).map f := by
  induction xs using chunks_cases size hs with
  | nil => simp
  | short xs hne hlt =>
    obtain ⟨hf, hle⟩ := hshort xs hne hlt
    rw [chunks_short hne (Nat.le_of_lt hlt), List.flatMap_singleton, List.map_singleton,
      chunks_short hf hle]
  | whole block rest hb ih =>
    rw [chunks_append hs hb, List.flatMap_cons, chunks_append hs' (hwhole block hb), ih,
      List.map_cons]

theorem mem_chunks_append {α : Type} {size : Nat} (hs : 0 < size) {before block rest : List α}
    (hb : before.length % size = 0) (h0 : block ≠ [])
    (h : block.length = size ∨ rest = [] ∧ block.length ≤ size) :
    block ∈ chunks size (before ++ (block ++ rest)) := by
  induction before using chunks_cases size hs with
  | nil =>
    rw [List.nil_append]
    rcases h with h | ⟨rfl, h⟩
    · rw [chunks_append hs h]
      exact List.mem_cons_self
    · rw [List.append_nil, chunks_short h0 h]
      exact List.mem_cons_self
  | short before hne hlt =>
    have hpos := List.length_pos_iff.2 hne
    rw [Nat.mod_eq_of_lt hlt] at hb
    omega
  | whole first others hf ih =>
    rw [List.length_append, hf, Nat.add_mod_left] at hb
    rw [List.append_assoc, chunks_append hs hf]
    exact List.mem_cons_of_mem _ (ih hb)

theorem length_of_mem_chunks {α : Type} {size : Nat} (hs : 0 < size) {xs block : List α}
    (h : block ∈ chunks size xs) : 0 < block.length ∧ block.length ≤ size := by
  induction xs using chunks_cases size hs with
  | nil => simp at h
  | short xs hne hl =>
    rw [chunks_short hne (by omega), List.mem_singleton] at h
    subst h
    exact ⟨List.length_pos_iff.2 hne, by omega⟩
  | whole first rest hf ih =>
    rw [chunks_append hs hf, List.mem_cons] at h
    rcases h with rfl | h
    · omega
    · exact ih h

theorem length_chunks {α : Type} {size : Nat} (hs : 0 < size) (xs : List α) :
    (chunks size xs).length = (xs.length + size - 1) / size := by
  induction xs using chunks_cases size hs with
  | nil =>
    rw [chunks_nil, List.length_nil, List.length_nil, Nat.div_eq_of_lt (by omega)]
  | short xs h hl =>
    have hpos := List.length_pos_iff.2 h
    rw [chunks_short h (by omega), List.length_singleton,
      show xs.length + size - 1 = xs.length - 1 + size by omega, Nat.add_div_right _ hs,
      Nat.div_eq_of_lt (by omega)]
  | whole block rest hb ih =>
    rw [chunks_append hs hb, List.length_cons, ih, List.length_append, hb,
      show size + rest.length + size - 1 = rest.length + size - 1 + size by omega,
      Nat.add_div_right _ hs]

end PasswordSeal
