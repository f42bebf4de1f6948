import PasswordSeal.Proofs.Alphabet.Language

/-!
# Texts that begin with a hyphen

Only one alphabet has a hyphen among its symbols. There it stands for 62, and a text begins with it
when the highest six bits of the first byte are 62.
-/
namespace PasswordSeal.Alphabet

def Dashes (a : Alphabet) (bytes : Bytes) : Prop :=
  a = .base64Url ∧ ∃ b ∈ bytes.head?, b.toNat / 4 = 62

theorem head?_blockDigits {b : UInt8} {rest : Bytes} (h : rest.length ≤ 2) :
    (blockDigits .base64 (b :: rest)).head? = some (b.toNat / 4) := by
  have hb := b.toNat_lt
  match rest with
  | [] =>
    have hdigits : blockDigits .base64 [b] = Numeral.digits 64 2 (b.toNat * 16) := by
      simp [blockDigits, digitCount, Family.bits, Numeral.ofBytes, Numeral.ofDigits]
    rw [hdigits, Numeral.head?_digits]
    exact congrArg some (by omega)
  | [c] =>
    have hc := c.toNat_lt
    have hdigits : blockDigits .base64 [b, c] =
        Numeral.digits 64 3 ((b.toNat * 256 + c.toNat) * 4) := by
      simp [blockDigits, digitCount, Family.bits, Numeral.ofBytes, Numeral.ofDigits]
    rw [hdigits, Numeral.head?_digits]
    exact congrArg some (by omega)
  | [c, d] =>
    have hc := c.toNat_lt
    have hd := d.toNat_lt
    have hdigits : blockDigits .base64 [b, c, d] =
        Numeral.digits 64 4 ((b.toNat * 256 + c.toNat) * 256 + d.toNat) := by
      simp [blockDigits, digitCount, Family.bits, Numeral.ofBytes, Numeral.ofDigits]
    rw [hdigits, Numeral.head?_digits]
    exact congrArg some (by omega)

theorem head?_written_url (b : UInt8) (rest : Bytes) :
    (base64Url.written (b :: rest)).head? = some (base64Url.symbol (b.toNat / 4)) := by
  have hfirst : (rest.take 2).length ≤ 2 := List.length_take_le 2 rest
  have hchunks : chunks 3 (b :: rest) = (b :: rest.take 2) :: chunks 3 (rest.drop 2) := by
    rw [chunks]
  have hwritten : base64Url.written (b :: rest) = (chunks 3 (b :: rest)).flatMap fun block =>
      (blockDigits .base64 block).map base64Url.symbol := rfl
  rw [hwritten, hchunks, List.flatMap_cons, List.head?_append, List.head?_map,
    head?_blockDigits hfirst, Option.map_some, Option.some_or]

theorem symbol_eq_hyphen {value : Nat} (h : value < 64) :
    base64Url.symbol value = '-' ↔ value = 62 := by
  have hhyphen : base64Url.symbol 62 = '-' := by rfl
  rw [← hhyphen]
  constructor
  · exact symbol_injective h (by decide)
  · exact congrArg _

theorem hyphen_not_mem {a : Alphabet} (h : a ≠ .base64Url) : '-' ∉ a.symbols.toList := by
  rw [symbols_toList]
  revert h
  cases a <;> decide

theorem head?_encode_iff (a : Alphabet) (bytes : Bytes) :
    (a.encode bytes).toList.head? = some '-' ↔ a.Dashes bytes := by
  by_cases ha : a = .base64Url
  · subst ha
    cases bytes with
    | nil => simp [Dashes, encode]
    | cons b rest =>
      have hb : b.toNat / 4 < 64 := by
        have := b.toNat_lt
        omega
      rw [toList_encode, List.head?_append, head?_written_url, Option.some_or,
        Option.some.injEq, symbol_eq_hyphen hb]
      simp [Dashes]
  · constructor
    · intro hhead
      rcases mem_encode (List.mem_of_mem_head? hhead) with hmem | heq
      · exact absurd hmem (hyphen_not_mem ha)
      · exact absurd heq (by decide)
    · rintro ⟨rfl, -⟩
      exact absurd rfl ha

end PasswordSeal.Alphabet
