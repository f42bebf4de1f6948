import PasswordSeal.Scheme
import PasswordSeal.Proofs.Mode.Cbc
import PasswordSeal.Proofs.Mode.Gcm

/-!
# The two ways to put blocks together

What a mode makes of a text is given by the mode, a block cipher and an initialization vector. Which
texts it takes and how long they get depends on their lengths alone: chained blocks take any text
and fill it up to whole blocks, counted blocks put a tag of sixteen bytes behind a text that is not
too long for them.
-/
namespace PasswordSeal.BlockMode

def encrypt? : BlockMode → BlockCipher → (iv text : Bytes) → Option Bytes
  | cbc, cipher, iv, text => some (Cbc.encrypt cipher iv text)
  | gcm, cipher, iv, text => Gcm.encrypt? cipher iv text

def decrypt? : BlockMode → BlockCipher → (iv text : Bytes) → Option Bytes
  | cbc => Cbc.decrypt?
  | gcm => Gcm.decrypt?

def Takes (m : BlockMode) (count : Nat) : Prop :=
  m = gcm → count ≤ Gcm.textLimit

instance decidableTakes (m : BlockMode) (count : Nat) : Decidable (m.Takes count) :=
  inferInstanceAs (Decidable (_ → _))

theorem not_takes_iff (m : BlockMode) {count : Nat} :
    ¬ m.Takes count ↔ m = gcm ∧ Gcm.textLimit < count := by
  rw [Takes, Classical.not_imp, Nat.not_le]

def sealedLength : BlockMode → Nat → Nat
  | cbc, count => 16 * (count / 16 + 1)
  | gcm, count => count + 16

theorem ivLength_injective {m n : BlockMode} (h : m.ivLength = n.ivLength) : m = n := by
  cases m <;> cases n <;> first | rfl | cases h

section
variable (m : BlockMode) (cipher : BlockCipher) (iv : Bytes) {text plain : Bytes}

theorem exists_encrypt? (h : m.Takes plain.length) :
    ∃ text, m.encrypt? cipher iv plain = some text ∧ text.length = m.sealedLength plain.length := by
  cases m with
  | cbc => exact ⟨_, rfl, Cbc.length_encrypt cipher iv plain⟩
  | gcm =>
    refine ⟨_, Gcm.encrypt?_eq_some_iff.2 ⟨h rfl, rfl⟩, ?_⟩
    rw [List.length_append, Gcm.length_cover, Gcm.length_tag, sealedLength]

theorem encrypt?_eq_none (h : ¬ m.Takes plain.length) : m.encrypt? cipher iv plain = none := by
  obtain ⟨rfl, hlong⟩ := m.not_takes_iff.1 h
  exact if_pos hlong

theorem encrypt?_cases (plain : Bytes) :
    (m.Takes plain.length ∧ ∃ text, m.encrypt? cipher iv plain = some text ∧
        text.length = m.sealedLength plain.length) ∨
      ¬ m.Takes plain.length ∧ m.encrypt? cipher iv plain = none := by
  by_cases ht : m.Takes plain.length
  · exact Or.inl ⟨ht, m.exists_encrypt? cipher iv ht⟩
  · exact Or.inr ⟨ht, m.encrypt?_eq_none cipher iv ht⟩

variable {cipher iv}

theorem length_of_encrypt? (h : m.encrypt? cipher iv plain = some text) :
    m.Takes plain.length ∧ text.length = m.sealedLength plain.length := by
  obtain ⟨ht, other, hother, hlength⟩ | ⟨-, hnone⟩ := m.encrypt?_cases cipher iv plain
  · obtain rfl := Option.some.inj (h.symm.trans hother)
    exact ⟨ht, hlength⟩
  · cases h.symm.trans hnone

theorem decrypt?_eq_some_iff (h : cipher.Permutes) :
    m.decrypt? cipher iv text = some plain ↔ m.encrypt? cipher iv plain = some text := by
  cases m with
  | cbc => exact (Cbc.decrypt?_iff_encrypt h).trans Option.some_inj.symm
  | gcm => exact Gcm.decrypt?_iff_encrypt?

end

end PasswordSeal.BlockMode
