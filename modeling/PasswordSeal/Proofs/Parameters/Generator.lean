import PasswordSeal.Proofs.Cipher.Bind
import PasswordSeal.Provider.Basic

/-!
# What parameters have to be like

The generator of a scheme checks parameters before there is a key, and its cipher checks them again
when it is bound. The generator looks at salt, iterations and vector, and at nothing else; the
cipher leaves salt and iterations to its key derivation and asks for a vector only to decrypt. Both
want the same, so whatever was generated can be bound, and the cipher reports it with the vector in
effect.
-/
namespace PasswordSeal

theorem ParameterGenerator.generate_eq_ok {s : Scheme} {spec : ParameterSpec} {p : Parameters} :
    (ofScheme s).generate spec = .ok p ↔ spec.salt ≠ [] ∧ spec.iterations ≠ 0 ∧
      (∀ iv, spec.iv = some iv → iv.length = s.mode.ivLength) ∧ p = spec.named s.name := by
  rw [ofScheme]
  dsimp only
  split
  · next h => simp [h]
  · next hs =>
    split
    · next h => simp [h]
    · next hi =>
      cases hv : spec.iv with
      | none => simp [hs, hi, eq_comm]
      | some iv =>
        by_cases hl : iv.length = s.mode.ivLength <;> simp [hs, hi, hl, eq_comm]

namespace Scheme
variable {s : Scheme} {spec : ParameterSpec} {draw : Draw} {direction : Direction} {key : Key}
variable {p : Parameters} {binding : Binding}

def Wants (s : Scheme) (spec : ParameterSpec) : Prop :=
  spec.salt ≠ [] ∧ spec.iterations ≠ 0 ∧ ∀ iv, spec.iv = some iv → iv.length = s.mode.ivLength

theorem exists_generate_iff :
    (∃ p, (ParameterGenerator.ofScheme s).generate spec = .ok p) ↔ s.Wants spec := by
  simp only [ParameterGenerator.generate_eq_ok, Wants, exists_and_left, exists_eq, and_true]

theorem suitsIv_iff {iv : Option Bytes} : s.SuitsIv direction iv ↔
    (∀ bytes, iv = some bytes → bytes.length = s.mode.ivLength) ∧
      (direction = .decrypt → iv ≠ none) := by
  cases iv with
  | some bytes => simp [SuitsIv]
  | none => cases direction <;> simp [SuitsIv]

theorem exists_cipher_bind_iff (hkey : key.material ≠ []) (name : String) :
    (∃ binding, s.cipher.bind draw direction key (spec.named name) = .ok binding) ↔
      s.Wants spec ∧ (direction = .decrypt → spec.iv ≠ none) := by
  have hgrants : s.Grants direction key (spec.named name) ↔
      s.Wants spec ∧ (direction = .decrypt → spec.iv ≠ none) := by
    simp only [Grants, ParameterSpec.named, suitsIv_iff, Wants]
    tauto
  rw [cipher_bind_eq_ite, ← hgrants]
  split
  · next h => simp [h]
  · next h => simp [h]

theorem parameters_of_cipher_bind (h : s.cipher.bind draw direction key p = .ok binding) :
    binding.parameters = some (p.withIv (s.ivInEffect draw p)) ∧
      (s.ivInEffect draw p).length = s.mode.ivLength := by
  rw [cipher_bind_eq_ite] at h
  split at h
  · next hgrants =>
    obtain rfl := Except.ok.inj h
    exact ⟨rfl, length_ivInEffect hgrants.2.1 draw⟩
  · cases h

/-- The generator and the cipher of a scheme accept the same parameters, and neither of them changes
what it accepts but for a vector that is drawn. -/
structure AgreesWithGenerator (s : Scheme) (generator : ParameterGenerator) : Prop where
  wants : ∀ spec, (∃ p, generator.generate spec = .ok p) ↔ s.Wants spec
  encrypts : ∀ spec name draw (key : Key), key.material ≠ [] →
    ((∃ p, generator.generate spec = .ok p) ↔
      ∃ binding, s.cipher.bind draw .encrypt key (spec.named name) = .ok binding)
  decrypts : ∀ spec name draw (key : Key), key.material ≠ [] →
    ((∃ p, generator.generate spec = .ok p) ∧ spec.iv ≠ none ↔
      ∃ binding, s.cipher.bind draw .decrypt key (spec.named name) = .ok binding)
  keeps : ∀ spec p, generator.generate spec = .ok p → p.toParameterSpec = spec
  reports : ∀ draw direction key p binding, s.cipher.bind draw direction key p = .ok binding →
    (p.iv ≠ none → binding.parameters = some p) ∧
      (p.iv = none → ∃ iv, iv.length = s.mode.ivLength ∧ binding.parameters = some (p.withIv iv))

theorem agreesWithGenerator (s : Scheme) :
    s.AgreesWithGenerator (ParameterGenerator.ofScheme s) where
  wants spec := exists_generate_iff
  encrypts spec name draw key hkey := by
    rw [exists_generate_iff, exists_cipher_bind_iff hkey]
    simp only [reduceCtorEq, false_implies, and_true]
  decrypts spec name draw key hkey := by
    rw [exists_generate_iff, exists_cipher_bind_iff hkey]
    simp only [true_implies]
  keeps spec p h := by
    obtain ⟨-, -, -, rfl⟩ := ParameterGenerator.generate_eq_ok.1 h
    rfl
  reports draw direction key p binding h := by
    obtain ⟨hreported, hlength⟩ := parameters_of_cipher_bind h
    constructor
    · intro hgiven
      obtain ⟨iv, hiv⟩ := Option.ne_none_iff_exists'.1 hgiven
      rw [hreported, ivInEffect, hiv, Option.getD_some, Parameters.withIv, ← hiv]
    · intro _
      exact ⟨_, hlength, hreported⟩

end Scheme
end PasswordSeal
