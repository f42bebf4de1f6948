import PasswordSeal.Proofs.Except
import PasswordSeal.Settings.Basic

/-!
# Settled settings

The plan of some settings, field by field: four values that must be there, an initialization vector
that must be readable, and the values that default to each other.
-/
namespace PasswordSeal.Settings
variable {s : Settings} {plan : Plan}

structure Settles (s : Settings) (plan : Plan) : Prop where
  iterations : s.iterations = some plan.iterations
  salt : s.salt.filter (· ≠ []) = some plan.salt
  password : s.password.filter (· ≠ "") = some plan.password
  direction : s.direction = some plan.direction
  iv : s.settleIv = .ok plan.iv
  keyAlgorithm : s.keyAlgorithm.getD defaultKeyAlgorithm = plan.keyAlgorithm
  transformation : s.transformation.getD plan.keyAlgorithm = plan.transformation
  parametersAlgorithm : s.parametersAlgorithm.getD plan.keyAlgorithm = plan.parametersAlgorithm
  keyBits : s.keyBits.filter (· ≠ 0) = plan.keyBits
  cipherIterations : s.cipherIterations.getD plan.iterations = plan.cipherIterations
  cipherSalt : s.cipherSalt.getD plan.salt = plan.cipherSalt
  alphabet : s.alphabet = plan.alphabet
  parameters : s.parameters = plan.parameters

theorem require_eq_ok {α : Type} {missing : Requirement} {x : Option α} {value : α} :
    require missing x = .ok value ↔ x = some value := by
  cases x <;> simp [require]

theorem settle_eq_ok : s.settle = .ok plan ↔ s.Settles plan := by
  simp only [settle, bind_eq_ok, require_eq_ok]
  constructor
  · rintro ⟨iterations, hi, salt, hs, password, hp, direction, hd, iv, hiv, hplan⟩
    obtain rfl := Except.ok.inj hplan
    exact ⟨hi, hs, hp, hd, hiv, rfl, rfl, rfl, rfl, rfl, rfl, rfl, rfl⟩
  · intro h
    refine ⟨_, h.iterations, _, h.salt, _, h.password, _, h.direction, _, h.iv, ?_⟩
    simp only [h.keyAlgorithm, h.transformation, h.parametersAlgorithm, h.keyBits,
      h.cipherIterations, h.cipherSalt, h.alphabet, h.parameters]
    rfl

end PasswordSeal.Settings
