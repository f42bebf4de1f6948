import PasswordSeal.Engine.Draft
import PasswordSeal.Proofs.Provider.Lookup
import PasswordSeal.Proofs.Settings.Settle

/-!
# The parts of an engine

Whichever providers are asked, building looks up a key derivation and a cipher, derives a key, finds
parameters to start from and binds the cipher to them. It succeeds exactly when each of these parts
can be had, and the engine is made of nothing else.
-/
namespace PasswordSeal

/-- What parameters are generated from. To encrypt, the cipher is to choose the vector itself. -/
def Plan.spec (plan : Plan) : ParameterSpec where
  salt := plan.cipherSalt
  iterations := plan.cipherIterations
  iv :=
    match plan.direction with
    | .encrypt => none
    | .decrypt => plan.iv

namespace Draft
variable {d : Draft} {draw : Draw} {plan : Plan} {e : Engine}

structure Parts where
  derivation : KeyDerivation
  key : Key
  cipher : Cipher
  start : Parameters
  binding : Binding

namespace Parts

structure Fit (a : Parts) (d : Draft) (plan : Plan) (draw : Draw) : Prop where
  derivation : d.registry.keyDerivation d.pin plan.keyAlgorithm = .ok a.derivation
  key : a.derivation.derive ⟨plan.password, plan.salt, plan.iterations, plan.keyBits⟩ = .ok a.key
  cipher : d.registry.cipher d.pin plan.transformation = .ok a.cipher
  start : d.startParameters plan = .ok a.start
  binding : a.cipher.bind draw plan.direction (a.key.rewrap plan.transformation) a.start =
    .ok a.binding

def engine (a : Parts) (plan : Plan) : Engine where
  transformation := a.cipher.transformation
  direction := plan.direction
  alphabet := plan.alphabet
  parameters := reported plan a.binding a.start
  binding := a.binding
  earlier := []

end Parts

theorem buildPlan_eq_ok_parts : d.buildPlan draw plan = .ok e ↔
    ∃ a : Parts, a.Fit d plan draw ∧ e = a.engine plan := by
  simp only [buildPlan, deriveKey, bind_eq_ok]
  constructor
  · rintro ⟨_, ⟨k, hk, raw, hraw, hkey⟩, c, hc, p, hp, b, hb, he⟩
    obtain rfl := Except.ok.inj hkey
    exact ⟨⟨k, raw, c, p, b⟩, ⟨hk, hraw, hc, hp, hb⟩, (Except.ok.inj he).symm⟩
  · rintro ⟨a, h, rfl⟩
    exact ⟨_, ⟨_, h.derivation, _, h.key, rfl⟩, _, h.cipher, _, h.start, _, h.binding, rfl⟩

theorem build_eq_ok_parts : d.build draw = .ok e ↔ ∃ plan, d.settings.Settles plan ∧
    ∃ a : Parts, a.Fit d plan draw ∧ e = a.engine plan := by
  simp only [build, bind_eq_ok, Settings.settle_eq_ok, buildPlan_eq_ok_parts]

theorem startParameters_eq_ok {p : Parameters} : d.startParameters plan = .ok p ↔
    (plan.direction = .decrypt ∧ plan.parameters = some p) ∨
      (plan.direction = .encrypt ∨ plan.parameters = none) ∧
        ∃ g, d.registry.generator d.pin plan.parametersAlgorithm = .ok g ∧
          g.generate plan.spec = .ok p := by
  rw [startParameters, Plan.spec]
  cases plan.direction with
  | encrypt => simp [generate, bind_eq_ok]
  | decrypt => cases plan.parameters <;> simp [generate, bind_eq_ok]

end Draft
end PasswordSeal
