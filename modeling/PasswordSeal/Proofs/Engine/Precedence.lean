import PasswordSeal.Proofs.Engine.Assembly
import PasswordSeal.Proofs.Engine.Parts

/-!
# Earlier providers come first

Building looks up three algorithms, and each of them comes from the first provider that knows it. As
long as none of them is missing, providers that are added later are never asked, so they change
neither what is built nor how a build fails. With a pin the registry is not looked at.
-/
namespace PasswordSeal
variable {α β : Type} {x y : Except Fault α}

/-- The second outcome is the first one, unless that is a missing algorithm. -/
def Kept (x y : Except Fault α) : Prop :=
  (∀ service name, x ≠ .error (.unavailable service name)) → y = x

theorem Kept.refl (x : Except Fault α) : Kept x x :=
  fun _ => rfl

theorem Kept.bind {f g : α → Except Fault β} (h : Kept x y)
    (hf : ∀ a, x = .ok a → Kept (f a) (g a)) : Kept (x >>= f) (y >>= g) := by
  intro hx
  cases x with
  | error fault =>
    have hsame : y = .error fault := by
      apply h
      rintro service name ⟨⟩
      exact hx service name rfl
    rw [hsame]
    rfl
  | ok a =>
    obtain rfl : y = .ok a := h (by simp)
    exact hf a rfl hx

namespace Registry
variable {r : Registry}

theorem kept_lookup (r : Registry) (further : List Provider) (service : Service) (name : String)
    (offer : Provider → Option α) : Kept (r.lookup none service name offer)
      ((r.addAll further).lookup none service name offer) := by
  intro hx
  cases hfound : r.lookup none service name offer with
  | ok a => exact lookup_addAll hfound further
  | error fault =>
    obtain ⟨-, rfl⟩ := lookup_eq_error.1 hfound
    exact absurd hfound (hx service name)

end Registry

namespace Draft
variable {plan : Plan} {draw : Draw}

section
variable (settings : Settings) (r : Registry) (further : List Provider)

theorem kept_deriveKey (plan : Plan) : Kept (deriveKey ⟨settings, r, none⟩ plan)
    (deriveKey ⟨settings, r.addAll further, none⟩ plan) := by
  apply Kept.bind
  · exact r.kept_lookup further _ _ _
  · intro derivation _
    exact Kept.refl _

theorem kept_generate (plan : Plan) (iv : Option Bytes) :
    Kept (generate ⟨settings, r, none⟩ plan iv)
      (generate ⟨settings, r.addAll further, none⟩ plan iv) := by
  apply Kept.bind
  · exact r.kept_lookup further _ _ _
  · intro generator _
    exact Kept.refl _

theorem kept_startParameters (plan : Plan) : Kept (startParameters ⟨settings, r, none⟩ plan)
    (startParameters ⟨settings, r.addAll further, none⟩ plan) := by
  rw [startParameters, startParameters]
  cases plan.direction with
  | encrypt => exact kept_generate settings r further plan none
  | decrypt =>
    cases plan.parameters with
    | some p => exact Kept.refl _
    | none => exact kept_generate settings r further plan plan.iv

theorem kept_build (draw : Draw) : Kept (build ⟨settings, r, none⟩ draw)
    (build ⟨settings, r.addAll further, none⟩ draw) := by
  -- The settings know no providers. Each later stage is kept, given what those before it came to.
  apply Kept.bind (Kept.refl _)
  intro plan _
  apply Kept.bind (kept_deriveKey settings r further plan)
  intro key _
  apply Kept.bind
  · exact r.kept_lookup further _ _ _
  · intro cipher _
    apply Kept.bind (kept_startParameters settings r further plan)
    intro p _
    exact Kept.refl _

end

theorem build_pinned (settings : Settings) (p : Provider) (r r' : Registry) (draw : Draw) :
    build ⟨settings, r, some p⟩ draw = build ⟨settings, r', some p⟩ draw := rfl

structure Parts.FromFirst (a : Parts) (r : Registry) (plan : Plan) (draw : Draw) : Prop where
  derivation : r.FirstOffers (·.keyDerivation? plan.keyAlgorithm) a.derivation
  key : a.derivation.derive ⟨plan.password, plan.salt, plan.iterations, plan.keyBits⟩ = .ok a.key
  cipher : r.FirstOffers (·.cipher? plan.transformation) a.cipher
  start : (plan.direction = .decrypt ∧ plan.parameters = some a.start) ∨
    (plan.direction = .encrypt ∨ plan.parameters = none) ∧
      ∃ g, r.FirstOffers (·.generator? plan.parametersAlgorithm) g ∧
        g.generate plan.spec = .ok a.start
  binding : a.cipher.bind draw plan.direction (a.key.rewrap plan.transformation) a.start =
    .ok a.binding

theorem Parts.fit_iff_fromFirst {a : Parts} {settings : Settings} {r : Registry} :
    a.Fit ⟨settings, r, none⟩ plan draw ↔ a.FromFirst r plan draw := by
  have hgenerator (g : ParameterGenerator) :
      r.generator none plan.parametersAlgorithm = .ok g ↔
        r.FirstOffers (·.generator? plan.parametersAlgorithm) g := Registry.lookup_eq_ok
  constructor
  · intro h
    have hstart := startParameters_eq_ok.1 h.start
    simp only [hgenerator] at hstart
    exact ⟨Registry.lookup_eq_ok.1 h.derivation, h.key, Registry.lookup_eq_ok.1 h.cipher, hstart,
      h.binding⟩
  · intro h
    have hstart := h.start
    simp only [← hgenerator] at hstart
    exact ⟨Registry.lookup_eq_ok.2 h.derivation, h.key, Registry.lookup_eq_ok.2 h.cipher,
      startParameters_eq_ok.2 hstart, h.binding⟩

end Draft

namespace Registry

/-- Providers are kept in the order in which they are added. Neither those behind the providers of
the registry nor, with a pin, these themselves bear on what is built. -/
structure Stable (r : Registry) : Prop where
  added : ∀ p, (r.add p).providers = r.providers ++ [p]
  addedAll : ∀ further, (r.addAll further).providers = r.providers ++ further
  pinned : ∀ settings p (r' : Registry) draw, Draft.build ⟨settings, r, some p⟩ draw =
    Draft.build ⟨settings, r', some p⟩ draw
  extended : ∀ settings further draw,
    (∀ service name, Draft.build ⟨settings, r, none⟩ draw ≠
      .error (.unavailable service name)) →
    Draft.build ⟨settings, r.addAll further, none⟩ draw = Draft.build ⟨settings, r, none⟩ draw
  keyDerivation : ∀ name, r.FromFirst .keyDerivation name (·.keyDerivation? name)
    (r.keyDerivation none name)
  cipher : ∀ name, r.FromFirst .cipher name (·.cipher? name) (r.cipher none name)
  generator : ∀ name, r.FromFirst .parameters name (·.generator? name) (r.generator none name)
  built : ∀ settings draw e, Draft.build ⟨settings, r, none⟩ draw = .ok e ↔
    ∃ plan, settings.settle = .ok plan ∧
      ∃ a : Draft.Parts, a.FromFirst r plan draw ∧ e = a.engine plan
  provider : ∀ name p, r.provider name = .ok p ↔
    ∃ before after, r.providers = before ++ p :: after ∧ p.name = name ∧
      ∀ earlier ∈ before, earlier.name ≠ name
  unknown : ∀ name fault, r.provider name = .error fault ↔
    (∀ p ∈ r.providers, p.name ≠ name) ∧ fault = .unknownProvider name

theorem stable (r : Registry) : r.Stable where
  added _ := rfl
  addedAll further := r.providers_addAll further
  pinned settings p r' draw := Draft.build_pinned settings p r r' draw
  extended settings further draw h := Draft.kept_build settings r further draw h
  keyDerivation name := r.fromFirst_lookup _ name _
  cipher name := r.fromFirst_lookup _ name _
  generator name := r.fromFirst_lookup _ name _
  built settings draw e := by
    simp only [Draft.build_eq_ok_parts, Draft.Parts.fit_iff_fromFirst, Settings.settle_eq_ok]
  provider name p := provider_eq_ok
  unknown name fault := provider_eq_error

def Sample.impostor : Provider where
  name := "RustCrypto"
  keyDerivation? _ := some .argon2id
  cipher? _ := some (Scheme.cipher ⟨.sha1, 16, .cbc⟩)
  generator? _ := some (.ofScheme ⟨.sha1, 16, .cbc⟩)
  algorithms := []

theorem stable_impostor :
    (∀ service name, Draft.build ⟨(Draft.Sample.draft .cbc).settings, standard, none⟩
        Draft.Sample.draw ≠ .error (.unavailable service name)) ∧
      Draft.build ⟨(Draft.Sample.draft .cbc).settings,
          standard.addAll [Sample.impostor, Sample.impostor], none⟩ Draft.Sample.draw =
        .ok (Draft.Sample.engine .cbc) ∧
      (standard.addAll [Sample.impostor, Sample.impostor]).providers =
        [Provider.builtIn, Sample.impostor, Sample.impostor] ∧
      (standard.addAll [Sample.impostor, Sample.impostor]).provider "RustCrypto" =
        .ok Provider.builtIn := by
  have hbuild : Draft.build ⟨(Draft.Sample.draft .cbc).settings, standard, none⟩
      Draft.Sample.draw = .ok (Draft.Sample.engine .cbc) := Draft.Sample.build .cbc
  have hfound : ∀ service name, Draft.build ⟨(Draft.Sample.draft .cbc).settings, standard, none⟩
      Draft.Sample.draw ≠ .error (.unavailable service name) := by
    intro service name
    rw [hbuild]
    exact nofun
  refine ⟨hfound, ?_, (stable standard).addedAll _, ?_⟩
  · rw [(stable standard).extended _ _ _ hfound, hbuild]
  · exact ((stable _).provider _ _).2 ⟨[], _, rfl, rfl, nofun⟩

end Registry
end PasswordSeal
