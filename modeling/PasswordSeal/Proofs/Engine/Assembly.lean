import PasswordSeal.Proofs.Engine.Parts
import PasswordSeal.Proofs.KeyDerivation
import PasswordSeal.Proofs.Parameters.Generator

/-!
# What building puts together

With the built-in algorithms alone, building succeeds exactly when each of its parts can be had: the
algorithms that the plan names, a key, parameters to start from, and a binding of the cipher to
them. The engine is made of these parts and of nothing else.
-/
namespace PasswordSeal

namespace Draft
variable {d : Draft} {draw : Draw} {plan : Plan}

/-- Every algorithm is looked up with the built-in provider and with no other. -/
def UsesBuiltIn (d : Draft) : Prop :=
  d.pin = some .builtIn ∨ d.pin = none ∧ d.registry = .standard

structure Assembly where
  derivation : KeyDerivation
  key : Key
  scheme : Scheme
  start : Parameters
  bound : Scheme.Bound

structure Assembly.Fits (a : Assembly) (plan : Plan) (draw : Draw) : Prop where
  derivation : KeyDerivation.ofName? plan.keyAlgorithm = some a.derivation
  key : a.derivation.derive ⟨plan.password, plan.salt, plan.iterations, plan.keyBits⟩ = .ok a.key
  scheme : Scheme.ofName? plan.transformation = some a.scheme
  bound : a.scheme.bind draw plan.direction a.key a.start = .ok a.bound

def Assembly.engine (a : Assembly) (plan : Plan) : Engine where
  transformation := a.scheme.name
  direction := plan.direction
  alphabet := plan.alphabet
  parameters :=
    match plan.direction with
    | .encrypt => a.bound.parameters
    | .decrypt => a.start
  binding := a.scheme.binding a.bound
  earlier := []

namespace Assembly

def parts (a : Assembly) : Parts where
  derivation := a.derivation
  key := a.key
  cipher := a.scheme.cipher
  start := a.start
  binding := a.scheme.binding a.bound

theorem engine_parts (a : Assembly) (plan : Plan) : a.parts.engine plan = a.engine plan := by
  rw [Parts.engine, Assembly.engine, reported]
  cases plan.direction <;> rfl

end Assembly

namespace Assembly.Fits
variable {a : Assembly} (h : a.Fits plan draw)
include h

theorem bound_eq : a.scheme.chooseIv draw plan.direction a.start.iv = .ok a.bound.iv ∧
    a.bound = ⟨plan.direction, a.scheme.aesKey a.key.material a.start, a.bound.iv,
      a.start.withIv a.bound.iv⟩ := by
  obtain ⟨-, -, -, iv, hiv, hb⟩ := Scheme.bind_eq_ok.1 h.bound
  rw [hb]
  exact ⟨hiv, rfl⟩

theorem length_iv : a.bound.iv.length = a.scheme.mode.ivLength :=
  (Scheme.chooseIv_eq_ok.1 h.bound_eq.1).1

theorem direction_bound : a.bound.direction = plan.direction := by
  rw [h.bound_eq.2]

theorem withIv_of_decrypt (hdir : plan.direction = .decrypt) :
    a.start.withIv a.bound.iv = a.start := by
  obtain ⟨-, hiv | ⟨-, hne, -⟩⟩ := Scheme.chooseIv_eq_ok.1 h.bound_eq.1
  · rw [Parameters.withIv, ← hiv]
  · cases hdir.symm.trans hne

theorem parameters_engine : (a.engine plan).parameters = a.start.withIv a.bound.iv := by
  rw [Assembly.engine]
  cases hdir : plan.direction with
  | encrypt =>
    dsimp only
    rw [h.bound_eq.2]
  | decrypt => exact (h.withIv_of_decrypt hdir).symm

theorem iv_engine : (a.engine plan).parameters.iv = some a.bound.iv := by
  rw [h.parameters_engine]
  rfl

theorem encodedIv_engine :
    (a.engine plan).encodedIv = some (plan.alphabet.encode a.bound.iv) := by
  rw [Engine.encodedIv, h.iv_engine]
  rfl

theorem key_bound :
    a.bound.key = a.scheme.aesKey a.key.material (a.engine plan).parameters := by
  rw [h.parameters_engine, h.bound_eq.2, Scheme.aesKey_withIv]

theorem bind_reported (draw' : Draw) (direction : Direction) :
    a.scheme.bind draw' direction a.key (a.engine plan).parameters =
      .ok ⟨direction, a.bound.key, a.bound.iv, (a.engine plan).parameters⟩ := by
  obtain ⟨hm, hi, hs, -⟩ := Scheme.bind_eq_ok.1 h.bound
  rw [h.parameters_engine]
  refine Scheme.bind_eq_ok.2 ⟨hm, hi, hs, a.bound.iv, ?_, ?_⟩
  · exact Scheme.chooseIv_eq_ok.2 ⟨h.length_iv, Or.inl rfl⟩
  · rw [Scheme.Bound.mk.injEq]
    exact ⟨rfl, congrArg Scheme.Bound.key h.bound_eq.2, rfl, rfl⟩

theorem exists_cipher : ∃ cipher, Aes.keyed? a.bound.key = some cipher := by
  rw [h.bound_eq.2]
  exact Scheme.exists_aes (Scheme.keyed_of_ofName? h.scheme) _ _

end Assembly.Fits

section
variable (hd : d.UsesBuiltIn) {name : String}
include hd

theorem lookup_eq {α : Type} (service : Service) (name : String) (offer : Provider → Option α) :
    d.registry.lookup d.pin service name offer =
      (offer .builtIn).elim (.error (.unavailable service name)) .ok := by
  rcases hd with hpin | ⟨hpin, hr⟩
  · rw [hpin, Registry.lookup_pinned]
  · rw [hpin, hr, Registry.lookup_unpinned, Registry.standard, List.findSome?_singleton]

theorem lookup_eq_ok {α : Type} {service : Service} {offer : Provider → Option α} {x : α} :
    d.registry.lookup d.pin service name offer = .ok x ↔ offer .builtIn = some x := by
  rw [lookup_eq hd]
  cases offer .builtIn <;> simp

theorem keyDerivation_eq_ok {k : KeyDerivation} :
    d.registry.keyDerivation d.pin name = .ok k ↔ KeyDerivation.ofName? name = some k :=
  lookup_eq_ok hd

theorem cipher_eq_ok {c : Cipher} : d.registry.cipher d.pin name = .ok c ↔
    ∃ s, Scheme.ofName? name = some s ∧ s.cipher = c := by
  rw [Registry.cipher, lookup_eq_ok hd]
  exact Option.map_eq_some_iff

theorem generator_eq_ok {g : ParameterGenerator} : d.registry.generator d.pin name = .ok g ↔
    ∃ s, Scheme.ofName? name = some s ∧ .ofScheme s = g := by
  rw [Registry.generator, lookup_eq_ok hd]
  exact Option.map_eq_some_iff

theorem generate_eq_ok {iv : Option Bytes} {p : Parameters} : d.generate plan iv = .ok p ↔
    ∃ s, Scheme.ofName? plan.parametersAlgorithm = some s ∧ plan.cipherSalt ≠ [] ∧
      plan.cipherIterations ≠ 0 ∧ (∀ bytes, iv = some bytes → bytes.length = s.mode.ivLength) ∧
        p = ⟨⟨plan.cipherSalt, plan.cipherIterations, iv⟩, s.name⟩ := by
  simp only [generate, bind_eq_ok, generator_eq_ok hd]
  constructor
  · rintro ⟨_, ⟨s, hs, rfl⟩, h⟩
    exact ⟨s, hs, ParameterGenerator.generate_eq_ok.1 h⟩
  · rintro ⟨s, hs, h⟩
    exact ⟨_, ⟨s, hs, rfl⟩, ParameterGenerator.generate_eq_ok.2 h⟩

theorem buildPlan_eq_ok {e : Engine} : d.buildPlan draw plan = .ok e ↔
    ∃ a : Assembly, a.Fits plan draw ∧ d.startParameters plan = .ok a.start ∧
      e = a.engine plan := by
  rw [buildPlan_eq_ok_parts]
  constructor
  · rintro ⟨⟨k, key, c, p, binding⟩, h, rfl⟩
    obtain ⟨s, hs, rfl⟩ := (cipher_eq_ok hd).1 h.cipher
    obtain ⟨b, hb, rfl⟩ := Scheme.cipher_bind_eq_ok.1 h.binding
    exact ⟨⟨k, key, s, p, b⟩, ⟨(keyDerivation_eq_ok hd).1 h.derivation, h.key, hs, hb⟩, h.start,
      Assembly.engine_parts ⟨k, key, s, p, b⟩ plan⟩
  · rintro ⟨a, ha, hp, rfl⟩
    have hfit : a.parts.Fit d plan draw :=
      ⟨(keyDerivation_eq_ok hd).2 ha.derivation, ha.key, (cipher_eq_ok hd).2 ⟨_, ha.scheme, rfl⟩,
        hp, Scheme.cipher_bind_eq_ok.2 ⟨_, ha.bound, rfl⟩⟩
    exact ⟨a.parts, hfit, (a.engine_parts plan).symm⟩

theorem build_eq_ok {e : Engine} : d.build draw = .ok e ↔
    ∃ plan, d.settings.Settles plan ∧ ∃ a : Assembly, a.Fits plan draw ∧
      d.startParameters plan = .ok a.start ∧ e = a.engine plan := by
  simp only [build, bind_eq_ok, Settings.settle_eq_ok, buildPlan_eq_ok hd]

theorem generate_eq_error {s : Scheme} {iv : Bytes}
    (hs : Scheme.ofName? plan.parametersAlgorithm = some s) (hl : iv.length ≠ s.mode.ivLength) :
    d.generate plan (some iv) = .error .cryptographic := by
  rw [generate, (generator_eq_ok hd).2 ⟨s, hs, rfl⟩, ok_bind, ParameterGenerator.ofScheme]
  simp [hl]

theorem build_eq_error {k : KeyDerivation} {key : Key} {s : Scheme} {fault : Fault}
    (hs : d.settings.Settles plan) (hk : KeyDerivation.ofName? plan.keyAlgorithm = some k)
    (hkey : k.derive ⟨plan.password, plan.salt, plan.iterations, plan.keyBits⟩ = .ok key)
    (hscheme : Scheme.ofName? plan.transformation = some s)
    (hp : d.startParameters plan = .error fault) : d.build draw = .error fault := by
  rw [build, Settings.settle_eq_ok.2 hs, ok_bind, buildPlan, deriveKey,
    (keyDerivation_eq_ok hd).2 hk, ok_bind, hkey, ok_bind, pure_bind,
    (cipher_eq_ok hd).2 ⟨s, hscheme, rfl⟩, ok_bind, hp]
  rfl

end

def buildWith (d : Draft) (settings : List Setting) (draw : Draw) : Except Fault Engine := do
  let d ← d.setAll settings
  d.build draw

end Draft

namespace Draft.Sample
variable (mode : BlockMode)

def parametersName : String := "PBEWithHmacSHA1AndAES_256" ++ mode.ending

def draft : Draft :=
  { settings :=
      { keyAlgorithm := some "PBKDF2WithHmacSHA512"
        transformation := some "PBEWithHmacSHA256AndAES_128_GCM"
        parametersAlgorithm := some (parametersName mode)
        iterations := some 2
        salt := some [1, 2, 3, 4]
        password := some "open sesame"
        direction := some .encrypt
        cipherIterations := some 3
        cipherSalt := some [5, 6, 7, 8] } }

def plan : Plan where
  keyAlgorithm := "PBKDF2WithHmacSHA512"
  transformation := "PBEWithHmacSHA256AndAES_128_GCM"
  parametersAlgorithm := parametersName mode
  iterations := 2
  salt := [1, 2, 3, 4]
  keyBits := none
  password := "open sesame"
  direction := .encrypt
  cipherIterations := 3
  cipherSalt := [5, 6, 7, 8]
  alphabet := .base64
  iv := none
  parameters := none

def draw : Draw := .ofBytes []

def key : Key :=
  ⟨KeyDerivation.stem ++ Digest.sha512.label,
    Pbkdf2.stream .sha512 (Utf8.encode "open sesame") [1, 2, 3, 4] (2 : UInt32).toNat 64⟩

def scheme : Scheme := ⟨.sha256, 16, .gcm⟩

def start : Parameters := ⟨⟨[5, 6, 7, 8], 3, none⟩, Scheme.name ⟨.sha1, 32, mode⟩⟩

def bound : Scheme.Bound :=
  ⟨.encrypt, scheme.aesKey key.material (start mode), List.replicate 12 0,
    (start mode).withIv (List.replicate 12 0)⟩

def assembly : Assembly := ⟨.ofDigest .sha512, key, scheme, start mode, bound mode⟩

def engine : Engine := (assembly mode).engine (plan mode)

theorem ofName?_parametersName :
    Scheme.ofName? (parametersName mode) = some ⟨.sha1, 32, mode⟩ := by
  cases mode <;> rfl

theorem usesBuiltIn : (draft mode).UsesBuiltIn :=
  Or.inr ⟨rfl, rfl⟩

theorem settles : (draft mode).settings.Settles (plan mode) :=
  ⟨rfl, rfl, rfl, rfl, rfl, rfl, rfl, rfl, rfl, rfl, rfl, rfl, rfl⟩

theorem material_ne_nil : key.material ≠ [] := by
  rw [← List.length_pos_iff, key, Pbkdf2.length_stream]
  decide

theorem ofName?_keyAlgorithm :
    KeyDerivation.ofName? "PBKDF2WithHmacSHA512" = some (.ofDigest .sha512) := by
  rfl

theorem ofName?_transformation :
    Scheme.ofName? "PBEWithHmacSHA256AndAES_128_GCM" = some scheme := by
  rfl

theorem fits : (assembly mode).Fits (plan mode) draw where
  derivation := ofName?_keyAlgorithm
  key := KeyDerivation.derive_pbkdf2_eq_ok.2
    ⟨64, rfl, by cases mode <;> decide, List.cons_ne_nil _ _, rfl⟩
  scheme := ofName?_transformation
  bound := Scheme.bind_eq_ok.2
    ⟨material_ne_nil, by cases mode <;> decide, List.cons_ne_nil _ _, _, rfl, rfl⟩

theorem build : (draft mode).build draw = .ok (engine mode) := by
  refine (build_eq_ok (usesBuiltIn mode)).2 ⟨plan mode, settles mode, assembly mode, fits mode, ?_,
    rfl⟩
  exact (generate_eq_ok (usesBuiltIn mode)).2 ⟨⟨.sha1, 32, mode⟩, ofName?_parametersName mode,
    List.cons_ne_nil _ _, by cases mode <;> decide, nofun, rfl⟩

theorem buildWith_encrypt :
    (draft mode).buildWith [.direction .encrypt] draw = .ok (engine mode) := by
  have hset : (draft mode).setAll [.direction .encrypt] = .ok (draft mode) := rfl
  rw [buildWith, hset, ok_bind]
  exact build mode

end Draft.Sample
end PasswordSeal
