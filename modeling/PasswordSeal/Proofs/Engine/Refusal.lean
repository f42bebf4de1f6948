import PasswordSeal.Proofs.Engine.Assembly

/-!
# Why a build fails

A build goes through stages in a fixed order, and each stage refuses some settings, for a reason
that can be read off the settings. With the built-in algorithms alone, a build fails as the first
stage does that refuses, whatever is drawn, and succeeds when no stage refuses.

To encrypt, a vector is drawn and parameters are generated; a vector that was set is looked at only
where its text is read, and supplied parameters are not looked at. Of a password it matters whether
there is one and, to Argon2id alone, that its length can be held in four bytes.
-/
namespace PasswordSeal

/-! ## What is in effect -/

namespace Settings

def keyName (s : Settings) : String :=
  s.keyAlgorithm.getD defaultKeyAlgorithm

def cipherName (s : Settings) : String :=
  s.transformation.getD s.keyName

def parametersName (s : Settings) : String :=
  s.parametersAlgorithm.getD s.keyName

def givenIv (s : Settings) : Option Bytes :=
  s.iv.or (s.encodedIv.bind fun text => (s.alphabet.decode text).toOption)

def openingIv (s : Settings) : Option Bytes :=
  s.parameters.elim s.givenIv (·.iv)

def Generates (s : Settings) : Prop :=
  s.direction = some .encrypt ∨ s.parameters = none

/-! ## What is refused -/

def RefusesKey (s : Settings) : Prop :=
  s.iterations = some 0 ∨ (∃ bits ∈ s.keyBits, bits.toNat % 8 ≠ 0) ∨
    Text.sameIgnoringCase KeyDerivation.argon2id.algorithm s.keyName ∧
      ((∃ salt ∈ s.salt, salt.length < 8) ∨ ∃ bits ∈ s.keyBits, bits ≠ 0 ∧ bits.toNat / 8 < 4)

def Bounded (s : Settings) : Prop :=
  (∀ password ∈ s.password, (Utf8.encode password).length ≤ Argon2id.maxInputLength) ∧
    ∀ salt ∈ s.salt, salt.length ≤ Argon2id.maxInputLength

def RefusesLength (s : Settings) : Prop :=
  Text.sameIgnoringCase KeyDerivation.argon2id.algorithm s.keyName ∧ ¬ s.Bounded

def RefusesParameters (s : Settings) : Prop :=
  s.Generates ∧ (s.cipherSalt.or s.salt = some [] ∨ s.cipherIterations.or s.iterations = some 0 ∨
    s.direction = some .decrypt ∧ ∃ scheme ∈ Scheme.ofName? s.parametersName,
      ∃ iv ∈ s.givenIv, iv.length ≠ scheme.mode.ivLength)

def RefusesBinding (s : Settings) : Prop :=
  s.direction = some .decrypt ∧
    ((∃ scheme ∈ Scheme.ofName? s.cipherName,
      s.openingIv.map List.length ≠ some scheme.mode.ivLength) ∨
    ∃ p ∈ s.parameters, p.iterations = 0 ∨ p.salt = [])

instance decidableGenerates (s : Settings) : Decidable s.Generates :=
  inferInstanceAs (Decidable (_ ∨ _))

instance decidableRefusesKey (s : Settings) : Decidable s.RefusesKey :=
  inferInstanceAs (Decidable (_ ∨ (∃ _ ∈ s.keyBits, _) ∨ _ ∧ ((∃ _ ∈ s.salt, _) ∨
    ∃ _ ∈ s.keyBits, _)))

instance decidableBounded (s : Settings) : Decidable s.Bounded :=
  inferInstanceAs (Decidable ((∀ _ ∈ s.password, _) ∧ ∀ _ ∈ s.salt, _))

instance decidableRefusesLength (s : Settings) : Decidable s.RefusesLength :=
  inferInstanceAs (Decidable (_ ∧ _))

instance decidableRefusesParameters (s : Settings) : Decidable s.RefusesParameters :=
  inferInstanceAs (Decidable (_ ∧ (_ ∨ _ ∨ _ ∧ ∃ _ ∈ Scheme.ofName? s.parametersName,
    ∃ _ ∈ s.givenIv, _)))

instance decidableRefusesBinding (s : Settings) : Decidable s.RefusesBinding :=
  inferInstanceAs (Decidable (_ ∧ ((∃ _ ∈ Scheme.ofName? s.cipherName, _) ∨
    ∃ _ ∈ s.parameters, _)))

end Settings

inductive Stage where
  | iterations
  | salt
  | password
  | direction
  | encodedIv
  | keyAlgorithm
  | key
  | transformation
  | parametersAlgorithm
  | parameters
  | binding
  deriving Repr, DecidableEq

namespace Stage

def settling : List Stage :=
  [iterations, salt, password, direction, encodedIv]

def building : List Stage :=
  [keyAlgorithm, key, transformation, parametersAlgorithm, parameters, binding]

def order : List Stage :=
  settling ++ building

def refusal? (s : Settings) : Stage → Option Fault
  | iterations => refuseIf (s.iterations = none) (.incomplete .iterations)
  | salt => refuseIf (s.salt = none ∨ s.salt = some []) (.incomplete .salt)
  | password => refuseIf (s.password = none ∨ s.password = some "") (.incomplete .password)
  | direction => refuseIf (s.direction = none) (.incomplete .direction)
  | encodedIv =>
    match s.iv, s.encodedIv with
    | none, some text => (failure? (s.alphabet.decode text)).map .undecodable
    | _, _ => none
  | keyAlgorithm =>
    refuseIf (KeyDerivation.ofName? s.keyName = none) (.unavailable .keyDerivation s.keyName)
  | key => refuseIf (s.RefusesKey ∨ s.RefusesLength) .cryptographic
  | transformation =>
    refuseIf (Scheme.ofName? s.cipherName = none) (.unavailable .cipher s.cipherName)
  | parametersAlgorithm =>
    refuseIf (s.Generates ∧ Scheme.ofName? s.parametersName = none)
      (.unavailable .parameters s.parametersName)
  | parameters => refuseIf s.RefusesParameters .cryptographic
  | binding => refuseIf s.RefusesBinding .cryptographic

theorem mem_order (stage : Stage) : stage ∈ order := by
  cases stage <;> decide

theorem refusal?_key_of_bounded {s : Settings} (h : s.Bounded) :
    refusal? s .key = refuseIf s.RefusesKey .cryptographic :=
  refuseIf_congr (or_iff_left fun hlength => hlength.2 h)

end Stage

/-! ## Settling -/

namespace Settings

theorem failure?_require {α : Type} (missing : Requirement) (x : Option α) :
    failure? (require missing x) = refuseIf (x = none) (.incomplete missing) := by
  cases x <;> rfl

theorem filter_ne_eq_none {α : Type} [DecidableEq α] {x : Option α} {a : α} :
    x.filter (· ≠ a) = none ↔ x = none ∨ x = some a := by
  cases x <;> simp

theorem failure?_settleIv (s : Settings) :
    failure? s.settleIv = Stage.refusal? s .encodedIv := by
  rw [settleIv, Stage.refusal?]
  cases s.iv with
  | some iv => rfl
  | none =>
    cases s.encodedIv with
    | none => rfl
    | some text => exact (failure?_map _ _).trans (failure?_mapError _ _)

theorem failure?_settle (s : Settings) :
    failure? s.settle = Stage.settling.findSome? (Stage.refusal? s) := by
  have hrequire {α : Type} [DecidableEq α] (missing : Requirement) (x : Option α) (a : α) :
      failure? (require missing (x.filter (· ≠ a))) =
        refuseIf (x = none ∨ x = some a) (.incomplete missing) :=
    (failure?_require missing _).trans (refuseIf_congr filter_ne_eq_none)
  rw [settle]
  refine failure?_bind_cons (failure?_require _ _) fun iterations _ => ?_
  refine failure?_bind_cons (hrequire .salt s.salt []) fun salt _ => ?_
  refine failure?_bind_cons (hrequire .password s.password "") fun password _ => ?_
  refine failure?_bind_cons (failure?_require _ _) fun direction _ => ?_
  exact failure?_bind_cons (failure?_settleIv s) fun iv _ => rfl

namespace Settles
variable {s : Settings} {plan : Plan} (h : s.Settles plan)
include h

theorem keyName : plan.keyAlgorithm = s.keyName :=
  h.keyAlgorithm.symm

theorem cipherName : plan.transformation = s.cipherName := by
  rw [Settings.cipherName, ← h.keyName, h.transformation]

theorem parametersName : plan.parametersAlgorithm = s.parametersName := by
  rw [Settings.parametersName, ← h.keyName, h.parametersAlgorithm]

theorem givenIv : plan.iv = s.givenIv := by
  have hiv := h.iv
  rw [settleIv] at hiv
  rw [Settings.givenIv]
  cases hset : s.iv with
  | some iv =>
    rw [hset] at hiv
    exact (Except.ok.inj hiv).symm
  | none =>
    cases htext : s.encodedIv with
    | none =>
      rw [hset, htext] at hiv
      exact (Except.ok.inj hiv).symm
    | some text =>
      rw [hset, htext] at hiv
      obtain ⟨bytes, hread, hbytes⟩ := map_eq_ok.1 hiv
      have hdecode : s.alphabet.decode text = .ok bytes := mapError_eq_ok.1 hread
      simp [hdecode, Except.toOption, ← hbytes]

theorem password_eq : s.password = some plan.password ∧ plan.password ≠ "" := by
  simpa [Option.filter_eq_some_iff] using h.password

theorem salt_eq : s.salt = some plan.salt ∧ plan.salt ≠ [] := by
  simpa [Option.filter_eq_some_iff] using h.salt

theorem direction_iff {direction : Direction} :
    s.direction = some direction ↔ plan.direction = direction := by
  rw [h.direction, Option.some.injEq]

theorem cipherSalt_iff {salt : Bytes} :
    s.cipherSalt.or s.salt = some salt ↔ plan.cipherSalt = salt := by
  rw [← h.cipherSalt, h.salt_eq.1]
  cases s.cipherSalt <;> simp

theorem cipherIterations_iff {count : UInt32} :
    s.cipherIterations.or s.iterations = some count ↔ plan.cipherIterations = count := by
  rw [← h.cipherIterations, h.iterations]
  cases s.cipherIterations <;> simp

theorem generates_iff : s.Generates ↔ plan.direction = .encrypt ∨ plan.parameters = none := by
  rw [Generates, h.direction_iff, h.parameters]

theorem bounded_iff :
    (⟨plan.password, plan.salt, plan.iterations, plan.keyBits⟩ : KeyRequest).Bounded ↔
      s.Bounded := by
  simp [KeyRequest.Bounded, Bounded, h.password_eq.1, h.salt_eq.1]

theorem refusesKey_iff :
    (⟨plan.password, plan.salt, plan.iterations, plan.keyBits⟩ : KeyRequest).Refused
      plan.keyAlgorithm ↔ s.RefusesKey ∨ s.RefusesLength := by
  have huneven : (∃ bits ∈ plan.keyBits, bits = 0 ∨ bits.toNat % 8 ≠ 0) ↔
      ∃ bits ∈ s.keyBits, bits.toNat % 8 ≠ 0 := by
    rw [← h.keyBits]
    constructor
    · rintro ⟨bits, hmem, heven⟩
      obtain ⟨hset, hne⟩ := Option.mem_filter_iff.1 hmem
      exact ⟨bits, hset, heven.resolve_left (by simpa using hne)⟩
    · rintro ⟨bits, hset, heven⟩
      have hne : bits ≠ 0 := by
        rintro rfl
        exact heven rfl
      exact ⟨bits, Option.mem_filter_iff.2 ⟨hset, by simpa using hne⟩, Or.inr heven⟩
  have hfew : (∃ bits ∈ plan.keyBits, bits.toNat / 8 < 4) ↔
      ∃ bits ∈ s.keyBits, bits ≠ 0 ∧ bits.toNat / 8 < 4 := by
    simp [← h.keyBits, and_assoc]
  have hsalt : (∃ salt ∈ s.salt, salt.length < 8) ↔ plan.salt.length < 8 := by
    simp [h.salt_eq.1]
  simp only [KeyRequest.Refused, KeyRequest.Uneven, KeyRequest.TooShort, RefusesKey, RefusesLength,
    huneven, hfew, hsalt, h.bounded_iff, h.salt_eq.2, false_or, h.iterations, Option.some.injEq,
    h.keyName]
  grind

end Settles
end Settings

/-! ## Building -/

theorem ParameterGenerator.failure?_generate (s : Scheme) (spec : ParameterSpec) :
    failure? ((ofScheme s).generate spec) = refuseIf (spec.salt = [] ∨ spec.iterations = 0 ∨
      ∃ iv ∈ spec.iv, iv.length ≠ s.mode.ivLength) .cryptographic := by
  rw [ofScheme]
  dsimp only
  rw [failure?_ite, failure?_ite, ← refuseIf_or_refuseIf, ← refuseIf_or_refuseIf]
  congr 2
  cases spec.iv with
  | none => simp [failure?, refuseIf]
  | some iv =>
    by_cases hl : iv.length = s.mode.ivLength <;> simp [failure?, refuseIf, hl]

namespace Scheme
variable {s : Scheme} {draw : Draw} {direction : Direction} {key : Key} {p : Parameters}

theorem suitsIv_decrypt {iv : Option Bytes} :
    s.SuitsIv .decrypt iv ↔ iv.map List.length = some s.mode.ivLength := by
  cases iv <;> simp [SuitsIv]

theorem failure?_cipher_bind (hm : key.material ≠ []) :
    failure? (s.cipher.bind draw direction key p) =
      refuseIf (¬ s.SuitsIv direction p.iv ∨ p.iterations = 0 ∨ p.salt = []) .cryptographic := by
  have hgrants : s.Grants direction key p ↔
      ¬ (¬ s.SuitsIv direction p.iv ∨ p.iterations = 0 ∨ p.salt = []) := by
    simp [Grants, hm]
  rw [cipher_bind_eq_ite, refuseIf]
  by_cases hg : s.Grants direction key p
  · rw [if_pos hg, if_neg (hgrants.1 hg)]
    rfl
  · rw [if_neg hg, if_pos (Classical.not_not.1 (mt hgrants.2 hg))]
    rfl

end Scheme

namespace Draft
variable {d : Draft} {draw : Draw} {plan : Plan}

theorem failure?_derive (h : d.settings.Settles plan) {derivation : KeyDerivation}
    (hk : KeyDerivation.ofName? plan.keyAlgorithm = some derivation) :
    failure? (derivation.derive ⟨plan.password, plan.salt, plan.iterations, plan.keyBits⟩) =
      Stage.refusal? d.settings .key :=
  (KeyDerivation.failure?_derive hk _).trans (refuseIf_congr h.refusesKey_iff)

section
variable (hd : d.UsesBuiltIn)
include hd

theorem failure?_lookup {α : Type} (service : Service) (name : String)
    (offer : Provider → Option α) : failure? (d.registry.lookup d.pin service name offer) =
      refuseIf (offer .builtIn = none) (.unavailable service name) := by
  rw [lookup_eq hd]
  cases offer .builtIn <;> rfl

variable (h : d.settings.Settles plan)
include h

theorem failure?_keyDerivation :
    failure? (d.registry.keyDerivation d.pin plan.keyAlgorithm) =
      Stage.refusal? d.settings .keyAlgorithm := by
  rw [h.keyName]
  exact failure?_lookup hd _ _ _

theorem failure?_cipher :
    failure? (d.registry.cipher d.pin plan.transformation) =
      Stage.refusal? d.settings .transformation := by
  rw [h.cipherName]
  exact (failure?_lookup hd _ _ _).trans (refuseIf_congr Option.map_eq_none_iff)

theorem failure?_generator :
    failure? (d.registry.generator d.pin plan.parametersAlgorithm) =
      refuseIf (Scheme.ofName? d.settings.parametersName = none)
        (.unavailable .parameters d.settings.parametersName) := by
  rw [h.parametersName]
  exact (failure?_lookup hd _ _ _).trans (refuseIf_congr Option.map_eq_none_iff)

theorem failure?_generate (iv : Option Bytes) : failure? (d.generate plan iv) =
    (refuseIf (Scheme.ofName? d.settings.parametersName = none)
      (.unavailable .parameters d.settings.parametersName)).or
    (refuseIf (plan.cipherSalt = [] ∨ plan.cipherIterations = 0 ∨
      ∃ scheme ∈ Scheme.ofName? d.settings.parametersName,
        ∃ bytes ∈ iv, bytes.length ≠ scheme.mode.ivLength) .cryptographic) := by
  refine failure?_bind (failure?_generator hd h) fun generator hg => ?_
  obtain ⟨scheme, hs, rfl⟩ := (generator_eq_ok hd).1 hg
  rw [h.parametersName] at hs
  rw [ParameterGenerator.failure?_generate]
  apply refuseIf_congr
  simp [hs]

theorem failure?_startParameters : failure? (d.startParameters plan) =
    [Stage.parametersAlgorithm, .parameters].findSome? (Stage.refusal? d.settings) := by
  have hpair (g : Stage → Option Fault) (a b : Stage) : [a, b].findSome? g = (g a).or (g b) := by
    cases ha : g a <;> simp [ha]
  rw [hpair, startParameters]
  simp only [Stage.refusal?, Settings.RefusesParameters, h.generates_iff, h.cipherSalt_iff,
    h.cipherIterations_iff, h.direction_iff, ← h.givenIv]
  cases hdir : plan.direction with
  | encrypt =>
    rw [failure?_generate hd h]
    simp
  | decrypt =>
    cases hp : plan.parameters with
    | some p => simp [refuseIf, failure?]
    | none =>
      dsimp only
      rw [failure?_generate hd h]
      simp

theorem failure?_binding {scheme : Scheme} {key : Key} {p : Parameters}
    (hs : Scheme.ofName? d.settings.cipherName = some scheme) (hm : key.material ≠ [])
    (hp : d.startParameters plan = .ok p) :
    failure? (scheme.cipher.bind draw plan.direction key p) =
      Stage.refusal? d.settings .binding := by
  rw [Scheme.failure?_cipher_bind hm]
  apply refuseIf_congr
  rw [startParameters] at hp
  rw [Settings.RefusesBinding, h.direction_iff, Settings.openingIv, ← h.givenIv, h.parameters]
  cases hdir : plan.direction with
  | encrypt =>
    rw [hdir] at hp
    obtain ⟨-, -, hsalt, hi, -, rfl⟩ := (generate_eq_ok hd).1 hp
    simp [Scheme.SuitsIv, hsalt, hi]
  | decrypt =>
    rw [hdir] at hp
    cases hq : plan.parameters with
    | some q =>
      rw [hq] at hp
      obtain rfl := Except.ok.inj hp
      simp [hs, Scheme.suitsIv_decrypt]
    | none =>
      rw [hq] at hp
      obtain ⟨-, -, hsalt, hi, -, rfl⟩ := (generate_eq_ok hd).1 hp
      simp [hs, Scheme.suitsIv_decrypt, hsalt, hi]

theorem failure?_buildPlan (draw : Draw) : failure? (d.buildPlan draw plan) =
    Stage.building.findSome? (Stage.refusal? d.settings) := by
  simp only [buildPlan, deriveKey, bind_assoc, pure_bind]
  refine failure?_bind_cons (failure?_keyDerivation hd h) fun derivation hderivation => ?_
  have hk := (keyDerivation_eq_ok hd).1 hderivation
  refine failure?_bind_cons (failure?_derive h hk) fun key hkey => ?_
  have hm := KeyDerivation.material_ne_nil hk hkey
  refine failure?_bind_cons (failure?_cipher hd h) fun cipher hcipher => ?_
  obtain ⟨scheme, hs, rfl⟩ := (cipher_eq_ok hd).1 hcipher
  rw [h.cipherName] at hs
  refine failure?_bind_append (failure?_startParameters hd h) fun p hp => ?_
  exact failure?_bind_cons (failure?_binding hd h hs hm hp) fun binding _ => rfl

end

theorem failure?_build (hd : d.UsesBuiltIn) (draw : Draw) :
    failure? (d.build draw) = Stage.order.findSome? (Stage.refusal? d.settings) := by
  refine failure?_bind_append d.settings.failure?_settle fun plan hplan => ?_
  exact failure?_buildPlan hd (Settings.settle_eq_ok.1 hplan) draw

/-- A build fails as the first stage does that refuses the settings, and succeeds when none does.
Lengths play no part in it as long as they are in bounds. -/
theorem build_refused (hd : d.UsesBuiltIn) (draw : Draw) :
    (∀ fault, d.build draw = .error fault ↔ ∃ before stage after,
      Stage.order = before ++ stage :: after ∧ stage.refusal? d.settings = some fault ∧
        ∀ earlier ∈ before, earlier.refusal? d.settings = none) ∧
      ((∃ e, d.build draw = .ok e) ↔ ∀ stage, Stage.refusal? d.settings stage = none) ∧
      (d.settings.Bounded →
        Stage.refusal? d.settings .key = refuseIf d.settings.RefusesKey .cryptographic) := by
  refine ⟨?_, ?_, Stage.refusal?_key_of_bounded⟩
  · intro fault
    rw [← failure?_eq_some, failure?_build hd, List.findSome?_eq_some_iff]
  · rw [← failure?_eq_none, failure?_build hd, List.findSome?_eq_none_iff]
    exact ⟨fun h stage => h stage stage.mem_order, fun h stage _ => h stage⟩

def Sample.faulty : Draft :=
  { settings :=
      { keyAlgorithm := some "PBKDF2WithHmacMD5"
        iterations := some 0
        salt := some [1, 2, 3, 4]
        password := some "open sesame"
        direction := some .decrypt } }

theorem Sample.refusal?_draft (stage : Stage) :
    stage.refusal? (draft .cbc).settings = none := by
  cases stage <;> rfl

theorem build_refused_sample : Sample.faulty.UsesBuiltIn ∧
    Sample.faulty.build Sample.draw =
        .error (.unavailable .keyDerivation "PBKDF2WithHmacMD5") ∧
      (Sample.draft .cbc).UsesBuiltIn ∧ ∃ e, (Sample.draft .cbc).build Sample.draw = .ok e := by
  have hfaulty : Sample.faulty.UsesBuiltIn := Or.inr ⟨rfl, rfl⟩
  refine ⟨hfaulty, ?_, Sample.usesBuiltIn .cbc, ?_⟩
  · refine ((build_refused hfaulty Sample.draw).1 _).2
      ⟨Stage.settling, .keyAlgorithm, _, rfl, ?_, ?_⟩
    · rfl
    · decide
  · exact (build_refused (Sample.usesBuiltIn .cbc) Sample.draw).2.1.2 Sample.refusal?_draft

end Draft
end PasswordSeal
