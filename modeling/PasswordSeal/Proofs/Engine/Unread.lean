import PasswordSeal.Proofs.Engine.Acceptance
import PasswordSeal.Proofs.Engine.Reopening

/-!
# Settings that are not read

Some settings are there for one direction only. To encrypt, neither a vector nor parameters that
were set are used: the cipher gets parameters that are generated without a vector. To decrypt with
parameters that were supplied, nothing is generated, and so nothing is used that parameters would be
generated from. Only the text of a vector is read in either case, and has to be readable.

Of parameters that are supplied to a built-in cipher, the name is not used; neither is that of the
key.
-/
namespace PasswordSeal

namespace Settings
variable {s t : Settings} {plan : Plan} {f : Plan → Plan}

/-- A vector that was set as a text can be read, unless one that was set as bytes stands before
it. -/
def ReadsIv (s : Settings) : Prop :=
  s.iv = none → ∀ text, s.encodedIv = some text → ∃ bytes, s.alphabet.decode text = .ok bytes

def dropOpening (s : Settings) : Settings :=
  { s with iv := none, encodedIv := none, parameters := none }

def dropGenerating (s : Settings) : Settings :=
  { s with
    parametersAlgorithm := none
    cipherIterations := none
    cipherSalt := none
    iv := none
    encodedIv := none }

theorem ReadsIv.exists_settleIv (h : s.ReadsIv) : ∃ iv, s.settleIv = .ok iv := by
  rw [settleIv]
  cases hiv : s.iv with
  | some iv => exact ⟨_, rfl⟩
  | none =>
    cases htext : s.encodedIv with
    | none => exact ⟨_, rfl⟩
    | some text =>
      obtain ⟨bytes, hbytes⟩ := h hiv text htext
      exact ⟨some bytes, map_eq_ok.2 ⟨bytes, Alphabet.read_eq_ok.2 hbytes, rfl⟩⟩

theorem ReadsIv.refusal?_encodedIv (h : s.ReadsIv) : Stage.encodedIv.refusal? s = none := by
  rw [← failure?_settleIv]
  exact failure?_eq_none.2 h.exists_settleIv

theorem settle_eq_map
    (hr : Stage.settling.map (Stage.refusal? s) = Stage.settling.map (Stage.refusal? t))
    (h : ∀ plan, t.Settles plan → s.Settles (f plan)) : s.settle = t.settle.map f := by
  cases ht : t.settle with
  | ok plan => exact settle_eq_ok.2 (h plan (settle_eq_ok.1 ht))
  | error fault =>
    -- The fault is that of the first stage that refuses, in both.
    have hfailure (u : Settings) :
        failure? u.settle = (Stage.settling.map (Stage.refusal? u)).findSome? id := by
      rw [failure?_settle, List.findSome?_map]
      rfl
    have hsame : failure? s.settle = failure? t.settle := by rw [hfailure, hfailure, hr]
    rw [ht] at hsame
    exact failure?_eq_some.1 hsame

theorem settle_dropOpening (h : s.ReadsIv) : ∃ iv, s.settle =
    s.dropOpening.settle.map fun plan => { plan with iv, parameters := s.parameters } := by
  obtain ⟨iv, hiv⟩ := h.exists_settleIv
  refine ⟨iv, settle_eq_map ?_ ?_⟩
  · simp only [Stage.settling, List.map_cons, h.refusal?_encodedIv]
    rfl
  · intro plan hplan
    exact { hplan with iv := hiv, parameters := rfl }

theorem settle_dropGenerating (h : s.ReadsIv) : ∃ iv, s.settle =
    s.dropGenerating.settle.map fun plan =>
      { plan with
        parametersAlgorithm := s.parametersAlgorithm.getD plan.keyAlgorithm
        cipherIterations := s.cipherIterations.getD plan.iterations
        cipherSalt := s.cipherSalt.getD plan.salt
        iv } := by
  obtain ⟨iv, hiv⟩ := h.exists_settleIv
  refine ⟨iv, settle_eq_map ?_ ?_⟩
  · simp only [Stage.settling, List.map_cons, h.refusal?_encodedIv]
    rfl
  · intro plan hplan
    exact { hplan with
      parametersAlgorithm := rfl, cipherIterations := rfl, cipherSalt := rfl, iv := hiv }

end Settings

namespace Draft
variable {s t : Settings} {registry : Registry} {pin : Option Provider} {draw : Draw}
variable {f : Plan → Plan} {p q : Parameters}

theorem build_eq_map {g : Engine → Engine} (hs : s.settle = t.settle.map f)
    (h : ∀ plan, t.Settles plan → buildPlan ⟨s, registry, pin⟩ draw (f plan) =
      (buildPlan ⟨t, registry, pin⟩ draw plan).map g) :
    build ⟨s, registry, pin⟩ draw = (build ⟨t, registry, pin⟩ draw).map g := by
  rw [build, build, hs]
  cases ht : t.settle with
  | error fault => rfl
  | ok plan => exact h plan (Settings.settle_eq_ok.1 ht)

theorem build_eq (hs : s.settle = t.settle.map f)
    (h : ∀ plan, t.Settles plan → buildPlan ⟨s, registry, pin⟩ draw (f plan) =
      buildPlan ⟨t, registry, pin⟩ draw plan) :
    build ⟨s, registry, pin⟩ draw = build ⟨t, registry, pin⟩ draw := by
  have hid (x : Except Fault Engine) : x.map id = x := by cases x <;> rfl
  rw [build_eq_map hs fun plan hplan => (h plan hplan).trans (hid _).symm, hid]

section
variable {d : Draft} {plan : Plan}

theorem startParameters_encrypt (hd : plan.direction = .encrypt) :
    d.startParameters plan = d.generate plan none := by
  rw [startParameters, hd]

theorem buildPlan_encrypt (hd : plan.direction = .encrypt) : d.buildPlan draw plan = do
    let key ← d.deriveKey plan
    let cipher ← d.registry.cipher d.pin plan.transformation
    let p ← d.generate plan none
    let binding ← cipher.bind draw .encrypt key p
    return ⟨cipher.transformation, .encrypt, plan.alphabet, binding.parameters.getD p, binding,
      []⟩ := by
  simp only [buildPlan, startParameters_encrypt hd, reported, hd]

theorem buildPlan_supplied (hd : plan.direction = .decrypt) (hp : plan.parameters = some p) :
    d.buildPlan draw plan = do
      let key ← d.deriveKey plan
      let cipher ← d.registry.cipher d.pin plan.transformation
      let binding ← cipher.bind draw .decrypt key p
      return ⟨cipher.transformation, .decrypt, plan.alphabet, p, binding, []⟩ := by
  simp only [buildPlan, startParameters, reported, hd, hp, ok_bind]

end

theorem build_dropOpening (hd : s.direction = some .encrypt) (h : s.ReadsIv) :
    build ⟨s, registry, pin⟩ draw = build ⟨s.dropOpening, registry, pin⟩ draw := by
  obtain ⟨iv, hsettle⟩ := Settings.settle_dropOpening h
  refine build_eq hsettle ?_
  intro plan hplan
  have hdir : plan.direction = .encrypt := hplan.direction_iff.1 hd
  exact Eq.trans (buildPlan_encrypt hdir) (buildPlan_encrypt hdir).symm

theorem build_dropGenerating (hd : s.direction = some .decrypt) (hp : s.parameters = some p)
    (h : s.ReadsIv) :
    build ⟨s, registry, pin⟩ draw = build ⟨s.dropGenerating, registry, pin⟩ draw := by
  obtain ⟨iv, hsettle⟩ := Settings.settle_dropGenerating h
  refine build_eq hsettle ?_
  intro plan hplan
  have hdir : plan.direction = .decrypt := hplan.direction_iff.1 hd
  have hsupplied : plan.parameters = some p := hplan.parameters.symm.trans hp
  exact Eq.trans (buildPlan_supplied hdir hsupplied) (buildPlan_supplied hdir hsupplied).symm

theorem parameters_of_build (hd : s.direction = some .decrypt) (hp : s.parameters = some p)
    {e : Engine} (h : build ⟨s, registry, pin⟩ draw = .ok e) : e.parameters = p := by
  obtain ⟨plan, hs, hbuild⟩ := bind_eq_ok.1 h
  have hplan := Settings.settle_eq_ok.1 hs
  rw [buildPlan_supplied (hplan.direction_iff.1 hd) (hplan.parameters.symm.trans hp)] at hbuild
  obtain ⟨key, -, cipher, -, binding, -, he⟩ := by simpa only [bind_eq_ok] using hbuild
  obtain rfl := Except.ok.inj he
  rfl

end Draft

/-! ## Names that are not read -/

namespace Scheme
variable {s : Scheme} {draw : Draw} {direction : Direction} {key key' : Key} {p q : Parameters}

theorem cipher_bind_rename (hkey : key.material = key'.material)
    (hp : p.toParameterSpec = q.toParameterSpec) : s.cipher.bind draw direction key' q =
      (s.cipher.bind draw direction key p).map
        ({ · with parameters := some (q.withIv (s.ivInEffect draw q)) }) := by
  obtain ⟨spec, algorithm⟩ := p
  obtain ⟨spec', algorithm'⟩ := q
  obtain rfl : spec = spec' := hp
  obtain ⟨label, material⟩ := key
  obtain ⟨label', material'⟩ := key'
  obtain rfl : material = material' := hkey
  rw [cipher_bind_eq_ite, cipher_bind_eq_ite]
  by_cases hg : s.Grants direction ⟨label, material⟩ ⟨spec, algorithm⟩
  · have hg' : s.Grants direction ⟨label', material⟩ ⟨spec, algorithm'⟩ := hg
    rw [if_pos hg, if_pos hg']
    rfl
  · have hg' : ¬ s.Grants direction ⟨label', material⟩ ⟨spec, algorithm'⟩ := hg
    rw [if_neg hg, if_neg hg']
    rfl

theorem map_transform_cipher_bind (hkey : key.material = key'.material)
    (hp : p.toParameterSpec = q.toParameterSpec) :
    (s.cipher.bind draw direction key' q).map Binding.transform =
      (s.cipher.bind draw direction key p).map Binding.transform := by
  rw [cipher_bind_rename hkey hp]
  cases s.cipher.bind draw direction key p <;> rfl

theorem cipher_bind_decrypt (hp : p.toParameterSpec = q.toParameterSpec) :
    s.cipher.bind draw .decrypt key q =
      (s.cipher.bind draw .decrypt key p).map ({ · with parameters := some q }) := by
  rw [cipher_bind_rename rfl hp]
  cases hb : s.cipher.bind draw .decrypt key p with
  | error fault => rfl
  | ok binding =>
    obtain ⟨b, hbound, -⟩ := cipher_bind_eq_ok.1 hb
    obtain ⟨-, -, -, iv, hiv, -⟩ := bind_eq_ok.1 hbound
    obtain ⟨-, hgiven | ⟨-, hne, -⟩⟩ := chooseIv_eq_ok.1 hiv
    · have hq : q.iv = some iv := (congrArg ParameterSpec.iv hp).symm.trans hgiven
      have hsame : q.withIv (s.ivInEffect draw q) = q := by
        rw [ivInEffect, hq, Option.getD_some, Parameters.withIv, ← hq]
      rw [hsame]
    · cases hne

end Scheme

namespace Engine

def reporting (e : Engine) (p : Parameters) : Engine :=
  { e with parameters := p, binding := { e.binding with parameters := some p } }

def DecryptsLike (e f : Engine) : Prop :=
  ∀ calls text, ((e.after calls).decrypt text).1 = ((f.after calls).decrypt text).1

theorem decryptsLike_reporting (e : Engine) (p : Parameters) : e.DecryptsLike (e.reporting p) := by
  intro calls text
  have hafter : (e.reporting p).after calls = (e.after calls).reporting p := by
    rw [after_eq, after_eq]
    rfl
  rw [hafter]
  by_cases hd : (e.after calls).direction = .decrypt
  · have hd' : ((e.after calls).reporting p).direction = .decrypt := hd
    rw [decrypt_fst hd, decrypt_fst hd']
    rfl
  · have hd' : ((e.after calls).reporting p).direction ≠ .decrypt := hd
    rw [decrypt_against hd, decrypt_against hd']
    rfl

end Engine

namespace Draft
variable {s t : Settings} {registry : Registry} {pin : Option Provider} {draw : Draw}
variable {p q : Parameters}

theorem build_rename (hd : UsesBuiltIn ⟨s, registry, pin⟩) (hdir : s.direction = some .decrypt)
    (hp : s.parameters = some p) (hpq : p.toParameterSpec = q.toParameterSpec) :
    build ⟨{ s with parameters := some q }, registry, pin⟩ draw =
      (build ⟨s, registry, pin⟩ draw).map (·.reporting q) := by
  have hsettle : Settings.settle { s with parameters := some q } =
      s.settle.map fun plan => { plan with parameters := some q } :=
    Settings.settle_eq_map rfl fun plan hplan => { hplan with parameters := rfl }
  refine build_eq_map hsettle ?_
  intro plan hplan
  have hopens : plan.direction = .decrypt := hplan.direction_iff.1 hdir
  have hsupplied : plan.parameters = some p := hplan.parameters.symm.trans hp
  have hrenamed : buildPlan ⟨{ s with parameters := some q }, registry, pin⟩ draw
      { plan with parameters := some q } = do
        let key ← deriveKey ⟨s, registry, pin⟩ plan
        let cipher ← registry.cipher pin plan.transformation
        let binding ← cipher.bind draw .decrypt key q
        return ⟨cipher.transformation, .decrypt, plan.alphabet, q, binding, []⟩ :=
    buildPlan_supplied hopens rfl
  rw [hrenamed, buildPlan_supplied hopens hsupplied]
  cases deriveKey ⟨s, registry, pin⟩ plan with
  | error fault => rfl
  | ok key =>
    cases hcipher : registry.cipher pin plan.transformation with
    | error fault => rfl
    | ok cipher =>
      -- What was found is built in, and so the cipher of a scheme.
      obtain ⟨scheme, -, rfl⟩ := (cipher_eq_ok hd).1 hcipher
      simp only [ok_bind, Scheme.cipher_bind_decrypt hpq]
      cases scheme.cipher.bind draw .decrypt key p <;> rfl

def DecryptAlike (x y : Except Fault Engine) : Prop :=
  (∃ fault, x = .error fault ∧ y = .error fault) ∨
    ∃ e f, x = .ok e ∧ y = .ok f ∧ e.DecryptsLike f

theorem decryptAlike_reporting (x : Except Fault Engine) (q : Parameters) :
    DecryptAlike x (x.map (·.reporting q)) := by
  cases x with
  | error fault => exact Or.inl ⟨fault, rfl, rfl⟩
  | ok e => exact Or.inr ⟨e, _, rfl, rfl, e.decryptsLike_reporting q⟩

/-- To encrypt, drafts that differ only in what is there to decrypt with build the same engine, or
fail with the same fault. The cipher is bound with parameters that were generated without a vector.
-/
theorem build_encrypt_blind (hd : s.direction = some .encrypt)
    (hst : s.dropOpening = t.dropOpening) (hs : s.ReadsIv) (ht : t.ReadsIv) (registry : Registry)
    (pin : Option Provider) (draw : Draw) :
    build ⟨s, registry, pin⟩ draw = build ⟨t, registry, pin⟩ draw ∧
      ∀ plan p, s.settle = .ok plan → startParameters ⟨s, registry, pin⟩ plan = .ok p →
        ∃ generator, registry.generator pin plan.parametersAlgorithm = .ok generator ∧
          generator.generate ⟨plan.cipherSalt, plan.cipherIterations, none⟩ = .ok p ∧
          (UsesBuiltIn ⟨s, registry, pin⟩ → p.iv = none) := by
  have hd' : t.direction = some .encrypt := (congrArg Settings.direction hst).symm.trans hd
  refine ⟨?_, ?_⟩
  · rw [build_dropOpening hd hs, build_dropOpening hd' ht, hst]
  · intro plan p hplan hstart
    have hdir : plan.direction = .encrypt := (Settings.settle_eq_ok.1 hplan).direction_iff.1 hd
    rw [startParameters_encrypt hdir] at hstart
    obtain ⟨generator, hfound, hgenerated⟩ := bind_eq_ok.1 hstart
    refine ⟨generator, hfound, hgenerated, ?_⟩
    intro hb
    obtain ⟨-, -, -, -, -, rfl⟩ := (generate_eq_ok hb).1 hstart
    rfl

namespace Sample

def laden : Settings :=
  { masked.settings with
    iv := some [1, 2, 3], encodedIv := some "?", parameters := some (start .gcm) }

end Sample

theorem build_encrypt_blind_masked : Sample.masked.settings.direction = some .encrypt ∧
    Sample.masked.settings.dropOpening = Sample.laden.dropOpening ∧
      Sample.masked.settings.ReadsIv ∧ Sample.laden.ReadsIv ∧
        build ⟨Sample.laden, Sample.masked.registry, Sample.masked.pin⟩ Sample.draw =
            .ok (Sample.maskedParts.engine Sample.maskedPlan) ∧
          (Sample.maskedParts.engine Sample.maskedPlan).parameters.iv = none := by
  have hs : Sample.masked.settings.ReadsIv := nofun
  have ht : Sample.laden.ReadsIv := nofun
  have hsame := (build_encrypt_blind (s := Sample.masked.settings) (t := Sample.laden) rfl rfl hs ht
    Sample.masked.registry Sample.masked.pin Sample.draw).1
  exact ⟨rfl, rfl, hs, ht, hsame.symm.trans Sample.build_masked, rfl⟩

/-- To decrypt, supplied parameters are what an engine reports, whatever stands beside them that
parameters could be generated from. A built-in cipher takes no notice of their name or of that of
the key. -/
theorem supplied_prevail (hd : s.direction = some .decrypt) (hp : s.parameters = some p)
    (hs : s.ReadsIv) (registry : Registry) (pin : Option Provider) (draw : Draw) :
    (∀ e, build ⟨s, registry, pin⟩ draw = .ok e → e.parameters = p) ∧
      (∀ t : Settings, t.ReadsIv → t.dropGenerating = s.dropGenerating →
        build ⟨t, registry, pin⟩ draw = build ⟨s, registry, pin⟩ draw) ∧
      (UsesBuiltIn ⟨s, registry, pin⟩ → ∀ q, p.toParameterSpec = q.toParameterSpec →
        DecryptAlike (build ⟨s, registry, pin⟩ draw)
          (build ⟨{ s with parameters := some q }, registry, pin⟩ draw)) ∧
      ∀ (scheme : Scheme) direction key key' q, key.material = key'.material →
        p.toParameterSpec = q.toParameterSpec →
          (scheme.cipher.bind draw direction key' q).map Binding.transform =
            (scheme.cipher.bind draw direction key p).map Binding.transform := by
  refine ⟨?_, ?_, ?_, ?_⟩
  · intro e he
    exact parameters_of_build hd hp he
  · intro t ht hst
    have hd' : t.direction = some .decrypt := (congrArg Settings.direction hst).trans hd
    have hp' : t.parameters = some p := (congrArg Settings.parameters hst).trans hp
    rw [build_dropGenerating hd' hp' ht, build_dropGenerating hd hp hs, hst]
  · intro hb q hpq
    rw [build_rename hb hd hp hpq]
    exact decryptAlike_reporting _ q
  · intro scheme direction key key' q hkey hpq
    exact Scheme.map_transform_cipher_bind hkey hpq

namespace Sample

def crowded : Settings :=
  { (openingDraft .cbc).settings with
    parametersAlgorithm := some "NoSuchAlgorithm", cipherIterations := some 0
    cipherSalt := some [], iv := some [1], encodedIv := some "?" }

def renamed : Settings :=
  { (openingDraft .cbc).settings with
    parameters := some { (engine .cbc).parameters with algorithm := "NoSuchAlgorithm" } }

end Sample

theorem supplied_prevail_sample :
    (Sample.openingDraft .cbc).settings.direction = some .decrypt ∧
      (Sample.openingDraft .cbc).settings.parameters = some (Sample.engine .cbc).parameters ∧
        (Sample.openingDraft .cbc).settings.ReadsIv ∧
          build ⟨Sample.crowded, .standard, none⟩ Sample.draw =
              .ok ((Sample.assembly .cbc).opener (Sample.plan .cbc)) ∧
            ((Sample.assembly .cbc).opener (Sample.plan .cbc)).parameters =
                (Sample.engine .cbc).parameters ∧
              DecryptAlike (build (Sample.openingDraft .cbc) Sample.draw)
                (build ⟨Sample.renamed, .standard, none⟩ Sample.draw) := by
  have hs : (Sample.openingDraft .cbc).settings.ReadsIv := nofun
  have hcrowded : Sample.crowded.ReadsIv := nofun
  have hbuild := Sample.build_openingDraft .cbc
  obtain ⟨hreports, hblind, hnames, -⟩ :=
    supplied_prevail (s := (Sample.openingDraft .cbc).settings) rfl rfl hs .standard none
      Sample.draw
  exact ⟨rfl, rfl, hs, (hblind _ hcrowded rfl).trans hbuild, hreports _ hbuild,
    hnames (Sample.usesBuiltIn .cbc) _ rfl⟩

end Draft
end PasswordSeal
