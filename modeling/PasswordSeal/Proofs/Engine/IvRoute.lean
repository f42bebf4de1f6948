import PasswordSeal.Proofs.Engine.Opening

/-!
# Decrypting with an initialization vector alone

A draft can be given the vector that an engine reports, in place of all its parameters. The
parameters are then generated again, around that vector, for the scheme that the parameters
algorithm names; the vector was drawn for the scheme that the transformation names. So this route
leads to the same engine as the reported parameters do if the two schemes share their mode, and to
a refusal if they do not.
-/
namespace PasswordSeal.Draft
variable {d : Draft} {draw : Draw} {plan : Plan} {a : Assembly} {e : Engine}

/-- Given the vector of an engine, the draft builds the same engine as with all its parameters, and
that engine reports them too. -/
def OpensByIv (d : Draft) (e : Engine) : Prop :=
  ∃ text e', e.encodedIv = some text ∧ e'.parameters = e.parameters ∧
    ∀ draw, d.buildWith [.direction .decrypt, .encodedIv text] draw = .ok e' ∧
      d.buildWith [.direction .decrypt, .parameters e.parameters] draw = .ok e'

def RefusesIv (d : Draft) (e : Engine) : Prop :=
  ∃ text, e.encodedIv = some text ∧
    ∀ draw, d.buildWith [.direction .decrypt, .encodedIv text] draw = .error .cryptographic

theorem OpensByIv.not_refusesIv (h : d.OpensByIv e) : ¬ d.RefusesIv e := by
  rintro ⟨text, htext, hrefused⟩
  obtain ⟨text', e', htext', -, hbuilt⟩ := h
  obtain rfl := Option.some.inj (htext.symm.trans htext')
  have hok := (hbuilt (.ofBytes [])).1
  rw [hrefused] at hok
  cases hok

def withIv (d : Draft) (plan : Plan) (a : Assembly) : Draft :=
  (d.facing .decrypt).change
    ({ · with encodedIv := some (plan.alphabet.encode a.bound.iv) })

theorem settles_withIv (hp : d.settings.parameters = none) (hi : d.settings.iv = none)
    (hs : (d.facing .encrypt).settings.Settles plan) :
    (d.withIv plan a).settings.Settles (plan.opening (some a.bound.iv) none) := by
  have halphabet : d.settings.alphabet = plan.alphabet := hs.alphabet
  have hiv : (d.withIv plan a).settings.settleIv = .ok (some a.bound.iv) := by
    simp only [Settings.settleIv, withIv, facing, change, hi, halphabet, Alphabet.read_encode]
    rfl
  exact { hs with direction := rfl, iv := hiv, parameters := hp }

section
variable (hd : d.UsesBuiltIn) {s : Scheme}
variable (hname : Scheme.ofName? plan.parametersAlgorithm = some s)
variable (hstart : (d.facing .encrypt).generate plan none = .ok a.start)
include hd hname hstart

theorem start_eq : plan.cipherSalt ≠ [] ∧ plan.cipherIterations ≠ 0 ∧
    a.start = ⟨⟨plan.cipherSalt, plan.cipherIterations, none⟩, s.name⟩ := by
  obtain ⟨s', hs', hsalt, hi, -, heq⟩ := (generate_eq_ok (d := d.facing .encrypt) hd).1 hstart
  obtain rfl := Option.some.inj (hs'.symm.trans hname)
  exact ⟨hsalt, hi, heq⟩

theorem startParameters_withIv (h : a.Fits plan draw) (hm : a.scheme.mode = s.mode) :
    (d.withIv plan a).startParameters (plan.opening (some a.bound.iv) none) =
      .ok (a.engine plan).parameters := by
  obtain ⟨hsalt, hi, heq⟩ := start_eq hd hname hstart
  rw [h.parameters_engine, heq]
  refine (generate_eq_ok (d := d.withIv plan a) hd).2 ⟨s, hname, hsalt, hi, ?_, rfl⟩
  intro bytes hbytes
  obtain rfl := Option.some.inj hbytes
  rw [h.length_iv, hm]

omit hstart in
theorem startParameters_withIv_of_ne (h : a.Fits plan draw) (hm : a.scheme.mode ≠ s.mode) :
    (d.withIv plan a).startParameters (plan.opening (some a.bound.iv) none) =
      .error .cryptographic := by
  refine generate_eq_error (d := d.withIv plan a) hd hname ?_
  intro heq
  exact hm (BlockMode.ivLength_injective (h.length_iv.symm.trans heq))

end

theorem opensByIv (hd : d.UsesBuiltIn) (hp : d.settings.parameters = none)
    (hi : d.settings.iv = none) (hs : (d.facing .encrypt).settings.Settles plan)
    (h : a.Fits plan draw) (hstart : (d.facing .encrypt).generate plan none = .ok a.start)
    {s : Scheme} (hname : Scheme.ofName? plan.parametersAlgorithm = some s)
    (hm : a.scheme.mode = s.mode) : d.OpensByIv (a.engine plan) := by
  have hgenerated := startParameters_withIv hd hname hstart h hm
  refine ⟨_, a.opener plan, h.encodedIv_engine, parameters_opener h, ?_⟩
  intro draw'
  constructor
  · exact build_opener (d := d.withIv plan a) hd h (settles_withIv hp hi hs) hgenerated draw'
  · exact buildWith_parameters hd hp hs h draw'

theorem refusesIv (hd : d.UsesBuiltIn) (hp : d.settings.parameters = none)
    (hi : d.settings.iv = none) (hs : (d.facing .encrypt).settings.Settles plan)
    (h : a.Fits plan draw) {s : Scheme}
    (hname : Scheme.ofName? plan.parametersAlgorithm = some s) (hm : a.scheme.mode ≠ s.mode) :
    d.RefusesIv (a.engine plan) := by
  refine ⟨_, h.encodedIv_engine, ?_⟩
  intro draw'
  exact build_eq_error (d := d.withIv plan a) hd (settles_withIv hp hi hs) h.derivation h.key
    h.scheme (startParameters_withIv_of_ne hd hname h hm)

/-- The vector of an engine is as good as its parameters exactly when the transformation and the
parameters algorithm name schemes of one mode. -/
theorem opensByIv_iff (hd : d.UsesBuiltIn) (hp : d.settings.parameters = none)
    (hi : d.settings.iv = none) (he : d.buildWith [.direction .encrypt] draw = .ok e) :
    ∃ plan scheme generator, (d.facing .encrypt).settings.settle = .ok plan ∧
      Scheme.ofName? plan.transformation = some scheme ∧
      Scheme.ofName? plan.parametersAlgorithm = some generator ∧
      (d.OpensByIv e ↔ scheme.mode = generator.mode) ∧
      (d.RefusesIv e ↔ scheme.mode ≠ generator.mode) := by
  obtain ⟨plan, a, hs, h, hstart, -, rfl⟩ := exists_of_encrypt hd he
  obtain ⟨s, hname, -⟩ := (generate_eq_ok (d := d.facing .encrypt) hd).1 hstart
  have hopens := opensByIv hd hp hi hs h hstart hname
  have hrefuses := refusesIv hd hp hi hs h hname
  refine ⟨plan, a.scheme, s, Settings.settle_eq_ok.2 hs, h.scheme, hname, ⟨?_, hopens⟩,
    ⟨?_, hrefuses⟩⟩
  · intro ho
    by_contra hm
    exact ho.not_refusesIv (hrefuses hm)
  · intro hr hm
    exact (hopens hm).not_refusesIv hr

theorem opensByIv_iff_sample : (Sample.draft .gcm).UsesBuiltIn ∧
    (Sample.draft .gcm).settings.parameters = none ∧ (Sample.draft .gcm).settings.iv = none ∧
      (Sample.draft .gcm).buildWith [.direction .encrypt] Sample.draw = .ok (Sample.engine .gcm) ∧
      ∃ plan scheme generator,
        ((Sample.draft .gcm).facing .encrypt).settings.settle = .ok plan ∧
        Scheme.ofName? plan.transformation = some scheme ∧
        Scheme.ofName? plan.parametersAlgorithm = some generator ∧
        ((Sample.draft .gcm).OpensByIv (Sample.engine .gcm) ↔ scheme.mode = generator.mode) ∧
        ((Sample.draft .gcm).RefusesIv (Sample.engine .gcm) ↔ scheme.mode ≠ generator.mode) :=
  ⟨Sample.usesBuiltIn .gcm, rfl, rfl, Sample.buildWith_encrypt .gcm,
    opensByIv_iff (Sample.usesBuiltIn .gcm) rfl rfl (Sample.buildWith_encrypt .gcm)⟩

/-- The sample that encrypts by `gcm` and names its parameters for `cbc` builds to encrypt, and not
to decrypt with the vector of the engine that was built. -/
theorem not_opensByIv_sample : ¬ ∀ (d : Draft) (draw : Draw) (e : Engine), d.UsesBuiltIn →
    d.settings.parameters = none → d.settings.iv = none → d.settings.encodedIv = none →
      d.buildWith [.direction .encrypt] draw = .ok e → d.OpensByIv e := by
  intro hall
  have ho := hall (Sample.draft .cbc) Sample.draw (Sample.engine .cbc) (Sample.usesBuiltIn .cbc)
    rfl rfl rfl (Sample.buildWith_encrypt .cbc)
  refine ho.not_refusesIv (refusesIv (Sample.usesBuiltIn .cbc) rfl rfl (Sample.settles .cbc)
    (Sample.fits .cbc) (Sample.ofName?_parametersName .cbc) ?_)
  decide

end PasswordSeal.Draft
