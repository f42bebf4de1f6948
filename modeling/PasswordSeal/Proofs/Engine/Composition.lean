import PasswordSeal.Proofs.Engine.Assembly
import PasswordSeal.Proofs.Engine.Calls

/-!
# What an engine computes

An engine encrypts by the mode of the scheme that its transformation names. The vector is the one
of its parameters. The AES key is derived by the hash function of that scheme, with the salt and the
iterations of its parameters, from the key that the key algorithm derives from the password. Around
the mode stand the normal form and the bytes of the secret on one side and the alphabet on the
other.
-/
namespace PasswordSeal

/-- The parameters of an engine: generated under the name of a scheme, with a vector that is drawn
or that was set, unless they were supplied to decrypt with. -/
def Plan.Reports (plan : Plan) (draw : Draw) (mode : BlockMode) (q : Parameters) : Prop :=
  match plan.direction, plan.parameters with
  | .decrypt, some p => q = p
  | .decrypt, none => ∃ s, Scheme.ofName? plan.parametersAlgorithm = some s ∧
      q = ⟨⟨plan.cipherSalt, plan.cipherIterations, plan.iv⟩, s.name⟩
  | .encrypt, _ => ∃ s, Scheme.ofName? plan.parametersAlgorithm = some s ∧
      q = ⟨⟨plan.cipherSalt, plan.cipherIterations, some (draw.bytes mode.ivLength)⟩, s.name⟩

namespace Engine

/-- The answers of an engine, after any calls, are those of a mode. Under `gcm` it encrypts once,
and not a text that is too long for the mode. -/
structure Runs (e : Engine) (mode : BlockMode) (cipher : BlockCipher) (iv : Bytes) : Prop where
  transform_encrypt : e.direction = .encrypt → ∀ earlier input, (mode = .gcm → earlier = []) →
    e.binding.transform earlier input =
      (mode.encrypt? cipher iv input).elim (.error .cryptographic) .ok
  transform_takes : e.direction = .encrypt → ∀ earlier input, (mode = .gcm → earlier = []) →
    (mode = .gcm → input.length ≤ Gcm.textLimit) → ∃ output,
      mode.encrypt? cipher iv input = some output ∧ e.binding.transform earlier input = .ok output
  transform_decrypt : e.direction = .decrypt → ∀ earlier input,
    e.binding.transform earlier input =
      (mode.decrypt? cipher iv input).elim (.error .cryptographic) .ok
  encrypt : e.direction = .encrypt → ∀ calls secret,
    (mode = .gcm → ∀ c ∈ calls, ¬ c.Encrypts) → ((e.after calls).encrypt secret).1 =
      (mode.encrypt? cipher iv (Utf8.encode (NormalForm.normalize secret))).elim
        (.error .cryptographic) fun output => .ok (e.alphabet.encode output)
  refuse : e.direction = .encrypt → mode = .gcm → ∀ calls secret, (∃ c ∈ calls, c.Encrypts) →
    ((e.after calls).encrypt secret).1 = .error .cryptographic
  decrypt : e.direction = .decrypt → ∀ calls text, ((e.after calls).decrypt text).1 =
    e.alphabet.read text >>= fun input =>
      (mode.decrypt? cipher iv input).elim (.error .cryptographic) secretOf

theorem runs_of_binding {e : Engine} {s : Scheme} {b : Scheme.Bound} {cipher : BlockCipher}
    (hb : e.binding = s.binding b) (hdir : b.direction = e.direction) (hnew : e.earlier = [])
    (hc : Aes.keyed? b.key = some cipher) : e.Runs s.mode cipher b.iv where
  transform_encrypt hd earlier input hfirst := by
    rw [hb]
    exact Scheme.binding_first hc (hdir.trans hd) hfirst input
  transform_takes hd earlier input hfirst htakes := by
    obtain ⟨output, houtput, -⟩ := s.mode.exists_encrypt? cipher b.iv htakes
    refine ⟨output, houtput, ?_⟩
    rw [hb, Scheme.binding_first hc (hdir.trans hd) hfirst, houtput]
    rfl
  transform_decrypt hd earlier input := by
    rw [hb]
    exact Scheme.binding_decrypt hc (hdir.trans hd) earlier input
  encrypt hd calls secret hfirst := by
    have hnil : s.mode = .gcm → (e.after calls).earlier = [] := by
      intro hm
      exact (earlier_after_eq_nil hd hnew calls).2 (hfirst hm)
    rw [encrypt_fst (by simpa using hd), binding_after, alphabet_after, hb,
      Scheme.binding_first hc (hdir.trans hd) hnil]
    cases s.mode.encrypt? cipher b.iv (Utf8.encode (NormalForm.normalize secret)) <;> rfl
  refuse hd hm calls secret hagain := by
    have hne : (e.after calls).earlier ≠ [] := by
      intro hnil
      obtain ⟨c, hc, he⟩ := hagain
      exact (earlier_after_eq_nil hd hnew calls).1 hnil c hc he
    rw [encrypt_fst (by simpa using hd), binding_after, hb,
      Scheme.binding_again hc (hdir.trans hd) hm hne]
    rfl
  decrypt hd calls text := by
    rw [decrypt_fst (by simpa using hd), binding_after, alphabet_after, hb]
    cases Alphabet.read _ text with
    | error fault => rfl
    | ok input =>
      rw [ok_bind, ok_bind, Scheme.binding_decrypt hc (hdir.trans hd)]
      cases s.mode.decrypt? cipher b.iv input <;> rfl

theorem Runs.exists_text {e : Engine} {mode : BlockMode} {cipher : BlockCipher} {iv : Bytes}
    (h : e.Runs mode cipher iv) (hd : e.direction = .encrypt) {secret : String}
    (ht : mode.Takes (Utf8.encode (NormalForm.normalize secret)).length) :
    ∃ text, ((e.after []).encrypt secret).1 = .ok text := by
  obtain ⟨input, hinput, -⟩ := mode.exists_encrypt? cipher iv ht
  refine ⟨e.alphabet.encode input, ?_⟩
  rw [h.encrypt hd [] secret fun _ => nofun, hinput, Option.elim_some]

structure Composed (e : Engine) (plan : Plan) (draw : Draw) (derivation : KeyDerivation) (key : Key)
    (scheme : Scheme) (iv : Bytes) (cipher : BlockCipher) : Prop where
  derivation_found : KeyDerivation.ofName? plan.keyAlgorithm = some derivation
  key_derived :
    derivation.derive ⟨plan.password, plan.salt, plan.iterations, plan.keyBits⟩ = .ok key
  scheme_found : Scheme.ofName? plan.transformation = some scheme
  reports : plan.Reports draw scheme.mode e.parameters
  iv_reported : e.parameters.iv = some iv
  cipher_keyed : Aes.keyed? (scheme.aesKey key.material e.parameters) = some cipher
  transformation : e.transformation = scheme.name
  direction : e.direction = plan.direction
  alphabet : e.alphabet = plan.alphabet
  runs : e.Runs scheme.mode cipher iv
  encodedIv : e.encodedIv = some (plan.alphabet.encode iv)

end Engine

namespace Draft
variable {d : Draft} {draw : Draw}

section
variable {plan : Plan} {a : Assembly} (h : a.Fits plan draw)
include h

theorem Assembly.Fits.reports (hd : d.UsesBuiltIn) (hp : d.startParameters plan = .ok a.start) :
    plan.Reports draw a.scheme.mode (a.engine plan).parameters := by
  rw [h.parameters_engine, Plan.Reports]
  rw [startParameters] at hp
  cases hdir : plan.direction with
  | encrypt =>
    rw [hdir] at hp
    obtain ⟨s, hs, -, -, -, hstart⟩ := (generate_eq_ok hd).1 hp
    obtain ⟨-, hiv | ⟨-, -, hiv⟩⟩ := Scheme.chooseIv_eq_ok.1 h.bound_eq.1
    · rw [hstart] at hiv
      cases hiv
    · refine ⟨s, hs, ?_⟩
      rw [hstart, hiv]
      rfl
  | decrypt =>
    rw [h.withIv_of_decrypt hdir]
    rw [hdir] at hp
    cases hq : plan.parameters with
    | some p =>
      rw [hq] at hp
      exact (Except.ok.inj hp).symm
    | none =>
      rw [hq] at hp
      obtain ⟨s, hs, -, -, -, hstart⟩ := (generate_eq_ok hd).1 hp
      exact ⟨s, hs, hstart⟩

theorem Assembly.Fits.runs {cipher : BlockCipher} (hc : Aes.keyed? a.bound.key = some cipher) :
    (a.engine plan).Runs a.scheme.mode cipher a.bound.iv :=
  Engine.runs_of_binding rfl h.direction_bound rfl hc

end

theorem exists_composed {e : Engine} (hd : d.UsesBuiltIn) (hb : d.build draw = .ok e) :
    ∃ plan derivation key scheme iv cipher, d.settings.settle = .ok plan ∧
      e.Composed plan draw derivation key scheme iv cipher := by
  obtain ⟨plan, hs, a, ha, hp, rfl⟩ := (build_eq_ok hd).1 hb
  obtain ⟨cipher, hc⟩ := ha.exists_cipher
  exact ⟨plan, a.derivation, a.key, a.scheme, a.bound.iv, cipher, Settings.settle_eq_ok.2 hs,
    { derivation_found := ha.derivation
      key_derived := ha.key
      scheme_found := ha.scheme
      reports := ha.reports hd hp
      iv_reported := ha.iv_engine
      cipher_keyed := ha.key_bound ▸ hc
      transformation := rfl
      direction := rfl
      alphabet := rfl
      runs := ha.runs hc
      encodedIv := ha.encodedIv_engine }⟩

theorem exists_composed_sample : (Sample.draft .cbc).UsesBuiltIn ∧
    (Sample.draft .cbc).build Sample.draw = .ok (Sample.engine .cbc) ∧
      ∃ plan derivation key scheme iv cipher, (Sample.draft .cbc).settings.settle = .ok plan ∧
        (Sample.engine .cbc).Composed plan Sample.draw derivation key scheme iv cipher :=
  ⟨Sample.usesBuiltIn .cbc, Sample.build .cbc,
    exists_composed (Sample.usesBuiltIn .cbc) (Sample.build .cbc)⟩

end Draft
end PasswordSeal
