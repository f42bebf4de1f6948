import PasswordSeal.Proofs.Engine.Acceptance
import PasswordSeal.Proofs.Engine.Refusal

/-!
# Decrypting chained blocks with another vector

Chained blocks carry no tag, so a text may well decrypt with another vector than the one it was
encrypted with. What comes out is never the secret. Where the difference shows, in the first block,
in the padding or in bytes that spell no characters, does not matter: under one key nothing is
encrypted alike with two vectors, so a text that decrypts with both decrypts to two things.

Nothing is asked of the algorithms that derive the key and generate parameters, as long as the
parameters of both engines are alike but for the vector. With the built-in algorithms they are.
-/
namespace PasswordSeal

namespace Engine
variable {e f : Engine}

/-- Whatever was asked of either before, a text that one engine encrypts is not decrypted to its
secret by the other, but to another one or not at all. -/
def HidesFrom (e f : Engine) : Prop :=
  ∀ calls secret text, ((e.after calls).encrypt secret).1 = .ok text → ∀ calls',
    ((f.after calls').decrypt text).1 = .error .cryptographic ∨
      ∃ other, ((f.after calls').decrypt text).1 = .ok other ∧ other ≠ NormalForm.normalize secret

theorem Runs.hidesFrom {cipher : BlockCipher} {v w : Bytes} (he : e.Runs .cbc cipher v)
    (hf : f.Runs .cbc cipher w) (hseals : e.direction = .encrypt) (hopens : f.direction = .decrypt)
    (halphabet : f.alphabet = e.alphabet) (hc : cipher.Permutes) (hv : v.length = 16)
    (hw : w.length = 16) (hne : v ≠ w) : e.HidesFrom f := by
  intro calls secret text htext calls'
  obtain ⟨input, hinput, rfl⟩ := he.exists_sealed hseals htext
  rw [hf.decrypt hopens, halphabet, Alphabet.read_encode, ok_bind]
  change reveal .cbc cipher w input = _ ∨ ∃ other, reveal .cbc cipher w input = _ ∧ _
  cases hr : reveal .cbc cipher w input with
  | error fault => exact Or.inl (congrArg Except.error (reveal_eq_error hr))
  | ok other =>
    refine Or.inr ⟨other, rfl, ?_⟩
    rintro rfl
    have hsame := hinput.trans ((reveal_eq_ok hc).1 hr).symm
    exact hne (Cbc.iv_eq_of_encrypt hc.injective hv hw (Option.some.inj hsame))

end Engine

namespace Draft

section
variable {d : Draft} {draw draw' : Draw} {plan plan' : Plan} {e : Engine} {s : Scheme} {w : Bytes}
variable {iv given : Option Bytes} {encodedIv : Option String} {parameters : Option Parameters}

def turned (d : Draft) (iv : Option Bytes) (encodedIv : Option String)
    (parameters : Option Parameters) : Draft :=
  (d.facing .decrypt).change ({ · with iv, encodedIv, parameters })

/-- The draft builds the second engine to decrypt, around a vector and otherwise with the
parameters of the first. -/
structure Turns (d : Draft) (e f : Engine) (w : Bytes) : Prop where
  built : ∃ iv encodedIv parameters draw, (d.turned iv encodedIv parameters).build draw = .ok f
  iv : f.parameters.iv = some w
  salt : f.parameters.salt = e.parameters.salt
  iterations : f.parameters.iterations = e.parameters.iterations

theorem exists_opening (hs : (d.facing .encrypt).settings.Settles plan)
    (hs' : (d.turned iv encodedIv parameters).settings.Settles plan') :
    ∃ given, plan' = plan.opening given parameters := by
  have hopening : (d.turned iv encodedIv parameters).settings.Settles
      (plan.opening plan'.iv parameters) :=
    { hs with direction := rfl, iv := hs'.iv, parameters := rfl }
  have hsame := (Settings.settle_eq_ok.2 hs').symm.trans (Settings.settle_eq_ok.2 hopening)
  exact ⟨plan'.iv, Except.ok.inj hsame⟩

namespace Parts
variable {a b : Parts}

theorem Fit.exists_bound (h : a.Fit d plan draw) (hs : a.cipher = s.cipher) :
    ∃ bound, s.bind draw plan.direction (a.key.rewrap plan.transformation) a.start = .ok bound ∧
      s.binding bound = a.binding := by
  rw [← Scheme.cipher_bind_eq_ok, ← hs]
  exact h.binding

theorem Fit.exists_runs (h : a.Fit d plan draw) (hs : a.cipher = s.cipher) :
    ∃ v, v.length = s.mode.ivLength ∧ (a.engine plan).parameters = a.start.withIv v ∧
      ∀ cipher, Aes.keyed? (s.aesKey a.key.material (a.engine plan).parameters) = some cipher →
        (a.engine plan).Runs s.mode cipher v := by
  obtain ⟨bound, hbound, hbinding⟩ := h.exists_bound hs
  obtain ⟨-, -, -, v, hv, rfl⟩ := Scheme.bind_eq_ok.1 hbound
  obtain ⟨hlength, hgiven⟩ := Scheme.chooseIv_eq_ok.1 hv
  have hreports : (a.engine plan).parameters = a.start.withIv v := by
    rw [engine, reported]
    cases hdir : plan.direction with
    | encrypt =>
      rw [← hbinding]
      rfl
    | decrypt =>
      -- To decrypt, no vector is drawn.
      rcases hgiven with hgiven | ⟨-, hne, -⟩
      · dsimp only
        rw [Parameters.withIv, ← hgiven]
      · cases hdir.symm.trans hne
  refine ⟨v, hlength, hreports, ?_⟩
  intro cipher hc
  rw [hreports, Scheme.aesKey_withIv] at hc
  exact Engine.runs_of_binding (b := ⟨_, _, v, _⟩) hbinding.symm rfl rfl hc

theorem Fit.rebind (h : a.Fit d plan draw) (hs : a.cipher = s.cipher)
    (hw : w.length = s.mode.ivLength) (draw' : Draw) :
    ∃ binding, a.cipher.bind draw' .decrypt (a.key.rewrap plan.transformation)
      (a.start.withIv w) = .ok binding := by
  obtain ⟨bound, hbound, -⟩ := h.exists_bound hs
  obtain ⟨hm, hi, hsalt, -⟩ := Scheme.bind_eq_ok.1 hbound
  have hchosen : s.chooseIv draw' .decrypt (a.start.withIv w).iv = .ok w :=
    Scheme.chooseIv_eq_ok.2 ⟨hw, Or.inl rfl⟩
  rw [hs]
  exact ⟨_, Scheme.cipher_bind_eq_ok.2
    ⟨_, Scheme.bind_eq_ok.2 ⟨hm, hi, hsalt, w, hchosen, rfl⟩, rfl⟩⟩

theorem Fit.of_turned (ha : a.Fit (d.facing .encrypt) plan draw)
    (hb : b.Fit (d.turned iv encodedIv parameters) (plan.opening given parameters) draw') :
    b.key = a.key ∧ b.cipher = a.cipher := by
  have hderivation : b.derivation = a.derivation :=
    Except.ok.inj (hb.derivation.symm.trans ha.derivation)
  have hkey := hb.key
  rw [hderivation] at hkey
  exact ⟨Except.ok.inj (hkey.symm.trans ha.key), Except.ok.inj (hb.cipher.symm.trans ha.cipher)⟩

section
variable (ha : a.Fit (d.facing .encrypt) plan draw) (hcipher : a.cipher = s.cipher)
variable (hs : (d.facing .encrypt).settings.Settles plan)
include ha hcipher hs

theorem Fit.hidesFrom (hm : s.mode = .cbc) (hk : s.Keyed)
    (hw : (a.engine plan).parameters.iv ≠ some w) {f : Engine}
    (hf : d.Turns (a.engine plan) f w) : (a.engine plan).HidesFrom f := by
  have hdir : plan.direction = .encrypt := (Option.some.inj hs.direction).symm
  obtain ⟨⟨iv, encodedIv, parameters, draw', hbuild⟩, hiv, hsalt, hiterations⟩ := hf
  obtain ⟨plan', hs', b, hb, rfl⟩ := build_eq_ok_parts.1 hbuild
  obtain ⟨given, rfl⟩ := exists_opening hs hs'
  obtain ⟨hkey, hsame⟩ := ha.of_turned hb
  obtain ⟨v, hv, hreports, hruns⟩ := ha.exists_runs hcipher
  obtain ⟨u, hu, hreports', hruns'⟩ := hb.exists_runs (hsame.trans hcipher)
  have haes : s.aesKey b.key.material (b.engine (plan.opening given parameters)).parameters =
      s.aesKey a.key.material (a.engine plan).parameters := by
    rw [Scheme.aesKey, Scheme.aesKey, hkey, hsalt, hiterations]
  obtain ⟨cipher, hc⟩ := Scheme.exists_aes hk a.key.material (a.engine plan).parameters
  rw [hreports] at hw
  rw [hreports'] at hiv
  obtain rfl := Option.some.inj hiv
  have he := hruns cipher hc
  have hf := hruns' cipher (haes ▸ hc)
  rw [hm] at he hf hv hu
  exact he.hidesFrom hf hdir rfl rfl (Aes.keyed?_permutes hc) hv hu fun h => hw (congrArg some h)

theorem Fit.exists_turns (hw : w.length = s.mode.ivLength) (draw' : Draw) :
    ∃ f, d.Turns (a.engine plan) f w ∧ (d.turned none none
      (some ((a.engine plan).parameters.withIv w))).build draw' = .ok f := by
  obtain ⟨v, -, hreports, -⟩ := ha.exists_runs hcipher
  obtain ⟨binding, hbinding⟩ := ha.rebind hcipher hw draw'
  have hfit : Fit { a with start := a.start.withIv w, binding } (d.turned none none
      (some (a.start.withIv w))) (plan.opening none (some (a.start.withIv w))) draw' :=
    ⟨ha.derivation, ha.key, ha.cipher, rfl, hbinding⟩
  have hsettles : (d.turned none none (some (a.start.withIv w))).settings.Settles
      (plan.opening none (some (a.start.withIv w))) :=
    { hs with direction := rfl, iv := rfl, parameters := rfl }
  have hbuild := build_eq_ok_parts.2 ⟨_, hsettles, _, hfit, rfl⟩
  have hsame : (a.engine plan).parameters.withIv w = a.start.withIv w := by
    rw [hreports]
    rfl
  refine ⟨_, ⟨⟨_, _, _, _, hbuild⟩, rfl, ?_, ?_⟩, hsame ▸ hbuild⟩
  · rw [hreports]
    rfl
  · rw [hreports]
    rfl

end

end Parts

theorem turns_of_builtIn (hd : d.UsesBuiltIn)
    (he : d.buildWith [.direction .encrypt] draw = .ok e) {f : Engine}
    (hf : (d.turned iv encodedIv none).build draw' = .ok f) (hw : f.parameters.iv = some w) :
    d.Turns e f w := by
  obtain ⟨plan, a, hs, ha, hstart, -, rfl⟩ := exists_of_encrypt hd he
  obtain ⟨plan', hs', b, hb, hstart', rfl⟩ :=
    (build_eq_ok (d := d.turned iv encodedIv none) hd).1 hf
  obtain ⟨given, rfl⟩ := exists_opening hs hs'
  obtain ⟨_, -, -, -, -, hgenerated⟩ := (generate_eq_ok (d := d.facing .encrypt) hd).1 hstart
  obtain ⟨_, -, -, -, -, hgenerated'⟩ :=
    (generate_eq_ok (d := d.turned iv encodedIv none) hd).1 hstart'
  refine ⟨⟨iv, encodedIv, none, draw', hf⟩, hw, ?_, ?_⟩
  · rw [ha.parameters_engine, hb.parameters_engine, hgenerated, hgenerated']
    rfl
  · rw [ha.parameters_engine, hb.parameters_engine, hgenerated, hgenerated']
    rfl

end

namespace Sample

def chainedScheme : Scheme := ⟨.sha256, 16, .cbc⟩

def chained : Draft :=
  (draft .cbc).change ({ · with transformation := some "PBEWithHmacSHA256AndAES_128" })

def chainedPlan : Plan :=
  { plan .cbc with transformation := "PBEWithHmacSHA256AndAES_128" }

def chainedParts : Parts where
  derivation := .ofDigest .sha512
  key := key
  cipher := chainedScheme.cipher
  start := start .cbc
  binding := chainedScheme.binding ⟨.encrypt, chainedScheme.aesKey key.material (start .cbc),
    List.replicate 16 0, (start .cbc).withIv (List.replicate 16 0)⟩

theorem cipher_chained : chained.registry.cipher chained.pin chained.settings.cipherName =
    .ok chainedScheme.cipher :=
  (cipher_eq_ok (usesBuiltIn .cbc)).2 ⟨chainedScheme, rfl, rfl⟩

theorem settles_chained : chained.settings.Settles chainedPlan :=
  { settles .cbc with transformation := rfl }

theorem fit_chained : chainedParts.Fit chained chainedPlan draw where
  derivation := rfl
  key := (fits .cbc).key
  cipher := cipher_chained
  start := (generate_eq_ok (d := chained) (usesBuiltIn .cbc)).2 ⟨⟨.sha1, 32, .cbc⟩,
    ofName?_parametersName .cbc, List.cons_ne_nil _ _, by decide, nofun, rfl⟩
  binding := Scheme.cipher_bind_eq_ok.2 ⟨_, Scheme.bind_eq_ok.2
    ⟨material_ne_nil, by decide, List.cons_ne_nil _ _, _, rfl, rfl⟩, rfl⟩

theorem buildWith_chained : chained.buildWith [.direction .encrypt] draw =
    .ok (chainedParts.engine chainedPlan) := by
  have hset : chained.setAll [.direction .encrypt] = .ok chained := rfl
  rw [buildWith, hset, ok_bind]
  exact build_eq_ok_parts.2 ⟨chainedPlan, settles_chained, chainedParts, fit_chained, rfl⟩

end Sample

/-- Under chained blocks, an engine hides its secrets from every engine that the same draft builds
around another vector. Any vector of the right length gets such an engine, if it is put into the
parameters that are reported. -/
theorem hidesFrom_of_other_iv {d : Draft} {draw : Draw} {e : Engine} {s : Scheme} {w : Bytes}
    (hm : s.mode = .cbc) (hk : s.Keyed)
    (hc : d.registry.cipher d.pin d.settings.cipherName = .ok s.cipher)
    (he : d.buildWith [.direction .encrypt] draw = .ok e) (hw : e.parameters.iv ≠ some w) :
    (∀ f, d.Turns e f w → e.HidesFrom f) ∧
      (w.length = 16 → ∀ draw', ∃ f, d.Turns e f w ∧
        (d.turned none none (some (e.parameters.withIv w))).build draw' = .ok f) ∧
      (d.UsesBuiltIn → ∀ iv encodedIv draw' f, (d.turned iv encodedIv none).build draw' = .ok f →
        f.parameters.iv = some w → d.Turns e f w) := by
  obtain ⟨plan, hs, a, ha, rfl⟩ := (build_eq_ok_parts (d := d.facing .encrypt)).1 he
  have hcipher : a.cipher = s.cipher := by
    have hfound := ha.cipher
    rw [hs.cipherName] at hfound
    exact Except.ok.inj (hfound.symm.trans hc)
  refine ⟨?_, ?_, ?_⟩
  · intro f hf
    exact ha.hidesFrom hcipher hs hm hk hw hf
  · intro hlength draw'
    refine ha.exists_turns hcipher hs ?_ draw'
    rw [hm]
    exact hlength
  · intro hd iv encodedIv draw' f hf hiv
    exact turns_of_builtIn hd he hf hiv

theorem hidesFrom_of_other_iv_sample : Sample.chainedScheme.mode = .cbc ∧
    Sample.chainedScheme.Keyed ∧
      Sample.chained.registry.cipher Sample.chained.pin Sample.chained.settings.cipherName =
          .ok Sample.chainedScheme.cipher ∧
        Sample.chained.buildWith [.direction .encrypt] Sample.draw =
            .ok (Sample.chainedParts.engine Sample.chainedPlan) ∧
          (Sample.chainedParts.engine Sample.chainedPlan).parameters.iv ≠
              some (List.replicate 16 1) ∧
            ∃ (f : Engine) (text : String), f.parameters.iv = some (List.replicate 16 1) ∧
              (((Sample.chainedParts.engine Sample.chainedPlan).after []).encrypt
                  "meet me at noon by the mill").1 = .ok text ∧
                ((f.after []).decrypt text).1 ≠
                  .ok (NormalForm.normalize "meet me at noon by the mill") := by
  have hkeyed : Sample.chainedScheme.Keyed := Or.inl rfl
  have hother : (Sample.chainedParts.engine Sample.chainedPlan).parameters.iv ≠
      some (List.replicate 16 1) := by decide
  obtain ⟨hhides, hturns, -⟩ := hidesFrom_of_other_iv rfl hkeyed Sample.cipher_chained
    Sample.buildWith_chained hother
  obtain ⟨f, hf, -⟩ := hturns rfl Sample.draw
  obtain ⟨v, -, -, hruns⟩ := Sample.fit_chained.exists_runs (s := Sample.chainedScheme) rfl
  obtain ⟨cipher, hc⟩ := Scheme.exists_aes hkeyed Sample.key.material
    (Sample.chainedParts.engine Sample.chainedPlan).parameters
  have htakes : Sample.chainedScheme.mode.Takes
      (Utf8.encode (NormalForm.normalize "meet me at noon by the mill")).length := nofun
  obtain ⟨text, htext⟩ := (hruns cipher hc).exists_text rfl htakes
  refine ⟨rfl, hkeyed, Sample.cipher_chained, Sample.buildWith_chained, hother, f, text, hf.iv,
    htext, ?_⟩
  intro hsame
  rcases hhides f hf [] _ text htext [] with hrefused | ⟨other, hopened, hne⟩
  · cases hsame.symm.trans hrefused
  · exact hne (Except.ok.inj (hopened.symm.trans hsame))

end Draft
end PasswordSeal
