import PasswordSeal.Proofs.Engine.Opening
import PasswordSeal.Proofs.Engine.Parts
import PasswordSeal.Proofs.Engine.Refusal

/-!
# Getting a secret back with any cipher

A cipher of one's own can stand in for a built-in one. All that is asked of it is that a new binding
opens what an old one has sealed, under the same key and with the parameters that the old one
reports or, if it reports none, with those it was given. The draft does the rest: to decrypt, it
derives the same key under the same name, comes to the same cipher and hands on the parameters of
the engine as they are. How keys are derived and parameters are generated does not matter.
-/
namespace PasswordSeal

/-- What the cipher makes of an input after some others, a new binding turns back. -/
def Cipher.Reopens (c : Cipher) (earlier : List Bytes) : Prop :=
  ∀ draw key p binding, c.bind draw .encrypt key p = .ok binding →
    ∀ input output, binding.transform earlier input = .ok output →
      ∀ draw', ∃ fresh, c.bind draw' .decrypt key (binding.parameters.getD p) = .ok fresh ∧
        fresh.transform [] output = .ok input

theorem Scheme.reopens_cipher (s : Scheme) (earlier : List Bytes) : s.cipher.Reopens earlier := by
  intro draw key p binding hbind input output hout draw'
  obtain ⟨b, hb, rfl⟩ := cipher_bind_eq_ok.1 hbind
  obtain ⟨hm, hi, hs, iv, hiv, rfl⟩ := bind_eq_ok.1 hb
  have hopens : s.bind draw' .decrypt key (p.withIv iv) =
      .ok ⟨.decrypt, s.aesKey key.material p, iv, p.withIv iv⟩ :=
    bind_eq_ok.2 ⟨hm, hi, hs, iv, chooseIv_eq_ok.2 ⟨(chooseIv_eq_ok.1 hiv).1, Or.inl rfl⟩, rfl⟩
  refine ⟨_, cipher_bind_eq_ok.2 ⟨_, hopens, rfl⟩, ?_⟩
  dsimp only [binding] at hout ⊢
  cases hk : Aes.keyed? (s.aesKey key.material p) with
  | none =>
    -- There is no AES of this key size, and so there is no output.
    simp [transform, hk] at hout
  | some cipher =>
    rw [transform_encrypt hk rfl] at hout
    split at hout
    · cases hout
    · have hback := (s.mode.decrypt?_eq_some_iff (Aes.keyed?_permutes hk)).2 (elim_eq_ok.1 hout)
      rw [transform_decrypt hk rfl, hback, Option.elim_some]

namespace Draft

section
variable {d : Draft} {draw : Draw} {plan : Plan} {e : Engine}

namespace Parts
variable {a : Parts}

def rebound (a : Parts) (plan : Plan) (fresh : Binding) : Parts :=
  { a with start := (a.engine plan).parameters, binding := fresh }

theorem Fit.rebound (h : a.Fit (d.facing .encrypt) plan draw) {fresh : Binding} {draw' : Draw}
    (hfresh : a.cipher.bind draw' .decrypt (a.key.rewrap plan.transformation)
      (a.engine plan).parameters = .ok fresh) :
    (a.rebound plan fresh).Fit (d.openedWith (a.engine plan).parameters)
      (plan.opening plan.iv (some (a.engine plan).parameters)) draw' :=
  ⟨h.derivation, h.key, h.cipher, rfl, hfresh⟩

theorem parameters_engine (hdir : plan.direction = .encrypt) :
    (a.engine plan).parameters = a.binding.parameters.getD a.start := by
  rw [engine, reported, hdir]

end Parts

/-- What an engine encrypts is decrypted by the same draft with the parameters of that engine,
whatever the providers are, as long as the cipher opens what it has sealed. -/
theorem decrypts_of_reopens {c : Cipher} (hp : d.settings.parameters = none)
    (hc : d.registry.cipher d.pin d.settings.cipherName = .ok c)
    (he : d.buildWith [.direction .encrypt] draw = .ok e) {calls : List Engine.Call}
    (hr : c.Reopens (e.after calls).earlier) {secret text : String}
    (ht : ((e.after calls).encrypt secret).1 = .ok text) (draw' : Draw) :
    ∃ f, d.buildWith [.direction .decrypt, .parameters e.parameters] draw' = .ok f ∧
      (f.decrypt text).1 = .ok (NormalForm.normalize secret) := by
  obtain ⟨plan, hs, a, h, rfl⟩ := (build_eq_ok_parts (d := d.facing .encrypt)).1 he
  have hdir : plan.direction = .encrypt := (Option.some.inj hs.direction).symm
  have hsame : a.cipher = c := by
    have hfound := h.cipher
    rw [hs.cipherName] at hfound
    exact Except.ok.inj (hfound.symm.trans hc)
  have hbound : a.cipher.bind draw .encrypt (a.key.rewrap plan.transformation) a.start =
      .ok a.binding := hdir ▸ h.binding
  rw [Engine.encrypt_fst ((Engine.direction_after _ _).trans hdir), Engine.binding_after,
    Engine.alphabet_after] at ht
  obtain ⟨output, hout, rfl⟩ := map_eq_ok.1 ht
  -- The cipher answers for what it reports or else was given, which is what the engine reports.
  obtain ⟨fresh, hfresh, hback⟩ := (hsame ▸ hr) draw _ a.start a.binding hbound _ output hout draw'
  rw [← Parts.parameters_engine hdir] at hfresh
  refine ⟨(a.rebound plan fresh).engine (plan.opening plan.iv (some (a.engine plan).parameters)),
    ?_, ?_⟩
  · rw [buildWith_openedWith hp]
    exact build_eq_ok_parts.2 ⟨_, settles_openedWith hs _, _, h.rebound hfresh, rfl⟩
  · rw [Engine.decrypt_fst rfl]
    dsimp only [Parts.engine, Parts.rebound, Plan.opening]
    rw [Alphabet.read_encode, ok_bind, hback, ok_bind, Engine.secretOf, Utf8.decode_encode]
    rfl

end

namespace Sample

def mask : Cipher where
  transformation := "Mask"
  bind _ _ key _ :=
    .ok ⟨none, fun _ input => .ok (input.map (· ^^^ key.material.headD 0))⟩

def masking : Provider where
  name := "Masking"
  keyDerivation? _ := none
  cipher? name := if name = "Mask" then some mask else none
  generator? _ := none
  algorithms := ["Mask"]

theorem reopens_mask (earlier : List Bytes) : mask.Reopens earlier := by
  intro draw key p binding hbind input output hout draw'
  obtain rfl := Except.ok.inj hbind
  obtain rfl := Except.ok.inj hout
  have hback (x k : UInt8) : x ^^^ k ^^^ k = x := by
    rw [UInt8.xor_assoc, UInt8.xor_self, UInt8.xor_zero]
  refine ⟨_, rfl, congrArg Except.ok ?_⟩
  rw [List.map_map]
  exact (List.map_congr_left fun x _ => hback x _).trans (List.map_id' input)

def masked : Draft :=
  { (draft .cbc).change ({ · with transformation := some "Mask" }) with
    registry := ⟨[masking, .builtIn]⟩ }

def maskedParts : Parts where
  derivation := .ofDigest .sha512
  key := key
  cipher := mask
  start := start .cbc
  binding := ⟨none, fun _ input => .ok (input.map (· ^^^ key.material.headD 0))⟩

def maskedPlan : Plan :=
  { plan .cbc with transformation := "Mask" }

theorem settles_masked : masked.settings.Settles maskedPlan :=
  ⟨rfl, rfl, rfl, rfl, rfl, rfl, rfl, rfl, rfl, rfl, rfl, rfl, rfl⟩

theorem fit_masked : maskedParts.Fit masked maskedPlan draw where
  derivation := rfl
  key := (fits .cbc).key
  cipher := rfl
  start := startParameters_eq_ok.2 (Or.inr ⟨Or.inl rfl, .ofScheme ⟨.sha1, 32, .cbc⟩, rfl,
    ParameterGenerator.generate_eq_ok.2 ⟨List.cons_ne_nil _ _, by decide, nofun, rfl⟩⟩)
  binding := rfl

theorem build_masked : masked.build draw = .ok (maskedParts.engine maskedPlan) :=
  build_eq_ok_parts.2 ⟨maskedPlan, settles_masked, maskedParts, fit_masked, rfl⟩

theorem buildWith_masked :
    masked.buildWith [.direction .encrypt] draw = .ok (maskedParts.engine maskedPlan) := by
  have hset : masked.setAll [.direction .encrypt] = .ok masked := rfl
  rw [buildWith, hset, ok_bind]
  exact build_masked

end Sample

theorem decrypts_of_reopens_masked : Sample.masked.settings.parameters = none ∧
    Sample.masked.registry.cipher Sample.masked.pin Sample.masked.settings.cipherName =
        .ok Sample.mask ∧
      Sample.masked.buildWith [.direction .encrypt] Sample.draw =
        .ok (Sample.maskedParts.engine Sample.maskedPlan) ∧
      Sample.mask.Reopens ((Sample.maskedParts.engine Sample.maskedPlan).after []).earlier ∧
      (Sample.maskedParts.engine Sample.maskedPlan).parameters = Sample.start .cbc ∧
      ∃ text, (((Sample.maskedParts.engine Sample.maskedPlan).after []).encrypt
          "meet me at noon").1 = .ok text ∧
        ∃ f, Sample.masked.buildWith [.direction .decrypt,
            .parameters (Sample.maskedParts.engine Sample.maskedPlan).parameters] Sample.draw =
              .ok f ∧
          (f.decrypt text).1 = .ok (NormalForm.normalize "meet me at noon") := by
  have htext := Engine.encrypt_fst (e := (Sample.maskedParts.engine Sample.maskedPlan).after [])
    rfl "meet me at noon"
  exact ⟨rfl, rfl, Sample.buildWith_masked, Sample.reopens_mask _, rfl, _, htext,
    decrypts_of_reopens rfl rfl Sample.buildWith_masked (Sample.reopens_mask _) htext Sample.draw⟩

end Draft
end PasswordSeal
