import PasswordSeal.Proofs.Engine.Opening

/-!
# What a decrypting engine accepts

An engine that decrypts has a counterpart: its cipher, bound to encrypt with the same key and the
same parameters. A text is accepted exactly when its alphabet reads it as what the counterpart makes
of a secret, and that secret is the answer. A text that the alphabet cannot read is refused with the
flaw that was found. Every other text is refused in one and the same way, whether its length, its
padding, its tag or the bytes behind them are wrong.
-/
namespace PasswordSeal

theorem Alphabet.read_eq_ok {a : Alphabet} {text : String} {bytes : Bytes} :
    a.read text = .ok bytes ↔ a.decode text = .ok bytes :=
  mapError_eq_ok

theorem Alphabet.read_eq_error {a : Alphabet} {text : String} {fault : Fault} :
    a.read text = .error fault ↔ ∃ flaw, a.decode text = .error flaw ∧ .undecodable flaw = fault :=
  mapError_eq_error

/-- The cipher of a plan, bound to encrypt with the key of the plan and with these parameters. It
is the same binding whatever is drawn, as the parameters have a vector. -/
def Plan.Seals (plan : Plan) (p : Parameters) (sealing : Binding) : Prop :=
  ∃ derivation key scheme, KeyDerivation.ofName? plan.keyAlgorithm = some derivation ∧
    derivation.derive ⟨plan.password, plan.salt, plan.iterations, plan.keyBits⟩ = .ok key ∧
      Scheme.ofName? plan.transformation = some scheme ∧
        ∀ draw, scheme.cipher.bind draw .encrypt key p = .ok sealing

namespace Engine

theorem secretOf_eq_ok {bytes : Bytes} {secret : String} :
    secretOf bytes = .ok secret ↔ bytes = Utf8.encode secret :=
  mapError_eq_ok.trans Utf8.decode_eq_ok_iff

theorem secretOf_eq_error {bytes : Bytes} {fault : Fault} (h : secretOf bytes = .error fault) :
    fault = .cryptographic := by
  obtain ⟨_, -, rfl⟩ := mapError_eq_error.1 h
  rfl

/-- After any calls, the engine decrypts what the sealing makes of a secret and nothing else. The
sealing refuses no text that its mode takes. -/
structure Opens (e : Engine) (mode : BlockMode) (sealing : Binding) : Prop where
  seals : ∀ input, (mode = .gcm → input.length ≤ Gcm.textLimit) →
    ∃ output, sealing.transform [] input = .ok output
  accepts : ∀ calls text secret, ((e.after calls).decrypt text).1 = .ok secret ↔
    ∃ input, e.alphabet.decode text = .ok input ∧
      sealing.transform [] (Utf8.encode secret) = .ok input
  undecodable : ∀ calls text flaw, ((e.after calls).decrypt text).1 = .error (.undecodable flaw) ↔
    e.alphabet.decode text = .error flaw
  cryptographic : ∀ calls text, ((e.after calls).decrypt text).1 = .error .cryptographic ↔
    ∃ input, e.alphabet.decode text = .ok input ∧
      ∀ secret, sealing.transform [] (Utf8.encode secret) ≠ .ok input

section
variable {mode : BlockMode} {cipher : BlockCipher} {iv input : Bytes}

def reveal (mode : BlockMode) (cipher : BlockCipher) (iv input : Bytes) : Except Fault String :=
  (mode.decrypt? cipher iv input).elim (.error .cryptographic) secretOf

theorem reveal_eq_ok (hc : cipher.Permutes) {secret : String} :
    reveal mode cipher iv input = .ok secret ↔
      mode.encrypt? cipher iv (Utf8.encode secret) = some input := by
  rw [← mode.decrypt?_eq_some_iff hc, reveal]
  cases mode.decrypt? cipher iv input with
  | none => simp
  | some plain => rw [Option.elim_some, secretOf_eq_ok, Option.some.injEq]

theorem reveal_eq_error {fault : Fault} (h : reveal mode cipher iv input = .error fault) :
    fault = .cryptographic := by
  rw [reveal] at h
  cases hp : mode.decrypt? cipher iv input with
  | none =>
    rw [hp] at h
    exact (Except.error.inj h).symm
  | some plain =>
    rw [hp] at h
    exact secretOf_eq_error h

theorem reveal_eq_cryptographic (hc : cipher.Permutes) :
    reveal mode cipher iv input = .error .cryptographic ↔
      ∀ secret, mode.encrypt? cipher iv (Utf8.encode secret) ≠ some input := by
  simp only [ne_eq, ← reveal_eq_ok hc]
  cases h : reveal mode cipher iv input with
  | ok secret => simp
  | error fault => simp [reveal_eq_error h]

end

theorem Runs.opens {e : Engine} {mode : BlockMode} {cipher : BlockCipher} {iv : Bytes}
    (h : e.Runs mode cipher iv) (hd : e.direction = .decrypt) (hc : cipher.Permutes)
    {sealing : Binding} (hs : ∀ input, sealing.transform [] input =
      (mode.encrypt? cipher iv input).elim (.error .cryptographic) .ok) :
    e.Opens mode sealing := by
  have hanswer (calls : List Call) (text : String) : ((e.after calls).decrypt text).1 =
      e.alphabet.read text >>= reveal mode cipher iv := h.decrypt hd calls text
  refine ⟨?_, ?_, ?_, ?_⟩
  · intro input htakes
    obtain ⟨output, houtput, -⟩ := mode.exists_encrypt? cipher iv htakes
    exact ⟨output, by rw [hs, houtput, Option.elim_some]⟩
  · intro calls text secret
    simp only [hanswer, bind_eq_ok, Alphabet.read_eq_ok, reveal_eq_ok hc, hs, elim_eq_ok]
  · intro calls text flaw
    rw [hanswer, bind_eq_error, Alphabet.read_eq_error]
    constructor
    · rintro (⟨found, hf, heq⟩ | ⟨input, -, hr⟩)
      · rw [hf, Fault.undecodable.inj heq]
      · cases reveal_eq_error hr
    · intro hf
      exact Or.inl ⟨flaw, hf, rfl⟩
  · intro calls text
    simp only [hanswer, bind_eq_error, Alphabet.read_eq_ok, Alphabet.read_eq_error,
      reveal_eq_cryptographic hc, hs, ne_eq, elim_eq_ok, reduceCtorEq, and_false, exists_false,
      false_or]

end Engine

namespace Draft
variable {d : Draft} {draw : Draw} {plan : Plan} {a : Assembly} {e : Engine}

def Assembly.sealed (a : Assembly) (plan : Plan) : Scheme.Bound :=
  ⟨.encrypt, a.bound.key, a.bound.iv, (a.engine plan).parameters⟩

theorem Assembly.Fits.seals (h : a.Fits plan draw) :
    plan.Seals (a.engine plan).parameters (a.scheme.binding (a.sealed plan)) := by
  refine ⟨a.derivation, a.key, a.scheme, h.derivation, h.key, h.scheme, ?_⟩
  intro draw'
  exact Scheme.cipher_bind_eq_ok.2 ⟨_, h.bind_reported draw' .encrypt, rfl⟩

theorem Assembly.transform_sealed {cipher : BlockCipher} (hc : Aes.keyed? a.bound.key = some cipher)
    (plan : Plan) (input : Bytes) : (a.scheme.binding (a.sealed plan)).transform [] input =
      (a.scheme.mode.encrypt? cipher a.bound.iv input).elim (.error .cryptographic) .ok := by
  have hkey : Aes.keyed? (a.sealed plan).key = some cipher := hc
  exact Scheme.binding_first hkey rfl (fun _ => rfl) input

def Sample.openingDraft (mode : BlockMode) : Draft :=
  (Sample.draft mode).change
    ({ · with direction := some .decrypt, parameters := some (Sample.engine mode).parameters })

theorem Sample.build_openingDraft (mode : BlockMode) :
    (openingDraft mode).build Sample.draw = .ok ((assembly mode).opener (Sample.plan mode)) := by
  have hs : (openingDraft mode).settings.Settles
      ((Sample.plan mode).opening none (some (engine mode).parameters)) :=
    { settles mode with direction := rfl, parameters := rfl }
  exact build_opener (d := openingDraft mode) (usesBuiltIn mode) (fits mode) hs rfl Sample.draw

/-- An engine that was built to decrypt accepts what its cipher would encrypt to, bound to encrypt
with the same key and the same parameters. -/
theorem exists_opens (hd : d.UsesBuiltIn) (hb : d.build draw = .ok e)
    (hdir : e.direction = .decrypt) : ∃ plan scheme sealing, d.settings.settle = .ok plan ∧
      Scheme.ofName? plan.transformation = some scheme ∧ plan.Seals e.parameters sealing ∧
        e.Opens scheme.mode sealing := by
  obtain ⟨plan, hs, a, h, -, rfl⟩ := (build_eq_ok hd).1 hb
  obtain ⟨cipher, hc⟩ := h.exists_cipher
  refine ⟨plan, a.scheme, _, Settings.settle_eq_ok.2 hs, h.scheme, h.seals, ?_⟩
  exact (h.runs hc).opens hdir (Aes.keyed?_permutes hc) (Assembly.transform_sealed hc plan)

theorem exists_opens_sample : (Sample.openingDraft .cbc).UsesBuiltIn ∧
    (Sample.openingDraft .cbc).build Sample.draw =
        .ok ((Sample.assembly .cbc).opener (Sample.plan .cbc)) ∧
      ((Sample.assembly .cbc).opener (Sample.plan .cbc)).direction = .decrypt ∧
        ∃ plan scheme sealing, (Sample.openingDraft .cbc).settings.settle = .ok plan ∧
          Scheme.ofName? plan.transformation = some scheme ∧
            plan.Seals ((Sample.assembly .cbc).opener (Sample.plan .cbc)).parameters sealing ∧
              ((Sample.assembly .cbc).opener (Sample.plan .cbc)).Opens scheme.mode sealing :=
  ⟨Sample.usesBuiltIn .cbc, Sample.build_openingDraft .cbc, rfl,
    exists_opens (Sample.usesBuiltIn .cbc) (Sample.build_openingDraft .cbc) rfl⟩

end Draft
end PasswordSeal
