import PasswordSeal.Proofs.Alphabet.Shape
import PasswordSeal.Proofs.Engine.Composition
import PasswordSeal.Proofs.Engine.Refusal
import PasswordSeal.Proofs.Mode.RoundTrip

/-!
# What does not depend on the password

Two drafts that differ in nothing but their passwords are shown alike, and both build or both fail,
with the same fault, as long as no password is too long for Argon2id. The engines that they build
are twins: they differ in their AES keys and in nothing that they show. Asked to encrypt the same
secrets one after another, twins stay twins, and they answer with texts of the same lengths or with
the same faults.
-/
namespace PasswordSeal
namespace Engine
variable {e f : Engine}

def encryptAll (e : Engine) : List String → List (Except Fault String)
  | [] => []
  | secret :: rest => (e.encrypt secret).1 :: encryptAll (e.encrypt secret).2 rest

/-- How long the texts are that secrets are encrypted to, or which faults they meet with. -/
def lengths (e : Engine) (secrets : List String) : List (Except Fault Nat) :=
  (e.encryptAll secrets).map (·.map String.length)

structure Twins (e f : Engine) : Prop where
  transformation : e.transformation = f.transformation
  direction : e.direction = f.direction
  alphabet : e.alphabet = f.alphabet
  parameters : e.parameters = f.parameters
  earlier : e.earlier = f.earlier
  transform : e.direction = .encrypt → ∀ earlier input,
    (e.binding.transform earlier input).map List.length =
      (f.binding.transform earlier input).map List.length

/-- Nothing that the engines show tells them apart. -/
structure LooksLike (e f : Engine) : Prop where
  parameters : e.parameters = f.parameters
  encodedIv : e.encodedIv = f.encodedIv
  alphabet : e.alphabet = f.alphabet
  direction : e.direction = f.direction
  describe : e.describe = f.describe
  lengths : ∀ secrets, e.lengths secrets = f.lengths secrets

namespace Twins
variable (h : e.Twins f)
include h

theorem encrypt_fst (secret : String) : (e.encrypt secret).1.map String.length =
    (f.encrypt secret).1.map String.length := by
  by_cases hd : e.direction = .encrypt
  · have hlength (alphabet : Alphabet) (x : Except Fault Bytes) :
        (x.map alphabet.encode).map String.length =
          (x.map List.length).map alphabet.textLength := by
      cases x with
      | error fault => rfl
      | ok bytes => exact congrArg Except.ok (alphabet.length_encode bytes)
    rw [Engine.encrypt_fst hd, Engine.encrypt_fst (h.direction ▸ hd), hlength, hlength,
      h.transform hd, h.alphabet, h.earlier]
  · -- An engine that decrypts refuses before its key is used.
    rw [encrypt_against hd, encrypt_against (h.direction ▸ hd), h.direction]

theorem encrypt_snd (secret : String) : (e.encrypt secret).2.Twins (f.encrypt secret).2 := by
  have hinput : e.input? (.encrypt secret) = f.input? (.encrypt secret) := by
    rw [input?, input?, h.direction]
  rw [Engine.encrypt_snd, Engine.encrypt_snd, hinput]
  exact { h with earlier := congrArg (· ++ _) h.earlier }

theorem lengths_eq (secrets : List String) : e.lengths secrets = f.lengths secrets := by
  -- Each call leaves twins behind, so both engines are generalised.
  induction secrets generalizing e f with
  | nil => rfl
  | cons secret rest ih =>
    have hrest := ih (h.encrypt_snd secret)
    rw [lengths, lengths] at hrest
    rw [lengths, lengths, encryptAll, encryptAll, List.map_cons, List.map_cons,
      h.encrypt_fst, hrest]

theorem looksLike : e.LooksLike f where
  parameters := h.parameters
  encodedIv := by rw [encodedIv, encodedIv, h.parameters, h.alphabet]
  alphabet := h.alphabet
  direction := h.direction
  describe := by
    rw [describe, describe, h.transformation, h.parameters, h.alphabet, h.direction]
  lengths := h.lengths_eq

end Twins
end Engine

namespace Draft
variable {d : Draft} {draw : Draw} {plan : Plan} {p q : String}

def withPassword (d : Draft) (text : String) : Draft :=
  d.change ({ · with password := some text })

theorem settles_withPassword (hq : q ≠ "") (h : (d.withPassword p).settings.Settles plan) :
    (d.withPassword q).settings.Settles { plan with password := q } :=
  { h with password := by simp [withPassword, change, hq] }

section
variable (hp : p ≠ "") (hq : q ≠ "")
include hp hq

theorem refusal?_withPassword_of_ne {stage : Stage} (hs : stage ≠ .key) :
    stage.refusal? (d.withPassword p).settings = stage.refusal? (d.withPassword q).settings := by
  have hpassword {text : String} (ht : text ≠ "") :
      Stage.refusal? (d.withPassword text).settings .password = none :=
    refuseIf_neg (by simp [withPassword, change, ht])
  cases stage with
  | password => rw [hpassword hp, hpassword hq]
  | key => exact absurd rfl hs
  | _ => rfl

variable (hp' : (Utf8.encode p).length ≤ Argon2id.maxInputLength)
variable (hq' : (Utf8.encode q).length ≤ Argon2id.maxInputLength)
include hp' hq'

theorem refusal?_withPassword :
    Stage.refusal? (d.withPassword p).settings = Stage.refusal? (d.withPassword q).settings := by
  have hbounded {text : String} (ht : (Utf8.encode text).length ≤ Argon2id.maxInputLength) :
      (d.withPassword text).settings.Bounded ↔
        ∀ salt ∈ d.settings.salt, salt.length ≤ Argon2id.maxInputLength := by
    simp [Settings.Bounded, withPassword, change, ht]
  have hlength : (d.withPassword p).settings.RefusesLength ↔
      (d.withPassword q).settings.RefusesLength :=
    and_congr_right fun _ => not_congr ((hbounded hp').trans (hbounded hq').symm)
  funext stage
  by_cases hs : stage = .key
  · rw [hs]
    exact refuseIf_congr (or_congr_right hlength)
  · exact refusal?_withPassword_of_ne hp hq hs

theorem failure?_withPassword (hd : d.UsesBuiltIn) (draw : Draw) :
    failure? ((d.withPassword p).build draw) = failure? ((d.withPassword q).build draw) := by
  rw [failure?_build (d := d.withPassword p) hd, failure?_build (d := d.withPassword q) hd,
    refusal?_withPassword hp hq hp' hq']

end

theorem Assembly.Fits.length_transform {a : Assembly} (h : a.Fits plan draw)
    (hd : (a.engine plan).direction = .encrypt) (earlier : List Bytes) (input : Bytes) :
    ((a.engine plan).binding.transform earlier input).map List.length =
      if (a.scheme.mode = .gcm → earlier = []) ∧ a.scheme.mode.Takes input.length then
        .ok (a.scheme.mode.sealedLength input.length)
      else .error .cryptographic := by
  obtain ⟨cipher, hc⟩ := h.exists_cipher
  have hbinding : (a.engine plan).binding = a.scheme.binding a.bound := rfl
  have hbound : a.bound.direction = .encrypt := h.direction_bound.trans hd
  rw [hbinding]
  by_cases hfirst : a.scheme.mode = .gcm → earlier = []
  · rw [Scheme.binding_first hc hbound hfirst]
    obtain ⟨htakes, output, houtput, hlength⟩ | ⟨htakes, hnone⟩ :=
      a.scheme.mode.encrypt?_cases cipher a.bound.iv input
    · rw [if_pos ⟨hfirst, htakes⟩, houtput, ← hlength]
      rfl
    · rw [if_neg fun h => htakes h.2, hnone]
      rfl
  · obtain ⟨hm, hagain⟩ := Classical.not_imp.1 hfirst
    rw [if_neg fun h => hfirst h.1, Scheme.binding_again hc hbound hm hagain]
    rfl

theorem twins_engine {a b : Assembly} (ha : a.Fits plan draw)
    (hb : b.Fits { plan with password := q } draw) (hstart : a.start = b.start) :
    (a.engine plan).Twins (b.engine { plan with password := q }) := by
  have hscheme : a.scheme = b.scheme := Option.some.inj (ha.scheme.symm.trans hb.scheme)
  have hiv : a.bound.iv = b.bound.iv := by
    have hchosen := ha.bound_eq.1
    rw [hscheme, hstart] at hchosen
    exact Except.ok.inj (hchosen.symm.trans hb.bound_eq.1)
  constructor
  · exact congrArg Scheme.name hscheme
  · rfl
  · rfl
  · rw [ha.parameters_engine, hb.parameters_engine, hstart, hiv]
  · rfl
  · intro hd earlier input
    rw [ha.length_transform hd, hb.length_transform hd, hscheme]

theorem build_withPassword (hd : d.UsesBuiltIn) (hq : q ≠ "") {e f : Engine}
    (he : (d.withPassword p).build draw = .ok e) (hf : (d.withPassword q).build draw = .ok f) :
    e.Twins f := by
  obtain ⟨plan, hs, a, ha, hstart, rfl⟩ := (build_eq_ok (d := d.withPassword p) hd).1 he
  obtain ⟨plan', hs', b, hb, hstart', rfl⟩ := (build_eq_ok (d := d.withPassword q) hd).1 hf
  obtain rfl : plan' = { plan with password := q } := Except.ok.inj <|
    (Settings.settle_eq_ok.2 hs').symm.trans (Settings.settle_eq_ok.2 (settles_withPassword hq hs))
  have hsame : (d.withPassword q).startParameters { plan with password := q } =
      (d.withPassword p).startParameters plan := rfl
  exact twins_engine ha hb (Except.ok.inj (hstart.symm.trans (hsame.symm.trans hstart')))

/-- Which password there is can be seen neither from a draft nor from how it fails to build, and of
the engine that it builds only the contents of the texts depend on it. -/
theorem password_hidden (hd : d.UsesBuiltIn) (hp : p ≠ "") (hq : q ≠ "")
    (hp' : (Utf8.encode p).length ≤ Argon2id.maxInputLength)
    (hq' : (Utf8.encode q).length ≤ Argon2id.maxInputLength) (draw : Draw) :
    (d.withPassword p).describe = (d.withPassword q).describe ∧
      ((∃ fault, (d.withPassword p).build draw = .error fault ∧
        (d.withPassword q).build draw = .error fault) ∨
      ∃ e f, (d.withPassword p).build draw = .ok e ∧ (d.withPassword q).build draw = .ok f ∧
        e.LooksLike f) := by
  refine ⟨rfl, ?_⟩
  have hfailure := failure?_withPassword hp hq hp' hq' hd draw
  cases he : (d.withPassword p).build draw with
  | error fault =>
    rw [he] at hfailure
    exact Or.inl ⟨fault, rfl, failure?_eq_some.1 hfailure.symm⟩
  | ok e =>
    rw [he] at hfailure
    obtain ⟨f, hf⟩ := failure?_eq_none.1 hfailure.symm
    exact Or.inr ⟨e, f, rfl, hf, (build_withPassword hd hq he hf).looksLike⟩

theorem password_hidden_sample : (Sample.draft .cbc).UsesBuiltIn ∧ "open sesame" ≠ "" ∧
    "open barley" ≠ "" ∧ (Utf8.encode "open sesame").length ≤ Argon2id.maxInputLength ∧
    (Utf8.encode "open barley").length ≤ Argon2id.maxInputLength ∧ ∃ e f,
      ((Sample.draft .cbc).withPassword "open sesame").build Sample.draw = .ok e ∧
        ((Sample.draft .cbc).withPassword "open barley").build Sample.draw = .ok f ∧
        e.LooksLike f := by
  have hsesame : "open sesame" ≠ "" := by decide
  have hbarley : "open barley" ≠ "" := by decide
  have hsesame' : (Utf8.encode "open sesame").length ≤ Argon2id.maxInputLength := by decide
  have hbarley' : (Utf8.encode "open barley").length ≤ Argon2id.maxInputLength := by decide
  refine ⟨Sample.usesBuiltIn .cbc, hsesame, hbarley, hsesame', hbarley', ?_⟩
  refine (password_hidden (Sample.usesBuiltIn .cbc) hsesame hbarley hsesame' hbarley'
    Sample.draw).2.resolve_left ?_
  rintro ⟨fault, hfault, -⟩
  have hbuild : ((Sample.draft .cbc).withPassword "open sesame").build Sample.draw =
      .ok (Sample.engine .cbc) := Sample.build .cbc
  rw [hbuild] at hfault
  cases hfault

end Draft
end PasswordSeal
