import PasswordSeal.Engine.Draft
import PasswordSeal.Proofs.Alphabet.RoundTrip
import PasswordSeal.Proofs.Settings.Settle

/-!
# Defaults that are spelled out

Some values default to others: two names to that of the key algorithm, the salt and the iterations
of the cipher to those of the key. A value that is set takes the place of its default and passes on
to what still defaults to it, and to nothing else. So to set a value to what it defaults to changes
nothing, and neither does giving the bytes of a vector in place of their text.
-/
namespace PasswordSeal

inductive Field where
  | keyAlgorithm
  | transformation
  | parametersAlgorithm
  | iterations
  | salt
  | keyBits
  | cipherIterations
  | cipherSalt

namespace Field

@[reducible]
def Value : Field → Type
  | keyAlgorithm => String
  | transformation => String
  | parametersAlgorithm => String
  | iterations => UInt32
  | salt => Bytes
  | keyBits => UInt32
  | cipherIterations => UInt32
  | cipherSalt => Bytes

def Accepts : (f : Field) → f.Value → Prop
  | salt, bytes => bytes ≠ []
  | _, _ => True

end Field

def Settings.put (s : Settings) : (f : Field) → f.Value → Settings
  | .keyAlgorithm, name => { s with keyAlgorithm := some name }
  | .transformation, name => { s with transformation := some name }
  | .parametersAlgorithm, name => { s with parametersAlgorithm := some name }
  | .iterations, count => { s with iterations := some count }
  | .salt, bytes => { s with salt := some bytes }
  | .keyBits, bits => { s with keyBits := some bits }
  | .cipherIterations, count => { s with cipherIterations := some count }
  | .cipherSalt, bytes => { s with cipherSalt := some bytes }

namespace Plan

def value (plan : Plan) : (f : Field) → f.Value
  | .keyAlgorithm => plan.keyAlgorithm
  | .transformation => plan.transformation
  | .parametersAlgorithm => plan.parametersAlgorithm
  | .iterations => plan.iterations
  | .salt => plan.salt
  -- Zero asks for no key length, as leaving the field out does.
  | .keyBits => plan.keyBits.getD 0
  | .cipherIterations => plan.cipherIterations
  | .cipherSalt => plan.cipherSalt

/-- The plan with one value changed, and with it those that default to it in these settings. -/
def put (plan : Plan) (s : Settings) : (f : Field) → f.Value → Plan
  | .keyAlgorithm, name =>
    { plan with
      keyAlgorithm := name
      transformation := s.transformation.getD name
      parametersAlgorithm := s.parametersAlgorithm.getD name }
  | .transformation, name => { plan with transformation := name }
  | .parametersAlgorithm, name => { plan with parametersAlgorithm := name }
  | .iterations, count =>
    { plan with
      iterations := count
      cipherIterations := s.cipherIterations.getD count }
  | .salt, bytes =>
    { plan with
      salt := bytes
      cipherSalt := s.cipherSalt.getD bytes }
  | .keyBits, bits => { plan with keyBits := if bits = 0 then none else some bits }
  | .cipherIterations, count => { plan with cipherIterations := count }
  | .cipherSalt, bytes => { plan with cipherSalt := bytes }

end Plan

namespace Settings
section
variable {s t : Settings} {plan : Plan}

def spellOut (s : Settings) (plan : Plan) (fields : List Field) : Settings :=
  fields.foldl (fun s f => s.put f (plan.value f)) s

def withDecodedIv (s : Settings) (bytes : Bytes) : Settings :=
  { s with iv := some bytes, encodedIv := none }

structure Alike (t s : Settings) (plan : Plan) : Prop where
  settle : t.settle = .ok plan
  build : ∀ registry pin draw,
    Draft.build ⟨t, registry, pin⟩ draw = Draft.build ⟨s, registry, pin⟩ draw

namespace Settles
variable (h : s.Settles plan)
include h

theorem put {f : Field} {v : f.Value} (hv : f.Accepts v) :
    (s.put f v).Settles (plan.put s f v) := by
  cases f with
  | keyAlgorithm =>
    exact { h with keyAlgorithm := rfl, transformation := rfl, parametersAlgorithm := rfl }
  | transformation => exact { h with transformation := rfl }
  | parametersAlgorithm => exact { h with parametersAlgorithm := rfl }
  | iterations => exact { h with iterations := rfl, cipherIterations := rfl }
  | salt =>
    have hsalt : (some v).filter (· ≠ []) = some v :=
      Option.filter_eq_some_iff.2 ⟨rfl, decide_eq_true hv⟩
    exact { h with salt := hsalt, cipherSalt := rfl }
  | keyBits =>
    have hbits : (some v).filter (· ≠ 0) = if v = (0 : UInt32) then none else some v := by
      by_cases hv : v = (0 : UInt32) <;> simp [hv]
    exact { h with keyBits := hbits }
  | cipherIterations => exact { h with cipherIterations := rfl }
  | cipherSalt => exact { h with cipherSalt := rfl }

theorem accepts_value (f : Field) : f.Accepts (plan.value f) := by
  cases f with
  | salt =>
    have hne : plan.salt ≠ [] := by simpa using (Option.filter_eq_some_iff.1 h.salt).2
    exact hne
  | _ => trivial

theorem keyBits_ne_zero : plan.keyBits ≠ some 0 := by
  rw [← h.keyBits]
  simp [Option.filter_eq_some_iff]

theorem put_value (f : Field) : plan.put s f (plan.value f) = plan := by
  cases f with
  | keyAlgorithm =>
    simp only [Plan.put, Plan.value, h.transformation, h.parametersAlgorithm]
  | iterations => simp only [Plan.put, Plan.value, h.cipherIterations]
  | salt => simp only [Plan.put, Plan.value, h.cipherSalt]
  | keyBits =>
    have hbits : (if plan.keyBits.getD 0 = 0 then none else some (plan.keyBits.getD 0)) =
        plan.keyBits := by
      have hne := h.keyBits_ne_zero
      cases hk : plan.keyBits with
      | none => rfl
      | some bits =>
        have hbits : bits ≠ 0 := fun hzero => hne (hzero ▸ hk)
        exact if_neg hbits
    exact congrArg (fun bits => { plan with keyBits := bits }) hbits
  | _ => rfl

theorem spellOut (fields : List Field) : (s.spellOut plan fields).Settles plan := by
  -- Each field leaves settings behind that come to the same plan.
  induction fields generalizing s with
  | nil => exact h
  | cons f rest ih =>
    apply ih
    have hput := h.put (h.accepts_value f)
    rwa [h.put_value f] at hput

theorem withDecodedIv {text : String} {bytes : Bytes} (hi : s.iv = none)
    (ht : s.encodedIv = some text) (hb : s.alphabet.decode text = .ok bytes) :
    (s.withDecodedIv bytes).Settles plan := by
  have hiv : (.ok (some bytes) : Except Fault (Option Bytes)) = .ok plan.iv := by
    rw [← h.iv, settleIv, hi, ht]
    simp only [Alphabet.read, hb]
    rfl
  exact { h with iv := hiv }

theorem alike (ht : t.Settles plan) : t.Alike s plan := by
  have hs := settle_eq_ok.2 h
  have ht := settle_eq_ok.2 ht
  refine ⟨ht, ?_⟩
  intro registry pin draw
  rw [Draft.build, Draft.build, hs, ht]
  rfl

end Settles

/-- Settings do the same when any of their fields are set to what they come to, and when a vector is
given as bytes. A field that is set to something else changes what defaults to it and no more. -/
theorem spellOut_alike (h : s.settle = .ok plan) :
    (∀ fields, (s.spellOut plan fields).Alike s plan ∧
      ∀ text bytes, s.iv = none → s.encodedIv = some text → s.alphabet.decode text = .ok bytes →
        ((s.withDecodedIv bytes).spellOut plan fields).Alike s plan) ∧
      ∀ (f : Field) (v : f.Value), f.Accepts v → (s.put f v).settle = .ok (plan.put s f v) := by
  have hs := settle_eq_ok.1 h
  refine ⟨?_, ?_⟩
  · intro fields
    refine ⟨hs.alike (hs.spellOut fields), ?_⟩
    intro text bytes hi ht hb
    exact hs.alike ((hs.withDecodedIv hi ht hb).spellOut fields)
  · intro f v hv
    exact settle_eq_ok.2 (hs.put hv)

end

namespace Sample

def bytes : Bytes := List.replicate 16 7

def terse : Settings :=
  { iterations := some 2
    salt := some [1, 2, 3, 4, 5, 6, 7, 8]
    password := some "open sesame"
    direction := some .decrypt
    encodedIv := some (Alphabet.base64.encode bytes) }

def plan : Plan where
  keyAlgorithm := defaultKeyAlgorithm
  transformation := defaultKeyAlgorithm
  parametersAlgorithm := defaultKeyAlgorithm
  iterations := 2
  salt := [1, 2, 3, 4, 5, 6, 7, 8]
  keyBits := none
  password := "open sesame"
  direction := .decrypt
  cipherIterations := 2
  cipherSalt := [1, 2, 3, 4, 5, 6, 7, 8]
  alphabet := .base64
  iv := some bytes
  parameters := none

theorem settle_terse : terse.settle = .ok plan := by
  have hiv : terse.settleIv = .ok (some bytes) := by
    simp only [settleIv, terse, Alphabet.read, Alphabet.decode_encode]
    rfl
  exact settle_eq_ok.2 ⟨rfl, rfl, rfl, rfl, hiv, rfl, rfl, rfl, rfl, rfl, rfl, rfl, rfl⟩

end Sample

theorem spellOut_alike_terse : Sample.terse.settle = .ok Sample.plan ∧
    Sample.terse.iv = none ∧
      Sample.terse.encodedIv = some (Alphabet.base64.encode Sample.bytes) ∧
      Sample.terse.alphabet.decode (Alphabet.base64.encode Sample.bytes) = .ok Sample.bytes ∧
      ((Sample.terse.withDecodedIv Sample.bytes).spellOut Sample.plan
        [.transformation, .cipherSalt, .keyBits]).Alike Sample.terse Sample.plan ∧
      Field.Accepts .keyAlgorithm "Argon2id" ∧
      (Sample.terse.put .keyAlgorithm "Argon2id").settle =
        .ok (Sample.plan.put Sample.terse .keyAlgorithm "Argon2id") := by
  have hdecode := Alphabet.decode_encode .base64 Sample.bytes
  have hall := spellOut_alike Sample.settle_terse
  exact ⟨Sample.settle_terse, rfl, rfl, hdecode, (hall.1 _).2 _ _ rfl rfl hdecode, trivial,
    hall.2 _ _ trivial⟩

end Settings
end PasswordSeal
