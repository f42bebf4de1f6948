import PasswordSeal.Proofs.KeyDerivation
import PasswordSeal.Proofs.Provider.Names

/-!
# Which keys are granted

A key derivation grants what it does not refuse, and then gives a key under its own name and of the
length that was asked for. That it refuses does not tell why. A request that names no length gets
the natural one.
-/
namespace PasswordSeal
namespace KeyRequest
variable {request : KeyRequest}

def Whole (bits : Option UInt32) : Prop :=
  ∀ count ∈ bits, 0 < count.toNat ∧ count.toNat % 8 = 0

def bytes (request : KeyRequest) (natural : Nat) : Nat :=
  request.keyBits.elim natural fun count => count.toNat / 8

theorem not_uneven_iff : ¬ request.Uneven ↔ Whole request.keyBits := by
  have hzero (count : UInt32) : count = 0 ↔ count.toNat = 0 := UInt32.toNat_inj.symm
  simp only [Uneven, Whole, not_exists, not_and, not_or, Decidable.not_not, hzero,
    Nat.pos_iff_ne_zero]

theorem length_eq_bytes {natural length : Nat} (h : request.length natural = .ok length) :
    length = request.bytes natural := by
  obtain ⟨hk, rfl⟩ | ⟨count, hk, rfl, -⟩ := length_eq_ok h
  · rw [bytes, hk, Option.elim_none]
  · rw [bytes, hk, Option.elim_some]

theorem not_tooShort_iff :
    ¬ request.TooShort ↔ 8 ≤ request.salt.length ∧ 4 ≤ request.bytes 32 := by
  rw [TooShort, bytes, not_or, Nat.not_lt]
  refine and_congr_right fun _ => ?_
  cases request.keyBits <;> simp

end KeyRequest

namespace KeyDerivation
open KeyRequest (Whole)
variable {k : KeyDerivation}

/-- How requests are answered that need to suit a key derivation, besides asking for whole bytes and
at least one iteration. -/
structure Answers (k : KeyDerivation) (Suits : KeyRequest → Prop) : Prop where
  grants : ∀ request, (∃ key, k.derive request = .ok key) ↔
    1 ≤ request.iterations.toNat ∧ Whole request.keyBits ∧ Suits request
  refuses : ∀ request fault, k.derive request = .error fault → fault = .cryptographic
  gives : ∀ request key, k.derive request = .ok key →
    key.algorithm = k.algorithm ∧ key.material.length = request.bytes k.naturalLength

theorem answers_of_failure? {Suits Unsuited : KeyRequest → Prop} [DecidablePred Unsuited]
    (hfailure : ∀ request, failure? (k.derive request) =
      refuseIf (request.Uneven ∨ request.iterations = 0 ∨ Unsuited request) .cryptographic)
    (hsuits : ∀ request, ¬ Unsuited request ↔ Suits request)
    (hgives : ∀ request key, k.derive request = .ok key →
      key.algorithm = k.algorithm ∧ key.material.length = request.bytes k.naturalLength) :
    k.Answers Suits where
  grants request := by
    have hiterations : ¬ request.iterations = 0 ↔ 1 ≤ request.iterations.toNat := by
      rw [← UInt32.toNat_inj]
      exact Nat.one_le_iff_ne_zero.symm
    rw [← failure?_eq_none, hfailure, refuseIf_eq_none, not_or, not_or, KeyRequest.not_uneven_iff,
      hsuits, hiterations, and_left_comm]
  refuses request fault h := by
    have hfault := failure?_eq_some.2 h
    rw [hfailure, refuseIf_eq_some] at hfault
    exact hfault.2.symm
  gives := hgives

theorem answers_pbkdf2 (algorithm : String) (d : Digest) (natural : Nat) :
    (pbkdf2 algorithm d natural).Answers fun request => request.salt ≠ [] := by
  refine answers_of_failure? (failure?_derive_pbkdf2 algorithm d natural) (fun _ => Iff.rfl) ?_
  intro request key hkey
  obtain ⟨length, hlength, hname, hlen⟩ := exists_length_pbkdf2 hkey
  exact ⟨hname, hlen.trans (KeyRequest.length_eq_bytes hlength)⟩

theorem answers_argon2id : argon2id.Answers fun request =>
    (8 ≤ request.salt.length ∧ 4 ≤ request.bytes 32) ∧ request.Bounded := by
  refine answers_of_failure? failure?_derive_argon2id (fun request => ?_) ?_
  · rw [not_or, KeyRequest.not_tooShort_iff, Classical.not_not]
  · intro request key hkey
    obtain ⟨length, hlength, hname, hlen⟩ := exists_length_argon2id hkey
    exact ⟨hname, hlen.trans (KeyRequest.length_eq_bytes hlength)⟩

/-- How keys are derived: by what the built-in provider offers, by the key derivation of any scheme,
and how a key is given another name. -/
structure Derives : Prop where
  offered : ∀ name k, Provider.builtIn.keyDerivation? name = some k → k.Answers fun request =>
    if Text.sameIgnoringCase "Argon2id" name then
      (8 ≤ request.salt.length ∧ 4 ≤ request.bytes k.naturalLength) ∧ request.Bounded
    else request.salt ≠ []
  scheme : ∀ s, (ofScheme s).Answers fun request => request.salt ≠ []
  rewrap : ∀ (key : Key) (algorithm : String),
    (key.rewrap algorithm).algorithm = algorithm ∧ (key.rewrap algorithm).material = key.material

theorem derives_keys : Derives where
  offered name k hk := by
    obtain ⟨hargon, rfl⟩ | ⟨hargon, algorithm, d, natural, -, rfl⟩ := ofName?_cases hk
    · have hname : Text.sameIgnoringCase "Argon2id" name := hargon
      simp only [if_pos hname]
      exact answers_argon2id
    · have hname : ¬ Text.sameIgnoringCase "Argon2id" name := hargon
      simp only [if_neg hname]
      exact answers_pbkdf2 algorithm d natural
  scheme s := answers_pbkdf2 s.name s.digest s.keyBytes
  rewrap _ _ := ⟨rfl, rfl⟩

end KeyDerivation
end PasswordSeal
