import PasswordSeal.Proofs.Cipher.Bind

/-!
# Which keys are refused

A known name means Argon2id or else PBKDF2, whatever name it goes by. Both want some salt, at least
one iteration and a number of bits that makes up whole bytes; Argon2id wants eight bytes of salt and
four bytes of key besides, and no password or salt whose length four bytes cannot hold. Nothing else
is refused, and what is not refused gives a key that has some material.
-/
namespace PasswordSeal
namespace KeyRequest

def Uneven (request : KeyRequest) : Prop :=
  ∃ bits ∈ request.keyBits, bits = 0 ∨ bits.toNat % 8 ≠ 0

def TooShort (request : KeyRequest) : Prop :=
  request.salt.length < 8 ∨ ∃ bits ∈ request.keyBits, bits.toNat / 8 < 4

def Bounded (request : KeyRequest) : Prop :=
  (Utf8.encode request.password).length ≤ Argon2id.maxInputLength ∧
    request.salt.length ≤ Argon2id.maxInputLength

def Refused (request : KeyRequest) (name : String) : Prop :=
  request.Uneven ∨ request.iterations = 0 ∨ request.salt = [] ∨
    Text.sameIgnoringCase KeyDerivation.argon2id.algorithm name ∧
      (request.TooShort ∨ ¬ request.Bounded)

instance decidableUneven (request : KeyRequest) : Decidable request.Uneven :=
  inferInstanceAs (Decidable (∃ _ ∈ request.keyBits, _))

instance decidableTooShort (request : KeyRequest) : Decidable request.TooShort :=
  inferInstanceAs (Decidable (_ ∨ ∃ _ ∈ request.keyBits, _))

instance decidableBounded (request : KeyRequest) : Decidable request.Bounded :=
  inferInstanceAs (Decidable (_ ∧ _))

instance decidableRefused (request : KeyRequest) (name : String) :
    Decidable (request.Refused name) :=
  inferInstanceAs (Decidable (_ ∨ _))

variable {request : KeyRequest} {natural length : Nat}

theorem failure?_length (request : KeyRequest) (natural : Nat) :
    failure? (request.length natural) = refuseIf request.Uneven .cryptographic := by
  rw [KeyRequest.length]
  cases hk : request.keyBits with
  | none => exact (refuseIf_neg (by simp [Uneven, hk])).symm
  | some bits =>
    have heven : bits = 0 ∨ bits.toNat % 8 ≠ 0 ↔ request.Uneven := by simp [Uneven, hk]
    dsimp only
    rw [failure?_ite, refuseIf_congr heven]
    exact Option.or_none

theorem length_eq_ok (h : request.length natural = .ok length) :
    request.keyBits = none ∧ length = natural ∨
      ∃ bits, request.keyBits = some bits ∧ length = bits.toNat / 8 ∧ 0 < length := by
  rw [KeyRequest.length] at h
  cases hk : request.keyBits with
  | none =>
    rw [hk] at h
    exact Or.inl ⟨rfl, (Except.ok.inj h).symm⟩
  | some bits =>
    rw [hk] at h
    dsimp only at h
    split at h
    · cases h
    · next heven =>
      obtain rfl := Except.ok.inj h
      have hne : bits.toNat ≠ 0 := fun hz => heven (Or.inl (UInt32.toNat.inj hz))
      exact Or.inr ⟨bits, rfl, rfl, by omega⟩

theorem length_pos (hn : 0 < natural) (h : request.length natural = .ok length) : 0 < length := by
  obtain ⟨-, rfl⟩ | ⟨_, -, -, hpos⟩ := length_eq_ok h
  · exact hn
  · exact hpos

theorem tooShort_iff (h : request.length 32 = .ok length) :
    length < Argon2id.minLength ∨ request.salt.length < Argon2id.minSaltLength ↔
      request.TooShort := by
  rw [TooShort, Or.comm]
  refine or_congr Iff.rfl ?_
  obtain ⟨hk, rfl⟩ | ⟨bits, hk, rfl, -⟩ := length_eq_ok h
  · simp [hk, Argon2id.minLength]
  · simp [hk, Argon2id.minLength]

theorem not_bounded_iff : ¬ request.Bounded ↔
    Argon2id.maxInputLength < (Utf8.encode request.password).length ∨
      Argon2id.maxInputLength < request.salt.length := by
  rw [Bounded, Classical.not_and_iff_not_or_not, Nat.not_le, Nat.not_le]

end KeyRequest

theorem Pbkdf2.failure?_derive (d : Digest) (password salt : Bytes) (rounds : UInt32)
    (length : Nat) : failure? (derive d password salt rounds length) =
      refuseIf (rounds = 0 ∨ salt = []) .cryptographic := by
  rw [derive, failure?_ite, failure?_ite, ← Option.or_assoc, refuseIf_or_refuseIf]
  exact Option.or_none

theorem Argon2id.failure?_deriveChecked (password salt : Bytes) (passes : UInt32) (length : Nat) :
    failure? (deriveChecked password salt passes length) =
      refuseIf ((passes = 0 ∨ length < minLength ∨ salt.length < minSaltLength) ∨
        maxInputLength < password.length ∨ maxInputLength < salt.length) .cryptographic := by
  rw [deriveChecked, failure?_ite, failure?_ite, ← Option.or_assoc, refuseIf_or_refuseIf]
  exact Option.or_none

theorem Argon2id.length_deriveChecked {password salt material : Bytes} {passes : UInt32}
    {length : Nat} (h : deriveChecked password salt passes length = .ok material) :
    material.length = length := by
  rw [deriveChecked] at h
  split at h
  · cases h
  · split at h
    · cases h
    · obtain rfl := Except.ok.inj h
      exact length_derive _ _ _ _

namespace KeyDerivation
variable {name : String} {k : KeyDerivation} {request : KeyRequest} {key : Key}

theorem ofName?_cases (h : ofName? name = some k) :
    Text.sameIgnoringCase argon2id.algorithm name ∧ k = argon2id ∨
      ¬ Text.sameIgnoringCase argon2id.algorithm name ∧
        ∃ algorithm digest natural, 0 < natural ∧ k = pbkdf2 algorithm digest natural := by
  rw [ofName?] at h
  split at h
  · next ha => exact Or.inl ⟨ha, (Option.some.inj h).symm⟩
  · next ha =>
    refine Or.inr ⟨ha, ?_⟩
    cases hs : Scheme.ofName? name with
    | some s =>
      rw [hs] at h
      exact ⟨_, s.digest, _, (Scheme.keyed_of_ofName? hs).pos, (Option.some.inj h).symm⟩
    | none =>
      rw [hs] at h
      obtain ⟨d, -, rfl⟩ := List.mem_map.1 (List.mem_of_find?_eq_some h)
      exact ⟨_, d, _, d.size_pos, rfl⟩

theorem derive_pbkdf2_eq_ok {algorithm : String} {digest : Digest} {natural : Nat} :
    (pbkdf2 algorithm digest natural).derive request = .ok key ↔
      ∃ length, request.length natural = .ok length ∧ request.iterations ≠ 0 ∧ request.salt ≠ [] ∧
        key = ⟨algorithm, Pbkdf2.stream digest (Utf8.encode request.password) request.salt
          request.iterations.toNat length⟩ := by
  simp only [pbkdf2, bind_eq_ok, Pbkdf2.derive_eq_ok]
  constructor
  · rintro ⟨length, hl, _, ⟨hi, hs, rfl⟩, hkey⟩
    exact ⟨length, hl, hi, hs, (Except.ok.inj hkey).symm⟩
  · rintro ⟨length, hl, hi, hs, rfl⟩
    exact ⟨length, hl, _, ⟨hi, hs, rfl⟩, rfl⟩

theorem exists_length_pbkdf2 {algorithm : String} {digest : Digest} {natural : Nat}
    (h : (pbkdf2 algorithm digest natural).derive request = .ok key) :
    ∃ length, request.length natural = .ok length ∧ key.algorithm = algorithm ∧
      key.material.length = length := by
  obtain ⟨length, hlength, -, -, rfl⟩ := derive_pbkdf2_eq_ok.1 h
  exact ⟨length, hlength, rfl, Pbkdf2.length_stream _ _ _ _ _⟩

theorem exists_length_argon2id (h : argon2id.derive request = .ok key) :
    ∃ length, request.length 32 = .ok length ∧ key.algorithm = argon2id.algorithm ∧
      key.material.length = length := by
  obtain ⟨length, hlength, material, hmaterial, hkey⟩ := by
    simpa only [argon2id, bind_eq_ok] using h
  obtain rfl := Except.ok.inj hkey
  exact ⟨length, hlength, rfl, Argon2id.length_deriveChecked hmaterial⟩

theorem failure?_derive_pbkdf2 (algorithm : String) (d : Digest) (natural : Nat)
    (request : KeyRequest) : failure? ((pbkdf2 algorithm d natural).derive request) =
      refuseIf (request.Uneven ∨ request.iterations = 0 ∨ request.salt = []) .cryptographic := by
  rw [← refuseIf_or_refuseIf]
  dsimp only [pbkdf2]
  refine failure?_bind (request.failure?_length natural) fun length _ => ?_
  rw [failure?_bind_pure, Pbkdf2.failure?_derive]

theorem failure?_derive_argon2id (request : KeyRequest) : failure? (argon2id.derive request) =
    refuseIf (request.Uneven ∨ request.iterations = 0 ∨ request.TooShort ∨ ¬ request.Bounded)
      .cryptographic := by
  rw [← refuseIf_or_refuseIf]
  dsimp only [argon2id]
  refine failure?_bind (request.failure?_length 32) fun length hl => ?_
  rw [failure?_bind_pure, Argon2id.failure?_deriveChecked]
  apply refuseIf_congr
  rw [or_assoc, KeyRequest.tooShort_iff hl, KeyRequest.not_bounded_iff]

theorem failure?_derive (h : ofName? name = some k) (request : KeyRequest) :
    failure? (k.derive request) = refuseIf (request.Refused name) .cryptographic := by
  obtain ⟨ha, rfl⟩ | ⟨ha, algorithm, digest, natural, -, rfl⟩ := ofName?_cases h
  · rw [failure?_derive_argon2id]
    apply refuseIf_congr
    have hsalt : request.salt = [] → request.TooShort ∨ ¬ request.Bounded := by
      intro hnil
      exact Or.inl (Or.inl (by simp [hnil]))
    simp only [KeyRequest.Refused, ha, true_and, or_iff_right_of_imp hsalt]
  · rw [failure?_derive_pbkdf2]
    apply refuseIf_congr
    simp only [KeyRequest.Refused, ha, Bool.false_eq_true, false_and, or_false]

theorem material_ne_nil (h : ofName? name = some k) (hkey : k.derive request = .ok key) :
    key.material ≠ [] := by
  rw [← List.length_pos_iff]
  obtain ⟨-, rfl⟩ | ⟨-, algorithm, digest, natural, hpos, rfl⟩ := ofName?_cases h
  · obtain ⟨length, hlength, -, rfl⟩ := exists_length_argon2id hkey
    exact KeyRequest.length_pos (by decide) hlength
  · obtain ⟨length, hlength, -, rfl⟩ := exists_length_pbkdf2 hkey
    exact KeyRequest.length_pos hpos hlength

end KeyDerivation
end PasswordSeal
