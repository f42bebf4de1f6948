import PasswordSeal.Proofs.Cipher.Standing

/-!
# What every reached binding is like

Before a bound cipher comes to its input it makes three conversions: of the key into one of AES, of
the vector into a block, and of the nonce, where the counted mode wants twelve bytes and goes no
further with any other number of them. Nothing is checked at that place. What it relies on is fixed
when the binding is granted, and no request after that changes it: the key is derived from the last
material that was accepted and is as long as the scheme says, and the vector has the length of the
mode. So whatever was asked before, the conversions of vector and nonce go well, and the one of the
key fails only when AES has no keys of the size that the scheme asks for. With one of these sizes,
nothing is left that could stop an encryption but a nonce that is used up or a text that is too
long.
-/
namespace PasswordSeal
namespace Scheme

inductive Obstacle where
  | key
  | vector
  | nonce

def prepare (s : Scheme) (b : Bound) : Except Obstacle BlockCipher :=
  match s.mode with
  | .cbc =>
    match Aes.keyed? b.key with
    | none => .error .key
    | some cipher => if b.iv.length = 16 then .ok cipher else .error .vector
  | .gcm =>
    if b.iv.length = 12 then
      match Aes.keyed? b.key with
      | none => .error .key
      | some cipher => .ok cipher
    else .error .nonce

/-- The answer of a bound cipher that makes its conversions. A nonce that does not fill its place
is not refused: there is no answer then, and nothing goes on. -/
def perform? (s : Scheme) (b : Bound) (used : Bool) (input : Bytes) : Option (Except Fault Bytes) :=
  if used ∧ s.mode = .gcm ∧ b.direction = .encrypt then some (.error .cryptographic)
  else
    match s.prepare b with
    | .error .nonce => none
    | .error .key | .error .vector => some (.error .cryptographic)
    | .ok cipher => some ((s.apply b cipher input).elim (.error .cryptographic) .ok)

structure Bound.Sound (s : Scheme) (material : Bytes) (b : Bound) : Prop where
  key : b.key = s.aesKey material b.parameters
  length_key : b.key.length = s.keyBytes
  iv : b.parameters.iv = some b.iv
  length_iv : b.iv.length = s.mode.ivLength
  salt : b.parameters.salt ≠ []
  iterations : b.parameters.iterations ≠ 0

namespace Bound.Sound
variable {s : Scheme} {material : Bytes} {b : Bound} (h : b.Sound s material)
include h

theorem prepare_eq : s.prepare b = (Aes.keyed? b.key).elim (.error .key) .ok := by
  have hiv := h.length_iv
  rw [prepare]
  cases hm : s.mode with
  | cbc =>
    rw [hm, BlockMode.ivLength] at hiv
    cases Aes.keyed? b.key with
    | none => rfl
    | some cipher => exact if_pos hiv
  | gcm =>
    rw [hm, BlockMode.ivLength] at hiv
    dsimp only
    rw [if_pos hiv]
    cases Aes.keyed? b.key <;> rfl

theorem perform?_eq (used : Bool) (input : Bytes) :
    s.perform? b used input = some (s.transform b used input) := by
  rw [perform?, transform, h.prepare_eq]
  split
  · rfl
  · cases Aes.keyed? b.key with
    | none => rfl
    | some cipher =>
      simp only [Option.elim_some, Option.bind_some]
      cases s.apply b cipher input <;> rfl

theorem exists_keyed (hs : s.Keyed) : ∃ cipher, Aes.keyed? b.key = some cipher := by
  rw [h.key]
  exact exists_aes hs material b.parameters

theorem keyed?_eq_none (hs : ¬ s.Keyed) : Aes.keyed? b.key = none := by
  apply Option.not_isSome_iff_eq_none.1
  rw [Aes.keyed?_isSome, h.length_key]
  exact hs

end Bound.Sound
end Scheme

namespace Machine
variable {s : Scheme} {history : List Request} {b : Scheme.Bound} {used : Bool}

theorem Asked.sound_bound {a : Asked} (h : s.Grants a.direction a.key a.parameters) :
    (a.bound s).Sound s a.key.material where
  key := (s.aesKey_withIv _ _ _).symm
  length_key := s.length_aesKey _ _
  iv := rfl
  length_iv := Scheme.length_ivInEffect h.2.1 a.draw
  salt := h.2.2.2
  iterations := h.2.2.1

theorem exists_stands (h : after s unbound history = bound b used) :
    ∃ t, Stands s history t ∧ b = t.bound s ∧ used = t.used := by
  rw [after_unbound] at h
  obtain ⟨hnone, -⟩ | ⟨t, ht, hstands⟩ := stand_cases s history
  · rw [hnone] at h
    cases h
  · rw [ht] at h
    obtain ⟨rfl, rfl⟩ := Machine.bound.inj h
    exact ⟨t, hstands, rfl, rfl⟩

theorem Stands.grants {t : Standing} (h : Stands s history t) :
    s.Grants t.direction t.key t.parameters := by
  obtain ⟨-, -, -, hgrants, -⟩ := h
  exact hgrants

theorem exists_sound (h : after s unbound history = bound b used) :
    ∃ t, Stands s history t ∧ b.direction = t.direction ∧ used = t.used ∧
      b.Sound s t.key.material := by
  obtain ⟨t, hstands, rfl, rfl⟩ := exists_stands h
  exact ⟨t, hstands, rfl, rfl, Asked.sound_bound hstands.grants⟩

theorem answerTo_bound (h : after s unbound history = bound b used) (input : Bytes) :
    answerTo s history (.transform input) = (s.transform b used input).map .output := by
  rw [answerTo, h]
  rfl

theorem answerTo_unbound (h : after s unbound history = unbound) (input : Bytes) :
    answerTo s history (.transform input) = .error .cryptographic := by
  rw [answerTo, h]
  rfl

/-- Every binding that a run of requests comes to is sound, and fails at none of its conversions but
for a key that AES has no size for. -/
structure KeepsBindings (s : Scheme) : Prop where
  sound : ∀ history b used, after s unbound history = bound b used →
    ∃ t, Stands s history t ∧ b.direction = t.direction ∧ used = t.used ∧
      b.Sound s t.key.material
  performs : ∀ history b used input, after s unbound history = bound b used →
    s.perform? b used input = some (s.transform b used input)
  prepares : s.Keyed → ∀ history b used, after s unbound history = bound b used →
    ∃ cipher, s.prepare b = .ok cipher
  encrypts : s.Keyed → ∀ history b used input, after s unbound history = bound b used →
    b.direction = .encrypt → answerTo s history (.transform input) = .error .cryptographic ∧
        s.mode = .gcm ∧ (used = true ∨ Gcm.textLimit < input.length) ∨
      (∃ output, answerTo s history (.transform input) = .ok (.output output)) ∧
        ¬ (s.mode = .gcm ∧ (used = true ∨ Gcm.textLimit < input.length))
  unbound : ∀ history input, after s unbound history = unbound →
    answerTo s history (.transform input) = .error .cryptographic
  unkeyed : ¬ s.Keyed → ∀ history input,
    answerTo s history (.transform input) = .error .cryptographic

theorem keepsBindings (s : Scheme) : KeepsBindings s where
  sound history b used h := exists_sound h
  performs history b used input h := by
    obtain ⟨t, -, -, -, hsound⟩ := exists_sound h
    exact hsound.perform?_eq used input
  prepares hs history b used h := by
    obtain ⟨t, -, -, -, hsound⟩ := exists_sound h
    obtain ⟨cipher, hcipher⟩ := hsound.exists_keyed hs
    refine ⟨cipher, ?_⟩
    rw [hsound.prepare_eq, hcipher, Option.elim_some]
  encrypts hs history b used input h hd := by
    obtain ⟨t, -, -, -, hsound⟩ := exists_sound h
    obtain ⟨cipher, hcipher⟩ := hsound.exists_keyed hs
    rw [answerTo_bound h, Scheme.transform_encrypt hcipher hd]
    by_cases hspent : used = true ∧ s.mode = .gcm
    · left
      rw [if_pos hspent]
      exact ⟨rfl, hspent.2, Or.inl hspent.1⟩
    · rw [if_neg hspent]
      obtain ⟨htakes, output, houtput, -⟩ | ⟨htakes, hnone⟩ :=
        s.mode.encrypt?_cases cipher b.iv input
      · right
        rw [houtput]
        refine ⟨⟨output, rfl⟩, ?_⟩
        rintro ⟨hm, hused | hlong⟩
        · exact hspent ⟨hused, hm⟩
        · exact s.mode.not_takes_iff.2 ⟨hm, hlong⟩ htakes
      · left
        rw [hnone]
        obtain ⟨hm, hlong⟩ := s.mode.not_takes_iff.1 htakes
        exact ⟨rfl, hm, Or.inr hlong⟩
  unbound history input h := answerTo_unbound h input
  unkeyed hs history input := by
    cases h : after s unbound history with
    | unbound => exact answerTo_unbound h input
    | bound b used =>
      obtain ⟨t, -, -, -, hsound⟩ := exists_sound h
      rw [answerTo_bound h, Scheme.transform, hsound.keyed?_eq_none hs]
      split <;> rfl

end Machine
end PasswordSeal
