import PasswordSeal.Cipher.Basic
import PasswordSeal.Proofs.Except
import PasswordSeal.Proofs.Mode.RoundTrip
import PasswordSeal.Proofs.Scheme

/-!
# What a binding fixes

A binding is granted exactly when there is key material, the parameters suit the key derivation and
the initialization vector suits the mode. It then fixes an AES key, which has a cipher whenever the
scheme asks for 16 or 32 bytes, and the bound cipher answers by the mode of the scheme.
-/
namespace PasswordSeal

theorem Pbkdf2.derive_eq_ite (d : Digest) (password salt : Bytes) (rounds : UInt32)
    (length : Nat) : derive d password salt rounds length =
      if rounds ≠ 0 ∧ salt ≠ [] then .ok (stream d password salt rounds.toNat length)
      else .error .cryptographic := by
  rw [derive]
  by_cases hr : rounds = 0
  · simp [hr]
  · by_cases hs : salt = [] <;> simp [hr, hs]

theorem Pbkdf2.derive_eq_ok {d : Digest} {password salt : Bytes} {rounds : UInt32} {length : Nat}
    {material : Bytes} : derive d password salt rounds length = .ok material ↔
      rounds ≠ 0 ∧ salt ≠ [] ∧ stream d password salt rounds.toNat length = material := by
  rw [derive_eq_ite]
  split
  · next h => simp [h]
  · next h => simpa using fun hr hs => absurd ⟨hr, hs⟩ h

namespace Scheme
variable {s : Scheme} {draw : Draw} {direction : Direction} {key : Key} {p : Parameters} {b : Bound}

theorem chooseIv_eq_ok {given : Option Bytes} {iv : Bytes} :
    s.chooseIv draw direction given = .ok iv ↔ iv.length = s.mode.ivLength ∧
      (given = some iv ∨
        given = none ∧ direction = .encrypt ∧ iv = draw.bytes s.mode.ivLength) := by
  cases given with
  | some bytes =>
    rw [chooseIv]
    split
    · next h =>
      constructor
      · intro he
        obtain rfl := Except.ok.inj he
        exact ⟨h, Or.inl rfl⟩
      · rintro ⟨-, he | ⟨he, -⟩⟩
        · rw [Option.some.inj he]
        · cases he
    · next h =>
      constructor
      · intro he
        cases he
      · rintro ⟨hl, he | ⟨he, -⟩⟩
        · exact absurd (Option.some.inj he ▸ hl) h
        · cases he
  | none =>
    cases direction with
    | encrypt =>
      have hl := draw.length_bytes s.mode.ivLength
      rw [chooseIv]
      constructor
      · intro he
        obtain rfl := Except.ok.inj he
        exact ⟨hl, Or.inr ⟨rfl, rfl, rfl⟩⟩
      · rintro ⟨-, he | ⟨-, -, rfl⟩⟩
        · cases he
        · rfl
    | decrypt => simp [chooseIv]

def aesKey (s : Scheme) (material : Bytes) (p : Parameters) : Bytes :=
  Pbkdf2.stream s.digest material p.salt p.iterations.toNat s.keyBytes

@[simp] theorem aesKey_withIv (s : Scheme) (material : Bytes) (p : Parameters) (iv : Bytes) :
    s.aesKey material (p.withIv iv) = s.aesKey material p := rfl

theorem bind_eq_ok : s.bind draw direction key p = .ok b ↔
    key.material ≠ [] ∧ p.iterations ≠ 0 ∧ p.salt ≠ [] ∧
      ∃ iv, s.chooseIv draw direction p.iv = .ok iv ∧
        b = ⟨direction, s.aesKey key.material p, iv, p.withIv iv⟩ := by
  rw [bind]
  split
  · next h => simp [h]
  · next h =>
    simp only [PasswordSeal.bind_eq_ok, Pbkdf2.derive_eq_ok]
    constructor
    · rintro ⟨iv, hiv, _, ⟨hr, hs, rfl⟩, hb⟩
      exact ⟨h, hr, hs, iv, hiv, (Except.ok.inj hb).symm⟩
    · rintro ⟨-, hr, hs, iv, hiv, rfl⟩
      exact ⟨iv, hiv, _, ⟨hr, hs, rfl⟩, rfl⟩

def SuitsIv (s : Scheme) (direction : Direction) : Option Bytes → Prop
  | some iv => iv.length = s.mode.ivLength
  | none => direction = .encrypt

instance (s : Scheme) (direction : Direction) (iv : Option Bytes) :
    Decidable (s.SuitsIv direction iv) :=
  match iv with
  | some iv => inferInstanceAs (Decidable (iv.length = s.mode.ivLength))
  | none => inferInstanceAs (Decidable (direction = .encrypt))

def Grants (s : Scheme) (direction : Direction) (key : Key) (p : Parameters) : Prop :=
  key.material ≠ [] ∧ s.SuitsIv direction p.iv ∧ p.iterations ≠ 0 ∧ p.salt ≠ []

instance (s : Scheme) (direction : Direction) (key : Key) (p : Parameters) :
    Decidable (s.Grants direction key p) :=
  inferInstanceAs (Decidable (_ ∧ _))

def ivInEffect (s : Scheme) (draw : Draw) (p : Parameters) : Bytes :=
  p.iv.getD (draw.bytes s.mode.ivLength)

theorem chooseIv_eq_ite (s : Scheme) (draw : Draw) (direction : Direction) (p : Parameters) :
    s.chooseIv draw direction p.iv =
      if s.SuitsIv direction p.iv then .ok (s.ivInEffect draw p) else .error .cryptographic := by
  rw [ivInEffect]
  cases p.iv with
  | some iv => rfl
  | none => cases direction <;> rfl

theorem length_ivInEffect (h : s.SuitsIv direction p.iv) (draw : Draw) :
    (s.ivInEffect draw p).length = s.mode.ivLength := by
  rw [ivInEffect]
  cases hiv : p.iv with
  | some iv =>
    rw [hiv] at h
    exact h
  | none => exact draw.length_bytes _

theorem bind_eq_ite (s : Scheme) (draw : Draw) (direction : Direction) (key : Key)
    (p : Parameters) : s.bind draw direction key p =
      if s.Grants direction key p then
        .ok ⟨direction, s.aesKey key.material p, s.ivInEffect draw p,
          p.withIv (s.ivInEffect draw p)⟩
      else .error .cryptographic := by
  rw [bind, chooseIv_eq_ite, Pbkdf2.derive_eq_ite]
  by_cases hm : key.material = []
  · rw [if_pos hm, if_neg (fun h => h.1 hm)]
  · rw [if_neg hm]
    by_cases hi : s.SuitsIv direction p.iv
    · rw [if_pos hi, ok_bind]
      by_cases hp : p.iterations ≠ 0 ∧ p.salt ≠ []
      · rw [if_pos hp, ok_bind, if_pos ⟨hm, hi, hp⟩]
        rfl
      · rw [if_neg hp, error_bind, if_neg (fun h => hp h.2.2)]
    · rw [if_neg hi, error_bind, if_neg (fun h => hi h.2.1)]

def binding (s : Scheme) (b : Bound) : Binding where
  parameters := some b.parameters
  transform earlier input := s.transform b (!earlier.isEmpty) input

theorem cipher_bind_eq_ok {binding : Binding} : s.cipher.bind draw direction key p = .ok binding ↔
    ∃ b, s.bind draw direction key p = .ok b ∧ s.binding b = binding := by
  simp only [cipher, PasswordSeal.bind_eq_ok]
  constructor
  · rintro ⟨b, hb, h⟩
    exact ⟨b, hb, Except.ok.inj h⟩
  · rintro ⟨b, hb, rfl⟩
    exact ⟨b, hb, rfl⟩

theorem cipher_bind_eq_ite (s : Scheme) (draw : Draw) (direction : Direction) (key : Key)
    (p : Parameters) : s.cipher.bind draw direction key p =
      if s.Grants direction key p then
        .ok (s.binding ⟨direction, s.aesKey key.material p, s.ivInEffect draw p,
          p.withIv (s.ivInEffect draw p)⟩)
      else .error .cryptographic := by
  dsimp only [cipher]
  rw [bind_eq_ite]
  by_cases hg : s.Grants direction key p
  · rw [if_pos hg, if_pos hg]
    rfl
  · rw [if_neg hg, if_neg hg]
    rfl

theorem length_aesKey (s : Scheme) (material : Bytes) (p : Parameters) :
    (s.aesKey material p).length = s.keyBytes :=
  Pbkdf2.length_stream _ _ _ _ _

def Keyed (s : Scheme) : Prop := s.keyBytes = 16 ∨ s.keyBytes = 32

theorem Keyed.pos (h : s.Keyed) : 0 < s.keyBytes := by
  rw [Keyed] at h
  omega

theorem keyed_of_ofName? {name : String} (h : ofName? name = some s) : s.Keyed :=
  mem_all.1 (ofName?_eq_some_iff.1 h).1

theorem exists_aes (h : s.Keyed) (material : Bytes) (p : Parameters) :
    ∃ cipher, Aes.keyed? (s.aesKey material p) = some cipher := by
  apply Option.isSome_iff_exists.1
  rw [Aes.keyed?_isSome, length_aesKey]
  exact h

section
variable {cipher : BlockCipher} (hk : Aes.keyed? b.key = some cipher)
include hk

theorem transform_encrypt (hd : b.direction = .encrypt) (used : Bool) (input : Bytes) :
    s.transform b used input =
      if used ∧ s.mode = .gcm then .error .cryptographic
      else (s.mode.encrypt? cipher b.iv input).elim (.error .cryptographic) .ok := by
  rw [transform, hk, Option.bind_some]
  cases hm : s.mode with
  | cbc => simp [apply, hm, hd, BlockMode.encrypt?]
  | gcm =>
    simp only [apply, hm, hd, BlockMode.encrypt?, and_true]
    cases Gcm.encrypt? cipher b.iv input <;> rfl

theorem transform_decrypt (hd : b.direction = .decrypt) (used : Bool) (input : Bytes) :
    s.transform b used input =
      (s.mode.decrypt? cipher b.iv input).elim (.error .cryptographic) .ok := by
  rw [transform, if_neg (by simp [hd]), hk, Option.bind_some]
  cases hm : s.mode with
  | cbc =>
    simp only [apply, hm, hd, BlockMode.decrypt?]
    cases Cbc.decrypt? cipher b.iv input <;> rfl
  | gcm =>
    simp only [apply, hm, hd, BlockMode.decrypt?]
    cases Gcm.decrypt? cipher b.iv input <;> rfl

theorem binding_first (hd : b.direction = .encrypt) {earlier : List Bytes}
    (hfirst : s.mode = .gcm → earlier = []) (input : Bytes) :
    (s.binding b).transform earlier input =
      (s.mode.encrypt? cipher b.iv input).elim (.error .cryptographic) .ok := by
  refine (transform_encrypt hk hd _ input).trans (if_neg ?_)
  rintro ⟨hused, hm⟩
  rw [hfirst hm] at hused
  cases hused

theorem binding_again (hd : b.direction = .encrypt) {earlier : List Bytes} (hm : s.mode = .gcm)
    (hagain : earlier ≠ []) (input : Bytes) :
    (s.binding b).transform earlier input = .error .cryptographic := by
  refine (transform_encrypt hk hd _ input).trans (if_pos ⟨?_, hm⟩)
  simpa using hagain

theorem binding_decrypt (hd : b.direction = .decrypt) (earlier : List Bytes) (input : Bytes) :
    (s.binding b).transform earlier input =
      (s.mode.decrypt? cipher b.iv input).elim (.error .cryptographic) .ok :=
  transform_decrypt hk hd _ input

end
end Scheme
end PasswordSeal
