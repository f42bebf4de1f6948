import PasswordSeal.Proofs.Cipher.Bind
import PasswordSeal.Proofs.Mode.RoundTrip

/-!
# Ciphers bound in opposite directions

A cipher is bound twice with one key and one vector, to encrypt and to decrypt. Each binding is then
the inverse of the other: what one makes of a text the other turns back, and an input that the first
does not arrive at is refused by the second. With chained blocks this holds however often the
bindings have been used. Counted blocks are sealed once; they are opened any number of times, and
nothing is asked of the block function for it.
-/
namespace PasswordSeal

namespace Scheme
variable {s : Scheme} {key : Key} {p : Parameters} {cipher : BlockCipher} {iv : Bytes}
variable {sealing opening : Binding} {earlier earlier' : List Bytes} {text input : Bytes}

structure Opposite (s : Scheme) (cipher : BlockCipher) (iv : Bytes) (sealing opening : Binding) :
    Prop where
  permutes : cipher.Permutes
  seals : ∀ earlier text, (s.mode = .gcm → earlier = []) →
    sealing.transform earlier text =
      (s.mode.encrypt? cipher iv text).elim (.error .cryptographic) .ok
  opens : ∀ earlier input, opening.transform earlier input =
    (s.mode.decrypt? cipher iv input).elim (.error .cryptographic) .ok

theorem exists_opposite {mode : BlockMode} (hm : s.mode = mode) (hk : s.Keyed)
    (hkey : key.material ≠ []) (hiv : p.iv = some iv) (hl : iv.length = mode.ivLength)
    (hp : p.iterations ≠ 0 ∧ p.salt ≠ []) :
    ∃ cipher sealing opening, Aes.keyed? (s.aesKey key.material p) = some cipher ∧
      (∀ draw, s.cipher.bind draw .encrypt key p = .ok sealing) ∧
        (∀ draw, s.cipher.bind draw .decrypt key p = .ok opening) ∧
          s.Opposite cipher iv sealing opening := by
  obtain rfl := hm
  obtain ⟨cipher, hc⟩ := exists_aes hk key.material p
  have hbind (draw : Draw) (direction : Direction) : s.cipher.bind draw direction key p =
      .ok (s.binding ⟨direction, s.aesKey key.material p, iv, p.withIv iv⟩) := by
    have hsuits : s.SuitsIv direction p.iv := by
      rw [hiv]
      exact hl
    have hgiven : s.ivInEffect draw p = iv := by
      rw [ivInEffect, hiv, Option.getD_some]
    rw [cipher_bind_eq_ite, if_pos ⟨hkey, hsuits, hp⟩, hgiven]
  refine ⟨cipher, _, _, hc, fun draw => hbind draw .encrypt, fun draw => hbind draw .decrypt, ?_⟩
  refine ⟨Aes.keyed?_permutes hc, ?_, ?_⟩
  · intro earlier text hfirst
    exact binding_first hc rfl hfirst text
  · intro earlier input
    exact binding_decrypt hc rfl earlier input

theorem cipher_bind_refused (hp : p.iterations = 0 ∨ p.salt = []) (draw : Draw)
    (direction : Direction) : s.cipher.bind draw direction key p = .error .cryptographic := by
  rw [cipher_bind_eq_ite, if_neg]
  rintro ⟨-, -, hr, hs⟩
  exact hp.elim hr hs

namespace Opposite
variable (h : s.Opposite cipher iv sealing opening)
include h

theorem opens_eq_ok_iff :
    opening.transform earlier input = .ok text ↔ s.mode.decrypt? cipher iv input = some text := by
  rw [h.opens, elim_eq_ok]

theorem seals_eq_ok_iff (hfirst : s.mode = .gcm → earlier = []) :
    sealing.transform earlier text = .ok input ↔ s.mode.encrypt? cipher iv text = some input := by
  rw [h.seals earlier text hfirst, elim_eq_ok]

theorem inverse (hfirst : s.mode = .gcm → earlier = []) :
    sealing.transform earlier text = .ok input ↔ opening.transform earlier' input = .ok text := by
  rw [h.seals_eq_ok_iff hfirst, h.opens_eq_ok_iff, s.mode.decrypt?_eq_some_iff h.permutes]

theorem refuses (hforeign : ∀ text, sealing.transform [] text ≠ .ok input) :
    opening.transform earlier input = .error .cryptographic := by
  cases hd : s.mode.decrypt? cipher iv input with
  | none => rw [h.opens, hd, Option.elim_none]
  | some text =>
    have hopens : opening.transform [] input = .ok text := h.opens_eq_ok_iff.2 hd
    exact absurd ((h.inverse fun _ => rfl).2 hopens) (hforeign text)

theorem exists_seals (hfirst : s.mode = .gcm → earlier = []) (ht : s.mode.Takes text.length) :
    ∃ input, sealing.transform earlier text = .ok input ∧
      input.length = s.mode.sealedLength text.length := by
  obtain ⟨input, hinput, hlength⟩ := s.mode.exists_encrypt? cipher iv ht
  exact ⟨input, (h.seals_eq_ok_iff hfirst).2 hinput, hlength⟩

theorem length_of_seals (hfirst : s.mode = .gcm → earlier = [])
    (hs : sealing.transform earlier text = .ok input) :
    s.mode.Takes text.length ∧ input.length = s.mode.sealedLength text.length :=
  s.mode.length_of_encrypt? ((h.seals_eq_ok_iff hfirst).1 hs)

end Opposite
end Scheme

namespace Cbc
variable {cipher : BlockCipher} {iv : Bytes} {sealing opening : Binding}

structure Inverse (cipher : BlockCipher) (iv : Bytes) (sealing opening : Binding) : Prop where
  inverse : ∀ earlier earlier' text input,
    sealing.transform earlier text = .ok input ↔ opening.transform earlier' input = .ok text
  seals : ∀ earlier text, ∃ input, sealing.transform earlier text = .ok input ∧
    input.length = 16 * (text.length / 16 + 1)
  refuses : ∀ earlier input, (∀ text, sealing.transform [] text ≠ .ok input) →
    opening.transform earlier input = .error .cryptographic
  unaligned : ∀ earlier input, input = [] ∨ input.length % 16 ≠ 0 →
    opening.transform earlier input = .error .cryptographic
  padded : ∀ earlier text input, opening.transform earlier input = .ok text ↔
    input.length % 16 = 0 ∧
      Padded text (Block.join (decryptBlocks cipher.decrypt (.ofBytes iv) (Block.split input)))

end Cbc

namespace Gcm
variable {cipher : BlockCipher} {iv : Bytes} {sealing opening : Binding}

/-- Counted blocks that are sealed by one binding, as its first text, and opened by the other. -/
structure Inverse (cipher : BlockCipher) (iv : Bytes) (sealing opening : Binding) : Prop where
  inverse : ∀ earlier text input,
    sealing.transform [] text = .ok input ↔ opening.transform earlier input = .ok text
  seals : ∀ text, text.length ≤ textLimit → ∃ input, sealing.transform [] text = .ok input
  accepts : ∀ earlier text, text.length ≤ textLimit → ∃ input, input.length = text.length + 16 ∧
    ∀ other, opening.transform earlier other = .ok text ↔ other = input
  refuses : ∀ earlier input, (∀ text, sealing.transform [] text ≠ .ok input) →
    opening.transform earlier input = .error .cryptographic
  unsealed : ∀ text, textLimit < text.length → sealing.transform [] text = .error .cryptographic
  short : ∀ earlier input, input.length < 16 →
    opening.transform earlier input = .error .cryptographic
  long : ∀ earlier input, textLimit + 16 < input.length →
    opening.transform earlier input = .error .cryptographic
  tampered : ∀ earlier text covered end₁ end₂, sealing.transform [] text = .ok (covered ++ end₁) →
    end₁.length = 16 → end₂.length = 16 → end₁ ≠ end₂ →
      opening.transform earlier (covered ++ end₂) = .error .cryptographic
  tagged : ∀ earlier text input, opening.transform earlier input = .ok text ↔
    ∃ covered, covered.length ≤ textLimit ∧ input = covered ++ tag cipher.encrypt iv covered ∧
      cover cipher.encrypt iv covered = text

end Gcm

namespace Scheme

section
variable {s : Scheme} {key : Key} {p : Parameters} {cipher : BlockCipher} {iv : Bytes}
variable {sealing opening : Binding}

theorem Opposite.cbc_inverse (h : s.Opposite cipher iv sealing opening) (hm : s.mode = .cbc) :
    Cbc.Inverse cipher iv sealing opening := by
  have hfirst (earlier : List Bytes) : s.mode = .gcm → earlier = [] := by
    rw [hm]
    exact nofun
  have htakes (text : Bytes) : s.mode.Takes text.length := by
    rw [hm]
    exact nofun
  have hlen (count : Nat) : s.mode.sealedLength count = 16 * (count / 16 + 1) := by
    rw [hm]
    rfl
  refine ⟨?_, ?_, ?_, ?_, ?_⟩
  · intro earlier earlier' text input
    exact h.inverse (hfirst earlier)
  · intro earlier text
    rw [← hlen]
    exact h.exists_seals (hfirst earlier) (htakes text)
  · intro earlier input hforeign
    exact h.refuses hforeign
  · intro earlier input hinput
    refine h.refuses fun text htext => ?_
    -- An encryption has one whole block at least.
    have hwhole := (h.length_of_seals (hfirst []) htext).2
    rw [hlen] at hwhole
    rcases hinput with rfl | hrest
    · rw [List.length_nil] at hwhole
      omega
    · omega
  · intro earlier text input
    rw [h.opens_eq_ok_iff, hm]
    exact Cbc.decrypt?_eq_some_iff

/-- Bound with one key and the same parameters, a vector among them, chained blocks are sealed and
opened by bindings that are inverse to each other. Only parameters that no key is derived with
cannot be bound, in either direction. -/
theorem cipher_bind_cbc_inverse (hm : s.mode = .cbc) (hk : s.Keyed) (hkey : key.material ≠ [])
    (hiv : p.iv = some iv) (hl : iv.length = 16) :
    (p.iterations ≠ 0 ∧ p.salt ≠ [] → ∃ cipher sealing opening,
        Aes.keyed? (s.aesKey key.material p) = some cipher ∧
          (∀ draw, s.cipher.bind draw .encrypt key p = .ok sealing) ∧
            (∀ draw, s.cipher.bind draw .decrypt key p = .ok opening) ∧
              Cbc.Inverse cipher iv sealing opening) ∧
      (p.iterations = 0 ∨ p.salt = [] →
        ∀ draw direction, s.cipher.bind draw direction key p = .error .cryptographic) := by
  refine ⟨?_, cipher_bind_refused⟩
  intro hp
  obtain ⟨cipher, sealing, opening, hc, hseal, hopen, h⟩ := exists_opposite hm hk hkey hiv hl hp
  exact ⟨cipher, sealing, opening, hc, hseal, hopen, h.cbc_inverse hm⟩

theorem Opposite.gcm_inverse (h : s.Opposite cipher iv sealing opening) (hm : s.mode = .gcm) :
    Gcm.Inverse cipher iv sealing opening := by
  have hfirst : s.mode = .gcm → ([] : List Bytes) = [] := fun _ => rfl
  have hseals {text input : Bytes} :
      sealing.transform [] text = .ok input ↔ Gcm.encrypt? cipher iv text = some input := by
    rw [h.seals_eq_ok_iff hfirst, hm]
    rfl
  have htakes {text : Bytes} : s.mode.Takes text.length ↔ text.length ≤ Gcm.textLimit :=
    forall_prop_of_true hm
  have hlen {text input : Bytes} (hs : sealing.transform [] text = .ok input) :
      text.length ≤ Gcm.textLimit ∧ input.length = text.length + 16 := by
    obtain ⟨ht, hlength⟩ := h.length_of_seals hfirst hs
    rw [hm] at hlength
    exact ⟨htakes.1 ht, hlength⟩
  have hinverse (earlier : List Bytes) (text input : Bytes) :
      sealing.transform [] text = .ok input ↔ opening.transform earlier input = .ok text :=
    h.inverse hfirst
  constructor
  · exact hinverse
  · intro text ht
    obtain ⟨input, hinput, -⟩ := h.exists_seals hfirst (htakes.2 ht)
    exact ⟨input, hinput⟩
  · intro earlier text ht
    obtain ⟨input, hinput, -⟩ := h.exists_seals hfirst (htakes.2 ht)
    refine ⟨input, (hlen hinput).2, fun other => ?_⟩
    rw [← hinverse earlier, hinput, Except.ok.injEq, eq_comm]
  · intro earlier input hforeign
    exact h.refuses hforeign
  · intro text hlong
    have hnot : ¬ s.mode.Takes text.length := mt htakes.1 (Nat.not_le.2 hlong)
    rw [h.seals [] text hfirst, s.mode.encrypt?_eq_none cipher iv hnot, Option.elim_none]
  · intro earlier input hshort
    refine h.refuses fun text htext => ?_
    have hlength := (hlen htext).2
    omega
  · intro earlier input hlong
    refine h.refuses fun text htext => ?_
    obtain ⟨ht, hlength⟩ := hlen htext
    omega
  · intro earlier text covered end₁ end₂ hsealed h₁ h₂ hne
    refine h.refuses fun other hother => hne ?_
    -- Either ending would have to be the tag of what stands in front of both.
    have htag := Gcm.eq_tag_of_encrypt? (hseals.1 hsealed) h₁
    exact htag.trans (Gcm.eq_tag_of_encrypt? (hseals.1 hother) h₂).symm
  · intro earlier text input
    rw [h.opens_eq_ok_iff, hm]
    exact Gcm.decrypt?_eq_some_iff

/-- Bound with one key and the same parameters, a vector among them, counted blocks are sealed and
opened by bindings that are inverse to each other. Only parameters that no key is derived with
cannot be bound, in either direction. That the mode can be inverted owes nothing to AES: it can be
with any function of blocks. -/
theorem cipher_bind_gcm_inverse (hm : s.mode = .gcm) (hk : s.Keyed) (hkey : key.material ≠ [])
    (hiv : p.iv = some iv) (hl : iv.length = 12) :
    (p.iterations ≠ 0 ∧ p.salt ≠ [] → ∃ cipher sealing opening,
        Aes.keyed? (s.aesKey key.material p) = some cipher ∧
          (∀ draw, s.cipher.bind draw .encrypt key p = .ok sealing) ∧
            (∀ draw, s.cipher.bind draw .decrypt key p = .ok opening) ∧
              Gcm.Inverse cipher iv sealing opening) ∧
      (p.iterations = 0 ∨ p.salt = [] →
        ∀ draw direction, s.cipher.bind draw direction key p = .error .cryptographic) ∧
      ∀ (block : BlockCipher) (text input : Bytes),
        Gcm.encrypt? block iv text = some input ↔ Gcm.decrypt? block iv input = some text := by
  refine ⟨?_, cipher_bind_refused, fun _ _ _ => Gcm.decrypt?_iff_encrypt?.symm⟩
  intro hp
  obtain ⟨cipher, sealing, opening, hc, hseal, hopen, h⟩ := exists_opposite hm hk hkey hiv hl hp
  exact ⟨cipher, sealing, opening, hc, hseal, hopen, h.gcm_inverse hm⟩

end

namespace Sample
variable (mode : BlockMode)

def scheme : Scheme := ⟨.sha256, 16, mode⟩

def vector : Bytes := List.replicate mode.ivLength 7

def parameters : Parameters := ⟨⟨[1, 2, 3, 4], 2, some (vector mode)⟩, (scheme mode).name⟩

def key : Key := ⟨"a key", [1, 2, 3]⟩

def text : Bytes := List.replicate 20 1

end Sample

theorem cipher_bind_cbc_inverse_twenty : (Sample.scheme .cbc).mode = .cbc ∧
    (Sample.scheme .cbc).Keyed ∧ Sample.key.material ≠ [] ∧
      (Sample.parameters .cbc).iv = some (Sample.vector .cbc) ∧
        (Sample.vector .cbc).length = 16 ∧ ∃ sealing opening input,
          (∀ draw, (Sample.scheme .cbc).cipher.bind draw .encrypt Sample.key
              (Sample.parameters .cbc) = .ok sealing) ∧
            (∀ draw, (Sample.scheme .cbc).cipher.bind draw .decrypt Sample.key
                (Sample.parameters .cbc) = .ok opening) ∧
              sealing.transform [] Sample.text = .ok input ∧ input.length = 32 ∧
                opening.transform [] input = .ok Sample.text ∧
                  opening.transform [] [] = .error .cryptographic := by
  have hkeyed : (Sample.scheme .cbc).Keyed := Or.inl rfl
  have hmaterial : Sample.key.material ≠ [] := by decide
  obtain ⟨cipher, sealing, opening, -, hseal, hopen, h⟩ :=
    (cipher_bind_cbc_inverse (s := Sample.scheme .cbc) (p := Sample.parameters .cbc) rfl hkeyed
      hmaterial rfl rfl).1 (by decide)
  obtain ⟨input, hinput, hlen⟩ := h.seals [] Sample.text
  exact ⟨rfl, hkeyed, hmaterial, rfl, rfl, sealing, opening, input, hseal, hopen, hinput, hlen,
    (h.inverse [] [] Sample.text input).1 hinput, h.unaligned [] [] (Or.inl rfl)⟩

theorem cipher_bind_gcm_inverse_twenty : (Sample.scheme .gcm).mode = .gcm ∧
    (Sample.scheme .gcm).Keyed ∧ Sample.key.material ≠ [] ∧
      (Sample.parameters .gcm).iv = some (Sample.vector .gcm) ∧
        (Sample.vector .gcm).length = 12 ∧ ∃ sealing opening input,
          (∀ draw, (Sample.scheme .gcm).cipher.bind draw .encrypt Sample.key
              (Sample.parameters .gcm) = .ok sealing) ∧
            (∀ draw, (Sample.scheme .gcm).cipher.bind draw .decrypt Sample.key
                (Sample.parameters .gcm) = .ok opening) ∧
              sealing.transform [] Sample.text = .ok input ∧ input.length = 36 ∧
                opening.transform [] input = .ok Sample.text ∧
                  opening.transform [] [] = .error .cryptographic := by
  have hkeyed : (Sample.scheme .gcm).Keyed := Or.inl rfl
  have hmaterial : Sample.key.material ≠ [] := by decide
  obtain ⟨cipher, sealing, opening, -, hseal, hopen, h⟩ :=
    (cipher_bind_gcm_inverse (s := Sample.scheme .gcm) (p := Sample.parameters .gcm) rfl hkeyed
      hmaterial rfl rfl).1 (by decide)
  obtain ⟨input, hlen, hinput⟩ := h.accepts [] Sample.text (by decide)
  have hopened := (hinput input).2 rfl
  exact ⟨rfl, hkeyed, hmaterial, rfl, rfl, sealing, opening, input, hseal, hopen,
    (h.inverse [] Sample.text input).2 hopened, hlen, hopened, h.short [] [] (by decide)⟩

end Scheme
end PasswordSeal
