import PasswordSeal.Provider.Basic
import PasswordSeal.Proofs.Scheme

/-!
# What is found under a name

The built-in provider lists its algorithms under names that differ in more than case. A lookup finds
what is listed under the name that it is given, the case of ASCII letters aside, and nothing under
any other name. The ciphers and the generators of parameters go by the names of the schemes, the key
derivations by all names of the list.
-/
namespace PasswordSeal

theorem Alphabet.ofName_eq_ok_iff {name : String} {a : Alphabet} :
    ofName name = .ok a ↔ Text.sameIgnoringCase a.name name := by
  have hall : a ∈ all := by cases a <;> decide
  have hnames : (all.map fun a => Text.small a.name).Nodup := by decide
  have hfound : ofName? name = some a ↔ Text.sameIgnoringCase a.name name := by
    rw [ofName?, Text.find?_sameIgnoringCase hnames, and_iff_right hall]
  rw [← hfound, ofName]
  cases ofName? name <;> simp

namespace KeyDerivation
variable {name : String} {k : KeyDerivation}

/-! ## The key derivations of the built-in provider -/

def offered : List KeyDerivation :=
  Scheme.all.map ofScheme ++ Digest.all.map ofDigest ++ [argon2id]

theorem mem_offered : k ∈ offered ↔
    (∃ s ∈ Scheme.all, ofScheme s = k) ∨ (∃ d, ofDigest d = k) ∨ k = argon2id := by
  have hall (d : Digest) : d ∈ Digest.all := by cases d <;> decide
  simp only [offered, List.mem_append, List.mem_map, List.mem_singleton, hall, true_and, or_assoc]

theorem algorithms_builtIn : Provider.builtIn.algorithms = offered.map (·.algorithm) := by
  rw [offered, List.map_append, List.map_append, List.map_map, List.map_map]
  rfl

theorem nodup_algorithms : (offered.map fun k => Text.small k.algorithm).Nodup := by
  -- A name that two schemes shared would be read as both of them.
  have hread : ∀ s ∈ Scheme.all, ∀ t ∈ Scheme.all,
      Text.small s.name = Text.small t.name → s = t := by
    intro s hs t ht hnames
    have hsame := Scheme.ofName?_eq_some_iff.2 ⟨hs, Text.sameIgnoringCase_iff.2 hnames⟩
    rw [Scheme.ofName?_eq_some_iff.2 ⟨ht, Text.sameIgnoringCase_iff.2 rfl⟩] at hsame
    exact (Option.some.inj hsame).symm
  have hschemes := List.Nodup.map_on hread (by decide)
  have hothers : ((Digest.all.map ofDigest ++ [argon2id]).map fun k =>
      Text.small k.algorithm).Nodup := by decide
  rw [offered, List.append_assoc, List.map_append, List.map_map]
  refine List.nodup_append.2 ⟨hschemes, hothers, ?_⟩
  intro schemeName hscheme otherName hother
  obtain ⟨s, -, rfl⟩ := List.mem_map.1 hscheme
  have hstart : (Text.small s.name).take 3 = "pbe".toList := by
    rw [Scheme.small_name]
    rfl
  have hstarts : ∀ otherName ∈ (Digest.all.map ofDigest ++ [argon2id]).map fun k =>
      Text.small k.algorithm, otherName.take 3 ≠ "pbe".toList := by decide
  intro heq
  exact hstarts otherName hother (heq ▸ hstart)

theorem offered_of_ofName? (h : ofName? name = some k) :
    k ∈ offered ∧ Text.sameIgnoringCase k.algorithm name := by
  rw [ofName?] at h
  rw [mem_offered]
  split at h
  · next hargon =>
    obtain rfl := Option.some.inj h
    exact ⟨Or.inr (Or.inr rfl), hargon⟩
  · cases hs : Scheme.ofName? name with
    | some s =>
      rw [hs] at h
      obtain rfl := Option.some.inj h
      obtain ⟨hmem, hname⟩ := Scheme.ofName?_eq_some_iff.1 hs
      exact ⟨Or.inl ⟨s, hmem, rfl⟩, hname⟩
    | none =>
      rw [hs] at h
      have hname := List.find?_some h
      obtain ⟨d, -, rfl⟩ := List.mem_map.1 (List.mem_of_find?_eq_some h)
      exact ⟨Or.inr (Or.inl ⟨d, rfl⟩), hname⟩

theorem ofName?_ne_none (hk : k ∈ offered) (hname : Text.sameIgnoringCase k.algorithm name) :
    ofName? name ≠ none := by
  intro hnone
  rw [ofName?] at hnone
  split at hnone
  · cases hnone
  · next hargon =>
    cases hs : Scheme.ofName? name with
    | some s =>
      rw [hs] at hnone
      cases hnone
    | none =>
      rw [hs] at hnone
      obtain ⟨s, hmem, rfl⟩ | ⟨d, rfl⟩ | rfl := mem_offered.1 hk
      · rw [Scheme.ofName?_eq_some_iff.2 ⟨hmem, hname⟩] at hs
        cases hs
      · have hd : ofDigest d ∈ Digest.all.map ofDigest := by cases d <;> simp [Digest.all]
        exact List.find?_eq_none.1 hnone _ hd hname
      · exact hargon hname

theorem ofName?_eq_some_iff :
    ofName? name = some k ↔ k ∈ offered ∧ Text.sameIgnoringCase k.algorithm name := by
  constructor
  · exact offered_of_ofName?
  · rintro ⟨hk, hname⟩
    cases hfound : ofName? name with
    | none => exact absurd hfound (ofName?_ne_none hk hname)
    | some other =>
      obtain ⟨hother, hsame⟩ := offered_of_ofName? hfound
      have hnames :=
        (Text.sameIgnoringCase_iff.1 hsame).trans (Text.sameIgnoringCase_iff.1 hname).symm
      rw [List.inj_on_of_nodup_map nodup_algorithms hother hk hnames]

/-- The names that the built-in provider lists, each with the natural length of its family: that of
the key of a scheme, that of the output of a digest, or 32 bytes. -/
inductive Listed : String → Nat → Prop
  | scheme (s : Scheme) (hs : s ∈ Scheme.all) : Listed s.name s.keyBytes
  | digest (d : Digest) : Listed ("PBKDF2WithHmac" ++ d.label) d.size
  | argon2id : Listed "Argon2id" 32

theorem listed_of_offered (h : k ∈ offered) : Listed k.algorithm k.naturalLength := by
  obtain ⟨s, hs, rfl⟩ | ⟨d, rfl⟩ | rfl := mem_offered.1 h
  · exact .scheme s hs
  · exact .digest d
  · exact .argon2id

end KeyDerivation

namespace Provider
open Text (sameIgnoringCase)

structure FindsListed (name : String) : Prop where
  scheme : ∀ s, Scheme.ofName? name = some s ↔ s ∈ Scheme.all ∧ sameIgnoringCase s.name name
  cipher : ∀ listed, (∃ c, builtIn.cipher? name = some c ∧ c.transformation = listed) ↔
    ∃ s ∈ Scheme.all, sameIgnoringCase s.name name ∧ s.name = listed
  generator : ∀ listed, (∃ g, builtIn.generator? name = some g ∧ g.algorithm = listed) ↔
    ∃ s ∈ Scheme.all, sameIgnoringCase s.name name ∧ s.name = listed
  keyDerivation : (∃ k, builtIn.keyDerivation? name = some k) ↔
    ∃ listed ∈ builtIn.algorithms, sameIgnoringCase listed name
  listed : ∀ k, builtIn.keyDerivation? name = some k →
    builtIn.algorithms.filter (sameIgnoringCase · name) = [k.algorithm] ∧
      KeyDerivation.Listed k.algorithm k.naturalLength
  alphabet : ∀ a, Alphabet.ofName name = .ok a ↔ sameIgnoringCase a.name name

/-- Under every name the built-in provider finds what it lists under it, and nothing else. -/
theorem finds_listed (name : String) : FindsListed name where
  scheme _ := Scheme.ofName?_eq_some_iff
  cipher _ := by
    have hlabel : ∀ s : Scheme, s.cipher.transformation = s.name := fun _ => rfl
    exact Scheme.exists_offer_iff hlabel
  generator _ := by
    have hlabel : ∀ s, (ParameterGenerator.ofScheme s).algorithm = s.name := fun _ => rfl
    exact Scheme.exists_offer_iff hlabel
  keyDerivation := by
    rw [KeyDerivation.algorithms_builtIn]
    constructor
    · rintro ⟨k, hk⟩
      obtain ⟨hmem, hname⟩ := KeyDerivation.ofName?_eq_some_iff.1 hk
      exact ⟨k.algorithm, List.mem_map_of_mem hmem, hname⟩
    · rintro ⟨listed, hlisted, hname⟩
      obtain ⟨k, hmem, rfl⟩ := List.mem_map.1 hlisted
      exact ⟨k, KeyDerivation.ofName?_eq_some_iff.2 ⟨hmem, hname⟩⟩
  listed k hk := by
    obtain ⟨hmem, hname⟩ := KeyDerivation.ofName?_eq_some_iff.1 hk
    refine ⟨?_, KeyDerivation.listed_of_offered hmem⟩
    have hone := Text.filter_sameIgnoringCase KeyDerivation.nodup_algorithms hmem hname
    rw [KeyDerivation.algorithms_builtIn, List.filter_map]
    exact congrArg (List.map _) hone
  alphabet _ := Alphabet.ofName_eq_ok_iff

end Provider
end PasswordSeal
