import PasswordSeal.Scheme
import Mathlib.Data.List.Nodup

/-!
# Which names a scheme goes by

A name is taken apart from its start: the stem, the label up to the first joint, and behind that the
size of the key and the ending of the mode. What was taken off is, put together again, the name of
the scheme in small letters. So a name that was read is one of those that are listed, whatever else
it might have been cut into, and each listed name is read.
-/
namespace PasswordSeal

/-! ## Letters without case -/

namespace Text

theorem sameIgnoringCase_iff {a b : String} : sameIgnoringCase a b ↔ small a = small b :=
  beq_iff_eq

theorem toLower_toLower (c : Char) : c.toLower.toLower = c.toLower := by
  by_cases h : 'A'.val ≤ c.val ∧ c.val ≤ 'Z'.val
  · have hlower : c.toLower.val = c.val + ('a'.val - 'A'.val) := congrArg Char.val (dif_pos h)
    have hsmall : ¬ ('A'.val ≤ c.toLower.val ∧ c.toLower.val ≤ 'Z'.val) := by
      have hA : 'A'.val.toNat = 65 := rfl
      have hZ : 'Z'.val.toNat = 90 := rfl
      have ha : ('a'.val - 'A'.val).toNat = 32 := rfl
      rw [hlower]
      simp only [UInt32.le_iff_toNat_le, UInt32.toNat_add] at h ⊢
      omega
    exact dif_neg hsmall
  · have hlower : c.toLower = c := dif_neg h
    rw [hlower, hlower]

theorem small_append (a b : String) : small (a ++ b) = small a ++ small b := by
  rw [small, String.toList_append, List.map_append]
  rfl

theorem small_ofList {text : String} {cs : List Char} (h : cs ⊆ small text) :
    small (String.ofList cs) = cs := by
  rw [small, String.toList_ofList]
  refine (List.map_congr_left fun c hc => ?_).trans (List.map_id cs)
  obtain ⟨d, -, rfl⟩ := List.mem_map.1 (h hc)
  exact toLower_toLower d

section
variable {α : Type} {label : α → String} {xs : List α} {name : String} {x : α}
variable (hxs : (xs.map fun x => small (label x)).Nodup)
include hxs

theorem filter_sameIgnoringCase (hx : x ∈ xs) (hname : sameIgnoringCase (label x) name) :
    xs.filter (fun y => sameIgnoringCase (label y) name) = [x] := by
  have hfound := hxs.of_map.filter fun y => sameIgnoringCase (label y) name
  refine List.perm_singleton.1 ((List.perm_ext_iff_of_nodup hfound (List.nodup_singleton x)).2 ?_)
  intro y
  rw [List.mem_filter, List.mem_singleton]
  constructor
  · rintro ⟨hy, hother⟩
    have hlabels := (sameIgnoringCase_iff.1 hother).trans (sameIgnoringCase_iff.1 hname).symm
    exact List.inj_on_of_nodup_map hxs hy hx hlabels
  · rintro rfl
    exact ⟨hx, hname⟩

theorem find?_sameIgnoringCase :
    xs.find? (fun y => sameIgnoringCase (label y) name) = some x ↔
      x ∈ xs ∧ sameIgnoringCase (label x) name := by
  constructor
  · intro h
    have hname := List.find?_some h
    exact ⟨List.mem_of_find?_eq_some h, hname⟩
  · rintro ⟨hx, hname⟩
    rw [← List.head?_filter, filter_sameIgnoringCase hxs hx hname, List.head?_singleton]

end

end Text

theorem Digest.ofLabel?_eq_some_iff {label : String} {d : Digest} :
    ofLabel? label = some d ↔ Text.small d.label = Text.small label := by
  have hall : d ∈ all := by cases d <;> decide
  have hlabels : (all.map fun d => Text.small d.label).Nodup := by decide
  rw [ofLabel?, Text.find?_sameIgnoringCase hlabels, Text.sameIgnoringCase_iff, and_iff_right hall]

namespace Scheme
variable {name : String} {s : Scheme} {before behind : List Char}

/-! ## The pieces of a name -/

theorem append_of_splitAtJoint? {cs : List Char} (h : splitAtJoint? cs = some (before, behind)) :
    before ++ ("andaes_".toList ++ behind) = cs := by
  fun_induction splitAtJoint? cs generalizing before with
  | case1 cs found hfound =>
    obtain ⟨rfl, rfl⟩ := Prod.mk.inj (Option.some.inj h)
    rw [List.nil_append]
    exact List.isPrefixOf?_eq_some_iff_append_eq.1 hfound
  | case2 => cases h
  | case3 c rest _ ih =>
    obtain ⟨⟨front, found⟩, hrest, hpair⟩ := Option.map_eq_some_iff.1 h
    cases hpair
    rw [List.cons_append, ih hrest]

theorem splitAtJoint?_label (d : Digest) (behind : List Char) :
    splitAtJoint? (Text.small d.label ++ ("andaes_".toList ++ behind)) =
      some (Text.small d.label, behind) := by
  cases d <;> rfl

theorem append_of_readMode {cs bits : List Char} {mode : BlockMode}
    (h : readMode cs = (bits, mode)) : bits ++ Text.small mode.ending = cs := by
  rw [readMode] at h
  split at h
  · next found hfound =>
    cases h
    exact List.isSuffixOf?_eq_some_iff_append_eq.1 hfound
  · cases h
    exact List.append_nil cs

theorem readMode_ending {keyBytes : Nat} (mode : BlockMode) (h : keyBytes = 16 ∨ keyBytes = 32) :
    readMode (Text.small (toString (keyBytes * 8)) ++ Text.small mode.ending) =
      (Text.small (toString (keyBytes * 8)), mode) := by
  rcases h with rfl | rfl <;> cases mode <;> decide

theorem readKeyBytes?_eq_some_iff {bits : List Char} {keyBytes : Nat} :
    readKeyBytes? bits = some keyBytes ↔
      (keyBytes = 16 ∨ keyBytes = 32) ∧ bits = Text.small (toString (keyBytes * 8)) := by
  have h16 : Text.small (toString (16 * 8)) = "128".toList := by decide
  have h32 : Text.small (toString (32 * 8)) = "256".toList := by decide
  rw [readKeyBytes?]
  constructor
  · intro h
    split at h
    · next hbits =>
      obtain rfl := Option.some.inj h
      exact ⟨Or.inl rfl, hbits.trans h16.symm⟩
    · split at h
      · next hbits =>
        obtain rfl := Option.some.inj h
        exact ⟨Or.inr rfl, hbits.trans h32.symm⟩
      · cases h
  · rintro ⟨rfl | rfl, rfl⟩
    · rw [h16, if_pos rfl]
    · rw [h32, if_neg (by decide), if_pos rfl]

theorem small_name (s : Scheme) : Text.small s.name =
    "pbewithhmac".toList ++ (Text.small s.digest.label ++ ("andaes_".toList ++
      (Text.small (toString (s.keyBytes * 8)) ++ Text.small s.mode.ending))) := by
  have hstem : Text.small stem = "pbewithhmac".toList := by decide
  have hjoint : Text.small joint = "andaes_".toList := by decide
  simp only [name, Text.small_append, hstem, hjoint, List.append_assoc]

theorem mem_all : s ∈ all ↔ s.keyBytes = 16 ∨ s.keyBytes = 32 := by
  obtain ⟨digest, keyBytes, mode⟩ := s
  cases digest <;> cases mode <;> simp [all, Digest.all, keySizes]

/-! ## Whole names -/

/-- A name is read as a scheme exactly when the scheme is listed and goes by that name. -/
theorem ofName?_eq_some_iff :
    ofName? name = some s ↔ s ∈ all ∧ Text.sameIgnoringCase s.name name := by
  rw [mem_all, Text.sameIgnoringCase_iff, small_name]
  constructor
  · intro h
    obtain ⟨behindStem, hstem, h⟩ := Option.bind_eq_some_iff.1 h
    obtain ⟨⟨label, behindJoint⟩, hjoint, h⟩ := Option.bind_eq_some_iff.1 h
    obtain ⟨digest, hdigest, h⟩ := Option.bind_eq_some_iff.1 h
    rcases hmode : readMode behindJoint with ⟨bits, mode⟩
    rw [hmode] at h
    obtain ⟨keyBytes, hkey, h⟩ := Option.bind_eq_some_iff.1 h
    obtain rfl := Option.some.inj h
    have hname := List.isPrefixOf?_eq_some_iff_append_eq.1 hstem
    rw [← append_of_splitAtJoint? hjoint, ← append_of_readMode hmode] at hname
    have hmem : label ⊆ Text.small name := by
      rw [← hname]
      exact List.subset_append_of_subset_right _ (List.subset_append_left _ _)
    have hlabel : Text.small digest.label = label := by
      rw [Digest.ofLabel?_eq_some_iff.1 hdigest, Text.small_ofList hmem]
    obtain ⟨hsize, hbits⟩ := readKeyBytes?_eq_some_iff.1 hkey
    rw [hlabel, ← hbits]
    exact ⟨hsize, hname⟩
  · rintro ⟨hkey, hname⟩
    have hlabel : Digest.ofLabel? (String.ofList (Text.small s.digest.label)) = some s.digest :=
      Digest.ofLabel?_eq_some_iff.2 (Text.small_ofList (List.Subset.refl _)).symm
    have hmode := readMode_ending s.mode hkey
    have hbits : readKeyBytes? (Text.small (toString (s.keyBytes * 8))) = some s.keyBytes :=
      readKeyBytes?_eq_some_iff.2 ⟨hkey, rfl⟩
    simp only [ofName?, List.isPrefixOf?_eq_some_iff_append_eq.2 hname, splitAtJoint?_label, hlabel,
      hmode, hbits, Option.bind_eq_bind, Option.bind_some]
    rfl

theorem exists_offer_iff {α : Type} {offer : Scheme → α} {label : α → String}
    (hlabel : ∀ s, label (offer s) = s.name) {listed : String} :
    (∃ x, (ofName? name).map offer = some x ∧ label x = listed) ↔
      ∃ s ∈ all, Text.sameIgnoringCase s.name name ∧ s.name = listed := by
  constructor
  · rintro ⟨x, hx, rfl⟩
    obtain ⟨s, hs, rfl⟩ := Option.map_eq_some_iff.1 hx
    obtain ⟨hmem, hname⟩ := ofName?_eq_some_iff.1 hs
    exact ⟨s, hmem, hname, (hlabel s).symm⟩
  · rintro ⟨s, hmem, hname, rfl⟩
    have hs := ofName?_eq_some_iff.2 ⟨hmem, hname⟩
    exact ⟨offer s, congrArg (Option.map offer) hs, hlabel s⟩

end Scheme
end PasswordSeal
