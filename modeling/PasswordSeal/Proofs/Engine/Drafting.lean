import PasswordSeal.Proofs.Engine.Assembly
import PasswordSeal.Proofs.Settings.Defaults

/-!
# Settings made one after another

A setting writes one value to one place of a draft. Of the values that are written to a place the
last one counts, for parameters the first one, and a place that nothing is written to keeps what it
held. So settings of different places may be made in any order. In particular the text of a vector
is read by the alphabet that is set in the end, whichever of the two comes first.
-/
namespace PasswordSeal

inductive Place where
  | field (f : Field)
  | password
  | direction
  | alphabet
  | iv
  | encodedIv
  | parameters
  | pin

@[reducible]
def Place.Value : Place → Type
  | field f => f.Value
  | password => String
  | direction => Direction
  | alphabet => Alphabet
  | iv => Bytes
  | encodedIv => String
  | parameters => Parameters
  | pin => Provider

def Settings.get (s : Settings) : (f : Field) → Option f.Value
  | .keyAlgorithm => s.keyAlgorithm
  | .transformation => s.transformation
  | .parametersAlgorithm => s.parametersAlgorithm
  | .iterations => s.iterations
  | .salt => s.salt
  | .keyBits => s.keyBits
  | .cipherIterations => s.cipherIterations
  | .cipherSalt => s.cipherSalt

def Setting.writes? (r : Registry) : Setting → (x : Place) → Option x.Value
  | .password text, .password => some text
  | .passwordChars chars, .password => some (String.ofList chars)
  | .iv bytes, .iv => some bytes
  | .encodedIv text, .encodedIv => some text
  | .transformation name, .field .transformation => some name
  | .parametersAlgorithm name, .field .parametersAlgorithm => some name
  | .salt bytes, .field .salt => some bytes
  | .iterations count, .field .iterations => some count
  | .keyAlgorithm name, .field .keyAlgorithm => some name
  | .keyBits bits, .field .keyBits => some bits
  | .cipherIterations count, .field .cipherIterations => some count
  | .cipherSalt bytes, .field .cipherSalt => some bytes
  | .provider p, .pin => some p
  | .providerName name, .pin => (r.provider name).toOption
  | .alphabet a, .alphabet => some a
  | .direction d, .direction => some d
  | .parameters p, .parameters => some p
  | _, _ => none

namespace Registry

def written (r : Registry) (settings : List Setting) (x : Place) : List x.Value :=
  settings.filterMap (·.writes? r x)

def Knows (r : Registry) (settings : List Setting) : Prop :=
  ∀ name, .providerName name ∈ settings → ∃ p, r.provider name = .ok p

theorem written_cons (r : Registry) (w : Setting) (settings : List Setting) (x : Place) :
    r.written (w :: settings) x = (w.writes? r x).toList ++ r.written settings x := by
  rw [written, List.filterMap_cons]
  cases w.writes? r x <;> rfl

theorem getLast?_written_cons (r : Registry) (w : Setting) (settings : List Setting) (x : Place) :
    (r.written (w :: settings) x).getLast? =
      (r.written settings x).getLast?.or (w.writes? r x) := by
  rw [written_cons, List.getLast?_append]
  cases w.writes? r x <;> rfl

theorem head?_written_cons (r : Registry) (w : Setting) (settings : List Setting) (x : Place) :
    (r.written (w :: settings) x).head? =
      (w.writes? r x).or (r.written settings x).head? := by
  rw [written_cons, List.head?_append]
  cases w.writes? r x <;> rfl

end Registry

namespace Draft
variable {d d' : Draft} {w : Setting} {settings settings' : List Setting}

def held (d : Draft) : (x : Place) → Option x.Value
  | .field f => d.settings.get f
  | .password => d.settings.password
  | .direction => d.settings.direction
  | .alphabet => some d.settings.alphabet
  | .iv => d.settings.iv
  | .encodedIv => d.settings.encodedIv
  | .parameters => d.settings.parameters
  | .pin => d.pin

theorem eq_of_held (hr : d.registry = d'.registry) (h : ∀ x, d.held x = d'.held x) : d = d' := by
  have halphabet := Option.some.inj (h .alphabet)
  cases d
  cases d'
  rw [Draft.mk.injEq, Settings.mk.injEq]
  exact ⟨⟨h (.field .keyAlgorithm), h (.field .transformation), h (.field .parametersAlgorithm),
    h (.field .iterations), h (.field .salt), h (.field .keyBits), h .password, h .direction,
    h (.field .cipherIterations), h (.field .cipherSalt), halphabet, h .iv, h .encodedIv,
    h .parameters⟩, hr, h .pin⟩

/-! ## One setting -/

theorem registry_set (h : d.set w = .ok d') : d'.registry = d.registry := by
  cases w with
  | providerName name =>
    obtain ⟨p, -, rfl⟩ := map_eq_ok.1 h
    rfl
  | _ =>
    obtain rfl := Except.ok.inj h
    rfl

theorem held_set (h : d.set w = .ok d') {x : Place} (hx : x ≠ .parameters) :
    d'.held x = (w.writes? d.registry x).or (d.held x) := by
  cases w with
  | providerName name =>
    obtain ⟨p, hp, rfl⟩ := map_eq_ok.1 h
    cases x with
    | pin =>
      have hw : Setting.writes? d.registry (.providerName name) .pin = some p :=
        congrArg Except.toOption hp
      rw [hw]
      rfl
    | field f => cases f <;> rfl
    | _ => rfl
  | parameters p =>
    obtain rfl := Except.ok.inj h
    cases x with
    | parameters => exact absurd rfl hx
    | field f => cases f <;> rfl
    | _ => rfl
  | _ =>
    obtain rfl := Except.ok.inj h
    cases x with
    | field f => cases f <;> rfl
    | _ => rfl

theorem parameters_set (h : d.set w = .ok d') : d'.settings.parameters =
    d.settings.parameters.or (w.writes? d.registry .parameters) := by
  cases w with
  | providerName name =>
    obtain ⟨p, -, rfl⟩ := map_eq_ok.1 h
    exact Option.or_none.symm
  | parameters p =>
    obtain rfl := Except.ok.inj h
    rfl
  | _ =>
    obtain rfl := Except.ok.inj h
    exact Option.or_none.symm

theorem exists_set (h : ∀ name, w = .providerName name → ∃ p, d.registry.provider name = .ok p) :
    ∃ d', d.set w = .ok d' := by
  cases w with
  | providerName name =>
    obtain ⟨p, hp⟩ := h name rfl
    exact ⟨_, map_eq_ok.2 ⟨p, hp, rfl⟩⟩
  | _ => exact ⟨_, rfl⟩

/-! ## Many settings -/

/-- Each place of the second draft holds what decides it: the value written last or, if there is
none, the one from before. Parameters from before come first, and then those written first. -/
structure Decides (d : Draft) (settings : List Setting) (d' : Draft) : Prop where
  registry : d'.registry = d.registry
  last : ∀ x, x ≠ .parameters →
    d'.held x = (d.registry.written settings x).getLast?.or (d.held x)
  first : d'.settings.parameters =
    d.settings.parameters.or (d.registry.written settings .parameters).head?

structure Agree (d : Draft) (settings settings' : List Setting) : Prop where
  last : ∀ x, x ≠ .parameters →
    (d.registry.written settings x).getLast? = (d.registry.written settings' x).getLast?
  first : d.settings.parameters = none →
    (d.registry.written settings .parameters).head? =
      (d.registry.written settings' .parameters).head?

theorem Decides.unique {a b : Draft} (ha : d.Decides settings a) (hb : d.Decides settings b) :
    a = b := by
  apply eq_of_held (ha.registry.trans hb.registry.symm)
  intro x
  by_cases hx : x = .parameters
  · obtain rfl := hx
    exact ha.first.trans hb.first.symm
  · rw [ha.last x hx, hb.last x hx]

theorem Decides.of_agree (h : d.Decides settings d') (ha : d.Agree settings settings') :
    d.Decides settings' d' where
  registry := h.registry
  last x hx := by rw [h.last x hx, ha.last x hx]
  first := by
    rw [h.first]
    cases hp : d.settings.parameters with
    | some p => rfl
    | none => rw [ha.first hp]

theorem decides_of_setAll (h : d.setAll settings = .ok d') : d.Decides settings d' := by
  -- The settings after the first start from another draft, which holds what the first has written.
  induction settings generalizing d with
  | nil =>
    obtain rfl := Except.ok.inj h
    exact ⟨rfl, fun _ _ => rfl, Option.or_none.symm⟩
  | cons w rest ih =>
    rw [setAll, List.foldlM_cons] at h
    obtain ⟨next, hw, hrest⟩ := bind_eq_ok.1 h
    have hr := registry_set hw
    obtain ⟨hregistry, hlast, hfirst⟩ := ih hrest
    rw [hr] at hregistry hlast hfirst
    refine ⟨hregistry, ?_, ?_⟩
    · intro x hx
      rw [hlast x hx, held_set hw hx, Registry.getLast?_written_cons, Option.or_assoc]
    · rw [hfirst, parameters_set hw, Registry.head?_written_cons, Option.or_assoc]

theorem exists_setAll (h : d.registry.Knows settings) : ∃ d', d.setAll settings = .ok d' := by
  induction settings generalizing d with
  | nil => exact ⟨d, rfl⟩
  | cons w rest ih =>
    have hnamed : ∀ name, w = .providerName name → ∃ p, d.registry.provider name = .ok p := by
      rintro name rfl
      exact h name List.mem_cons_self
    obtain ⟨next, hw⟩ := exists_set hnamed
    have hrest : next.registry.Knows rest := by
      rw [registry_set hw]
      exact fun name hmem => h name (List.mem_cons_of_mem _ hmem)
    obtain ⟨d', hd'⟩ := ih hrest
    refine ⟨d', ?_⟩
    rw [setAll, List.foldlM_cons, hw]
    exact hd'

/-- Settings come to the one draft that holds what decides each place, and others that agree with
them on that build the same, or fail with the same fault. -/
theorem setAll_decided (h : d.registry.Knows settings) : ∃ d', d.setAll settings = .ok d' ∧
    (∀ other, d.Decides settings other ↔ other = d') ∧
      ∀ settings', d.registry.Knows settings' → d.Agree settings settings' →
        d.setAll settings' = .ok d' ∧
          ∀ draw, d.buildWith settings' draw = d.buildWith settings draw := by
  obtain ⟨d', hd'⟩ := exists_setAll h
  have hdecides := decides_of_setAll hd'
  refine ⟨d', hd', ?_, ?_⟩
  · intro other
    constructor
    · exact fun hother => hother.unique hdecides
    · rintro rfl
      exact hdecides
  · intro settings' h' hagree
    obtain ⟨other, hother⟩ := exists_setAll h'
    obtain rfl := (decides_of_setAll hother).unique (hdecides.of_agree hagree)
    refine ⟨hother, ?_⟩
    intro draw
    rw [buildWith, buildWith, hother, hd']

namespace Sample

def textFirst : List Setting :=
  [.encodedIv "MFRGG===", .password "open barley", .parameters (start .cbc), .alphabet .base32,
    .passwordChars "open sesame".toList, .parameters (start .gcm), .providerName "RustCrypto",
    .direction .encrypt, .direction .decrypt]

def alphabetFirst : List Setting :=
  [.provider .builtIn, .direction .decrypt, .password "open sesame", .alphabet .base32,
    .parameters (start .cbc), .encodedIv "MFRGG==="]

theorem knows_textFirst : (draft .cbc).registry.Knows textFirst := by
  intro name hname
  obtain rfl : name = "RustCrypto" := by simpa [textFirst] using hname
  exact ⟨.builtIn, rfl⟩

theorem knows_alphabetFirst : (draft .cbc).registry.Knows alphabetFirst := by
  intro name hname
  simp [alphabetFirst] at hname

theorem agree : (draft .cbc).Agree textFirst alphabetFirst where
  last x hx := by
    cases x with
    | field f => cases f <;> rfl
    | parameters => exact absurd rfl hx
    | _ => rfl
  first _ := rfl

end Sample

theorem setAll_decided_sample : (Sample.draft .cbc).registry.Knows Sample.textFirst ∧
    (Sample.draft .cbc).registry.Knows Sample.alphabetFirst ∧
      (Sample.draft .cbc).Agree Sample.textFirst Sample.alphabetFirst ∧
      ∃ d', (Sample.draft .cbc).setAll Sample.textFirst = .ok d' ∧
        (∀ other, (Sample.draft .cbc).Decides Sample.textFirst other ↔ other = d') ∧
        (Sample.draft .cbc).setAll Sample.alphabetFirst = .ok d' ∧
        ∀ draw, (Sample.draft .cbc).buildWith Sample.alphabetFirst draw =
          (Sample.draft .cbc).buildWith Sample.textFirst draw := by
  obtain ⟨d', hset, hunique, hsame⟩ := setAll_decided Sample.knows_textFirst
  exact ⟨Sample.knows_textFirst, Sample.knows_alphabetFirst, Sample.agree, d', hset, hunique,
    hsame _ Sample.knows_alphabetFirst Sample.agree⟩

end Draft
end PasswordSeal
