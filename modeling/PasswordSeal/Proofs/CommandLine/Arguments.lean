import PasswordSeal.CommandLine.Arguments
import PasswordSeal.Proofs.Except
import Mathlib.Data.List.Basic
import Mathlib.Data.List.TakeWhile

/-!
# Arguments one after another

Arguments that were read by themselves are read in the same way when more follow them, and reading
then goes on from what they gave. So options can be taken in one at a time, and what a last argument
is taken for depends on nothing but the argument. If it looks like an option, it never gives a word.
-/
namespace PasswordSeal.CommandLine
variable {g : Grammar} {a b : Arguments} {name value text : String}

theorem looksLikeOption_iff :
    looksLikeOption text = true ↔ text.toList.head? = some '-' ∧ text.toList ≠ ['-'] := by
  rw [looksLikeOption]
  split
  · next h => simp [h]
  · next rest hne h => simpa [h] using hne
  · next h1 h2 =>
    cases hchars : text.toList with
    | nil => simp
    | cons c cs =>
      have hc : c ≠ '-' := fun he => h2 cs (he ▸ hchars)
      simp [hc]

theorem splitOption_name (h : '=' ∉ name.toList) : splitOption name.toList = (name, none) := by
  have hall : ∀ c ∈ name.toList, (c != '=') = true := by
    intro c hc
    exact bne_iff_ne.2 fun he => h (he ▸ hc)
  simp only [splitOption, List.takeWhile_eq_self_iff.2 hall, List.dropWhile_eq_nil_iff.2 hall,
    String.ofList_toList]

theorem readOnto_valued (hname : name.toList ≠ []) (hplain : '=' ∉ name.toList)
    (hg : (g.valued.lookup name).isSome) (value : String) (rest : List String) :
    g.readOnto a (("--" ++ name) :: value :: rest) =
      if looksLikeOption value then .error .usage
      else (g.takeValue a name value).bind fun next => g.readOnto next rest := by
  have htext : ("--" ++ name).toList = '-' :: '-' :: name.toList := by
    rw [String.toList_append]
    rfl
  have hlooks : looksLikeOption ("--" ++ name) = true := by
    simp [looksLikeOption, htext]
  have hsplit := splitOption_name hplain
  cases hchars : name.toList with
  | nil => exact absurd hchars hname
  | cons c cs =>
    rw [hchars] at htext hsplit
    simp only [Grammar.readOnto, hlooks, htext, hsplit, hg, if_true]
    rfl

theorem readOnto_word (h : ¬ looksLikeOption text = true) (rest : List String) :
    g.readOnto a (text :: rest) = (g.takeWord a text).bind fun next => g.readOnto next rest := by
  rw [Grammar.readOnto, Bool.eq_false_iff.2 h]
  rfl

/-- Reading goes on from what was read before, unless a double hyphen has changed the way in which
the rest is read. -/
theorem readOnto_append {xs : List String} (hx : "--" ∉ xs) (h : g.readOnto a xs = .ok b)
    (ys : List String) : g.readOnto a (xs ++ ys) = g.readOnto b ys := by
  -- One case for each way to take in the first argument, in the order in which they are tried.
  fun_induction Grammar.readOnto g a xs with
  | case1 a =>
    obtain rfl := Except.ok.inj h
    rfl
  | case2 a argument rest htext hlooks =>
    obtain rfl : argument = "--" := String.toList_inj.1 htext
    exact absurd List.mem_cons_self hx
  | case3 a argument rest long hlong htext hlooks name value hsplit ih =>
    obtain ⟨c, hc, hrest⟩ := bind_eq_ok.1 h
    simp only [List.cons_append, Grammar.readOnto, hlooks, htext, hsplit, hc, ok_bind]
    exact ih c (fun hm => hx (by simp [hm])) hrest
  | case4 => cases h
  | case5 => cases h
  | case6 a argument long hlong htext hlooks name hsplit hvalued value rest hvalue ih =>
    obtain ⟨c, hc, hrest⟩ := bind_eq_ok.1 h
    simp only [List.cons_append, Grammar.readOnto, hlooks, htext, hsplit, hvalued, hvalue, hc,
      ok_bind]
    exact ih c (fun hm => hx (by simp [hm])) hrest
  | case7 a argument rest long hlong htext hlooks name hsplit hflag ih =>
    obtain ⟨c, hc, hrest⟩ := bind_eq_ok.1 h
    simp only [List.cons_append, Grammar.readOnto, hlooks, htext, hsplit, hflag, hc, ok_bind]
    exact ih c (fun hm => hx (by simp [hm])) hrest
  | case8 a argument rest first letters hends hlong htext hlooks =>
    rw [Grammar.takeShort.eq_def] at h
    split at h <;> cases h
  | case9 a argument rest hends hlong hshort ih =>
    have hword : ¬ looksLikeOption argument = true := by
      intro hlooks
      obtain ⟨cs, hchars⟩ := List.head?_eq_some_iff.1 (looksLikeOption_iff.1 hlooks).1
      exact hshort _ _ hlooks hchars
    obtain ⟨c, hc, hrest⟩ := bind_eq_ok.1 h
    rw [List.cons_append, readOnto_word hword, hc]
    exact ih c (fun hm => hx (by simp [hm])) hrest

def TakesNoWord (x : Except Stop Arguments) (words : List String) : Prop :=
  x = .error .usage ∨ x = .error .help ∨ ∃ b, x = .ok b ∧ b.words = words

theorem takesNoWord_takeValue : TakesNoWord (g.takeValue a name value) a.words := by
  rw [Grammar.takeValue]
  split
  · exact Or.inl rfl
  · split
    · exact Or.inl rfl
    · exact Or.inr (Or.inr ⟨_, rfl, rfl⟩)

theorem takesNoWord_takeFlag (hv : g.version = false) :
    TakesNoWord (g.takeFlag a name) a.words := by
  rw [Grammar.takeFlag, hv]
  split
  · exact Or.inr (Or.inl rfl)
  · split
    · next h => cases h.2
    · split
      · exact Or.inr (Or.inr ⟨_, rfl, rfl⟩)
      · exact Or.inl rfl

theorem takesNoWord_takeShort (hv : g.version = false) (letters : List Char) :
    TakesNoWord (g.takeShort letters) a.words := by
  rw [Grammar.takeShort.eq_def, hv]
  split
  · exact Or.inr (Or.inl rfl)
  · exact Or.inl rfl
  · exact Or.inl rfl

theorem takesNoWord_readOnto (hv : g.version = false) (h : looksLikeOption text = true) :
    TakesNoWord (g.readOnto a [text]) a.words := by
  have hlast {x : Except Stop Arguments} (hx : TakesNoWord x a.words) :
      TakesNoWord (x.bind fun next => g.readOnto next []) a.words := by
    rcases hx with hx | hx | ⟨b, hx, hwords⟩
    · rw [hx]
      exact Or.inl rfl
    · rw [hx]
      exact Or.inr (Or.inl rfl)
    · rw [hx]
      refine Or.inr (Or.inr ⟨b, ?_, hwords⟩)
      rw [Except.bind, Grammar.readOnto]
  rw [Grammar.readOnto, h]
  split
  · exact Or.inr (Or.inr ⟨a, rfl, rfl⟩)
  · split
    · exact hlast takesNoWord_takeValue
    · split
      · exact Or.inl rfl
      · exact hlast (takesNoWord_takeFlag hv)
  · exact takesNoWord_takeShort hv _
  · next hshort =>
    obtain ⟨letters, hchars⟩ := List.head?_eq_some_iff.1 (looksLikeOption_iff.1 h).1
    exact (hshort _ _ rfl hchars).elim

/-! ## Options and their values -/

def spelled (options : List (String × String)) : List String :=
  options.flatMap fun (name, value) => ["--" ++ name, value]

def Accepted (valued : List (String × (String → Bool))) (option : String × String) : Prop :=
  ∃ accepts, valued.lookup option.1 = some accepts ∧ accepts option.2 = true

def Grammar.Plain (g : Grammar) : Prop :=
  ∀ name ∈ g.valued.map Prod.fst, name.toList ≠ [] ∧ '=' ∉ name.toList

theorem Grammar.Plain.of_lookup (hg : g.Plain) {accepts : String → Bool}
    (h : g.valued.lookup name = some accepts) : name.toList ≠ [] ∧ '=' ∉ name.toList := by
  obtain ⟨before, behind, hvalued, -⟩ := List.lookup_eq_some_iff.1 h
  apply hg
  rw [hvalued]
  simp

theorem takeValue_eq_ok {accepts : String → Bool} (hg : g.valued.lookup name = some accepts)
    (hnew : a.has name = false) (haccepts : accepts value = true) :
    g.takeValue a name value = .ok { a with values := a.values ++ [(name, value)] } := by
  rw [Grammar.takeValue, hg]
  simp only [hnew, haccepts]
  rfl

theorem readOnto_spelled (hg : g.Plain) {seen options : List (String × String)}
    (haccepted : ∀ option ∈ options, Accepted g.valued option ∧ ¬ looksLikeOption option.2 = true)
    (hnames : (options.map Prod.fst).Nodup)
    (hnew : ∀ option ∈ options, seen.lookup option.1 = none) (rest : List String) :
    g.readOnto ⟨seen, [], []⟩ (spelled options ++ rest) =
      g.readOnto ⟨seen ++ options, [], []⟩ rest := by
  induction options generalizing seen with
  | nil =>
    rw [List.append_nil]
    rfl
  | cons option options ih =>
    obtain ⟨⟨⟨accepts, hlookup, haccepts⟩, hvalue⟩, haccepted⟩ := List.forall_mem_cons.1 haccepted
    obtain ⟨hfirst, hnew⟩ := List.forall_mem_cons.1 hnew
    obtain ⟨hother, hnames⟩ := List.nodup_cons.1 hnames
    obtain ⟨hname, hequals⟩ := hg.of_lookup hlookup
    have hhas : Arguments.has ⟨seen, [], []⟩ option.1 = false := by
      simp [Arguments.has, Arguments.value?, hfirst]
    have hseen : ∀ later ∈ options, (seen ++ [option]).lookup later.1 = none := by
      intro later hlater
      have hne : (later.1 == option.1) = false := by
        rw [beq_eq_false_iff_ne]
        exact fun he => hother (he ▸ List.mem_map_of_mem hlater)
      rw [List.lookup_append, hnew later hlater, List.lookup_cons, hne]
      rfl
    have hargs : spelled (option :: options) ++ rest =
        ("--" ++ option.1) :: option.2 :: (spelled options ++ rest) := rfl
    rw [hargs, readOnto_valued hname hequals (Option.isSome_of_eq_some hlookup), if_neg hvalue,
      takeValue_eq_ok hlookup hhas haccepts, List.append_cons seen option options]
    exact ih haccepted hnames hseen

theorem lookup_eq_none_of_accepted {valued : List (String × (String → Bool))}
    {options : List (String × String)} (h : ∀ option ∈ options, Accepted valued option)
    (hname : valued.lookup name = none) : options.lookup name = none := by
  rw [List.lookup_eq_none_iff]
  intro option hmem
  obtain ⟨accepts, hlookup, -⟩ := h option hmem
  apply bne_iff_ne.2
  rintro rfl
  rw [hname] at hlookup
  cases hlookup

theorem dashes_not_mem_spelled (hg : g.Plain) {options : List (String × String)}
    (h : ∀ option ∈ options, Accepted g.valued option ∧ ¬ looksLikeOption option.2 = true) :
    "--" ∉ spelled options := by
  intro hmem
  obtain ⟨option, hoption, hmem⟩ := List.mem_flatMap.1 hmem
  obtain ⟨⟨accepts, hlookup, -⟩, hvalue⟩ := h option hoption
  rcases List.mem_pair.1 hmem with hname | hdashes
  · have hchars := congrArg String.toList hname
    rw [String.toList_append] at hchars
    exact (hg.of_lookup hlookup).1 (List.self_eq_append_right.1 hchars)
  · rw [← hdashes] at hvalue
    exact hvalue rfl

end PasswordSeal.CommandLine
