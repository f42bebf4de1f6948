import PasswordSeal.Proofs.Alphabet.Hyphen
import PasswordSeal.Proofs.CommandLine.Arguments
import PasswordSeal.Proofs.CommandLine.RoundTrip

/-!
# Giving back what was printed

Decryption takes the printed text as a word, and the vector or the parameters as the value of an
option. None of them may look like an option. Hexadecimal never does, and what is written in an
alphabet does exactly when it begins with a hyphen. Such a text is refused when it is given back as
it was printed.
-/
namespace PasswordSeal.CommandLine
variable {a : Arguments} {text : String}

/-! ## Printed texts as arguments -/

theorem looksLikeOption_encode_iff (alphabet : Alphabet) (bytes : Bytes) :
    looksLikeOption (alphabet.encode bytes) = true ↔ alphabet.Dashes bytes := by
  rw [looksLikeOption_iff, Alphabet.head?_encode_iff, and_iff_left_iff_imp]
  rintro ⟨rfl, -⟩ hhyphen
  -- No text of this alphabet is a single symbol.
  have hlength : (Alphabet.base64Url.encode bytes).length = 4 * ((bytes.length + 3 - 1) / 3) :=
    Alphabet.base64Url.length_encode bytes
  rw [← String.length_toList, hhyphen, List.length_singleton] at hlength
  omega

theorem not_looksLikeOption_hex {digits : String} {blob : Bytes}
    (h : Hex.decode digits = .ok blob) : ¬ looksLikeOption digits = true := by
  rw [looksLikeOption_iff]
  rintro ⟨hhead, -⟩
  obtain ⟨rest, hchars⟩ := List.head?_eq_some_iff.1 hhead
  have hhyphen : String.utf8EncodeChar '-' = [0x2D] := rfl
  have hbytes : Utf8.encode digits = 0x2D :: rest.flatMap String.utf8EncodeChar := by
    rw [Utf8.encode, hchars, List.flatMap_cons, hhyphen]
    rfl
  have hrefused (position : Nat) : Hex.readDigit position 0x2D = .error (.noDigit 0x2D position) :=
    rfl
  rw [Hex.decode, hbytes] at h
  split at h
  · cases hrest : rest.flatMap String.utf8EncodeChar with
    | nil =>
      rw [hrest] at h
      cases h
    | cons low behind =>
      rw [hrest, Hex.readPairs, hrefused] at h
      cases h
  · cases h

/-! ## Arguments of decryption -/

/-- Arguments that name a key, and nothing else, when they stand behind the name of the command. -/
def Names (arguments : List String) (key : KeyOptions) : Prop :=
  "--" ∉ arguments ∧ ∃ values, decryptGrammar.read arguments = .ok ⟨values, [], []⟩ ∧
    keyOf ⟨values, [], []⟩ = .ok key ∧ originOf ⟨values, [], []⟩ = .ok none

theorem plain_decryptGrammar : decryptGrammar.Plain := by
  rw [Grammar.Plain]
  decide

def Origin.option : Origin → String × String
  | parameters digits => ("params", digits)
  | iv text => ("iv", text)

def decryptArguments (arguments : List String) (origin : Origin) (text : String) : List String :=
  "decrypt" :: (arguments ++ (spelled [origin.option] ++ [text]))

theorem readCommand_decrypt (arguments : List String) : readCommand ("decrypt" :: arguments) = do
    let a ← decryptGrammar.read arguments
    return .decrypt (← keyOf a) (← onlyWord a) (← originOf a) := by
  rfl

theorem keyOf_eq_error {stop : Stop} (h : keyOf a = .error stop) : stop = .usage := by
  rw [keyOf] at h
  rcases bind_eq_error.1 h with hsalt | ⟨salt, -, hrest⟩
  · rw [saltOption] at hsalt
    split at hsalt <;> cases hsalt
    rfl
  · split at hrest <;> cases hrest
    rfl

theorem originOf_eq_none {values : List (String × String)} :
    originOf ⟨values, [], []⟩ = .ok none ↔
      values.lookup "params" = none ∧ values.lookup "iv" = none := by
  simp only [originOf, Arguments.value?]
  cases values.lookup "params" <;> cases values.lookup "iv" <;> simp

section
variable {values : List (String × String)} (origin : Origin) (words : List String)

theorem originOf_behind (h : originOf ⟨values, [], []⟩ = .ok none) :
    originOf ⟨values ++ [origin.option], [], words⟩ = .ok (some origin) := by
  obtain ⟨hparams, hiv⟩ := originOf_eq_none.1 h
  cases origin <;>
    simp [originOf, Arguments.value?, Origin.option, List.lookup_append, List.lookup_cons, hparams,
      hiv]

theorem keyOf_behind :
    keyOf ⟨values ++ [origin.option], [], words⟩ = keyOf ⟨values, [], []⟩ := by
  cases origin <;>
    simp [keyOf, saltOption, Arguments.value?, Origin.option, List.lookup_append, List.lookup_cons]

end

section
variable {arguments : List String} {key : KeyOptions}

theorem names_spelled {options : List (String × String)}
    (haccepted : ∀ option ∈ options, Accepted keyOptions option ∧
      ¬ looksLikeOption option.2 = true)
    (hnames : (options.map Prod.fst).Nodup) (hkey : keyOf ⟨options, [], []⟩ = .ok key) :
    Names (spelled options) key := by
  have hdecrypt : ∀ option ∈ options, Accepted decryptGrammar.valued option ∧
      ¬ looksLikeOption option.2 = true := by
    intro option hmem
    obtain ⟨⟨accepts, hlookup, haccepts⟩, hvalue⟩ := haccepted option hmem
    refine ⟨⟨accepts, ?_, haccepts⟩, hvalue⟩
    rw [decryptGrammar, List.lookup_append, hlookup, Option.some_or]
  have hread : decryptGrammar.readOnto .none (spelled options ++ []) =
      decryptGrammar.readOnto ⟨options, [], []⟩ [] :=
    readOnto_spelled plain_decryptGrammar hdecrypt hnames (fun _ _ => rfl) []
  rw [List.append_nil, Grammar.readOnto] at hread
  have hkeys : ∀ option ∈ options, Accepted keyOptions option :=
    fun option hmem => (haccepted option hmem).1
  have hnone : originOf ⟨options, [], []⟩ = .ok none := by
    apply originOf_eq_none.2
    constructor
    · exact lookup_eq_none_of_accepted hkeys rfl
    · exact lookup_eq_none_of_accepted hkeys rfl
  exact ⟨dashes_not_mem_spelled plain_decryptGrammar hdecrypt, options, hread, hkey, hnone⟩

def Refused (arguments : List String) : Prop :=
  readCommand arguments = .error .usage ∨ readCommand arguments = .error .help

theorem refused_of_takesNoWord (h : TakesNoWord (decryptGrammar.read arguments) []) :
    Refused ("decrypt" :: arguments) := by
  rw [Refused, readCommand_decrypt]
  rcases h with h | h | ⟨b, h, hwords⟩
  · rw [h]
    exact Or.inl rfl
  · rw [h]
    exact Or.inr rfl
  · left
    rw [h, ok_bind]
    cases hkey : keyOf b with
    | error stop =>
      rw [keyOf_eq_error hkey]
      rfl
    | ok key =>
      rw [ok_bind, onlyWord, hwords]
      rfl

section
variable (h : Names arguments key) (origin : Origin)
include h

theorem exists_read : ∃ values, keyOf ⟨values, [], []⟩ = .ok key ∧
    originOf ⟨values, [], []⟩ = .ok none ∧ ∀ text,
      decryptGrammar.read (arguments ++ (spelled [origin.option] ++ [text])) =
        if looksLikeOption origin.option.2 then .error .usage
        else decryptGrammar.readOnto ⟨values ++ [origin.option], [], []⟩ [text] := by
  obtain ⟨hdashes, values, hread, hkey, hnone⟩ := h
  refine ⟨values, hkey, hnone, ?_⟩
  intro text
  have hlookup : decryptGrammar.valued.lookup origin.option.1 = some anything := by
    cases origin <;> rfl
  have hnew : values.lookup origin.option.1 = none := by
    obtain ⟨hparams, hiv⟩ := originOf_eq_none.1 hnone
    cases origin
    · exact hparams
    · exact hiv
  have hbehind : decryptGrammar.read (arguments ++ (spelled [origin.option] ++ [text])) =
      decryptGrammar.readOnto ⟨values, [], []⟩ (spelled [origin.option] ++ [text]) :=
    readOnto_append hdashes hread _
  rw [hbehind]
  split
  · next hlooks =>
    obtain ⟨hname, hequals⟩ := plain_decryptGrammar.of_lookup hlookup
    have hargs : spelled [origin.option] ++ [text] =
      ("--" ++ origin.option.1) :: origin.option.2 :: [text] := rfl
    rw [hargs, readOnto_valued hname hequals (Option.isSome_of_eq_some hlookup), if_pos hlooks]
  · next hplain =>
    apply readOnto_spelled plain_decryptGrammar
    · rw [List.forall_mem_singleton]
      exact ⟨⟨anything, hlookup, rfl⟩, hplain⟩
    · exact List.nodup_singleton _
    · rw [List.forall_mem_singleton]
      exact hnew

theorem readCommand_of_plain (horigin : ¬ looksLikeOption origin.option.2 = true)
    (htext : ¬ looksLikeOption text = true) :
    readCommand (decryptArguments arguments origin text) =
      .ok (.decrypt key text (some origin)) := by
  obtain ⟨values, hkey, hnone, hread⟩ := exists_read h origin
  have hword : decryptGrammar.readOnto ⟨values ++ [origin.option], [], []⟩ [text] =
      .ok ⟨values ++ [origin.option], [], [text]⟩ := by
    have htake : decryptGrammar.takeWord ⟨values ++ [origin.option], [], []⟩ text =
        .ok ⟨values ++ [origin.option], [], [text]⟩ := rfl
    rw [readOnto_word htext, htake, Except.bind, Grammar.readOnto]
  rw [decryptArguments, readCommand_decrypt, hread, if_neg horigin, hword, ok_bind, keyOf_behind,
    hkey, ok_bind, originOf_behind _ _ hnone]
  rfl

theorem refused_of_looksLikeOption
    (hlooks : looksLikeOption origin.option.2 = true ∨ looksLikeOption text = true) :
    Refused (decryptArguments arguments origin text) := by
  obtain ⟨values, -, -, hread⟩ := exists_read h origin
  apply refused_of_takesNoWord
  rw [hread]
  split
  · exact Or.inl rfl
  · next hplain => exact takesNoWord_readOnto rfl (hlooks.resolve_left hplain)

end

structure ReadsBack (arguments : List String) (key : KeyOptions) : Prop where
  byIv : ∀ (a : Alphabet) (iv sealed : Bytes), ¬ a.Dashes iv → ¬ a.Dashes sealed →
    readCommand (decryptArguments arguments (.iv (a.encode iv)) (a.encode sealed)) =
      .ok (.decrypt key (a.encode sealed) (some (.iv (a.encode iv))))
  byParameters : ∀ (a : Alphabet) (digits : String) (blob sealed : Bytes),
    Hex.decode digits = .ok blob → ¬ a.Dashes sealed →
    readCommand (decryptArguments arguments (.parameters digits) (a.encode sealed)) =
      .ok (.decrypt key (a.encode sealed) (some (.parameters digits)))
  refusedIv : ∀ (a : Alphabet) (iv : Bytes) (text : String), a.Dashes iv →
    Refused (decryptArguments arguments (.iv (a.encode iv)) text)
  refusedText : ∀ (a : Alphabet) (origin : Origin) (sealed : Bytes), a.Dashes sealed →
    Refused (decryptArguments arguments origin (a.encode sealed))
  printed : ∀ salt password secret draw s,
    sealWith (key.draft salt password .encrypt) secret draw = .ok s →
    ∃ iv sealed blob, s.iv = some (key.alphabet.encode iv) ∧
      s.text = key.alphabet.encode sealed ∧ s.parameters = Hex.encode blob

theorem printed_of_sealWith {salt : Bytes} {password secret : String} {draw : Draw} {s : Sealed}
    (h : sealWith (key.draft salt password .encrypt) secret draw = .ok s) :
    ∃ mode : BlockMode, ∃ sealed blob,
      s.iv = some (key.alphabet.encode (draw.bytes mode.ivLength)) ∧
      s.text = key.alphabet.encode sealed ∧ s.parameters = Hex.encode blob := by
  obtain ⟨e, text, blob, hbuild, htext, -, rfl⟩ := sealWith_eq_ok.1 h
  obtain ⟨plan, a, hs, hfits, hstart, hdir, rfl⟩ :=
    Draft.exists_of_encrypt (usesBuiltIn_draft .encrypt) hbuild
  have halphabet : plan.alphabet = key.alphabet := hs.alphabet.symm
  obtain ⟨_, -, -, -, -, hnone⟩ := (Draft.generate_eq_ok
    (d := (key.draft salt password .encrypt).facing .encrypt) (usesBuiltIn_draft .encrypt)).1 hstart
  rw [Engine.encrypt_fst hdir] at htext
  obtain ⟨sealed, -, rfl⟩ := map_eq_ok.1 htext
  refine ⟨a.scheme.mode, sealed, blob, ?_, congrArg (Alphabet.encode · sealed) halphabet, rfl⟩
  -- The parameters that encryption starts from have no vector, so one was drawn.
  obtain ⟨-, hgiven | ⟨-, -, hdrawn⟩⟩ := Scheme.chooseIv_eq_ok.1 hfits.bound_eq.1
  · rw [hnone] at hgiven
    cases hgiven
  · rw [← hdrawn, ← halphabet]
    exact hfits.encodedIv_engine

/-- What was printed is read back unless it begins with a hyphen. -/
theorem reads_back (h : Names arguments key) : ReadsBack arguments key where
  byIv a iv sealed hiv hsealed := by
    apply readCommand_of_plain h
    · exact mt (looksLikeOption_encode_iff a iv).1 hiv
    · exact mt (looksLikeOption_encode_iff a sealed).1 hsealed
  byParameters a digits blob sealed hdigits hsealed := by
    apply readCommand_of_plain h
    · exact not_looksLikeOption_hex hdigits
    · exact mt (looksLikeOption_encode_iff a sealed).1 hsealed
  refusedIv a iv text hiv :=
    refused_of_looksLikeOption h _ (Or.inl ((looksLikeOption_encode_iff a iv).2 hiv))
  refusedText a origin sealed hsealed :=
    refused_of_looksLikeOption h origin (Or.inr ((looksLikeOption_encode_iff a sealed).2 hsealed))
  printed salt password secret draw s hs := by
    obtain ⟨mode, sealed, blob, hiv, htext, hparameters⟩ := printed_of_sealWith hs
    exact ⟨_, sealed, blob, hiv, htext, hparameters⟩

end

namespace Sample

def options (a : Alphabet) : List (String × String) :=
  [("salt", "sea salt"), ("iteration", "2"), ("alphabet", a.name), ("password", "open sesame")]

theorem names_options (a : Alphabet) : Names (spelled (options a)) (keyIn a) := by
  apply names_spelled
  · simp only [options, List.forall_mem_cons, List.not_mem_nil, false_imp_iff, implies_true,
      and_true]
    refine ⟨⟨⟨_, rfl, rfl⟩, ?_⟩, ⟨⟨_, rfl, rfl⟩, ?_⟩, ⟨⟨_, rfl, ?_⟩, ?_⟩, ⟨⟨_, rfl, rfl⟩, ?_⟩⟩
    · decide
    · decide
    · cases a <;> decide
    · cases a <;> decide
    · decide
  · have hnames : ["salt", "iteration", "alphabet", "password"].Nodup := by decide
    exact hnames
  · cases a <;> rfl

def dashingDraw : Draw := .ofBytes [0xF8]

theorem dashes_dashingDraw (mode : BlockMode) :
    Alphabet.base64Url.Dashes (dashingDraw.bytes mode.ivLength) := by
  refine ⟨rfl, 0xF8, ?_, by decide⟩
  cases mode <;> rfl

end Sample

theorem reads_back_sample : Names (spelled (Sample.options .base64)) (Sample.keyIn .base64) ∧
    readCommand (decryptArguments (spelled (Sample.options .base64))
        (.iv (Alphabet.base64.encode (List.replicate 16 0xF8))) (Alphabet.base64.encode [0xF8])) =
      .ok (.decrypt (Sample.keyIn .base64) (Alphabet.base64.encode [0xF8])
        (some (.iv (Alphabet.base64.encode (List.replicate 16 0xF8))))) := by
  have hdashes (bytes : Bytes) : ¬ Alphabet.base64.Dashes bytes := by
    rintro ⟨h, -⟩
    cases h
  have hnames := Sample.names_options .base64
  exact ⟨hnames, (reads_back hnames).byIv _ _ _ (hdashes _) (hdashes _)⟩

/-- Encryption prints a vector that decryption refuses to take in. -/
theorem not_forall_reads_back : ¬ ∀ (arguments : List String) (key : KeyOptions) (salt : Bytes)
    (password secret : String) (draw : Draw) (s : Sealed) (iv : String), Names arguments key →
    sealWith (key.draft salt password .encrypt) secret draw = .ok s → s.iv = some iv →
    readCommand (decryptArguments arguments (.iv iv) s.text) =
      .ok (.decrypt key s.text (some (.iv iv))) := by
  intro hall
  obtain ⟨s, hs⟩ := Sample.exists_sealWith .base64Url "meet me at noon" Sample.dashingDraw
  obtain ⟨mode, sealed, blob, hiv, -⟩ := printed_of_sealWith hs
  have hnames := Sample.names_options .base64Url
  have hlooks := (looksLikeOption_encode_iff _ _).2 (Sample.dashes_dashingDraw mode)
  have hread := hall _ _ _ _ _ _ s _ hnames hs hiv
  have hrefused : Refused (decryptArguments (spelled (Sample.options .base64Url)) (.iv _) s.text) :=
    refused_of_looksLikeOption hnames (.iv _) (Or.inl hlooks)
  rcases hrefused with h | h
  · cases h.symm.trans hread
  · cases h.symm.trans hread

end PasswordSeal.CommandLine
