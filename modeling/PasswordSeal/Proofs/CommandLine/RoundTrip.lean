import PasswordSeal.Proofs.CommandLine.Printed
import PasswordSeal.Proofs.Engine.IvRoute
import PasswordSeal.Proofs.Engine.Refusal
import PasswordSeal.Proofs.Parameters.Size

/-!
# Decrypting what was printed

Encryption prints the sealed secret along with its vector and its parameters. Run with the same key
options, decryption needs the printed text and one of the other two, and it prints the normal form
of the secret. The vector is as good as the parameters here, because a transformation that is given
names the parameters too, and one that is not given leaves both to the key algorithm.
-/
namespace PasswordSeal.CommandLine

/-! ## Encryption -/

def Takes (secret : Option String) (input : Bytes) (taken : String) : Prop :=
  match secret with
  | some given => taken = given
  | none => ∃ ends : List Char, (∀ c ∈ ends, c = '\r' ∨ c = '\n') ∧
      (∀ c ∈ taken.toList.getLast?, c ≠ '\r' ∧ c ≠ '\n') ∧
      input = Utf8.encode (taken ++ String.ofList ends)

def inputBehind (secret : Option String) (input : Bytes) : Bytes :=
  if secret.isSome then input else []

def takeSecret (secret : Option String) (input : Bytes) : Except String (String × Bytes) :=
  match secret with
  | some secret => .ok (secret, input)
  | none =>
    (during "failed to read secret from stdin" (readInput input)).map fun text =>
      (Text.trimLineEnds text, [])

theorem takes_trimLineEnds (text : String) :
    Takes none (Utf8.encode text) (Text.trimLineEnds text) := by
  have hsplit : text.toList.reverse.takeWhile (fun c => c == '\r' || c == '\n') ++
      text.toList.reverse.dropWhile (fun c => c == '\r' || c == '\n') = text.toList.reverse :=
    List.takeWhile_append_dropWhile
  refine ⟨(text.toList.reverse.takeWhile fun c => c == '\r' || c == '\n').reverse, ?_, ?_, ?_⟩
  · intro c hc
    have hend := List.all_eq_true.1 List.all_takeWhile c (List.mem_reverse.1 hc)
    simpa using hend
  · intro c hc
    rw [Text.trimLineEnds, String.toList_ofList, Text.trimEnd, List.getLast?_reverse] at hc
    have hkept := List.head?_dropWhile_not (fun c => c == '\r' || c == '\n') text.toList.reverse
    rw [Option.mem_def.1 hc] at hkept
    simpa using hkept
  · rw [Text.trimLineEnds, Text.trimEnd, ← String.ofList_append, ← List.reverse_append, hsplit,
      List.reverse_reverse, String.ofList_toList]

theorem takes_of_takeSecret {secret : Option String} {input behind : Bytes} {taken : String}
    (h : takeSecret secret input = .ok (taken, behind)) :
    Takes secret input taken ∧ behind = inputBehind secret input := by
  cases secret with
  | some given =>
    cases h
    exact ⟨rfl, rfl⟩
  | none =>
    obtain ⟨text, hread, hpair⟩ := map_eq_ok.1 h
    cases hpair
    have hinput : input = Utf8.encode text :=
      Utf8.decode_eq_ok_iff.1 (mapError_eq_ok.1 (mapError_eq_ok.1 hread))
    rw [hinput]
    exact ⟨takes_trimLineEnds text, rfl⟩

theorem fails_outcome (shown cause : String) : (outcome shown (.error cause)).exit ≠ 0 ∧
    (outcome shown (.error cause)).output = "" := by
  have hexit : (1 : UInt8) ≠ 0 := by decide
  exact ⟨hexit, rfl⟩

theorem outcome_cases (shown : String) (x : Except String String) :
    (∃ output, x = .ok output ∧ outcome shown x = ⟨0, output, shown⟩) ∨
      (outcome shown x).exit ≠ 0 ∧ (outcome shown x).output = "" := by
  cases x with
  | ok output => exact Or.inl ⟨output, rfl, rfl⟩
  | error cause => exact Or.inr (fails_outcome shown cause)

theorem sealWith_eq_ok {draft : Draft} {secret : String} {draw : Draw} {s : Sealed} :
    sealWith draft secret draw = .ok s ↔ ∃ e text blob, draft.build draw = .ok e ∧
      (e.encrypt secret).1 = .ok text ∧ e.parameters.toBlob = .ok blob ∧
        s = ⟨text, e.encodedIv, e.parameters.algorithm, Hex.encode blob⟩ := by
  simp only [sealWith, bind_eq_ok]
  constructor
  · rintro ⟨e, he, text, ht, blob, hb, hs⟩
    exact ⟨e, text, blob, he, ht, hb, (Except.ok.inj hs).symm⟩
  · rintro ⟨e, text, blob, he, ht, hb, rfl⟩
    exact ⟨e, he, text, ht, blob, hb, rfl⟩

section
variable (key : KeyOptions) (secret : Option String) (json : Bool) (input : Bytes) (draw : Draw)
variable (terminal : Option String)

def sealFound (found : Except String (String × Bytes)) : Outcome :=
  match found.bind fun (secret, input) => key.salt.bytes.map fun salt => (secret, input, salt) with
  | .error cause => outcome "" (.error cause)
  | .ok (secret, input, salt) =>
    outcome (key.prompt terminal) do
      let password ← key.readPassword terminal input
      let s ← worded (sealWith (key.draft salt password .encrypt) secret draw)
      return s.print json

theorem runEncrypt_eq : runEncrypt key secret json input draw terminal =
    sealFound key json draw terminal (takeSecret secret input) := rfl

theorem runEncrypt_cases :
    (∃ taken behind salt password s, takeSecret secret input = .ok (taken, behind) ∧
      key.salt.bytes = .ok salt ∧ key.readPassword terminal behind = .ok password ∧
      sealWith (key.draft salt password .encrypt) taken draw = .ok s ∧
      runEncrypt key secret json input draw terminal =
        ⟨0, s.print json, key.prompt terminal⟩) ∨
    (runEncrypt key secret json input draw terminal).exit ≠ 0 ∧
      (runEncrypt key secret json input draw terminal).output = "" := by
  rw [runEncrypt_eq]
  cases htake : takeSecret secret input with
  | error cause => exact Or.inr (fails_outcome "" cause)
  | ok found =>
    obtain ⟨taken, behind⟩ := found
    cases hsalt : key.salt.bytes with
    | error cause =>
      have hfails : sealFound key json draw terminal (.ok (taken, behind)) =
          outcome "" (.error cause) := by
        rw [sealFound, hsalt]
        rfl
      rw [hfails]
      exact Or.inr (fails_outcome "" cause)
    | ok salt =>
      have hseals : sealFound key json draw terminal (.ok (taken, behind)) =
          outcome (key.prompt terminal) do
            let password ← key.readPassword terminal behind
            let s ← worded (sealWith (key.draft salt password .encrypt) taken draw)
            return s.print json := by
        rw [sealFound, hsalt]
        rfl
      rw [hseals]
      refine (outcome_cases (key.prompt terminal) _).imp_left ?_
      rintro ⟨output, hchain, hrun⟩
      obtain ⟨password, hpassword, s, hseal, houtput⟩ := by simpa only [bind_eq_ok] using hchain
      cases houtput
      exact ⟨taken, behind, salt, password, s, rfl, rfl, hpassword, mapError_eq_ok.1 hseal, hrun⟩

end

/-! ## Decryption -/

theorem apply_parameters {p : Parameters} {blob : Bytes} (h : p.toBlob = .ok blob) (draft : Draft) :
    Origin.apply draft (.parameters (Hex.encode blob)) = worded (draft.set (.parameters p)) := by
  have hread : during "invalid hex parameters" (readHex (Hex.encode blob)) = .ok blob := by
    rw [readHex, Hex.decode_encode]
    rfl
  have hblob : worded (Parameters.ofBlob blob) = .ok p := by
    rw [Parameters.ofBlob_toBlob h]
    rfl
  rw [Origin.apply, hread, ok_bind, hblob, ok_bind]

theorem exists_of_buildWith {d : Draft} {setting : Setting} {draw : Draw} {e : Engine}
    (h : d.buildWith [.direction .decrypt, setting] draw = .ok e) :
    ∃ opening, (d.facing .decrypt).set setting = .ok opening ∧ opening.build draw = .ok e := by
  rw [Draft.buildWith_facing] at h
  obtain ⟨opening, hset, hbuild⟩ := bind_eq_ok.1 h
  rw [Draft.setAll, List.foldlM_cons] at hset
  obtain ⟨next, hnext, hlast⟩ := bind_eq_ok.1 hset
  obtain rfl := Except.ok.inj hlast
  exact ⟨_, hnext, hbuild⟩

section
variable {key : KeyOptions} {salt : Bytes} {password taken : String} {draw : Draw}

theorem usesBuiltIn_draft (direction : Direction) :
    (key.draft salt password direction).UsesBuiltIn :=
  Or.inr ⟨rfl, rfl⟩

section
variable {plan : Plan} {a : Draft.Assembly}
variable (hs : ((key.draft salt password .encrypt).facing .encrypt).settings.Settles plan)
variable (h : a.Fits plan draw)
variable (hstart : ((key.draft salt password .encrypt).facing .encrypt).generate plan none =
  .ok a.start)
include hs

theorem parametersAlgorithm_eq : plan.parametersAlgorithm = plan.transformation := by
  have ht : key.transformation.getD plan.keyAlgorithm = plan.transformation := hs.transformation
  have hp : key.transformation.getD plan.keyAlgorithm = plan.parametersAlgorithm :=
    hs.parametersAlgorithm
  rw [← ht, hp]

include h hstart

theorem opensByIv_draft : (key.draft salt password .encrypt).OpensByIv (a.engine plan) := by
  obtain ⟨s, hname, -⟩ := (Draft.generate_eq_ok (usesBuiltIn_draft .encrypt)).1 hstart
  have hscheme := h.scheme
  rw [← parametersAlgorithm_eq hs, hname] at hscheme
  exact Draft.opensByIv (usesBuiltIn_draft .encrypt) rfl rfl hs h hstart hname
    (congrArg Scheme.mode (Option.some.inj hscheme).symm)

theorem buildWith_opener {iv : String} (hiv : (a.engine plan).encodedIv = some iv)
    {setting : Setting} (hset : setting ∈ [.parameters (a.engine plan).parameters, .encodedIv iv])
    (draw' : Draw) : (key.draft salt password .encrypt).buildWith [.direction .decrypt, setting]
      draw' = .ok (a.opener plan) := by
  have hparameters := Draft.buildWith_parameters (usesBuiltIn_draft .encrypt) rfl hs h draw'
  obtain ⟨text, e, htext, -, hbuilt⟩ := opensByIv_draft hs h hstart
  obtain rfl := Option.some.inj (htext.symm.trans hiv)
  obtain ⟨hbyIv, hbyParameters⟩ := hbuilt draw'
  rcases List.mem_pair.1 hset with rfl | rfl
  · exact hparameters
  · rw [hbyIv, ← hbyParameters, hparameters]

end

theorem plain_texts {plan : Plan} {a : Draft.Assembly} {text : String} {blob : Bytes}
    (h : a.Fits plan draw) (hdir : plan.direction = .encrypt)
    (htext : ((a.engine plan).encrypt taken).1 = .ok text) {s : Scheme} (hs : s.Keyed)
    (hname : (a.engine plan).parameters.algorithm = s.name) :
    ∃ iv, (a.engine plan).encodedIv = some iv ∧
      ∀ shown ∈ [text, iv, (a.engine plan).parameters.algorithm, Hex.encode blob], Plain shown := by
  refine ⟨_, h.encodedIv_engine, ?_⟩
  rw [Engine.encrypt_fst hdir] at htext
  obtain ⟨sealed, -, rfl⟩ := map_eq_ok.1 htext
  rw [hname]
  simp only [List.forall_mem_cons, List.not_mem_nil, false_imp_iff, implies_true, and_true]
  exact ⟨plain_encode _ _, plain_encode _ _, plain_name hs, plain_hex blob⟩

structure Sealed.Opens (s : Sealed) (draft : Draft) (secret : String) : Prop where
  plain : ∃ iv, s.iv = some iv ∧ ∀ text ∈ s.texts iv, Plain text
  opens : ∀ iv, s.iv = some iv → ∀ origin ∈ [Origin.parameters s.parameters, .iv iv], ∀ draw,
    ∃ opening e, origin.apply draft = .ok opening ∧ opening.build draw = .ok e ∧
      (e.decrypt s.text).1 = .ok secret

theorem opens_of_sealWith {s : Sealed}
    (hseal : sealWith (key.draft salt password .encrypt) taken draw = .ok s) :
    s.Opens (key.draft salt password .decrypt) (NormalForm.normalize taken) := by
  obtain ⟨e, text, blob, hbuild, htext, hblob, rfl⟩ := sealWith_eq_ok.1 hseal
  have hbuildWith : (key.draft salt password .encrypt).buildWith [.direction .encrypt] draw =
      .ok e := hbuild
  obtain ⟨plan, a, hs, h, hstart, hdir, rfl⟩ :=
    Draft.exists_of_encrypt (usesBuiltIn_draft .encrypt) hbuildWith
  constructor
  · obtain ⟨s, hname, -, -, -, hparameters⟩ :=
      (Draft.generate_eq_ok (d := (key.draft salt password .encrypt).facing .encrypt)
        (usesBuiltIn_draft .encrypt)).1 hstart
    refine plain_texts h hdir htext (Scheme.keyed_of_ofName? hname) ?_
    rw [h.parameters_engine, hparameters]
    rfl
  · intro iv hiv origin horigin draw'
    have htext' : (((a.engine plan).after []).encrypt taken).1 = .ok text := htext
    have hopens (setting : Setting)
        (hset : setting ∈ [.parameters (a.engine plan).parameters, .encodedIv iv])
        (happly : origin.apply (key.draft salt password .decrypt) =
          worded ((key.draft salt password .decrypt).set setting)) :
        ∃ opening e, origin.apply (key.draft salt password .decrypt) = .ok opening ∧
          opening.build draw' = .ok e ∧ (e.decrypt text).1 = .ok (NormalForm.normalize taken) := by
      obtain ⟨opening, hopening, hbuilt⟩ :=
        exists_of_buildWith (buildWith_opener hs h hstart hiv hset draw')
      exact ⟨opening, _, happly.trans (mapError_eq_ok.2 hopening), hbuilt,
        Draft.decrypt_opener h hdir htext' []⟩
    -- Either text is read back as the setting that it was written from.
    rcases List.mem_pair.1 horigin with rfl | rfl
    · exact hopens _ (by simp) (apply_parameters hblob _)
    · exact hopens (.encodedIv iv) (by simp) rfl

end

/-! ## Both -/

section
variable (key : KeyOptions) (text : String) (origin : Origin) (input : Bytes) (draw : Draw)
variable (terminal : Option String)

theorem runDecrypt_eq {salt : Bytes} {password secret : String} {opening : Draft} {e : Engine}
    (hsalt : key.salt.bytes = .ok salt)
    (hpassword : key.readPassword terminal input = .ok password)
    (hopening : origin.apply (key.draft salt password .decrypt) = .ok opening)
    (hbuild : opening.build draw = .ok e) (hsecret : (e.decrypt text).1 = .ok secret) :
    runDecrypt key text (some origin) input draw terminal =
      ⟨0, secret ++ "\n", key.prompt terminal⟩ := by
  have hengine : worded (opening.build draw) = .ok e := mapError_eq_ok.2 hbuild
  have hshown : during "wrong password or parameters, or corrupted ciphertext"
      (worded (e.decrypt text).1) = .ok secret := mapError_eq_ok.2 (mapError_eq_ok.2 hsecret)
  rw [runDecrypt, hsalt]
  dsimp only [Option.map_some, Option.getD_some]
  rw [hpassword, ok_bind, hopening, ok_bind, hengine, ok_bind, hshown, ok_bind]
  rfl

end

/-- The texts that stand in what encryption wrote. -/
def Shows (json : Bool) (output text iv parameters : String) : Prop :=
  ∃ algorithm, output = (Sealed.mk text (some iv) algorithm parameters).print json

/-- What encryption prints is a text, a vector and parameters, and nothing else can be read there.
With the text and either of the others, decryption prints the normal form of the secret that was
taken in, given the same key options and the same password. An encryption that fails prints
nothing. -/
theorem decrypt_of_encrypt (key : KeyOptions) (secret : Option String) (json : Bool)
    (input : Bytes) (draw : Draw) (terminal : Option String) :
    let sealing := (Command.encrypt key secret json).run input draw terminal
    (sealing.exit ≠ 0 → sealing.output = "") ∧
      (sealing.exit = 0 → ∃ taken, Takes secret input taken ∧
        (∃ text iv parameters, Shows json sealing.output text iv parameters) ∧
        ∀ text iv parameters, Shows json sealing.output text iv parameters →
          ∀ origin ∈ [Origin.parameters parameters, .iv iv], ∀ input' draw' terminal',
            key.readPassword terminal' input' =
              key.readPassword terminal (inputBehind secret input) →
            (Command.decrypt key text (some origin)).run input' draw' terminal' =
              ⟨0, NormalForm.normalize taken ++ "\n", key.prompt terminal'⟩) := by
  intro sealing
  rcases runEncrypt_cases key secret json input draw terminal with
    ⟨taken, behind, salt, password, s, htake, hsalt, hpassword, hseal, hrun⟩ | ⟨hexit, hnone⟩
  · have hsealing : sealing = ⟨0, s.print json, key.prompt terminal⟩ := hrun
    obtain ⟨htakes, rfl⟩ := takes_of_takeSecret htake
    obtain ⟨⟨iv, hiv, hplain⟩, hopens⟩ := opens_of_sealWith hseal
    rw [hsealing]
    refine ⟨fun hexit => absurd rfl hexit, fun _ => ⟨taken, htakes, ?_, ?_⟩⟩
    · refine ⟨s.text, iv, s.parameters, s.algorithm, ?_⟩
      rw [← hiv]
    · -- Whatever is read in what was printed, it is what was sealed.
      rintro text iv' parameters ⟨algorithm, hshown⟩ origin horigin input' draw' terminal' hsame
      have hsealed : ⟨text, some iv', algorithm, parameters⟩ = s :=
        Sealed.print_injective rfl hiv hplain hshown.symm
      subst hsealed
      obtain ⟨opening, e, hopening, hbuild, hsecret⟩ := hopens iv' rfl origin horigin draw'
      exact runDecrypt_eq key _ origin input' draw' terminal' hsalt (hsame.trans hpassword) hopening
        hbuild hsecret
  · exact ⟨fun _ => hnone, fun h => absurd h hexit⟩

namespace Sample

def key : KeyOptions :=
  ⟨.text "sea salt", 2, none, none, .base64, some "open sesame"⟩

def salt : Bytes := Utf8.encode "sea salt"

def draft : Draft := key.draft salt "open sesame" .encrypt

def scheme : Scheme := ⟨.sha1, 16, .cbc⟩

def plan : Plan where
  keyAlgorithm := Settings.defaultKeyAlgorithm
  transformation := Settings.defaultKeyAlgorithm
  parametersAlgorithm := Settings.defaultKeyAlgorithm
  iterations := 2
  salt := salt
  keyBits := none
  password := "open sesame"
  direction := .encrypt
  cipherIterations := 2
  cipherSalt := salt
  alphabet := .base64
  iv := none
  parameters := none

theorem ofName?_defaultKeyAlgorithm :
    Scheme.ofName? Settings.defaultKeyAlgorithm = some scheme := by
  rfl

theorem usesBuiltIn : draft.UsesBuiltIn :=
  Or.inr ⟨rfl, rfl⟩

theorem refusal?_draft (stage : Stage) : stage.refusal? draft.settings = none := by
  cases stage <;> rfl

def keyIn (a : Alphabet) : KeyOptions :=
  { key with alphabet := a }

def draftIn (a : Alphabet) : Draft := (keyIn a).draft salt "open sesame" .encrypt

theorem refusal?_draftIn (a : Alphabet) (stage : Stage) :
    stage.refusal? (draftIn a).settings = none := by
  rw [← refusal?_draft stage]
  cases stage <;> rfl

theorem eq_plan {a : Alphabet} {p : Plan} (h : (draftIn a).settings.Settles p) :
    p = { plan with alphabet := a } :=
  Except.ok.inj ((Settings.settle_eq_ok.2 h).symm.trans rfl)

theorem size_le {iv : Bytes} (h : iv.length = 16) :
    Blob.size ⟨⟨salt, 2, some iv⟩, scheme.name⟩ ≤ Blob.sizeLimit := by
  have hsize : Blob.size ⟨⟨salt, 2, some iv⟩, scheme.name⟩ =
      Blob.bytesSize scheme.name.utf8ByteSize + Blob.bytesSize salt.length +
        Blob.numberSize 2 + (1 + Blob.bytesSize iv.length) := rfl
  rw [hsize, h]
  decide

theorem exists_sealWith (alphabet : Alphabet) (taken : String) (draw : Draw) :
    ∃ s, sealWith (draftIn alphabet) taken draw = .ok s := by
  have hnone : failure? ((draftIn alphabet).build draw) = none := by
    rw [Draft.failure?_build (d := draftIn alphabet) usesBuiltIn, List.findSome?_eq_none_iff]
    exact fun stage _ => refusal?_draftIn alphabet stage
  obtain ⟨e, he⟩ := failure?_eq_none.1 hnone
  obtain ⟨p, a, hs, h, hstart, hdir, rfl⟩ :=
    Draft.exists_of_encrypt (d := draftIn alphabet) usesBuiltIn he
  obtain rfl := eq_plan hs
  obtain ⟨cipher, hc⟩ := h.exists_cipher
  have hscheme : a.scheme = scheme :=
    Option.some.inj (h.scheme.symm.trans ofName?_defaultKeyAlgorithm)
  have htakes : a.scheme.mode.Takes (Utf8.encode (NormalForm.normalize taken)).length := by
    rw [hscheme]
    exact nofun
  obtain ⟨text, htext⟩ := (h.runs hc).exists_text hdir htakes
  have hlength := h.length_iv
  obtain ⟨s, hname, -, -, -, hstart⟩ :=
    (Draft.generate_eq_ok (d := (draftIn alphabet).facing .encrypt) usesBuiltIn).1 hstart
  obtain rfl := Option.some.inj (hname.symm.trans ofName?_defaultKeyAlgorithm)
  have hparameters : (a.engine { plan with alphabet }).parameters =
      ⟨⟨salt, 2, some a.bound.iv⟩, scheme.name⟩ := by
    rw [h.parameters_engine, hstart]
    rfl
  rw [hscheme] at hlength
  have hblob := Parameters.toBlob_eq_ok.2 ⟨size_le hlength, rfl⟩
  rw [← hparameters] at hblob
  exact ⟨_, sealWith_eq_ok.2 ⟨_, text, _, he, htext, hblob, rfl⟩⟩

theorem exit_run (taken : String) (json : Bool) (draw : Draw) :
    ((Command.encrypt key (some taken) json).run [] draw none).exit = 0 := by
  obtain ⟨s, hs⟩ := exists_sealWith .base64 taken draw
  have hrun : (Command.encrypt key (some taken) json).run [] draw none =
      outcome "" ((worded (sealWith (draftIn .base64) taken draw)).bind fun s =>
        .ok (s.print json)) := rfl
  rw [hrun, hs]
  rfl

end Sample

theorem decrypt_of_encrypt_sample : ∃ text iv parameters,
    Shows false
      ((Command.encrypt Sample.key (some "meet me at noon") false).run [] (.ofBytes []) none).output
        text iv parameters ∧
      ∀ origin ∈ [Origin.parameters parameters, .iv iv],
        (Command.decrypt Sample.key text (some origin)).run [] (.ofBytes []) none =
          ⟨0, "meet me at noon\n", ""⟩ := by
  obtain ⟨taken, htaken, ⟨text, iv, parameters, hshows⟩, hopens⟩ :=
    (decrypt_of_encrypt Sample.key (some "meet me at noon") false [] (.ofBytes []) none).2
      (Sample.exit_run _ _ _)
  obtain rfl : taken = "meet me at noon" := htaken
  have hsame : NormalForm.normalize "meet me at noon" = "meet me at noon" := by
    decide +kernel
  refine ⟨text, iv, parameters, hshows, fun origin horigin => ?_⟩
  have hrun := hopens text iv parameters hshows origin horigin [] (.ofBytes []) none rfl
  rw [hsame] at hrun
  exact hrun

end PasswordSeal.CommandLine
