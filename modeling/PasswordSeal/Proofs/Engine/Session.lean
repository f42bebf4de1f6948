import PasswordSeal.Proofs.Engine.Composition

/-!
# Engines over a session

A session asks one thing of an engine after another: to encrypt, to decrypt, or to say what it was
built with. A call against the direction of the engine is refused before its text is looked at and
leaves no trace. What was asked before does not matter to an answer, save that an engine under `gcm`
has encrypted all that it will once it was asked to encrypt, be it only a secret that is too long.
-/
namespace PasswordSeal.Engine
variable {e : Engine} {c : Call}

def Call.direction : Call → Direction
  | encrypt _ => .encrypt
  | encryptChars _ => .encrypt
  | decrypt _ => .decrypt

def Call.bytes : Call → Bytes
  | encrypt secret => Utf8.encode (NormalForm.normalize secret)
  | encryptChars secret => Utf8.encode (NormalForm.normalize (String.ofList secret))
  | decrypt _ => []

inductive Request where
  | call (c : Call)
  | parameters
  | encodedIv
  | alphabet
  | direction

inductive Answer where
  | text (outcome : Except Fault String)
  | parameters (p : Parameters)
  | encodedIv (text : Option String)
  | alphabet (a : Alphabet)
  | direction (d : Direction)

def answer (e : Engine) : Request → Answer × Engine
  | .call c => (.text (e.call c).1, (e.call c).2)
  | .parameters => (.parameters e.parameters, e)
  | .encodedIv => (.encodedIv e.encodedIv, e)
  | .alphabet => (.alphabet e.alphabet, e)
  | .direction => (.direction e.direction, e)

def session : Engine → List Request → List Answer
  | _, [] => []
  | e, request :: rest => (e.answer request).1 :: session (e.answer request).2 rest

def afterAll (e : Engine) (history : List Request) : Engine :=
  history.foldl (fun e request => (e.answer request).2) e

def answerTo (e : Engine) (history : List Request) (request : Request) : Answer :=
  ((e.afterAll history).answer request).1

/-! ## One request -/

theorem Call.encrypts_iff : c.Encrypts ↔ c.direction = .encrypt := by
  cases c <;> simp [Call.Encrypts, Call.direction]

theorem call_against (h : c.direction ≠ e.direction) :
    e.call c = (.error (.wrongDirection c.direction e.direction), e) := by
  cases c with
  | encrypt secret => exact encrypt_against h.symm secret
  | encryptChars secret => exact encrypt_against h.symm (String.ofList secret)
  | decrypt text => exact decrypt_against h.symm text

namespace Request

def call? : Request → Option Call
  | call c => some c
  | parameters => none
  | encodedIv => none
  | alphabet => none
  | direction => none

theorem mem_filterMap_call? {history : List Request} :
    c ∈ history.filterMap call? ↔ call c ∈ history := by
  rw [List.mem_filterMap]
  constructor
  · rintro ⟨request, hmem, hcall⟩
    cases request with
    | call c' => exact Option.some.inj hcall ▸ hmem
    | _ => cases hcall
  · intro hmem
    exact ⟨_, hmem, rfl⟩

def asText : Request → Request
  | call (.encryptChars secret) => call (.encrypt (String.ofList secret))
  | request => request

end Request

theorem answer_asText (e : Engine) (request : Request) :
    e.answer request.asText = e.answer request := by
  cases request with
  | call c => cases c <;> rfl
  | _ => rfl

/-! ## Many requests -/

theorem afterAll_eq (e : Engine) (history : List Request) :
    e.afterAll history = e.after (history.filterMap Request.call?) := by
  induction history generalizing e with
  | nil => rfl
  | cons request rest ih => cases request <;> exact ih _

theorem session_append (e : Engine) (history later : List Request) :
    e.session (history ++ later) = e.session history ++ (e.afterAll history).session later := by
  induction history generalizing e with
  | nil => rfl
  | cons request rest ih => exact congrArg (_ :: ·) (ih _)

theorem length_session (e : Engine) (requests : List Request) :
    (e.session requests).length = requests.length := by
  induction requests generalizing e with
  | nil => rfl
  | cons request rest ih => exact congrArg Nat.succ (ih _)

theorem session_asText (e : Engine) (requests : List Request) :
    e.session (requests.map Request.asText) = e.session requests := by
  induction requests generalizing e with
  | nil => rfl
  | cons request rest ih =>
    rw [List.map_cons, session, answer_asText, ih]
    rfl

theorem session_getElem? (e : Engine) (history : List Request) (request : Request)
    (later : List Request) :
    (e.session (history ++ request :: later))[history.length]? =
      some (e.answerTo history request) := by
  rw [session_append, List.getElem?_append_right (Nat.le_of_eq (length_session _ _)),
    length_session, Nat.sub_self]
  rfl

theorem answerTo_accessor {request : Request} (h : request.call? = none) (history : List Request) :
    e.answerTo history request = (e.answer request).1 := by
  rw [answerTo, afterAll_eq, after_eq]
  cases request with
  | call c => cases h
  | _ => rfl

theorem answerTo_call (e : Engine) (history : List Request) (c : Call) :
    e.answerTo history (.call c) =
      .text ((e.after (history.filterMap Request.call?)).call c).1 := by
  rw [answerTo, afterAll_eq]
  rfl

theorem answerTo_against (h : c.direction ≠ e.direction) (history : List Request) :
    e.answerTo history (.call c) = .text (.error (.wrongDirection c.direction e.direction)) := by
  rw [answerTo_call, call_against (by rwa [direction_after]), direction_after]

theorem eraseIdx_session (h : c.direction ≠ e.direction) (history later : List Request) :
    (e.session (history ++ .call c :: later)).eraseIdx history.length =
      e.session (history ++ later) := by
  have hkept : (e.afterAll history).call c =
      (.error (.wrongDirection c.direction e.direction), e.afterAll history) := by
    rw [afterAll_eq, call_against (by rwa [direction_after]), direction_after]
  rw [session_append, session_append, session, answer, hkept,
    List.eraseIdx_append_of_length_le (Nat.le_of_eq (length_session _ _)), length_session,
    Nat.sub_self, List.eraseIdx_cons_zero]

/-- How an engine whose scheme has this mode answers in any session. -/
structure Serves (e : Engine) (mode : BlockMode) : Prop where
  session_getElem : ∀ history request later,
    (e.session (history ++ request :: later))[history.length]? = some (e.answerTo history request)
  parameters : ∀ history, e.answerTo history .parameters = .parameters e.parameters
  encodedIv : ∀ history, e.answerTo history .encodedIv = .encodedIv e.encodedIv
  alphabet : ∀ history, e.answerTo history .alphabet = .alphabet e.alphabet
  direction : ∀ history, e.answerTo history .direction = .direction e.direction
  against : ∀ history c, c.direction ≠ e.direction → e.answerTo history (.call c) =
    .text (.error (.wrongDirection c.direction e.direction))
  traceless : ∀ history c later, c.direction ≠ e.direction →
    (e.session (history ++ .call c :: later)).eraseIdx history.length =
      e.session (history ++ later)
  encrypts_first : mode = .gcm → e.direction = .encrypt → ∀ history,
    (∀ c, .call c ∈ history → c.direction = .decrypt) → ∀ c, c.direction = .encrypt →
      (c.bytes.length ≤ Gcm.textLimit → ∃ text, e.answerTo history (.call c) = .text (.ok text)) ∧
        (Gcm.textLimit < c.bytes.length →
          e.answerTo history (.call c) = .text (.error .cryptographic))
  encrypts_once : mode = .gcm → e.direction = .encrypt → ∀ history earlier,
    .call earlier ∈ history → earlier.direction = .encrypt → ∀ c, c.direction = .encrypt →
      e.answerTo history (.call c) = .text (.error .cryptographic)
  repeatable : (mode = .gcm → e.direction = .decrypt) → ∀ history c,
    e.answerTo history (.call c) = .text (e.call c).1
  interchangeable : ∀ requests requests' : List Request,
    requests.map Request.asText = requests'.map Request.asText →
      e.session requests = e.session requests'

namespace Runs
variable {mode : BlockMode} {cipher : BlockCipher} {iv : Bytes} (h : e.Runs mode cipher iv)
include h

theorem call_first (hd : e.direction = .encrypt) (calls : List Call)
    (hfirst : mode = .gcm → ∀ c ∈ calls, ¬ c.Encrypts) (hc : c.direction = .encrypt) :
    ((e.after calls).call c).1 = (mode.encrypt? cipher iv c.bytes).elim (.error .cryptographic)
      fun output => .ok (e.alphabet.encode output) := by
  cases c with
  | encrypt secret => exact h.encrypt hd calls secret hfirst
  | encryptChars secret => exact h.encrypt hd calls (String.ofList secret) hfirst
  | decrypt text => cases hc

theorem call_again (hd : e.direction = .encrypt) (hm : mode = .gcm) {calls : List Call}
    (hagain : ∃ c ∈ calls, c.Encrypts) (hc : c.direction = .encrypt) :
    ((e.after calls).call c).1 = .error .cryptographic := by
  cases c with
  | encrypt secret => exact h.refuse hd hm calls secret hagain
  | encryptChars secret => exact h.refuse hd hm calls (String.ofList secret) hagain
  | decrypt text => cases hc

theorem call_repeatable (hm : mode = .gcm → e.direction = .decrypt) (calls : List Call)
    (c : Call) : ((e.after calls).call c).1 = (e.call c).1 := by
  by_cases hc : c.direction = e.direction
  · cases hd : e.direction with
    | encrypt =>
      -- An engine that encrypts is not under gcm here, so that no earlier call can be in the way.
      have hfirst : mode = .gcm → ∀ c ∈ calls, ¬ c.Encrypts := by
        intro hgcm
        cases hd.symm.trans (hm hgcm)
      exact (h.call_first hd calls hfirst (hc.trans hd)).trans
        (h.call_first hd [] (fun _ => nofun) (hc.trans hd)).symm
    | decrypt =>
      cases c with
      | encrypt secret => cases hc.trans hd
      | encryptChars secret => cases hc.trans hd
      | decrypt text => exact (h.decrypt hd calls text).trans (h.decrypt hd [] text).symm
  · rw [call_against hc, call_against (by rwa [direction_after]), direction_after]

theorem serves : e.Serves mode where
  session_getElem history request later := e.session_getElem? history request later
  parameters history := answerTo_accessor rfl history
  encodedIv history := answerTo_accessor rfl history
  alphabet history := answerTo_accessor rfl history
  direction history := answerTo_accessor rfl history
  against history _ hc := answerTo_against hc history
  traceless history _ later hc := eraseIdx_session hc history later
  encrypts_first hm hd history hnone c hc := by
    have hfirst : ∀ c ∈ history.filterMap Request.call?, ¬ c.Encrypts := by
      intro c hmem hencrypts
      have hdecrypt := hnone c (Request.mem_filterMap_call?.1 hmem)
      cases hdecrypt.symm.trans (Call.encrypts_iff.1 hencrypts)
    rw [answerTo_call, h.call_first hd _ (fun _ => hfirst) hc]
    constructor
    · intro hshort
      have htakes : mode.Takes c.bytes.length := fun _ => hshort
      obtain ⟨output, houtput, -⟩ := mode.exists_encrypt? cipher iv htakes
      exact ⟨_, by rw [houtput, Option.elim_some]⟩
    · intro hlong
      rw [mode.encrypt?_eq_none cipher iv (mode.not_takes_iff.2 ⟨hm, hlong⟩), Option.elim_none]
  encrypts_once hm hd history earlier hmem hearlier c hc := by
    rw [answerTo_call, h.call_again hd hm
      ⟨earlier, Request.mem_filterMap_call?.2 hmem, Call.encrypts_iff.2 hearlier⟩ hc]
  repeatable hm history c := by rw [answerTo_call, h.call_repeatable hm]
  interchangeable requests requests' hsame := by
    rw [← e.session_asText requests, hsame, e.session_asText]

end Runs
end PasswordSeal.Engine

namespace PasswordSeal.Draft
variable {d : Draft} {draw : Draw} {e : Engine}

theorem exists_serves (hd : d.UsesBuiltIn) (hb : d.build draw = .ok e) :
    ∃ plan scheme, d.settings.settle = .ok plan ∧
      Scheme.ofName? plan.transformation = some scheme ∧ e.Serves scheme.mode := by
  obtain ⟨plan, hs, a, ha, -, rfl⟩ := (build_eq_ok hd).1 hb
  obtain ⟨cipher, hc⟩ := ha.exists_cipher
  exact ⟨plan, a.scheme, Settings.settle_eq_ok.2 hs, ha.scheme, (ha.runs hc).serves⟩

theorem exists_serves_sample : (Sample.draft .cbc).UsesBuiltIn ∧
    (Sample.draft .cbc).build Sample.draw = .ok (Sample.engine .cbc) ∧
      ∃ plan scheme, (Sample.draft .cbc).settings.settle = .ok plan ∧
        Scheme.ofName? plan.transformation = some scheme ∧
          (Sample.engine .cbc).Serves scheme.mode :=
  ⟨Sample.usesBuiltIn .cbc, Sample.build .cbc,
    exists_serves (Sample.usesBuiltIn .cbc) (Sample.build .cbc)⟩

end PasswordSeal.Draft
