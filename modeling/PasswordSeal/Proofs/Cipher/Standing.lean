import PasswordSeal.Cipher.Machine
import PasswordSeal.Proofs.Cipher.Bind
import Mathlib.Data.List.Induction

/-!
# A cipher over a run, told by its last binding

A simple machine stands for the cipher of a scheme. It knows what was asked of the last binding that
was granted, if there was one, and whether an input came since; it keeps no key and no vector. The
cipher answers every run of requests as this machine does. So what an answer depends on can be read
off the requests before it: a refused binding leaves no trace, an input changes nothing that later
answers depend on, and only under `gcm` does a second input to encrypt meet a refusal.
-/
namespace PasswordSeal.Machine
variable {s : Scheme}

structure Asked where
  draw : Draw
  direction : Direction
  key : Key
  parameters : Parameters

namespace Asked

def request (a : Asked) : Request :=
  .bind a.draw a.direction a.key a.parameters

def reported (s : Scheme) (a : Asked) : Parameters :=
  a.parameters.withIv (s.ivInEffect a.draw a.parameters)

def bound (s : Scheme) (a : Asked) : Scheme.Bound :=
  ⟨a.direction, s.aesKey a.key.material a.parameters, s.ivInEffect a.draw a.parameters,
    a.reported s⟩

def outcome (s : Scheme) (a : Asked) (input : Bytes) : Except Fault Bytes :=
  match Aes.keyed? (s.aesKey a.key.material a.parameters) with
  | none => .error .cryptographic
  | some cipher =>
    match a.direction with
    | .encrypt =>
      (s.mode.encrypt? cipher (s.ivInEffect a.draw a.parameters) input).elim
        (.error .cryptographic) .ok
    | .decrypt =>
      (s.mode.decrypt? cipher (s.ivInEffect a.draw a.parameters) input).elim
        (.error .cryptographic) .ok

end Asked

structure Standing extends Asked where
  used : Bool

def Standing.Spent (s : Scheme) (t : Standing) : Prop :=
  t.used ∧ s.mode = .gcm ∧ t.direction = .encrypt

instance Standing.decidableSpent (s : Scheme) (t : Standing) : Decidable (t.Spent s) :=
  inferInstanceAs (Decidable (_ ∧ _))

theorem transform_bound (s : Scheme) (t : Standing) (input : Bytes) :
    s.transform (t.bound s) t.used input =
      if t.Spent s then .error .cryptographic else t.outcome s input := by
  rw [Asked.outcome]
  cases hk : Aes.keyed? (s.aesKey t.key.material t.parameters) with
  | none => simp [Scheme.transform, Asked.bound, hk]
  | some cipher =>
    cases hd : t.direction with
    | encrypt =>
      rw [Scheme.transform_encrypt (b := t.bound s) hk hd]
      simp only [Standing.Spent, Asked.bound, hd, and_true]
    | decrypt =>
      rw [Scheme.transform_decrypt (b := t.bound s) hk hd, if_neg (by simp [Standing.Spent, hd])]
      rfl

def Request.Granted (s : Scheme) : Request → Prop
  | .bind _ direction key p => s.Grants direction key p
  | .parameters => False
  | .transform _ => False

def Request.isInput : Request → Bool
  | .bind _ _ _ _ => false
  | .parameters => false
  | .transform _ => true

def due (s : Scheme) (standing : Option Standing) :
    Request → Except Fault Answer × Option Standing
  | .bind draw direction key p =>
    if s.Grants direction key p then (.ok .bound, some ⟨⟨draw, direction, key, p⟩, false⟩)
    else (.error .cryptographic, standing)
  | .parameters => (.ok (.parameters (standing.map (·.reported s))), standing)
  | .transform input =>
    match standing with
    | none => (.error .cryptographic, none)
    | some t =>
      (if t.Spent s then .error .cryptographic else (t.outcome s input).map .output,
        some { t with used := true })

def dues (s : Scheme) : Option Standing → List Request → List (Except Fault Answer)
  | _, [] => []
  | standing, request :: rest =>
    (due s standing request).1 :: dues s (due s standing request).2 rest

def ofStanding (s : Scheme) : Option Standing → Machine
  | none => unbound
  | some t => bound (t.bound s) t.used

theorem answer_ofStanding (s : Scheme) (standing : Option Standing) (request : Request) :
    (ofStanding s standing).answer s request =
      ((due s standing request).1, ofStanding s (due s standing request).2) := by
  cases request with
  | bind draw direction key p =>
    rw [answer, Scheme.bind_eq_ite, due]
    by_cases h : s.Grants direction key p
    · rw [if_pos h, if_pos h]
      rfl
    · rw [if_neg h, if_neg h]
  | parameters => cases standing <;> rfl
  | transform input =>
    cases standing with
    | none => rfl
    | some t =>
      rw [ofStanding, answer, transform_bound, due]
      by_cases h : t.Spent s
      · rw [if_pos h, if_pos h]
        rfl
      · rw [if_neg h, if_neg h]
        rfl

theorem run_cons (s : Scheme) (m : Machine) (request : Request) (rest : List Request) :
    run s m (request :: rest) = (m.answer s request).1 :: run s (m.answer s request).2 rest := rfl

theorem run_ofStanding (s : Scheme) (standing : Option Standing) (requests : List Request) :
    run s (ofStanding s standing) requests = dues s standing requests := by
  induction requests generalizing standing with
  | nil => rfl
  | cons request rest ih =>
    rw [run_cons, answer_ofStanding, dues, ih]

/-! ## What a history comes to -/

def after (s : Scheme) (m : Machine) (requests : List Request) : Machine :=
  requests.foldl (fun m request => (m.answer s request).2) m

theorem run_append (s : Scheme) (m : Machine) (earlier later : List Request) :
    run s m (earlier ++ later) = run s m earlier ++ run s (after s m earlier) later := by
  induction earlier generalizing m with
  | nil => rfl
  | cons request rest ih =>
    rw [List.cons_append, run_cons, ih, run_cons, List.cons_append]
    rfl

theorem length_run (s : Scheme) (m : Machine) (requests : List Request) :
    (run s m requests).length = requests.length := by
  induction requests generalizing m with
  | nil => rfl
  | cons request rest ih => rw [run_cons, List.length_cons, ih, List.length_cons]

def stand (s : Scheme) (history : List Request) : Option Standing :=
  history.foldl (fun standing request => (due s standing request).2) none

theorem stand_concat (s : Scheme) (history : List Request) (request : Request) :
    stand s (history ++ [request]) = (due s (stand s history) request).2 := by
  rw [stand, List.foldl_append]
  rfl

theorem after_unbound (s : Scheme) (history : List Request) :
    after s unbound history = ofStanding s (stand s history) := by
  have h (standing : Option Standing) : after s (ofStanding s standing) history =
      ofStanding s (history.foldl (fun t request => (due s t request).2) standing) := by
    induction history generalizing standing with
    | nil => rfl
    | cons request rest ih =>
      rw [List.foldl_cons, ← ih, after, List.foldl_cons, answer_ofStanding]
      rfl
  exact h none

/-- The last granted binding of a history was asked for as the standing says, and an input came
since exactly when the standing says so. -/
def Stands (s : Scheme) (history : List Request) (t : Standing) : Prop :=
  ∃ earlier since, history = earlier ++ t.request :: since ∧
    s.Grants t.direction t.key t.parameters ∧ (∀ r ∈ since, ¬ r.Granted s) ∧
      t.used = since.any Request.isInput

section
variable {request : Request} {standing : Option Standing}

theorem due_granted {t : Standing} (h : s.Grants t.direction t.key t.parameters) :
    (due s standing t.request).2 = some { t with used := false } := by
  rw [Asked.request, due, if_pos h]

theorem due_ungranted (h : ¬ request.Granted s) : (due s standing request).2 =
    standing.map fun t => { t with used := t.used || request.isInput } := by
  cases request with
  | bind draw direction key p =>
    have hrefused : ¬ s.Grants direction key p := h
    rw [due, if_neg hrefused]
    cases standing <;> simp [Request.isInput]
  | parameters => cases standing <;> simp [due, Request.isInput]
  | transform input => cases standing <;> simp [due, Request.isInput]

theorem foldl_ungranted {since : List Request} (h : ∀ r ∈ since, ¬ r.Granted s) :
    since.foldl (fun standing request => (due s standing request).2) standing =
      standing.map fun t => { t with used := t.used || since.any Request.isInput } := by
  induction since generalizing standing with
  | nil => cases standing <;> simp
  | cons request rest ih =>
    have hrest : ∀ r ∈ rest, ¬ r.Granted s := fun r hr => h r (List.mem_cons_of_mem _ hr)
    rw [List.foldl_cons, due_ungranted (h request List.mem_cons_self), ih hrest]
    cases standing <;> simp [Bool.or_assoc]

end

theorem stand_cases (s : Scheme) (history : List Request) :
    (stand s history = none ∧ ∀ r ∈ history, ¬ r.Granted s) ∨
      ∃ t, stand s history = some t ∧ Stands s history t := by
  induction history using List.reverseRecOn with
  | nil => exact Or.inl ⟨rfl, nofun⟩
  | append_singleton history request ih =>
    rw [stand_concat]
    by_cases hg : request.Granted s
    · cases request with
      | bind draw direction key p =>
        exact Or.inr ⟨_, due_granted (t := ⟨⟨draw, direction, key, p⟩, false⟩) hg,
          history, [], rfl, hg, nofun, rfl⟩
      | parameters => exact hg.elim
      | transform input => exact hg.elim
    · rw [due_ungranted hg]
      obtain ⟨hn, hall⟩ | ⟨t, ht, earlier, since, rfl, hgranted, hsince, hused⟩ := ih
      · refine Or.inl ⟨by rw [hn]; rfl, ?_⟩
        simpa [or_imp, forall_and] using ⟨hall, hg⟩
      · refine Or.inr ⟨{ t with used := t.used || request.isInput }, by rw [ht]; rfl,
          earlier, since ++ [request], ?_, hgranted, ?_, ?_⟩
        · simp [Asked.request]
        · simpa [or_imp, forall_and] using ⟨hsince, hg⟩
        · simp [hused]

theorem stand_of_stands {history : List Request} {t : Standing} (h : Stands s history t) :
    stand s history = some t := by
  obtain ⟨earlier, since, rfl, hgranted, hsince, hused⟩ := h
  rw [stand, List.foldl_append, List.foldl_cons, due_granted hgranted, foldl_ungranted hsince]
  simp [← hused]

theorem stand_of_ungranted {history : List Request} (h : ∀ r ∈ history, ¬ r.Granted s) :
    stand s history = none :=
  foldl_ungranted h

def answerTo (s : Scheme) (history : List Request) (request : Request) : Except Fault Answer :=
  ((after s unbound history).answer s request).1

theorem answerTo_eq (s : Scheme) (history : List Request) (request : Request) :
    answerTo s history request = (due s (stand s history) request).1 := by
  rw [answerTo, after_unbound, answer_ofStanding]

theorem eraseIdx_run {direction : Direction} {key : Key} {p : Parameters}
    (h : ¬ s.Grants direction key p) (draw : Draw) (history later : List Request) :
    (run s unbound (history ++ .bind draw direction key p :: later)).eraseIdx history.length =
      run s unbound (history ++ later) := by
  have hsame : (due s (stand s history) (.bind draw direction key p)).2 = stand s history := by
    rw [due, if_neg h]
  rw [run_append, run_append, run_cons, after_unbound, answer_ofStanding, hsame,
    List.eraseIdx_append_of_length_le (Nat.le_of_eq (length_run _ _ _)), length_run, Nat.sub_self,
    List.eraseIdx_cons_zero]

/-- The cipher of a scheme answers as the simple machine does, in every run. -/
structure AnswersSimply (s : Scheme) : Prop where
  run_eq : ∀ requests, run s unbound requests = dues s none requests
  run_getElem : ∀ history request later,
    (run s unbound (history ++ request :: later))[history.length]? =
      some (answerTo s history request)
  stands : ∀ history, (∀ r ∈ history, ¬ r.Granted s) ∨ ∃ t, Stands s history t
  bind : ∀ history draw direction key p, answerTo s history (.bind draw direction key p) =
    if s.Grants direction key p then .ok .bound else .error .cryptographic
  refused : ∀ history draw direction key p later, ¬ s.Grants direction key p →
    (run s unbound (history ++ .bind draw direction key p :: later)).eraseIdx history.length =
      run s unbound (history ++ later)
  unbound : ∀ history, (∀ r ∈ history, ¬ r.Granted s) →
    answerTo s history .parameters = .ok (.parameters none) ∧
      ∀ input, answerTo s history (.transform input) = .error .cryptographic
  parameters : ∀ history t, Stands s history t →
    answerTo s history .parameters = .ok (.parameters (some (t.reported s)))
  repeatable : ∀ history t input, Stands s history t → (s.mode = .gcm → t.direction = .decrypt) →
    answerTo s history (.transform input) = (t.outcome s input).map .output
  encrypts_once : ∀ history t input, Stands s history t → s.mode = .gcm →
    t.direction = .encrypt → answerTo s history (.transform input) =
      if t.used then .error .cryptographic else (t.outcome s input).map .output

theorem answersSimply (s : Scheme) : AnswersSimply s where
  run_eq requests := run_ofStanding s none requests
  run_getElem history request later := by
    rw [run_append, List.getElem?_append_right (Nat.le_of_eq (length_run _ _ _)), length_run,
      Nat.sub_self, run_cons]
    rfl
  stands history := (stand_cases s history).imp And.right fun ⟨t, _, ht⟩ => ⟨t, ht⟩
  bind history draw direction key p := by
    rw [answerTo_eq, due]
    split <;> rfl
  refused history draw _ _ _ later h := eraseIdx_run h draw history later
  unbound history h := by
    simp only [answerTo_eq, stand_of_ungranted h]
    exact ⟨rfl, fun _ => rfl⟩
  parameters history t h := by
    rw [answerTo_eq, stand_of_stands h]
    rfl
  repeatable history t input h hd := by
    have hs : ¬ t.Spent s := by
      rintro ⟨-, hm, he⟩
      exact absurd ((hd hm).symm.trans he) nofun
    rw [answerTo_eq, stand_of_stands h, due]
    exact if_neg hs
  encrypts_once history t input h hm hd := by
    have hs : t.Spent s ↔ t.used := ⟨And.left, fun hu => ⟨hu, hm, hd⟩⟩
    simp only [answerTo_eq, stand_of_stands h, due, hs]

end PasswordSeal.Machine
