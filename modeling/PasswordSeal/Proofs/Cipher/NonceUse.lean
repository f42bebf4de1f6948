import PasswordSeal.Cipher.Machine
import PasswordSeal.Proofs.Cipher.Bind

/-!
# The nonces of a run

Every encryption of a run happens under an AES key and an initialization vector. Under `gcm` a
granted binding encrypts its first input at most, if that comes before the next one is granted and
is not too long. So the nonces that a run uses can be read off its requests: they are those of the
bindings that are fed.

Vectors that are drawn keep them apart. A vector that is given does not: a binding forgets what the
bindings before it were used for, and giving the same key, salt, iterations and vector twice uses
one nonce twice.
-/
namespace PasswordSeal
namespace Scheme.Bound

def nonce (b : Bound) : Bytes × Bytes := (b.key, b.iv)

def Encrypts (b : Bound) : Prop :=
  b.direction = .encrypt ∧ (Aes.keyed? b.key).isSome

instance (b : Bound) : Decidable b.Encrypts :=
  inferInstanceAs (Decidable (_ ∧ _))

end Scheme.Bound

namespace Machine
open Scheme (Bound)
variable {s : Scheme} {b : Bound}

def encryption? (s : Scheme) (m : Machine) (request : Request) : Option (Bytes × Bytes) :=
  match m, request, (m.answer s request).1 with
  | bound b _, .transform _, .ok _ => if b.direction = .encrypt then some b.nonce else none
  | _, _, _ => none

def encryptions (s : Scheme) : Machine → List Request → List (Bytes × Bytes)
  | _, [] => []
  | m, request :: rest =>
    (m.encryption? s request).toList ++ encryptions s (m.answer s request).2 rest

/-- Whether an input comes before the next granted binding, and the first one is taken. -/
def fed (s : Scheme) : List Request → Bool
  | [] => false
  | .transform input :: _ => s.mode.Takes input.length
  | .parameters :: rest => fed s rest
  | .bind draw direction key p :: rest =>
    match s.bind draw direction key p with
    | .ok _ => false
    | .error _ => fed s rest

structure Grant where
  given : Option Bytes
  bound : Bound
  fed : Bool

def grants (s : Scheme) : List Request → List Grant
  | [] => []
  | .transform _ :: rest => grants s rest
  | .parameters :: rest => grants s rest
  | .bind draw direction key p :: rest =>
    match s.bind draw direction key p with
    | .ok b => ⟨p.iv, b, fed s rest⟩ :: grants s rest
    | .error _ => grants s rest

def Grant.Spent (g : Grant) : Prop :=
  g.fed ∧ g.bound.Encrypts

instance (g : Grant) : Decidable g.Spent :=
  inferInstanceAs (Decidable (_ ∧ _))

def spent (s : Scheme) (requests : List Request) : List Grant :=
  (grants s requests).filter (·.Spent)

def drawnIvs (s : Scheme) (requests : List Request) : List Bytes :=
  ((grants s requests).filter (·.given = none)).map (·.bound.iv)

/-- What a machine will still encrypt under its present binding. -/
def pending (s : Scheme) (requests : List Request) : Machine → List (Bytes × Bytes)
  | bound b false => if fed s requests ∧ b.Encrypts then [b.nonce] else []
  | _ => []

theorem encryption?_of_decrypt (hd : b.direction ≠ .encrypt) (used : Bool) (input : Bytes) :
    (bound b used).encryption? s (.transform input) = none := by
  cases hr : s.transform b used input <;> simp [encryption?, answer, hr, Except.map, hd]

theorem encryption?_of_fresh (input : Bytes) : (bound b false).encryption? s (.transform input) =
    if s.mode.Takes input.length ∧ b.Encrypts then some b.nonce else none := by
  by_cases hd : b.direction = .encrypt
  · cases hk : Aes.keyed? b.key with
    | none =>
      have hr : s.transform b false input = .error .cryptographic := by
        simp [Scheme.transform, hk]
      simp [encryption?, answer, hr, Except.map, Bound.Encrypts, hk]
    | some cipher =>
      have hr := Scheme.transform_encrypt (s := s) hk hd false input
      obtain ⟨ht, output, houtput, -⟩ | ⟨ht, hnone⟩ := s.mode.encrypt?_cases cipher b.iv input
      · simp [encryption?, answer, hr, houtput, Except.map, Bound.Encrypts, hk, hd, ht]
      · simp [encryption?, answer, hr, hnone, Except.map, ht]
  · rw [if_neg (fun h => hd h.2.1)]
    exact encryption?_of_decrypt hd false input

theorem encryption?_of_used (hm : s.mode = .gcm) (input : Bytes) :
    (bound b true).encryption? s (.transform input) = none := by
  by_cases hd : b.direction = .encrypt
  · have hr : s.transform b true input = .error .cryptographic := by
      rw [Scheme.transform, if_pos ⟨rfl, hm, hd⟩]
    simp [encryption?, answer, hr, Except.map]
  · exact encryption?_of_decrypt hd true input

section
variable {draw : Draw} {direction : Direction} {key : Key} {p : Parameters}
variable (hb : s.bind draw direction key p = .ok b) (rest : List Request)
include hb

theorem fed_of_granted : fed s (.bind draw direction key p :: rest) = false := by
  rw [fed, hb]

theorem grants_of_granted :
    grants s (.bind draw direction key p :: rest) = ⟨p.iv, b, fed s rest⟩ :: grants s rest := by
  rw [grants, hb]

theorem pending_of_granted (m : Machine) :
    pending s (.bind draw direction key p :: rest) m = [] := by
  cases m with
  | unbound => rfl
  | bound b used => cases used <;> simp [pending, fed_of_granted hb]

theorem spent_of_granted : (spent s (.bind draw direction key p :: rest)).map (·.bound.nonce) =
    pending s rest (bound b false) ++ (spent s rest).map (·.bound.nonce) := by
  rw [spent, grants_of_granted hb, pending]
  by_cases h : fed s rest ∧ b.Encrypts
  · simp [spent, Grant.Spent, h]
  · simp [spent, Grant.Spent, h]

end

theorem encryptions_eq (hm : s.mode = .gcm) (m : Machine) (requests : List Request) :
    encryptions s m requests = pending s requests m ++ (spent s requests).map (·.bound.nonce) := by
  induction requests generalizing m with
  | nil => cases m with
    | unbound => rfl
    | bound b used => cases used <;> rfl
  | cons request rest ih =>
    rw [encryptions, ih]
    cases request with
    | bind draw direction key p =>
      cases hb : s.bind draw direction key p with
      | ok b =>
        rw [pending_of_granted hb, spent_of_granted hb]
        simp [encryption?, answer, hb]
      | error fault =>
        have hn : (m.answer s (.bind draw direction key p)).2 = m := by rw [answer, hb]
        have hp : pending s (.bind draw direction key p :: rest) m = pending s rest m := by
          cases m with
          | unbound => rfl
          | bound b used => cases used <;> simp [pending, fed, hb]
        rw [hn, hp]
        simp [encryption?, spent, grants, hb]
    | parameters => cases m with
      | unbound => rfl
      | bound b used => cases used <;> rfl
    | transform input =>
      -- A fresh binding gives away what is pending; a used one has nothing left to give.
      cases m with
      | unbound => rfl
      | bound b used =>
        cases used with
        | true =>
          rw [encryption?_of_used hm]
          rfl
        | false =>
          rw [encryption?_of_fresh]
          by_cases he : s.mode.Takes input.length ∧ b.Encrypts
          · simp [answer, pending, fed, spent, grants, he]
          · simp [answer, pending, fed, spent, grants, he]

theorem nodup_drawnIvs_iff (requests : List Request) : (drawnIvs s requests).Nodup ↔
    (grants s requests).Pairwise fun g h =>
      g.given = none → h.given = none → g.bound.iv ≠ h.bound.iv := by
  simp only [drawnIvs, List.Nodup, List.pairwise_map, List.pairwise_filter, decide_eq_true_eq]

/-- While vectors that are drawn do not repeat, a run uses some nonce twice exactly when two of the
bindings that encrypt have the same nonce and one of them was given its vector. -/
theorem nodup_encryptions_iff (hm : s.mode = .gcm) (requests : List Request)
    (hd : (drawnIvs s requests).Nodup) :
    (encryptions s unbound requests).Nodup ↔ (spent s requests).Pairwise fun g h =>
      g.given ≠ none ∨ h.given ≠ none → g.bound.nonce ≠ h.bound.nonce := by
  have hall : encryptions s unbound requests = (spent s requests).map (·.bound.nonce) :=
    encryptions_eq hm unbound requests
  have hdrawn := ((nodup_drawnIvs_iff requests).1 hd).filter (·.Spent)
  rw [hall, List.Nodup, List.pairwise_map]
  constructor
  · intro hn
    refine hn.imp ?_
    intro g h hne _
    exact hne
  · intro hg
    refine (hdrawn.and hg).imp ?_
    rintro g h ⟨hfresh, hgiven⟩ hsame
    -- Two vectors that were both drawn differ; every other pair is in the condition.
    by_cases hnone : g.given = none ∧ h.given = none
    · exact hfresh hnone.1 hnone.2 (congrArg Prod.snd hsame)
    · exact hgiven (Decidable.not_and_iff_or_not.1 hnone) hsame

namespace Sample

def scheme : Scheme := ⟨.sha256, 16, .gcm⟩

def key : Key := ⟨scheme.name, [1]⟩

def parameters (iv : Option Bytes) : Parameters := ⟨⟨[1, 2, 3, 4, 5, 6, 7, 8], 1, iv⟩, scheme.name⟩

def iv : Bytes := List.replicate 12 0

def twice (first second : Option Bytes) : List Request :=
  [.bind (.ofBytes []) .encrypt key (parameters first), .transform (List.replicate 20 1),
    .bind (.ofBytes []) .encrypt key (parameters second), .transform (List.replicate 20 2)]

def fixed : Bound :=
  ⟨.encrypt, scheme.aesKey key.material (parameters none), iv, parameters (some iv)⟩

theorem bind_eq {given : Option Bytes} (h : given = none ∨ given = some iv) :
    scheme.bind (.ofBytes []) .encrypt key (parameters given) = .ok fixed := by
  rcases h with rfl | rfl
  · exact Scheme.bind_eq_ok.2 ⟨by decide, by decide, by decide, iv, rfl, rfl⟩
  · exact Scheme.bind_eq_ok.2 ⟨by decide, by decide, by decide, iv, rfl, rfl⟩

theorem fixed_encrypts : fixed.Encrypts :=
  ⟨rfl, (Aes.keyed?_isSome _).2 (Or.inl (Scheme.length_aesKey _ _ _))⟩

theorem grants_twice {first second : Option Bytes} (h : first = none ∨ first = some iv)
    (h' : second = none ∨ second = some iv) :
    grants scheme (twice first second) = [⟨first, fixed, true⟩, ⟨second, fixed, true⟩] := by
  rw [twice, grants_of_granted (bind_eq h), grants, grants_of_granted (bind_eq h')]
  rfl

end Sample

theorem nodup_encryptions_iff_drawn_given :
    Sample.scheme.mode = .gcm ∧
      (drawnIvs Sample.scheme (Sample.twice none (some Sample.iv))).Nodup ∧
      ((encryptions Sample.scheme unbound (Sample.twice none (some Sample.iv))).Nodup ↔
        (spent Sample.scheme (Sample.twice none (some Sample.iv))).Pairwise fun g h =>
          g.given ≠ none ∨ h.given ≠ none → g.bound.nonce ≠ h.bound.nonce) := by
  have hd : (drawnIvs Sample.scheme (Sample.twice none (some Sample.iv))).Nodup := by
    rw [drawnIvs, Sample.grants_twice (Or.inl rfl) (Or.inr rfl)]
    exact List.pairwise_singleton _ _
  exact ⟨rfl, hd, nodup_encryptions_iff rfl _ hd⟩

/-- A vector that is given twice, with all else the same, is used twice under one key. -/
theorem not_forall_nodup_encryptions : ¬ ∀ (s : Scheme) (requests : List Request),
    s.mode = .gcm → (drawnIvs s requests).Nodup → (encryptions s unbound requests).Nodup := by
  intro h
  have hd : (drawnIvs Sample.scheme (Sample.twice (some Sample.iv) (some Sample.iv))).Nodup := by
    rw [drawnIvs, Sample.grants_twice (Or.inr rfl) (Or.inr rfl)]
    exact List.nodup_nil
  have hn := h Sample.scheme (Sample.twice (some Sample.iv) (some Sample.iv)) rfl hd
  rw [encryptions_eq rfl, spent, Sample.grants_twice (Or.inr rfl) (Or.inr rfl)] at hn
  simp [pending, Grant.Spent, Sample.fixed_encrypts] at hn

end Machine
end PasswordSeal
