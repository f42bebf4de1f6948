import PasswordSeal.Engine.Basic
import PasswordSeal.Proofs.Except

/-!
# Engines in use

Calls on an engine, in any order and of any kind. A call changes what the engine remembers and
nothing else, and an encrypting engine remembers something exactly when it was asked to encrypt.
-/
namespace PasswordSeal.Engine
variable {e : Engine}

inductive Call where
  | encrypt (secret : String)
  | encryptChars (secret : List Char)
  | decrypt (text : String)

def Call.Encrypts : Call → Prop
  | encrypt _ => True
  | encryptChars _ => True
  | decrypt _ => False

def call (e : Engine) : Call → Except Fault String × Engine
  | .encrypt secret => e.encrypt secret
  | .encryptChars secret => e.encryptChars secret
  | .decrypt text => e.decrypt text

def after (e : Engine) (calls : List Call) : Engine :=
  calls.foldl (fun e c => (e.call c).2) e

def input? (e : Engine) : Call → Option Bytes
  | .encrypt secret =>
    if e.direction = .encrypt then some (Utf8.encode (NormalForm.normalize secret)) else none
  | .encryptChars secret =>
    if e.direction = .encrypt then
      some (Utf8.encode (NormalForm.normalize (String.ofList secret)))
    else none
  | .decrypt text => if e.direction = .decrypt then (e.alphabet.read text).toOption else none

theorem encrypt_fst (h : e.direction = .encrypt) (secret : String) : (e.encrypt secret).1 =
    (e.binding.transform e.earlier (Utf8.encode (NormalForm.normalize secret))).map
      e.alphabet.encode := by
  rw [encrypt, ensure, if_pos h]
  rfl

theorem decrypt_fst (h : e.direction = .decrypt) (text : String) :
    (e.decrypt text).1 = e.alphabet.read text >>= e.binding.transform e.earlier >>= secretOf := by
  rw [decrypt, ensure, if_pos h]
  cases hr : e.alphabet.read text with
  | ok input => rfl
  | error fault => rfl

theorem encrypt_against (h : e.direction ≠ .encrypt) (secret : String) :
    e.encrypt secret = (.error (.wrongDirection .encrypt e.direction), e) := by
  rw [encrypt, ensure, if_neg h]

theorem decrypt_against (h : e.direction ≠ .decrypt) (text : String) :
    e.decrypt text = (.error (.wrongDirection .decrypt e.direction), e) := by
  rw [decrypt, ensure, if_neg h]

theorem encrypt_snd (e : Engine) (secret : String) : (e.encrypt secret).2 =
    { e with earlier := e.earlier ++ (e.input? (.encrypt secret)).toList } := by
  rw [encrypt, ensure, input?]
  by_cases h : e.direction = .encrypt
  · rw [if_pos h, if_pos h]
    rfl
  · rw [if_neg h, if_neg h]
    simp

theorem decrypt_snd (e : Engine) (text : String) : (e.decrypt text).2 =
    { e with earlier := e.earlier ++ (e.input? (.decrypt text)).toList } := by
  rw [decrypt, ensure, input?]
  by_cases h : e.direction = .decrypt
  · rw [if_pos h, if_pos h]
    cases hr : e.alphabet.read text with
    | ok input => rfl
    | error fault => simp [Except.toOption]
  · rw [if_neg h, if_neg h]
    simp

theorem call_snd (e : Engine) (c : Call) :
    (e.call c).2 = { e with earlier := e.earlier ++ (e.input? c).toList } := by
  cases c with
  | encrypt secret => exact encrypt_snd e secret
  | encryptChars secret => exact encrypt_snd e (String.ofList secret)
  | decrypt text => exact decrypt_snd e text

theorem after_eq (e : Engine) (calls : List Call) :
    e.after calls = { e with earlier := e.earlier ++ calls.filterMap e.input? } := by
  induction calls generalizing e with
  | nil => simp [after]
  | cons c calls ih =>
    have hi : (e.call c).2.input? = e.input? := by
      rw [call_snd]
      funext c
      cases c <;> rfl
    have hstep : e.after (c :: calls) = (e.call c).2.after calls := rfl
    rw [hstep, ih, hi, call_snd, List.filterMap_cons]
    cases e.input? c <;> simp

@[simp] theorem direction_after (e : Engine) (calls : List Call) :
    (e.after calls).direction = e.direction := by
  rw [after_eq]

@[simp] theorem alphabet_after (e : Engine) (calls : List Call) :
    (e.after calls).alphabet = e.alphabet := by
  rw [after_eq]

@[simp] theorem binding_after (e : Engine) (calls : List Call) :
    (e.after calls).binding = e.binding := by
  rw [after_eq]

theorem earlier_after_eq_nil (h : e.direction = .encrypt) (he : e.earlier = [])
    (calls : List Call) : (e.after calls).earlier = [] ↔ ∀ c ∈ calls, ¬ c.Encrypts := by
  rw [after_eq, he, List.nil_append, List.filterMap_eq_nil_iff]
  have hc : ∀ c : Call, e.input? c = none ↔ ¬ c.Encrypts := by
    intro c
    cases c <;> simp [input?, Call.Encrypts, h]
  simp only [hc]

end PasswordSeal.Engine
