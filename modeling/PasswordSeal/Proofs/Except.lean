/-!
# Chains of steps that may fail

A chain ends well when each of its steps does, and fails with the first step that fails. How a chain
fails is therefore how its first step fails or, where that one does not fail, how the rest does.
-/
namespace PasswordSeal

variable {ε ε' α β : Type}

@[simp] theorem ok_bind (x : α) (f : α → Except ε β) : (Except.ok x >>= f) = f x := rfl

@[simp] theorem error_bind (e : ε) (f : α → Except ε β) :
    (Except.error e >>= f) = Except.error e := rfl

theorem bind_eq_ok {x : Except ε α} {f : α → Except ε β} {r : β} :
    x >>= f = .ok r ↔ ∃ a, x = .ok a ∧ f a = .ok r := by
  constructor
  · intro h
    cases x with
    | error e => cases h
    | ok a => exact ⟨a, rfl, h⟩
  · rintro ⟨a, rfl, h⟩
    exact h

theorem bind_eq_error {x : Except ε α} {f : α → Except ε β} {e : ε} :
    x >>= f = .error e ↔ x = .error e ∨ ∃ a, x = .ok a ∧ f a = .error e := by
  cases x <;> simp

theorem map_eq_ok {x : Except ε α} {f : α → β} {r : β} :
    x.map f = .ok r ↔ ∃ a, x = .ok a ∧ f a = r := by
  cases x <;> simp [Except.map]

@[simp] theorem elim_eq_ok {x : Option α} {e : ε} {a : α} :
    x.elim (Except.error e) Except.ok = .ok a ↔ x = some a := by
  cases x <;> simp

theorem mapError_eq_ok {x : Except ε α} {f : ε → ε'} {r : α} :
    x.mapError f = .ok r ↔ x = .ok r := by
  constructor
  · intro h
    cases x with
    | error e => cases h
    | ok a => exact congrArg Except.ok (Except.ok.inj h)
  · rintro rfl
    rfl

theorem mapError_eq_error {x : Except ε α} {f : ε → ε'} {e' : ε'} :
    x.mapError f = .error e' ↔ ∃ e, x = .error e ∧ f e = e' := by
  constructor
  · intro h
    cases x with
    | error e => exact ⟨e, rfl, Except.error.inj h⟩
    | ok a => cases h
  · rintro ⟨e, rfl, rfl⟩
    rfl

def failure? : Except ε α → Option ε
  | .ok _ => none
  | .error e => some e

theorem failure?_eq_some {x : Except ε α} {e : ε} : failure? x = some e ↔ x = .error e := by
  cases x <;> simp [failure?]

theorem failure?_eq_none {x : Except ε α} : failure? x = none ↔ ∃ a, x = .ok a := by
  cases x <;> simp [failure?]

theorem failure?_mapError (x : Except ε α) (f : ε → ε') :
    failure? (x.mapError f) = (failure? x).map f := by
  cases x <;> rfl

theorem failure?_map (x : Except ε α) (f : α → β) : failure? (x.map f) = failure? x := by
  cases x <;> rfl

theorem failure?_bind {x : Except ε α} {f : α → Except ε β} {first rest : Option ε}
    (hx : failure? x = first) (h : ∀ a, x = .ok a → failure? (f a) = rest) :
    failure? (x >>= f) = first.or rest := by
  cases x with
  | error e =>
    obtain rfl := hx
    rfl
  | ok a =>
    obtain rfl := hx
    exact h a rfl

section
variable {σ : Type} {x : Except ε α} {f : α → Except ε β} {g : σ → Option ε} {rest : List σ}

/-- A chain fails as the first of its stages does that fails. -/
theorem failure?_bind_append {first : List σ} (hx : failure? x = first.findSome? g)
    (h : ∀ a, x = .ok a → failure? (f a) = rest.findSome? g) :
    failure? (x >>= f) = (first ++ rest).findSome? g := by
  rw [List.findSome?_append]
  exact failure?_bind hx h

theorem failure?_bind_cons {stage : σ} (hx : failure? x = g stage)
    (h : ∀ a, x = .ok a → failure? (f a) = rest.findSome? g) :
    failure? (x >>= f) = (stage :: rest).findSome? g := by
  have hx' : failure? x = [stage].findSome? g := by
    rw [hx, List.findSome?_singleton]
  exact failure?_bind_append hx' h

end

theorem failure?_bind_pure (x : Except ε α) (f : α → β) :
    failure? (x >>= fun a => pure (f a)) = failure? x := by
  cases x <;> rfl

def refuseIf (p : Prop) [Decidable p] (e : ε) : Option ε :=
  if p then some e else none

section
variable {p q : Prop} [Decidable p] [Decidable q] {e : ε}

theorem refuseIf_congr (h : p ↔ q) : refuseIf p e = refuseIf q e := by
  by_cases hq : q <;> simp [refuseIf, h, hq]

theorem refuseIf_neg (h : ¬ p) : refuseIf p e = none :=
  if_neg h

theorem refuseIf_eq_none : refuseIf p e = none ↔ ¬ p := by
  by_cases hp : p <;> simp [refuseIf, hp]

theorem refuseIf_eq_some {e' : ε} : refuseIf p e = some e' ↔ p ∧ e = e' := by
  by_cases hp : p <;> simp [refuseIf, hp]

theorem refuseIf_or_refuseIf : (refuseIf p e).or (refuseIf q e) = refuseIf (p ∨ q) e := by
  by_cases hp : p <;> simp [refuseIf, hp]

theorem failure?_ite {x : Except ε α} :
    failure? (if p then .error e else x) = (refuseIf p e).or (failure? x) := by
  by_cases hp : p <;> simp [refuseIf, failure?, hp]

end
end PasswordSeal
