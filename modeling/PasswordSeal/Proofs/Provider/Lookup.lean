import PasswordSeal.Provider.Registry

/-!
# Where an algorithm comes from

Without a pin an algorithm comes from the first provider that knows its name; what the same provider
or another one knows of anything else has no part in it. Providers that are added behind the others
are asked for what those do not know, and for nothing else. With a pin no registry is asked.
-/
namespace PasswordSeal.Registry
variable {α : Type} {r : Registry} {service : Service} {name : String}
variable {offer : Provider → Option α} {x : α} {fault : Fault}

def FirstOffers (r : Registry) (offer : Provider → Option α) (x : α) : Prop :=
  ∃ before p after, r.providers = before ++ p :: after ∧ offer p = some x ∧
    ∀ earlier ∈ before, offer earlier = none

/-- What was found is what the first provider offers that offers something. -/
structure FromFirst (r : Registry) (service : Service) (name : String)
    (offer : Provider → Option α) (found : Except Fault α) : Prop where
  ok : ∀ x, found = .ok x ↔ r.FirstOffers offer x
  error : ∀ fault, found = .error fault ↔
    (∀ p ∈ r.providers, offer p = none) ∧ fault = .unavailable service name

theorem lookup_pinned (r : Registry) (p : Provider) (service : Service) (name : String)
    (offer : Provider → Option α) : r.lookup (some p) service name offer =
      (offer p).elim (.error (.unavailable service name)) .ok := by
  rw [lookup]
  cases offer p <;> rfl

theorem lookup_unpinned (r : Registry) (service : Service) (name : String)
    (offer : Provider → Option α) : r.lookup none service name offer =
      (r.providers.findSome? offer).elim (.error (.unavailable service name)) .ok := by
  rw [lookup]
  cases r.providers.findSome? offer <;> rfl

theorem lookup_eq_ok :
    r.lookup none service name offer = .ok x ↔ r.FirstOffers offer x := by
  rw [lookup_unpinned, FirstOffers, ← List.findSome?_eq_some_iff]
  cases r.providers.findSome? offer <;> simp

theorem lookup_eq_error : r.lookup none service name offer = .error fault ↔
    (∀ p ∈ r.providers, offer p = none) ∧ fault = .unavailable service name := by
  rw [lookup_unpinned, ← List.findSome?_eq_none_iff]
  cases r.providers.findSome? offer <;> simp [eq_comm]

theorem fromFirst_lookup (r : Registry) (service : Service) (name : String)
    (offer : Provider → Option α) :
    r.FromFirst service name offer (r.lookup none service name offer) :=
  ⟨fun _ => lookup_eq_ok, fun _ => lookup_eq_error⟩

theorem provider_eq_ok {p : Provider} : r.provider name = .ok p ↔
    ∃ before after, r.providers = before ++ p :: after ∧ p.name = name ∧
      ∀ earlier ∈ before, earlier.name ≠ name := by
  have hfind : r.provider name = .ok p ↔ r.providers.find? (fun q => q.name == name) = some p := by
    rw [provider]
    cases r.providers.find? _ <;> simp
  rw [hfind, List.find?_eq_some_iff_append]
  simp only [beq_iff_eq, Bool.not_eq_true', beq_eq_false_iff_ne]
  constructor
  · rintro ⟨hname, before, after, hsplit, hbefore⟩
    exact ⟨before, after, hsplit, hname, hbefore⟩
  · rintro ⟨before, after, hsplit, hname, hbefore⟩
    exact ⟨hname, before, after, hsplit, hbefore⟩

theorem provider_eq_error : r.provider name = .error fault ↔
    (∀ p ∈ r.providers, p.name ≠ name) ∧ fault = .unknownProvider name := by
  have hfind : (∀ p ∈ r.providers, p.name ≠ name) ↔
      r.providers.find? (fun q => q.name == name) = none := by
    simp
  rw [hfind, provider]
  cases r.providers.find? _ <;> simp [eq_comm]

def addAll (r : Registry) (further : List Provider) : Registry :=
  further.foldl add r

theorem providers_addAll (r : Registry) (further : List Provider) :
    (r.addAll further).providers = r.providers ++ further := by
  induction further generalizing r with
  | nil => exact (List.append_nil _).symm
  | cons p rest ih =>
    have hstep : (r.addAll (p :: rest)).providers = ((r.add p).addAll rest).providers := rfl
    rw [hstep, ih, add, List.append_assoc]
    rfl

theorem lookup_addAll (h : r.lookup none service name offer = .ok x) (further : List Provider) :
    (r.addAll further).lookup none service name offer = .ok x := by
  obtain ⟨before, p, after, hsplit, hoffer, hbefore⟩ := lookup_eq_ok.1 h
  refine lookup_eq_ok.2 ⟨before, p, after ++ further, ?_, hoffer, hbefore⟩
  rw [providers_addAll, hsplit, List.append_assoc, List.cons_append]

end PasswordSeal.Registry
