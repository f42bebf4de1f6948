import PasswordSeal.Provider.Basic

/-!
# Registries

A registry is an ordered list of providers. An algorithm comes from the first provider that knows
its name, unless a lookup is pinned to one provider; then no other is asked.
-/
namespace PasswordSeal

structure Registry where
  providers : List Provider

namespace Registry

def standard : Registry := ⟨[Provider.builtIn]⟩

def add (r : Registry) (p : Provider) : Registry :=
  ⟨r.providers ++ [p]⟩

def provider (r : Registry) (name : String) : Except Fault Provider :=
  match r.providers.find? fun p => p.name == name with
  | some p => .ok p
  | none => .error (.unknownProvider name)

def lookup {α : Type} (r : Registry) (pin : Option Provider) (service : Service) (name : String)
    (offer : Provider → Option α) : Except Fault α :=
  let found :=
    match pin with
    | some p => offer p
    | none => r.providers.findSome? offer
  match found with
  | some x => .ok x
  | none => .error (.unavailable service name)

def keyDerivation (r : Registry) (pin : Option Provider) (name : String) :
    Except Fault KeyDerivation :=
  r.lookup pin .keyDerivation name fun p => p.keyDerivation? name

def cipher (r : Registry) (pin : Option Provider) (name : String) : Except Fault Cipher :=
  r.lookup pin .cipher name fun p => p.cipher? name

def generator (r : Registry) (pin : Option Provider) (name : String) :
    Except Fault ParameterGenerator :=
  r.lookup pin .parameters name fun p => p.generator? name

def describe (r : Registry) : String :=
  Description.list (r.providers.map fun p => Text.quote p.name)

end Registry
end PasswordSeal
