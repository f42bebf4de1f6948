import PasswordSeal.Cipher.Basic

/-!
# A cipher over a run of requests

The cipher of a scheme as one object that is bound, asked for its parameters and fed with inputs in
any order. A refused binding changes nothing; a granted one replaces the binding before it and
forgets that it was used.
-/
namespace PasswordSeal

inductive Machine where
  | unbound
  | bound (b : Scheme.Bound) (used : Bool)

namespace Machine

inductive Request where
  | bind (draw : Draw) (direction : Direction) (key : Key) (p : Parameters)
  | parameters
  | transform (input : Bytes)

inductive Answer where
  | bound
  | parameters (p : Option Parameters)
  | output (bytes : Bytes)

def parameters? : Machine → Option Parameters
  | unbound => none
  | bound b _ => some b.parameters

def answer (s : Scheme) (m : Machine) : Request → Except Fault Answer × Machine
  | .bind draw direction key p =>
    match s.bind draw direction key p with
    | .error fault => (.error fault, m)
    | .ok b => (.ok .bound, bound b false)
  | .parameters => (.ok (.parameters m.parameters?), m)
  | .transform input =>
    match m with
    | unbound => (.error .cryptographic, m)
    | bound b used => ((s.transform b used input).map .output, bound b true)

def run (s : Scheme) : Machine → List Request → List (Except Fault Answer)
  | _, [] => []
  | m, request :: rest =>
    let (found, next) := m.answer s request
    found :: run s next rest

end Machine
end PasswordSeal
