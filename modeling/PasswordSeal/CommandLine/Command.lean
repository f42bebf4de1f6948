import PasswordSeal.CommandLine.Arguments
import PasswordSeal.Fault

/-!
# Commands

What can be asked of the program, read from its arguments. Exactly one form of the salt must be
given, and at most one of what decryption can start from.
-/
namespace PasswordSeal.CommandLine

inductive SaltOption where
  | text (salt : String)
  | hex (digits : String)
  deriving Repr, DecidableEq

structure KeyOptions where
  salt : SaltOption
  iterations : UInt32
  keyAlgorithm : Option String
  transformation : Option String
  alphabet : Alphabet
  password : Option String
  deriving Repr, DecidableEq

inductive Origin where
  | parameters (digits : String)
  | iv (text : String)
  deriving Repr, DecidableEq

inductive Command where
  | encrypt (key : KeyOptions) (secret : Option String) (json : Bool)
  | decrypt (key : KeyOptions) (text : String) (origin : Option Origin)
  | algorithms
  | salt (length : Nat)
  deriving Repr, DecidableEq

def decimal? (digits : List Char) : Option Nat :=
  if digits.isEmpty || !digits.all Char.isDigit then none
  else some (digits.foldl (fun n c => n * 10 + (c.toNat - '0'.toNat)) 0)

/-- A count of 32 bits, with a sign if one likes; only zero may be negative. -/
def count32? (text : String) : Option UInt32 :=
  let found :=
    match text.toList with
    | '+' :: digits => decimal? digits
    | '-' :: digits => (decimal? digits).filter (· == 0)
    | digits => decimal? digits
  (found.filter (· < UInt32.size)).map UInt32.ofNat

def length64? (text : String) : Option Nat :=
  let found :=
    match text.toList with
    | '+' :: digits => decimal? digits
    | digits => decimal? digits
  found.filter (· < UInt64.size)

def anything : String → Bool := fun _ => true

def keyOptions : List (String × (String → Bool)) :=
  [("salt", anything), ("salt-hex", anything), ("iteration", fun s => (count32? s).isSome),
    ("key-algorithm", anything), ("transformation", anything),
    ("alphabet", fun s => (Alphabet.ofName? s).isSome), ("password", anything)]

def programGrammar : Grammar := ⟨[], [], 0, true⟩

def encryptGrammar : Grammar := ⟨keyOptions ++ [("secret", anything)], ["json"], 0, false⟩

def decryptGrammar : Grammar :=
  ⟨keyOptions ++ [("params", anything), ("iv", anything)], [], 1, false⟩

def algorithmsGrammar : Grammar := ⟨[], [], 0, false⟩

def saltGrammar : Grammar := ⟨[("length", fun s => (length64? s).isSome)], [], 0, false⟩

def saltOption (a : Arguments) : Except Stop SaltOption :=
  match a.value? "salt", a.value? "salt-hex" with
  | some text, none => .ok (.text text)
  | none, some digits => .ok (.hex digits)
  | _, _ => .error .usage

def keyOf (a : Arguments) : Except Stop KeyOptions := do
  let salt ← saltOption a
  match (a.value? "iteration").bind count32? with
  | none => .error .usage
  | some iterations =>
    return {
      salt
      iterations
      keyAlgorithm := a.value? "key-algorithm"
      transformation := a.value? "transformation"
      alphabet := ((a.value? "alphabet").bind Alphabet.ofName?).getD .base64
      password := a.value? "password" }

def originOf (a : Arguments) : Except Stop (Option Origin) :=
  match a.value? "params", a.value? "iv" with
  | some _, some _ => .error .usage
  | some digits, none => .ok (some (.parameters digits))
  | none, some text => .ok (some (.iv text))
  | none, none => .ok none

def onlyWord (a : Arguments) : Except Stop String :=
  match a.words with
  | [word] => .ok word
  | _ => .error .usage

def commandNames : List String := ["encrypt", "decrypt", "algorithms", "salt", "help"]

def readNamed (name : String) (rest : List String) : Except Stop Command :=
  match name with
  | "encrypt" => do
    let a ← encryptGrammar.read rest
    return .encrypt (← keyOf a) (a.value? "secret") (a.has "json")
  | "decrypt" => do
    let a ← decryptGrammar.read rest
    return .decrypt (← keyOf a) (← onlyWord a) (← originOf a)
  | "algorithms" => do
    let _ ← algorithmsGrammar.read rest
    return .algorithms
  | "salt" => do
    let a ← saltGrammar.read rest
    return .salt (((a.value? "length").bind length64?).getD 16)
  | "help" =>
    .error (if rest.length ≤ 1 && rest.all commandNames.contains then .help else .usage)
  | _ => .error .usage

def readCommand : List String → Except Stop Command
  | [] => .error .usage
  | argument :: rest =>
    if looksLikeOption argument then
      match programGrammar.read [argument] with
      | .error stop => .error stop
      | .ok _ => .error .usage
    else readNamed argument rest

end PasswordSeal.CommandLine
