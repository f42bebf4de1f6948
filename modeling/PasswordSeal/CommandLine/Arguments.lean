/-!
# Arguments of a command

An argument that begins with a hyphen is an option, unless it is a single hyphen or stands behind a
double hyphen; all other arguments are words. An option has a long name and may take a value, either
behind an equals sign or as the next argument, which may then not look like an option. No option
may be given twice. Asking for help ends the reading of arguments at once.
-/
namespace PasswordSeal.CommandLine

inductive Stop where
  | usage
  | help
  | version
  deriving Repr, DecidableEq

/-- The options and the number of words that a command takes. `valued` lists the options with a
value, each with the values that it accepts; `version` says whether the version may be asked for. -/
structure Grammar where
  valued : List (String × (String → Bool))
  flags : List String
  words : Nat
  version : Bool

structure Arguments where
  values : List (String × String)
  flags : List String
  words : List String

namespace Arguments

def none : Arguments := ⟨[], [], []⟩

def value? (a : Arguments) (name : String) : Option String :=
  a.values.lookup name

def has (a : Arguments) (name : String) : Bool :=
  a.flags.contains name || (a.value? name).isSome

end Arguments

def looksLikeOption (argument : String) : Bool :=
  match argument.toList with
  | ['-'] => false
  | '-' :: _ => true
  | _ => false

def splitOption (name : List Char) : String × Option String :=
  let before := name.takeWhile (· != '=')
  match name.dropWhile (· != '=') with
  | [] => (String.ofList before, Option.none)
  | _ :: value => (String.ofList before, some (String.ofList value))

namespace Grammar

def takeValue (g : Grammar) (a : Arguments) (name value : String) : Except Stop Arguments :=
  match g.valued.lookup name with
  | Option.none => .error .usage
  | some accepts =>
    if a.has name || !accepts value then .error .usage
    else .ok { a with values := a.values ++ [(name, value)] }

def takeFlag (g : Grammar) (a : Arguments) (name : String) : Except Stop Arguments :=
  if name = "help" then .error .help
  else if name = "version" ∧ g.version then .error .version
  else if g.flags.contains name && !a.has name then .ok { a with flags := a.flags ++ [name] }
  else .error .usage

def takeWord (g : Grammar) (a : Arguments) (word : String) : Except Stop Arguments :=
  if a.words.length < g.words then .ok { a with words := a.words ++ [word] } else .error .usage

/-- Take in short options; the first letter decides, as none of them lets reading go on. -/
def takeShort (g : Grammar) (letters : List Char) : Except Stop Arguments :=
  match letters with
  | 'h' :: _ => .error .help
  | 'V' :: _ => .error (if g.version then .version else .usage)
  | _ => .error .usage

def readOnto (g : Grammar) (a : Arguments) : List String → Except Stop Arguments
  | [] => .ok a
  | argument :: rest =>
    match looksLikeOption argument, argument.toList with
    | true, ['-', '-'] => rest.foldlM g.takeWord a
    | true, '-' :: '-' :: long =>
      match splitOption long with
      | (name, some value) => do g.readOnto (← g.takeValue a name value) rest
      | (name, Option.none) =>
        if (g.valued.lookup name).isSome then
          match rest with
          | [] => .error .usage
          | value :: rest =>
            if looksLikeOption value then .error .usage
            else do g.readOnto (← g.takeValue a name value) rest
        else do g.readOnto (← g.takeFlag a name) rest
    | true, _ :: letters => g.takeShort letters
    | _, _ => do g.readOnto (← g.takeWord a argument) rest

def read (g : Grammar) (arguments : List String) : Except Stop Arguments :=
  g.readOnto .none arguments

end Grammar
end PasswordSeal.CommandLine
