import PasswordSeal.CommandLine.Command
import PasswordSeal.Engine.Draft
import PasswordSeal.Text.Basic

/-!
# Running a command

A command sees the bytes of standard input, a random draw and what was answered at a terminal, if
there is one to ask. Its outcome is what it writes and the number that it exits with. Nothing is
written to standard output unless the command succeeds.
-/
namespace PasswordSeal.CommandLine

structure Outcome where
  exit : UInt8
  output : String
  errors : String
  deriving Repr, DecidableEq

def outcome (shown : String) : Except String String → Outcome
  | .ok output => ⟨0, output, shown⟩
  | .error cause => ⟨1, "", shown ++ "Error: " ++ cause ++ "\n"⟩

def during {α : Type} (doing : String) : Except String α → Except String α :=
  Except.mapError fun cause => doing ++ ": " ++ cause

def worded {α : Type} : Except Fault α → Except String α :=
  Except.mapError Fault.message

def readHex (text : String) : Except String Bytes :=
  (Hex.decode text).mapError Hex.Flaw.message

def readInput (bytes : Bytes) : Except String String :=
  (Utf8.decode bytes).mapError fun _ => "stream did not contain valid UTF-8"

def firstLine (input : Bytes) : Bytes :=
  input.takeWhile (· != 10) ++ (input.dropWhile (· != 10)).take 1

def SaltOption.bytes : SaltOption → Except String Bytes
  | text salt => .ok (Utf8.encode salt)
  | hex digits => during "invalid hex salt" (readHex digits)

/-- What is written to standard error when the password has to be asked for without a terminal. -/
def KeyOptions.prompt (key : KeyOptions) (terminal : Option String) : String :=
  if key.password.isNone && terminal.isNone then "Password: " else ""

/-- The password: the one given, or else the answer at the terminal as it is, or else the first line
of standard input. -/
def KeyOptions.readPassword (key : KeyOptions) (terminal : Option String) (input : Bytes) :
    Except String String :=
  match key.password, terminal with
  | some password, _ => .ok password
  | none, some answer => .ok answer
  | none, none => (readInput (firstLine input)).map Text.trimBlank

def KeyOptions.draft (key : KeyOptions) (salt : Bytes) (password : String)
    (direction : Direction) : Draft where
  settings := {
    keyAlgorithm := key.keyAlgorithm
    transformation := key.transformation
    parametersAlgorithm := key.transformation
    iterations := some key.iterations
    salt := some salt
    password := some password
    direction := some direction
    alphabet := key.alphabet }

structure Sealed where
  text : String
  iv : Option String
  algorithm : String
  parameters : String

def Sealed.lines (s : Sealed) : String :=
  "Ciphertext: " ++ s.text ++ "\nIV:         " ++ s.iv.getD "(none)" ++
    "\nAlgorithm:  " ++ s.algorithm ++ "\nParams:     " ++ s.parameters ++ "\n"

/-- What encryption found as a JSON object. Neither an alphabet nor the name of a scheme has
characters that JSON would escape. -/
def Sealed.json (s : Sealed) : String :=
  let quoted (text : String) : String := "\"" ++ text ++ "\""
  "\x7b\n  \"ciphertext\": " ++ quoted s.text ++ ",\n  \"iv\": " ++
    (s.iv.map quoted).getD "null" ++ ",\n  \"algorithm\": " ++ quoted s.algorithm ++
    ",\n  \"params\": " ++ quoted s.parameters ++ "\n\x7d\n"

def sealWith (draft : Draft) (secret : String) (draw : Draw) : Except Fault Sealed := do
  let engine ← draft.build draw
  let text ← (engine.encrypt secret).1
  let blob ← engine.parameters.toBlob
  return ⟨text, engine.encodedIv, engine.parameters.algorithm, Hex.encode blob⟩

/-- Run encryption. The secret is read before the salt is looked at. -/
def runEncrypt (key : KeyOptions) (secret : Option String) (json : Bool) (input : Bytes)
    (draw : Draw) (terminal : Option String) : Outcome :=
  let found : Except String (String × Bytes) :=
    match secret with
    | some secret => .ok (secret, input)
    | none =>
      (during "failed to read secret from stdin" (readInput input)).map fun text =>
        (Text.trimLineEnds text, [])
  match found.bind fun (secret, input) => key.salt.bytes.map fun salt => (secret, input, salt) with
  | .error cause => outcome "" (.error cause)
  | .ok (secret, input, salt) =>
    outcome (key.prompt terminal) do
      let password ← key.readPassword terminal input
      let result ← worded (sealWith (key.draft salt password .encrypt) secret draw)
      return if json then result.json else result.lines

def Origin.apply (draft : Draft) : Origin → Except String Draft
  | parameters digits => do
    let blob ← during "invalid hex parameters" (readHex digits)
    let p ← worded (Parameters.ofBlob blob)
    worded (draft.set (.parameters p))
  | iv text => worded (draft.set (.encodedIv text))

def runDecrypt (key : KeyOptions) (text : String) (origin : Option Origin) (input : Bytes)
    (draw : Draw) (terminal : Option String) : Outcome :=
  match key.salt.bytes with
  | .error cause => outcome "" (.error cause)
  | .ok salt =>
    outcome (key.prompt terminal) do
      let password ← key.readPassword terminal input
      let draft := key.draft salt password .decrypt
      let draft ← (origin.map (Origin.apply draft)).getD (.ok draft)
      let engine ← worded (draft.build draw)
      let secret ← during "wrong password or parameters, or corrupted ciphertext"
        (worded (engine.decrypt text).1)
      return secret ++ "\n"

def algorithmList : String :=
  String.join <| Registry.standard.providers.map fun p =>
    "Provider: " ++ p.name ++ "\n" ++
      String.join (p.algorithms.map fun name => "  " ++ name ++ "\n")

def runSalt (length : Nat) (draw : Draw) : Outcome :=
  outcome "" <|
    if length = 0 then .error "salt length must be at least 1"
    else .ok (Hex.encode (draw.bytes length) ++ "\n")

def Command.run (input : Bytes) (draw : Draw) (terminal : Option String) : Command → Outcome
  | encrypt key secret json => runEncrypt key secret json input draw terminal
  | decrypt key text origin => runDecrypt key text origin input draw terminal
  | algorithms => outcome "" (.ok algorithmList)
  | salt length => runSalt length draw

def Command.readsInput : Command → Bool
  | encrypt key secret _ => secret.isNone || key.password.isNone
  | decrypt key _ _ => key.password.isNone
  | algorithms | salt _ => false

def Command.drawn : Command → Nat
  | salt length => length
  | _ => 16

def versionLine : String := "pbe-util 0.1.0\n"

def usage : String :=
  let key := "(--salt TEXT | --salt-hex HEX) --iteration COUNT [KEY OPTIONS]"
  "\n".intercalate
    ["Usage: pbe-util encrypt " ++ key ++ " [--secret TEXT] [--json]",
      "       pbe-util decrypt " ++ key ++ " [--params HEX | --iv TEXT] CIPHERTEXT",
      "       pbe-util algorithms",
      "       pbe-util salt [--length COUNT]",
      "Key options: --key-algorithm NAME, --transformation NAME, --alphabet NAME, --password TEXT",
      ""]

def Stop.outcome : Stop → Outcome
  | usage => ⟨2, "", CommandLine.usage⟩
  | help => ⟨0, CommandLine.usage, ""⟩
  | version => ⟨0, versionLine, ""⟩

/-- Run the program where there is no terminal to ask at. -/
def run (arguments : List String) (input : Bytes) (draw : Draw) : Outcome :=
  match readCommand arguments with
  | .error stop => stop.outcome
  | .ok command => command.run input draw none

end PasswordSeal.CommandLine
