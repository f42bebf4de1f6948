import PasswordSeal.CommandLine.Run

/-!
# The program

Reads the arguments, standard input where the command needs it and random bytes, runs the command
and writes its outcome. No password is asked for at a terminal, where it could not be hidden.
-/
namespace PasswordSeal.CommandLine

def Outcome.report (found : Outcome) : IO UInt32 := do
  (← IO.getStderr).putStr found.errors
  (← IO.getStdout).putStr found.output
  return found.exit.toUInt32

def Command.perform (command : Command) : IO UInt32 := do
  let input ← if command.readsInput then (← IO.getStdin).readBinToEnd else pure .empty
  let random ← IO.getRandomBytes command.drawn.toUSize
  (command.run input.toList (.ofBytes random.toList) none).report

end PasswordSeal.CommandLine

def main (arguments : List String) : IO UInt32 :=
  match PasswordSeal.CommandLine.readCommand arguments with
  | .error stop => stop.outcome.report
  | .ok command => command.perform
