import BridgeView.Command
import BridgeView.Recording

/-!
# The command line

Runs one command against the recording on standard input.  The exit code is zero when the
command succeeds, one when it fails, and two when the arguments or the recording cannot be
read.
-/

namespace BridgeView

/-- Writes what a command leaves and gives the exit code. -/
def Outcome.write (outcome : Outcome) : IO UInt32 := do
  IO.print outcome.output
  IO.eprint outcome.diagnostics
  match outcome.result with
  | .ok () => return 0
  | .error error =>
    IO.eprintln error.message
    return 1

/-- Says that something given to the program cannot be read. -/
def refuse (what : String) : IO UInt32 := do
  IO.eprintln s!"cannot read the {what}"
  return 2

end BridgeView

open BridgeView in
/-- Runs the command that the arguments name. -/
def main (arguments : List String) : IO UInt32 := do
  match Command.readLine arguments with
  | none => refuse "arguments"
  | some (options, command) =>
    match Recording.ofText (← (← IO.getStdin).readToEnd) with
    | none => refuse "recording"
    | some recording => (command.run recording.environment options).write
