/-
  VxlanMesh.Shell.Execution
  ────────────────────────────────
  **RUNNING A COMMAND BY THE SHELL.**

  A command that was run has an exit code and two outputs.  Outputs are
  bytes; they are read as text with replacements and without blanks at
  the ends.  A command that was killed by a signal has no exit code of
  its own and counts as `-1`.

      execute   run a command and say what it left behind
      perform   the output of a command, or the cause of its failure
-/
import VxlanMesh.Error
import VxlanMesh.Shell.Evaluation
import VxlanMesh.Text.Blank
import VxlanMesh.Text.Utf8

namespace VxlanMesh.Shell

/-! ## §1. Results. -/

/-- How a process ended. -/
inductive Ending where
  | exited (code : Nat)
  | killed (signal : Nat)
  deriving Repr, DecidableEq

/-- The exit code that is reported. -/
def Ending.code : Ending → Int
  | exited code => code
  | killed _ => -1

/-- What a command left behind. -/
structure ExecResult where
  exitCode : Int
  stdout : String
  stderr : String
  deriving Repr, DecidableEq

namespace ExecResult

/-- The result from the bytes that a process wrote. -/
def ofBytes (ending : Ending) (out err : List UInt8) : ExecResult where
  exitCode := ending.code
  stdout := Text.trim (Text.Utf8.decodeLossy out)
  stderr := Text.trim (Text.Utf8.decodeLossy err)

/-- The command succeeded. -/
def success (result : ExecResult) : Bool := result.exitCode == 0

/-- Both outputs, on lines of their own where there are two. -/
def combined (result : ExecResult) : String :=
  if result.stderr.isEmpty then result.stdout
  else if result.stdout.isEmpty then result.stderr
  else result.stdout ++ "\n" ++ result.stderr

/-- The standard output of a successful command. -/
def orFailure (command : String) (result : ExecResult) : Except OverlayError String :=
  if result.success then .ok result.stdout
  else .error (.commandFailed command result.exitCode result.combined)

end ExecResult

/-! ## §2. Running. -/

/-- How many nested steps a command may take before it counts as endless. -/
def patience : Nat := 1000000

/-- The characters that stand for the bytes of a text. -/
def ofText (s : String) : List Char :=
  (Text.Utf8.encode s).toList.map fun byte => Char.ofNat byte.toNat

/-- The bytes that characters stand for. -/
def toBytes (cs : Array Char) : List UInt8 := cs.toList.map fun c => c.toNat.toUInt8

/-- How a shell ends after a script. -/
def endingOf (departure : Except Departure Unit) (s : ShellState) : Ending :=
  match departure with
  | .error (.exit status) => .exited status
  | .error (.killed signal) => .killed signal
  | _ => .exited s.status

/-- Run a command by a shell of its own; a command with a null character cannot be handed to
one. -/
def execute (command : String) : Except OverlayError ExecResult :=
  if command.toList.any (·.toNat == 0) then
    .error (.shellUnavailable command "nul byte found in provided data")
  else
    let (departure, s) := runText patience (ofText command) {}
    .ok (.ofBytes (endingOf departure s)
      (toBytes ((s.outputs[0]?).getD #[])) (toBytes ((s.outputs[1]?).getD #[])))

/-- The output of a command, or the cause of its failure. -/
def perform (command : String) : Except OverlayError String :=
  (execute command).bind (·.orFailure command)

end VxlanMesh.Shell
