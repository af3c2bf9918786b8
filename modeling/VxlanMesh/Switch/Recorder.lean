/-
  VxlanMesh.Switch.Recorder
  ────────────────────────────────
  **A RUNNER THAT RECORDS.**

  A `Recorder` keeps every command line it gets and carries out none.
  Failure rules make command lines that contain a pattern fail, for ever
  or a number of times; response rules say what a command line prints.

      execute   record a line, then answer as the rules say
-/
import VxlanMesh.Switch.Runner
import VxlanMesh.Text.Pattern

namespace VxlanMesh

/-- Command lines with the pattern fail, as often as `remaining` says. -/
structure FailureRule where
  pattern : String
  /-- The failures that are left, none for no end. -/
  remaining : Option Nat
  deriving Repr, DecidableEq

/-- Command lines with the pattern print a text. -/
structure ResponseRule where
  pattern : String
  output : String
  deriving Repr, DecidableEq

/-- Recorded command lines and the rules for answering. -/
structure Recorder where
  recorded : Array String := #[]
  failures : List FailureRule := []
  responses : List ResponseRule := []
  deriving Repr, DecidableEq

namespace Recorder

/-! ## §1. Rules. -/

/-- The first rule that makes a line fail is used up by one: whether there is one, and the
rules afterwards. -/
def useFailure (line : String) : List FailureRule → Bool × List FailureRule
  | [] => (false, [])
  | rule :: rest =>
      let skip := let (hit, rest) := useFailure line rest; (hit, rule :: rest)
      if Text.contains line rule.pattern then
        match rule.remaining with
        | none => (true, rule :: rest)
        -- A rule that is used up lets the rules after it decide.
        | some 0 => skip
        | some (n + 1) => (true, { rule with remaining := some n } :: rest)
      else skip

/-- What a line prints. -/
def response (responses : List ResponseRule) (line : String) : String :=
  ((responses.find? fun rule => Text.contains line rule.pattern).map (·.output)).getD ""

/-- Add a failure rule. -/
def failMatching (r : Recorder) (pattern : String) (times : Option Nat) : Recorder :=
  { r with failures := r.failures ++ [⟨pattern, times⟩] }

/-- Add a response rule. -/
def respond (r : Recorder) (pattern output : String) : Recorder :=
  { r with responses := r.responses ++ [⟨pattern, output⟩] }

/-- Drop the failure rules. -/
def clearFailures (r : Recorder) : Recorder := { r with failures := [] }

/-! ## §2. Running and looking back. -/

/-- The failure that the rules inject. -/
def injected (line : String) : OverlayError := .commandFailed line 1 "injected failure"

/-- Record a command line and answer as the rules say. -/
def execute (line : String) (r : Recorder) : Except OverlayError String × Recorder :=
  let (fails, failures) := useFailure line r.failures
  let r := { r with recorded := r.recorded.push line, failures }
  if fails then (.error (injected line), r) else (.ok (response r.responses line), r)

instance : CommandRunner Recorder where
  run command := execute command.commandLine

/-- The recorded lines that contain a pattern. -/
def matching (r : Recorder) (pattern : String) : List String :=
  r.recorded.toList.filter fun line => Text.contains line pattern

/-- The recorded lines, which are forgotten. -/
def take (r : Recorder) : List String × Recorder :=
  (r.recorded.toList, { r with recorded := #[] })

/-- A session with the recorder: its state is on a host with a clock. -/
def executeLine (line : String) : Operation (Host Recorder) String :=
  Operation.tryStep fun host =>
    let (answer, switch) := execute line host.switch
    (answer, { host with switch })

end Recorder

end VxlanMesh
