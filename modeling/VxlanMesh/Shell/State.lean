/-
  VxlanMesh.Shell.State
  ────────────────────────────────
  **THE STATE OF A RUNNING SHELL.**

  The shell has variables, the status of the last command, and
  descriptors that lead to outputs.  An `Action` changes the state and
  either gives a value or departs: the shell exits or is killed, or a loop
  is left.  The world of the shell holds no files but the null device, and
  no process but the shell itself.
-/
import VxlanMesh.Shell.Arithmetic

namespace VxlanMesh.Shell

/-! ## §1. State. -/

/-- The state of a shell. -/
structure ShellState where
  bindings : List (String × List Char) := []
  /-- The status of the last command. -/
  status : Nat := 0
  /-- The status of the last script whose output was a piece of a word. -/
  outputStatus : Nat := 0
  /-- How many loops the command is in. -/
  loops : Nat := 0
  /-- What has been written to each output. -/
  outputs : Array (Array Char) := #[#[], #[]]
  /-- The output that a descriptor leads to, or none if what is written there is lost. -/
  descriptors : List (Nat × Option Nat) := [(1, some 0), (2, some 1)]
  /-- What is left to read. -/
  input : List Char := []
  /-- The line of the command that runs. -/
  line : Nat := 1

/-- Why a script does not go on with the next command. -/
inductive Departure where
  | exit (status : Nat)
  | killed (signal : Nat)
  | leaveLoop (levels : Nat)
  | nextRound (levels : Nat)
  deriving Repr, DecidableEq

/-- A step of a shell. -/
abbrev Action (α : Type) : Type := ExceptT Departure (StateM ShellState) α

/-! ## §2. Descriptors and outputs. -/

/-- Lead a descriptor to another place. -/
def ShellState.redirect (descriptor : Nat) (target : Option Nat) (s : ShellState) : ShellState :=
  { s with descriptors :=
      (descriptor, target) :: s.descriptors.filter (·.1 ≠ descriptor) }

/-- Write to a descriptor. -/
def ShellState.write (descriptor : Nat) (cs : List Char) (s : ShellState) : ShellState :=
  match s.descriptors.lookup descriptor with
  | some (some output) =>
      { s with outputs := s.outputs.modify output fun written => cs.foldl Array.push written }
  | _ => s

/-- Write to a descriptor. -/
def write (descriptor : Nat) (cs : List Char) : Action Unit := modify (·.write descriptor cs)

/-- The name by which the shell speaks of itself. -/
def shellName : String := "/bin/sh"

/-- Complain on the second descriptor. -/
def complain (text : String) : Action Unit := do
  let s ← get
  write 2 (shellName ++ ": " ++ toString s.line ++ ": " ++ text ++ "\n").toList

/-- Complain, and leave the shell. -/
def giveUp {α : Type} (text : String) : Action α := do
  complain text
  throw (.exit 2)

/-- Set the status of the last command. -/
def setStatus (status : Nat) : Action Unit := modify ({ · with status })

/-! ## §3. Loops, copies of the shell and outputs of their own. -/

/-- Run an action and hand back how it departed, if it did. -/
def departureOf (action : Action Unit) : Action (Option Departure) := fun s =>
  match action s with
  | (.ok (), s) => (.ok none, s)
  | (.error departure, s) => (.ok (some departure), s)

/-- Run an action within one loop more. -/
def withinLoop (action : Action Unit) : Action Unit := do
  let before := (← get).loops
  modify ({ · with loops := before + 1 })
  let departure ← departureOf action
  modify ({ · with loops := before })
  match departure with
  | some departure => throw departure
  | none => pure ()

/-- Run an action in a copy of the shell: only its status, its outputs and what it read
stay, and the death of the shell. -/
def inCopy (action : Action Unit) : Action Unit := do
  let before ← get
  let departure ← departureOf action
  modify fun s =>
    { before with status := s.status, outputs := s.outputs, input := s.input }
  match departure with
  | some (.exit status) => setStatus status
  | some (.killed signal) => throw (.killed signal)
  | _ => pure ()

/-- Run an action and hand back what it writes to the first descriptor. -/
def captured (action : Action Unit) : Action (List Char) := do
  let before ← get
  let output := before.outputs.size
  set { before with outputs := before.outputs.push #[],
                    descriptors := (1, some output) :: before.descriptors.filter (·.1 ≠ 1) }
  let departure ← departureOf action
  let after ← get
  set { after with outputs := after.outputs.take output, descriptors := before.descriptors }
  match departure with
  | some departure => throw departure
  | none => pure ((after.outputs[output]?).getD #[]).toList

end VxlanMesh.Shell
