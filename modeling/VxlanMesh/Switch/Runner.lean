/-
  VxlanMesh.Switch.Runner
  ────────────────────────────────
  **WHO CARRIES OUT COMMANDS TO THE SWITCH.**

  A `CommandRunner` is a state that answers commands: with the text that
  the command printed or with the cause of its failure.  A `Host` is a
  runner together with the clock; operations on a host issue commands.
-/
import VxlanMesh.Operation
import VxlanMesh.Switch.Command

namespace VxlanMesh

/-- States that answer commands to the switch. -/
class CommandRunner (σ : Type) where
  run : SwitchCommand → σ → Except OverlayError String × σ

/-- A switch behind a runner, and the clock. -/
structure Host (σ : Type) where
  switch : σ
  clock : Clock := {}

instance (σ : Type) : Timed (Host σ) where
  clock := Host.clock
  setClock clock host := { host with clock }

namespace Host

variable {σ : Type} [CommandRunner σ]

/-- Issue a command. -/
def issue (command : SwitchCommand) : Operation (Host σ) String :=
  Operation.tryStep fun host =>
    let (answer, switch) := CommandRunner.run command host.switch
    (answer, { host with switch })

/-- Issue a command and say whether it succeeded. -/
def succeeds (command : SwitchCommand) : Operation (Host σ) Bool := do
  match ← Operation.attempt (issue command) with
  | .ok _ => pure true
  | .error _ => pure false

end Host

end VxlanMesh
