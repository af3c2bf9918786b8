/-
  VxlanMesh.Switch.SystemShell
  ────────────────────────────────
  **COMMANDS BY THE SHELL OF THE HOST.**

  The runner of an agent outside of tests hands each command line to the
  shell.  On a host without the tools of the switch every command fails.
-/
import VxlanMesh.Shell.Execution
import VxlanMesh.Switch.Runner

namespace VxlanMesh

/-- The shell of the host, which keeps nothing between commands. -/
structure SystemShell where
  deriving Repr, DecidableEq

namespace SystemShell

/-- Hand a command line to the shell. -/
def executeLine (line : String) : Operation (Host SystemShell) String :=
  Operation.ofExcept (Shell.perform line)

instance : CommandRunner SystemShell where
  run command shell := (Shell.perform command.commandLine, shell)

end SystemShell

end VxlanMesh
