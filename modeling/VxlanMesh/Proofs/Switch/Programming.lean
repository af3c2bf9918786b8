/-
  VxlanMesh.Proofs.Switch.Programming
  ────────────────────────────────
  **A REBUILD ISSUES ITS COMMANDS, WHATEVER THEY ANSWER.**

  `runAll` puts commands to a runner one after the other and notes which
  succeeded.  A rebuild is just that, for the commands in
  `rebuildCommands`: it always ends, and only the switch changes.

      installAll_eq, rebuild_eq    what is issued and what is counted
-/
import VxlanMesh.Proofs.Operation
import VxlanMesh.Switch.Programming

namespace VxlanMesh

variable {σ : Type} [CommandRunner σ]

/-! ## §1. Commands. -/

/-- Put commands to a runner, one after the other: which succeeded, and the runner then. -/
def CommandRunner.runAll : List SwitchCommand → σ → List Bool × σ
  | [], switch => ([], switch)
  | command :: rest, switch =>
      let (answer, switch) := CommandRunner.run command switch
      let (answers, switch) := runAll rest switch
      (answer.isOk :: answers, switch)

namespace Host

/-- Issuing a command touches nothing but the switch. -/
theorem issue_eq (command : SwitchCommand) (host : Host σ) :
    issue command host = (.ofExcept (CommandRunner.run command host.switch).1,
      { host with switch := (CommandRunner.run command host.switch).2 }) := by
  rw [issue, Operation.tryStep_eq]

theorem succeeds_eq (command : SwitchCommand) (host : Host σ) :
    succeeds command host = (.done (CommandRunner.run command host.switch).1.isOk,
      { host with switch := (CommandRunner.run command host.switch).2 }) := by
  rw [succeeds, Operation.bind_done (Operation.attempt_ofExcept (issue_eq command host))]
  cases (CommandRunner.run command host.switch).1 <;> rfl

end Host

/-! ## §2. Rebuilding. -/

namespace SwitchSettings

/-- The commands of a rebuild. -/
def rebuildCommands (settings : SwitchSettings) (networks : List Network)
    (ports : List TunnelPort) : List SwitchCommand :=
  .deleteFlows settings.tunnelBridge (some PipelineTable.decap.number) ::
    .deleteFlows settings.tunnelBridge (some PipelineTable.flood.number) ::
      ((desiredRules networks ports).map PipelineRule.toFlow).map (.addFlow settings.tunnelBridge)

/-- Rules are installed one after the other, and one that fails stops none after it. -/
theorem installAll_eq (settings : SwitchSettings) (rules : List PipelineRule) :
    ∀ (summary : RebuildSummary) (host : Host σ),
      let commands := (rules.map PipelineRule.toFlow).map (.addFlow settings.tunnelBridge)
      let (answers, switch) := CommandRunner.runAll commands host.switch
      settings.installAll rules summary host
        = (.done (answers.foldl RebuildSummary.count summary), { host with switch }) := by
  induction rules with
  | nil => intro summary host; rfl
  | cons rule rest ih =>
      intro summary host
      rw [installAll, Operation.bind_done (Host.succeeds_eq _ host), ih]
      rfl

/-- **A rebuild issues exactly its commands**, each once and in their order; it ends, and
counts the rules that were installed and those that were not. -/
theorem rebuild_eq (settings : SwitchSettings) (networks : List Network)
    (ports : List TunnelPort) (host : Host σ) :
    let (answers, switch) :=
      CommandRunner.runAll (settings.rebuildCommands networks ports) host.switch
    settings.rebuild networks ports host
      = (.done ((answers.drop 2).foldl RebuildSummary.count {}), { host with switch }) := by
  have hclear : settings.clearVariable host = (.done (), { host with
      switch := (CommandRunner.runAll
        [.deleteFlows settings.tunnelBridge (some PipelineTable.decap.number),
          .deleteFlows settings.tunnelBridge (some PipelineTable.flood.number)]
        host.switch).2 }) := by
    rw [clearVariable, Operation.bind_done (Host.succeeds_eq _ host),
      Operation.bind_done (Host.succeeds_eq _ _)]
    rfl
  rw [rebuild, Operation.bind_done hclear, installAll_eq]
  rfl

end SwitchSettings

end VxlanMesh
