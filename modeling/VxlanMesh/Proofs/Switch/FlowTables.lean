/-
  VxlanMesh.Proofs.Switch.FlowTables
  ────────────────────────────────
  **A SWITCH WITH FLOW TABLES.**

  A `FlowSwitch` carries out the commands that keep flow rules; which
  commands succeed, and what they print, is left to another runner behind
  it.  A rule that is installed takes the place of the one with its slot
  (table, priority and match), and a command that fails does nothing.

      replay           what a log of answered commands makes of the tables
      heard_runAll     all commands are remembered
      tables_rebuilt   what the tables hold if all of them succeed
-/
import VxlanMesh.Proofs.Switch.Programming

namespace VxlanMesh

/-! ## §1. Tables. -/

/-- What a switch tells rules of a bridge apart by. -/
def FlowRule.slot (rule : FlowRule) : UInt8 × UInt16 × String :=
  (rule.table, rule.priority, rule.criteria)

/-- For each bridge and each number of a table, the rules there. -/
def FlowTables : Type := String → UInt8 → List FlowRule

namespace FlowTables

/-- Put a rule in the place of the one with its slot. -/
def install (rules : List FlowRule) (rule : FlowRule) : List FlowRule :=
  rules.filter (fun r => r.slot != rule.slot) ++ [rule]

/-- What a command that succeeds does to the tables. -/
def carryOut (tables : FlowTables) : SwitchCommand → FlowTables
  | .addFlow bridge rule => fun b n =>
      if b = bridge ∧ n = rule.table then install (tables b n) rule else tables b n
  | .deleteFlows bridge (some table) => fun b n =>
      if b = bridge ∧ n = table then [] else tables b n
  | .deleteFlows bridge none => fun b n => if b = bridge then [] else tables b n
  | .addBridge _ | .addPatchPort _ _ _ _ | .addVxlanPort _ _ | .deletePort _ _ | .listPorts _ =>
      tables

/-- What answered commands do to the tables; those that failed do nothing. -/
def replay (log : List (SwitchCommand × Bool)) (tables : FlowTables) : FlowTables :=
  log.foldl (fun tables entry => if entry.2 then tables.carryOut entry.1 else tables) tables

theorem replay_append (before after : List (SwitchCommand × Bool)) (tables : FlowTables) :
    replay (before ++ after) tables = replay after (replay before tables) :=
  List.foldl_append

/-- If nothing failed, the answers do not matter. -/
theorem replay_of_succeeded {log : List (SwitchCommand × Bool)} :
    (∀ entry ∈ log, entry.2 = true) → ∀ tables : FlowTables,
      replay log tables = (log.map Prod.fst).foldl carryOut tables := by
  induction log with
  | nil => intro _ tables; rfl
  | cons entry rest ih =>
      intro hall tables
      have hentry : entry.2 = true := hall entry List.mem_cons_self
      have hrest := ih (fun e he => hall e (List.mem_cons_of_mem entry he))
      rw [replay, List.foldl_cons, if_pos hentry]
      exact hrest _

/-- Rules go to their own tables. -/
theorem foldl_addFlow (bridge : String) (n : UInt8) (rules : List FlowRule) :
    ∀ tables : FlowTables, (rules.map (.addFlow bridge)).foldl carryOut tables bridge n
      = (rules.filter (·.table == n)).foldl install (tables bridge n) := by
  induction rules with
  | nil => intro tables; rfl
  | cons rule rest ih =>
      intro tables
      rw [List.map_cons, List.foldl_cons, ih, List.filter_cons]
      -- The rule goes to this table, or it leaves the table alone.
      by_cases hn : n = rule.table
      · rw [if_pos (by simp [hn]), List.foldl_cons]
        congr 1
        simp [carryOut, hn]
      · rw [if_neg (by simpa using Ne.symm hn)]
        congr 1
        simp [carryOut, hn]

/-- Rules in slots of their own do not overwrite each other. -/
theorem foldl_install {rules : List FlowRule} :
    ∀ {kept : List FlowRule}, ((kept ++ rules).map FlowRule.slot).Nodup →
      rules.foldl install kept = kept ++ rules := by
  induction rules with
  | nil => intro kept _; rw [List.append_nil, List.foldl_nil]
  | cons rule rest ih =>
      intro kept hslots
      have hapart : ∀ r ∈ kept, r.slot ≠ rule.slot := by
        rw [List.map_append, List.nodup_append] at hslots
        exact fun r hr => hslots.2.2 _ (List.mem_map_of_mem hr) _ (by simp)
      have hinstall : install kept rule = kept ++ [rule] := by
        rw [install, List.filter_eq_self.2 fun r hr => by simpa using hapart r hr]
      have hassoc : kept ++ rule :: rest = kept ++ [rule] ++ rest := by simp
      rw [List.foldl_cons, hinstall, hassoc]
      exact ih (by rwa [← hassoc])

end FlowTables

/-! ## §2. The switch. -/

/-- A switch with flow tables that remembers how it answered, oldest command first. -/
structure FlowSwitch (σ : Type) where
  /-- Who says which commands succeed. -/
  control : σ
  tables : FlowTables
  answered : List (SwitchCommand × Bool) := []

variable {σ : Type} [CommandRunner σ]

instance : CommandRunner (FlowSwitch σ) where
  run command switch :=
    let (answer, control) := CommandRunner.run command switch.control
    (answer, {
      control
      tables := switch.tables.replay [(command, answer.isOk)]
      answered := switch.answered ++ [(command, answer.isOk)] })

namespace FlowSwitch

/-- From one state to the other the switch has answered the commands of a log. -/
def Heard (before : FlowSwitch σ) (log : List (SwitchCommand × Bool)) (after : FlowSwitch σ) :
    Prop :=
  after.answered = before.answered ++ log ∧ after.tables = before.tables.replay log

omit [CommandRunner σ] in
theorem Heard.nil (switch : FlowSwitch σ) : Heard switch [] switch :=
  ⟨(List.append_nil _).symm, rfl⟩

omit [CommandRunner σ] in
theorem Heard.append {s₁ s₂ s₃ : FlowSwitch σ} {log₁ log₂ : List (SwitchCommand × Bool)}
    (h₁ : Heard s₁ log₁ s₂) (h₂ : Heard s₂ log₂ s₃) : Heard s₁ (log₁ ++ log₂) s₃ := by
  constructor
  · rw [h₂.1, h₁.1, List.append_assoc]
  · rw [h₂.2, h₁.2, FlowTables.replay_append]

theorem heard_run (command : SwitchCommand) (switch : FlowSwitch σ) :
    Heard switch [(command, (CommandRunner.run command switch).1.isOk)]
      (CommandRunner.run command switch).2 :=
  ⟨rfl, rfl⟩

/-- **All commands that are issued are remembered**, with the answers they got. -/
theorem heard_runAll (commands : List SwitchCommand) : ∀ switch : FlowSwitch σ,
    ∃ log, log.map Prod.fst = commands ∧
      Heard switch log (CommandRunner.runAll commands switch).2 := by
  induction commands with
  | nil => intro switch; exact ⟨[], rfl, .nil switch⟩
  | cons command rest ih =>
      intro switch
      obtain ⟨log, hcommands, hlog⟩ := ih (CommandRunner.run command switch).2
      refine ⟨(command, (CommandRunner.run command switch).1.isOk) :: log, ?_,
        (heard_run command switch).append hlog⟩
      rw [List.map_cons, hcommands]

end FlowSwitch

namespace Host

open FlowSwitch (Heard)

/-- Whatever is issued, the switch remembers it. -/
theorem preserves_issue (start : FlowSwitch σ) (command : SwitchCommand) :
    Operation.Preserves (fun host => ∃ log, Heard start log host.switch) (issue command) := by
  rintro host ⟨log, hlog⟩
  rw [issue_eq]
  exact ⟨_, hlog.append (FlowSwitch.heard_run command host.switch)⟩

end Host

namespace SwitchSettings

/-- **A rebuild that succeeds leaves in the two tables that depend on networks and peers the
rules that are desired there**, if these stand in slots of their own. -/
theorem tables_rebuilt (settings : SwitchSettings) {networks : List Network}
    {ports : List TunnelPort} {n : UInt8} (tables : FlowTables)
    (hn : n = PipelineTable.decap.number ∨ n = PipelineTable.flood.number)
    (hslots : ((((desiredRules networks ports).map PipelineRule.toFlow).filter
      (·.table == n)).map FlowRule.slot).Nodup) :
    (settings.rebuildCommands networks ports).foldl FlowTables.carryOut tables
        settings.tunnelBridge n
      = ((desiredRules networks ports).map PipelineRule.toFlow).filter (·.table == n) := by
  rw [rebuildCommands, List.foldl_cons, List.foldl_cons, FlowTables.foldl_addFlow]
  have hempty : ((tables.carryOut (.deleteFlows settings.tunnelBridge
      (some PipelineTable.decap.number))).carryOut (.deleteFlows settings.tunnelBridge
        (some PipelineTable.flood.number))) settings.tunnelBridge n = [] := by
    rcases hn with rfl | rfl <;> simp [FlowTables.carryOut]
  rw [hempty, FlowTables.foldl_install hslots, List.nil_append]

end SwitchSettings

end VxlanMesh
