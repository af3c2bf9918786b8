/-
  VxlanMesh.Proofs.Switch.PortTables
  ────────────────────────────────
  **A SWITCH WITH PORTS.**

  A `PortSwitch` gets command lines.  It hears them as the shell does and
  carries out those that create, delete or list ports; which commands
  succeed is left to another runner behind it, and one that fails does
  nothing.

      ofLine?_addVxlanPort, …   what the switch makes of our commands
      run_cases                 what a command does
      issue_allOrNothing        what is left of one that is issued
-/
import VxlanMesh.KeyedTable
import VxlanMesh.Proofs.Switch.CommandLines
import VxlanMesh.Proofs.Switch.Programming
import VxlanMesh.Text.Pattern

namespace VxlanMesh

open VxlanMesh.Shell (Word joined joined_eq_self argumentsOf?)

/-! ## §1. Commands about ports. -/

/-- For each bridge, its ports with their remote ends. -/
def PortTables : Type := String → KeyedTable String

/-- What a command line asks of the ports. -/
inductive PortCommand where
  /-- The port exists from now on and has that remote end. -/
  | put (bridge name remote : String)
  | drop (bridge name : String)
  | list (bridge : String)
  deriving Repr, DecidableEq

namespace PortCommand

/-- What stands before the remote end of a tunnel port. -/
def remoteLabel : String := "options:remote_ip="

/-- The remote end among the options of a tunnel port. -/
def remoteOf? (options : List String) : Option String :=
  (options.find? (Text.startsWith · remoteLabel)).map fun option =>
    String.ofList (option.toList.drop remoteLabel.length)

/-- The command about ports that arguments to the tool for bridges and ports are, if any. -/
def ofArguments? : List String → Option PortCommand
  | ["list-ports", bridge] => some (.list bridge)
  | ["--if-exists", "del-port", bridge, name] => some (.drop bridge name)
  | "--may-exist" :: "add-port" :: bridge :: name :: "--" :: "set" :: "Interface" :: owner
      :: "type=vxlan" :: options =>
      if owner = name then (remoteOf? options).map (.put bridge name) else none
  | _ => none

/-- The command about ports that an argument vector is, if it is one. -/
def ofVector? : List String → Option PortCommand
  | tool :: timeout :: arguments =>
      if tool = "/usr/bin/ovs-vsctl" ∧ timeout = "--timeout=10" then ofArguments? arguments
      else none
  | _ => none

/-- The command that a line is for the shell, if it is about ports. -/
def ofLine? (line : String) : Option PortCommand := (argumentsOf? line).bind ofVector?

/-- What the command does. -/
def carryOut (tables : PortTables) : PortCommand → PortTables
  | put bridge name remote => fun b =>
      if b = bridge then (tables b).insert name remote else tables b
  | drop bridge name => fun b => if b = bridge then (tables b).erase name else tables b
  | list _ => tables

/-- What the command prints: the names of the ports, one a line. -/
def printed (tables : PortTables) : PortCommand → String
  | list bridge => String.join ((tables bridge).entries.map fun entry => entry.1 ++ "\n")
  | put _ _ _ | drop _ _ => ""

/-- A port that is put has its remote end, and the other ports keep theirs. -/
theorem get?_carryOut_put (tables : PortTables) (bridge name remote b other : String) :
    ((put bridge name remote).carryOut tables b).get? other
      = if b = bridge ∧ other = name then some remote else (tables b).get? other := by
  by_cases hb : b = bridge
  · simp only [carryOut, hb, if_true, KeyedTable.get?_insert, true_and]
  · simp only [carryOut, hb, if_false, false_and]

/-- A port that is dropped has none, and the other ports keep theirs. -/
theorem get?_carryOut_drop (tables : PortTables) (bridge name b other : String) :
    ((drop bridge name).carryOut tables b).get? other
      = if b = bridge ∧ other = name then none else (tables b).get? other := by
  by_cases hb : b = bridge
  · simp only [carryOut, hb, if_true, KeyedTable.get?_erase, true_and]
  · simp only [carryOut, hb, if_false, false_and]

/-! ## §2. What our commands ask. -/

theorem heard_plain (s : String) : (Word.plain s).heard = s := String.append_empty

/-- A quoted word is heard without its line feeds. -/
theorem heard_inQuotes (s : String) : (Word.inQuotes s).heard = joined s := String.empty_append

theorem heard_label (label s : String) : (⟨label, some s⟩ : Word).heard = label ++ joined s := rfl

/-- A command to the tool for bridges and ports is what its arguments ask. -/
theorem ofLine?_configure {command : SwitchCommand} {rest : List Word}
    (h : command.words = SwitchCommand.configure ++ rest) :
    ofLine? command.commandLine = ofArguments? (rest.map Word.heard) := by
  have htool : SwitchCommand.configure.map Word.heard = ["/usr/bin/ovs-vsctl", "--timeout=10"] := by
    simp only [SwitchCommand.configure, Shell.plainWords, List.map_cons, List.map_nil, heard_plain]
  rw [ofLine?, SwitchCommand.argumentsOf?_commandLine, h, List.map_append, htool]
  simp [ofVector?]

/-- A command to the other tool is not about ports. -/
theorem ofLine?_control {command : SwitchCommand} {rest : List Word}
    (h : command.words = SwitchCommand.control ++ rest) : ofLine? command.commandLine = none := by
  have htool : SwitchCommand.control.map Word.heard = ["/usr/bin/ovs-ofctl"] := by
    simp only [SwitchCommand.control, Shell.plainWords, List.map_cons, List.map_nil, heard_plain]
  rw [ofLine?, SwitchCommand.argumentsOf?_commandLine, h, List.map_append, htool]
  cases rest <;> simp [ofVector?]

/-- A label that is looked for and what follows it. -/
theorem remoteOf?_label (first remote : String) (rest : List String)
    (hfirst : Text.startsWith first remoteLabel = false) :
    remoteOf? (first :: (remoteLabel ++ remote) :: rest) = some remote := by
  have hlabel : Text.startsWith (remoteLabel ++ remote) remoteLabel = true := by
    rw [Text.startsWith, String.toList_append]
    exact List.isPrefixOf_iff_prefix.2 (List.prefix_append _ _)
  rw [remoteOf?, List.find?_cons, hfirst]
  dsimp only
  rw [List.find?_cons, hlabel]
  show some (String.ofList ((remoteLabel ++ remote).toList.drop remoteLabel.length)) = _
  rw [String.toList_append, List.drop_left' (String.length_toList), String.ofList_toList]

/-- A tunnel port has the remote end that its command names. -/
theorem ofLine?_addVxlanPort (bridge : String) (port : VxlanPort) :
    ofLine? (SwitchCommand.addVxlanPort bridge port).commandLine
      = some (.put (joined bridge) (joined port.name) (joined port.remoteIp)) := by
  have hwords : ∃ rest, (SwitchCommand.addVxlanPort bridge port).words
      = SwitchCommand.configure ++ (Shell.plainWords ["--may-exist", "add-port"] ++
        ([Word.inQuotes bridge, Word.inQuotes port.name] ++
          (Shell.plainWords ["--", "set", "Interface"] ++ (Word.inQuotes port.name ::
            Word.plain "type=vxlan" :: Word.plain ("ofport_request=" ++ Numeral.decimal port.ofport)
            :: ⟨remoteLabel, some port.remoteIp⟩ :: rest)))) := ⟨_, rfl⟩
  obtain ⟨rest, hwords⟩ := hwords
  rw [ofLine?_configure hwords]
  simp only [Shell.plainWords, List.map_cons, List.map_nil, List.cons_append, List.nil_append,
    heard_plain, heard_inQuotes, heard_label, ofArguments?, if_pos]
  have hfirst : Text.startsWith ("ofport_request=" ++ Numeral.decimal port.ofport) remoteLabel
      = false := by
    rw [Text.startsWith, String.toList_append]
    rfl
  rw [remoteOf?_label _ (joined port.remoteIp) _ hfirst]
  rfl

/-- A command that deletes a port drops the port that it names, as the shell hears the name. -/
theorem ofLine?_deletePort (bridge name : String) :
    ofLine? (SwitchCommand.deletePort bridge name).commandLine
      = some (.drop (joined bridge) (joined name)) := by
  have hwords : (SwitchCommand.deletePort bridge name).words = SwitchCommand.configure
      ++ [.plain "--if-exists", .plain "del-port", .inQuotes bridge, .inQuotes name] := rfl
  rw [ofLine?_configure hwords]
  simp only [List.map_cons, List.map_nil, heard_plain, heard_inQuotes, ofArguments?]

/-- A command that lists ports changes none. -/
theorem ofLine?_listPorts (bridge : String) :
    ofLine? (SwitchCommand.listPorts bridge).commandLine = some (.list (joined bridge)) := by
  have hwords : (SwitchCommand.listPorts bridge).words
      = SwitchCommand.configure ++ [.plain "list-ports", .inQuotes bridge] := rfl
  rw [ofLine?_configure hwords]
  simp only [List.map_cons, List.map_nil, heard_plain, heard_inQuotes, ofArguments?]

theorem ofLine?_deleteFlows (bridge : String) (table : Option UInt8) :
    ofLine? (SwitchCommand.deleteFlows bridge table).commandLine = none :=
  ofLine?_control rfl

theorem ofLine?_addFlow (bridge : String) (rule : FlowRule) :
    ofLine? (SwitchCommand.addFlow bridge rule).commandLine = none :=
  ofLine?_control rfl

end PortCommand

/-! ## §3. The switch. -/

namespace PortTables

/-- The ports after a command that succeeds. -/
def after (command : SwitchCommand) (tables : PortTables) : PortTables :=
  match PortCommand.ofLine? command.commandLine with
  | some request => request.carryOut tables
  | none => tables

/-- What a command that succeeds prints. -/
def output (command : SwitchCommand) (tables : PortTables) : String :=
  match PortCommand.ofLine? command.commandLine with
  | some request => request.printed tables
  | none => ""

/-- A command that deletes a port drops the port that it names. -/
theorem after_deletePort (tables : PortTables) (bridge : String) {name : String}
    (h : '\n' ∉ name.toList) : tables.after (.deletePort bridge name)
      = (PortCommand.drop (joined bridge) name).carryOut tables := by
  rw [after, PortCommand.ofLine?_deletePort, joined_eq_self.2 h]

/-- A command that creates a tunnel port puts the port that it names. -/
theorem after_addVxlanPort (tables : PortTables) (bridge : String) {port : VxlanPort}
    (hname : '\n' ∉ port.name.toList) (hip : '\n' ∉ port.remoteIp.toList) :
    tables.after (.addVxlanPort bridge port)
      = (PortCommand.put (joined bridge) port.name port.remoteIp).carryOut tables := by
  rw [after, PortCommand.ofLine?_addVxlanPort, joined_eq_self.2 hname, joined_eq_self.2 hip]

end PortTables

/-- A switch with ports that counts the commands that failed. -/
structure PortSwitch (σ : Type) where
  /-- Who says which commands succeed. -/
  control : σ
  tables : PortTables
  refused : Nat := 0

variable {σ : Type} [CommandRunner σ]

instance : CommandRunner (PortSwitch σ) where
  run command switch :=
    let (answer, control) := CommandRunner.run command switch.control
    match answer with
    | .error e => (.error e, { switch with control, refused := switch.refused + 1 })
    | .ok _ => (.ok (switch.tables.output command),
        { switch with control, tables := switch.tables.after command })

namespace PortSwitch

/-- **A command** fails and does nothing, or it succeeds and is carried out. -/
theorem run_cases (command : SwitchCommand) (switch : PortSwitch σ) :
    (∃ e control, CommandRunner.run command switch
      = (.error e, { switch with control, refused := switch.refused + 1 })) ∨
    ∃ control, CommandRunner.run command switch = (.ok (switch.tables.output command),
      { switch with control, tables := switch.tables.after command }) := by
  cases h : CommandRunner.run command switch.control with
  | mk answer control =>
      cases answer with
      | error e => exact .inl ⟨e, control, by simp only [CommandRunner.run, h]⟩
      | ok text => exact .inr ⟨control, by simp only [CommandRunner.run, h]⟩

/-- Commands that are not about ports leave the ports alone. Induction on the commands. -/
theorem tables_runAll {commands : List SwitchCommand}
    (h : ∀ command ∈ commands, PortCommand.ofLine? command.commandLine = none) :
    ∀ switch : PortSwitch σ, (CommandRunner.runAll commands switch).2.tables = switch.tables := by
  induction commands with
  | nil => exact fun switch => rfl
  | cons command rest ih =>
      intro switch
      have hafter : switch.tables.after command = switch.tables := by
        rw [PortTables.after, h command List.mem_cons_self]
      have hrest := ih fun other hother => h other (List.mem_cons_of_mem command hother)
      rw [CommandRunner.runAll]
      show (CommandRunner.runAll rest (CommandRunner.run command switch).2).2.tables = _
      rw [hrest]
      rcases run_cases command switch with ⟨e, control, hrun⟩ | ⟨control, hrun⟩
      · rw [hrun]
      · rw [hrun, hafter]

end PortSwitch

/-- **A command that is issued** is carried out, or nothing happens. -/
theorem Host.issue_allOrNothing (command : SwitchCommand) : Operation.AllOrNothing
    (fun host : Host (PortSwitch σ) => host.switch.tables) (PortTables.after command)
    (Host.issue command) := by
  intro host
  rw [Host.issue_eq]
  rcases PortSwitch.run_cases command host.switch with ⟨e, control, hrun⟩ | ⟨control, hrun⟩ <;>
    rw [hrun] <;> rfl

/-- A rebuild of the rules leaves the ports alone. -/
theorem SwitchSettings.rebuildCommands_ports (settings : SwitchSettings)
    (networks : List Network) (ports : List TunnelPort) :
    ∀ command ∈ settings.rebuildCommands networks ports,
      PortCommand.ofLine? command.commandLine = none := by
  simp only [rebuildCommands, List.forall_mem_cons, List.forall_mem_map]
  exact ⟨PortCommand.ofLine?_deleteFlows _ _, PortCommand.ofLine?_deleteFlows _ _,
    fun rule _ => PortCommand.ofLine?_addFlow _ _⟩

end VxlanMesh
