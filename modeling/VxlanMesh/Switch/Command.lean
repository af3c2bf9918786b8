/-
  VxlanMesh.Switch.Command
  ────────────────────────────────
  **COMMANDS TO THE SWITCH.**

  A `SwitchCommand` says what is asked of the switch.  Its `words` are
  the words of the command line: every name and address that comes from
  outside stands in a quoted part.

      commandLine   the text that the shell gets
      arguments     the argument vector that is meant
-/
import VxlanMesh.Numeral.Decimal
import VxlanMesh.Shell.Quote
import VxlanMesh.Switch.Flow

namespace VxlanMesh

open VxlanMesh.Shell (Word plainWords)
open VxlanMesh.Numeral (decimal)

/-- A tunnel port to be created. -/
structure VxlanPort where
  name : String
  ofport : Nat
  remoteIp : String
  localIp : String
  dstPort : UInt16
  deriving Repr, DecidableEq

/-- What is asked of the switch. -/
inductive SwitchCommand where
  /-- Create a bridge unless it exists. -/
  | addBridge (bridge : String)
  /-- Create one end of a patch pair, possibly with a fixed OpenFlow number. -/
  | addPatchPort (bridge port peer : String) (ofport : Option Nat)
  /-- Create a tunnel port. -/
  | addVxlanPort (bridge : String) (port : VxlanPort)
  /-- Delete a port if it exists. -/
  | deletePort (bridge port : String)
  /-- List the ports of a bridge, one a line. -/
  | listPorts (bridge : String)
  /-- Delete the flow rules of one table, or of the whole bridge. -/
  | deleteFlows (bridge : String) (table : Option UInt8)
  /-- Install a flow rule. -/
  | addFlow (bridge : String) (rule : FlowRule)
  deriving Repr, DecidableEq

namespace SwitchCommand

/-- The words of the tool that keeps bridges and ports, which waits ten seconds at most. -/
def configure : List Word := plainWords ["/usr/bin/ovs-vsctl", "--timeout=10"]

/-- The words of the tool that keeps flow rules. -/
def control : List Word := plainWords ["/usr/bin/ovs-ofctl"]

/-- The words of a command. -/
def words : SwitchCommand → List Word
  | addBridge bridge => configure ++ plainWords ["--may-exist", "add-br"] ++ [.inQuotes bridge]
  | addPatchPort bridge port peer ofport =>
      configure ++ plainWords ["--may-exist", "add-port"]
        ++ [.inQuotes bridge, .inQuotes port]
        ++ plainWords ["--", "set", "Interface"]
        ++ [.inQuotes port, .plain "type=patch", ⟨"options:peer=", some peer⟩]
        ++ (ofport.map fun n => Word.plain ("ofport_request=" ++ decimal n)).toList
  | addVxlanPort bridge port =>
      configure ++ plainWords ["--may-exist", "add-port"]
        ++ [.inQuotes bridge, .inQuotes port.name]
        ++ plainWords ["--", "set", "Interface"]
        ++ [.inQuotes port.name, .plain "type=vxlan",
          .plain ("ofport_request=" ++ decimal port.ofport),
          ⟨"options:remote_ip=", some port.remoteIp⟩,
          ⟨"options:local_ip=", some port.localIp⟩]
        ++ plainWords ["options:in_key=flow", "options:out_key=flow", "options:csum=false",
          "options:df_default=false", "options:dst_port=" ++ decimal port.dstPort.toNat]
  | deletePort bridge port =>
      configure ++ plainWords ["--if-exists", "del-port"] ++ [.inQuotes bridge, .inQuotes port]
  | listPorts bridge => configure ++ plainWords ["list-ports"] ++ [.inQuotes bridge]
  | deleteFlows bridge table =>
      control ++ plainWords ["del-flows"] ++ [.inQuotes bridge]
        ++ (table.map fun n => Word.inQuotes ("table=" ++ decimal n.toNat)).toList
  | addFlow bridge rule =>
      control ++ plainWords ["add-flow"] ++ [.inQuotes bridge, .inQuotes rule.spec]

/-- The text of a command. -/
def commandLine (command : SwitchCommand) : String := Shell.commandLine command.words

/-- The argument vector of a command. -/
def arguments (command : SwitchCommand) : List String := command.words.map Word.value

end SwitchCommand

end VxlanMesh
