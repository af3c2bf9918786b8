/-
  VxlanMesh.Overlay.Peer
  ────────────────────────────────
  **PEERS OF THE MESH AND THE TUNNELS TO THEM.**

  The manager reports an agent for each host.  For each peer ever seen
  there is one `TunnelPort` record, linked while the switch has a tunnel
  port to the peer; the port is named after its OpenFlow number.
-/

namespace VxlanMesh

/-! ## §1. Agents. -/

/-- What the manager says of an agent. -/
inductive AgentStatus where
  | ready
  | down
  | unknown
  deriving Repr, DecidableEq

namespace AgentStatus

/-- The word for a status. -/
def name : AgentStatus → String
  | ready => "ready"
  | down => "down"
  | unknown => "unknown"

/-- The status that a word says; any other word than the two known ones says nothing. -/
def ofName (s : String) : AgentStatus :=
  if s = "ready" then ready else if s = "down" then down else unknown

end AgentStatus

/-- An agent of the mesh as the manager lists it. -/
structure Agent where
  id : String
  ip : String
  status : AgentStatus
  deriving Repr, DecidableEq

/-! ## §2. Tunnel ports. -/

/-- What the names of tunnel ports begin with. -/
def tunnelPortStem : String := "vxlan-"

/-- The name of the tunnel port with an OpenFlow number. -/
def tunnelPortName (ofport : Nat) : String := tunnelPortStem ++ toString ofport

/-- The tunnel to a peer ever seen. -/
inductive TunnelPort where
  | linked (ofport : Nat) (agent : Agent)
  | unlinked (agent : Agent)
  deriving Repr, DecidableEq

namespace TunnelPort

/-- The peer as it was when the record last changed. -/
def agent : TunnelPort → Agent
  | linked _ agent => agent
  | unlinked agent => agent

/-- Which peer it is. -/
def peerId (port : TunnelPort) : String := port.agent.id

/-- The OpenFlow number while linked. -/
def ofport : TunnelPort → Option Nat
  | linked n _ => some n
  | unlinked _ => none

/-- The switch has a port to the peer. -/
def isLinked (port : TunnelPort) : Bool := port.ofport.isSome

/-- The name of the switch port while linked. -/
def portName (port : TunnelPort) : Option String := port.ofport.map tunnelPortName

end TunnelPort

/-- The OpenFlow numbers of the linked ports, in record order. -/
def linkedOfports (ports : List TunnelPort) : List Nat := ports.filterMap TunnelPort.ofport

end VxlanMesh
