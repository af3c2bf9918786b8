/-
  VxlanMesh.Check.Fixture
  ────────────────────────────────
  **SNAPSHOTS AND NETWORKS FOR CHECKS.**

  A `TopologyFixture` is what a manager would serve: its `body` is the
  text of the answer, so that a check goes through the same reading as
  the agent does.
-/
import VxlanMesh.Json.Writer
import VxlanMesh.Overlay.Network

namespace VxlanMesh.Check

/-! ## §1. Snapshots. -/

/-- What a manager reports of a peer. -/
inductive PeerStatus where
  | ready
  | down
  deriving Repr, DecidableEq

/-- The word for a status. -/
def PeerStatus.name : PeerStatus → String
  | ready => "ready"
  | down => "down"

/-- An agent of a snapshot. -/
structure AgentFixture where
  id : String
  ip : String
  status : PeerStatus
  deriving Repr, DecidableEq

/-- An interval, as a number or as a text. -/
inductive IntervalFixture where
  | seconds (n : Nat)
  | text (s : String)
  deriving Repr, DecidableEq

/-- What a manager serves. -/
structure TopologyFixture where
  agents : List AgentFixture := []
  interval : Option IntervalFixture := none
  deriving Repr, DecidableEq

namespace TopologyFixture

/-- An agent as JSON. -/
def agentJson (agent : AgentFixture) : Json :=
  .object [("id", .string agent.id), ("ip", .string agent.ip),
    ("status", .string agent.status.name)]

/-- An interval as JSON. -/
def intervalJson : IntervalFixture → Json
  | .seconds n => .ofNat n
  | .text s => .string s

/-- A snapshot as JSON. -/
def toJson (fixture : TopologyFixture) : Json :=
  .object (("agents", .array (fixture.agents.map agentJson)) ::
    (fixture.interval.map fun v => ("interval", intervalJson v)).toList)

/-- The text of the answer. -/
def body (fixture : TopologyFixture) : String := fixture.toJson.compact

/-- The address of the host itself in the snapshots below. -/
def selfIp : String := "192.168.10.1"

/-- The host itself. -/
def self : AgentFixture := ⟨"node-1", selfIp, .ready⟩

/-- The host itself and so many ready peers. -/
def readyMesh (peers : Nat) : TopologyFixture where
  agents := self :: (List.range peers).map fun i =>
    ⟨"node-" ++ toString (i + 2), "192.168.10." ++ toString (i + 2), .ready⟩

/-- The host itself and one peer. -/
def singlePeer (status : PeerStatus) : TopologyFixture where
  agents := [self, ⟨"node-2", "192.168.10.2", status⟩]

end TopologyFixture

/-! ## §2. Networks. -/

/-- The network with number `n`; its identifiers differ from those of every other. -/
def tenant (n : Nat) : Network where
  id := "net-" ++ toString n
  vni := (1000 + n).toUInt32
  vlan := (100 + n).toUInt16

/-- Networks that share nothing, counted from one. -/
def tenants (count : Nat) : List Network := (List.range count).map fun i => tenant (i + 1)

end VxlanMesh.Check
