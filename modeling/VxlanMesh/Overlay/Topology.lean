/-
  VxlanMesh.Overlay.Topology
  ────────────────────────────────
  **SNAPSHOTS OF THE CLUSTER.**

  The manager answers with the list of agents and possibly an interval at
  which it wants to be asked again, as a number or as the text of one.
  Anything may stand in the interval's place; only a whole number of
  seconds up to a day is used.

      decode?     a snapshot from a document
      toJson      the one form in which a snapshot is written
-/
import VxlanMesh.Json.Reader
import VxlanMesh.Json.Writer
import VxlanMesh.Overlay.Peer
import VxlanMesh.Text.Blank

namespace VxlanMesh

/-- The longest interval between two questions to the manager, in seconds. -/
def longestInterval : Nat := 24 * 60 * 60

/-! ## §1. Agents as JSON. -/

namespace AgentStatus

/-- A status is a word, or a mapping from one word to null. -/
def decode? : Document.Decoder AgentStatus
  | _, .text (some s) => some (ofName s)
  | _ + 1, .mapping [(some s, .null)] => some (ofName s)
  | _, _ => none

end AgentStatus

namespace Agent

/-- An agent from a document. -/
def decode? : Document.Decoder Agent :=
  Document.record? ["id", "ip", "status"] fun depth fields =>
    match fields with
    | [id, ip, status] => do
        let id ← Document.required Document.string? depth id
        let ip ← Document.required Document.string? depth ip
        let status ← Document.required AgentStatus.decode? depth status
        pure ⟨id, ip, status⟩
    | _ => none

/-- An agent as JSON. -/
def toJson (agent : Agent) : Json :=
  .object [("id", .string agent.id), ("ip", .string agent.ip),
    ("status", .string agent.status.name)]

end Agent

/-! ## §2. Snapshots. -/

/-- A snapshot of the cluster. -/
structure Topology where
  agents : List Agent := []
  interval : Option Json := none
  deriving Repr, Inhabited

namespace Topology

/-- A snapshot from a document. -/
def decode? : Document.Decoder Topology :=
  Document.record? ["agents", "interval"] fun depth fields =>
    match fields with
    | [agents, interval] => do
        let agents ← Document.defaulted [] (Document.sequence? Agent.decode?) depth agents
        let interval ←
          Document.defaulted none (Document.optional? Document.any?) depth interval
        pure ⟨agents, interval⟩
    | _ => none

/-- A snapshot from its JSON text. -/
def ofText? (text : String) : Option Topology := Document.decodeText? decode? text

/-- A snapshot as JSON; an interval that is absent is left out. -/
def toJson (t : Topology) : Json :=
  .object (("agents", .array (t.agents.map Agent.toJson)) ::
    (t.interval.map fun v => ("interval", v)).toList)

/-- The number that an interval says, if any. -/
def secondsOf : Json → Option Nat
  | .number (.integer n) => if 0 ≤ n then some n.toNat else none
  | .string s => Numeral.readBounded? (Numeral.largestOfBits 64) (Text.trimChars s.toList)
  | _ => none

/-- The seconds that the manager suggests, if it suggests a usable number. -/
def suggestedSeconds (t : Topology) : Option Nat :=
  (t.interval.bind secondsOf).filter fun n => 1 ≤ n && n ≤ longestInterval

/-- The seconds to the next question. -/
def syncSeconds (t : Topology) (default : Nat) : Nat := t.suggestedSeconds.getD default

end Topology

end VxlanMesh
