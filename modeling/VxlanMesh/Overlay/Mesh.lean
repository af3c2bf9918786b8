/-
  VxlanMesh.Overlay.Mesh
  ────────────────────────────────
  **THE OVERLAY OF THIS HOST: NETWORKS AND TUNNELS.**

  A `Mesh` holds the tenant networks active here, one tunnel record for
  each peer ever seen, and the OpenFlow numbers in use.  Whatever changes
  networks or tunnels ends with a rebuild of the flow rules.

      no record / unlinked  ── ready ──▶  linked
      linked                ── down ───▶  unlinked
      linked                ── ready at another address ──▶  relinked

  Records are never removed, and the failure of one peer does not stop a
  pass over the others.
-/
import VxlanMesh.IdSpace
import VxlanMesh.Overlay.Topology
import VxlanMesh.Switch.Programming
import VxlanMesh.Text.Pattern

namespace VxlanMesh

/-! ## §1. State. -/

/-- What the overlay has to know of its host. -/
structure MeshSettings where
  /-- The address by which the manager knows this host. -/
  selfIp : String
  /-- The local end of every tunnel. -/
  localIp : String
  switch : SwitchSettings := {}
  deriving Repr, DecidableEq

/-- The overlay of a host. -/
structure Mesh (σ : Type) where
  host : Host σ
  networks : List Network := []
  ports : List TunnelPort := []
  ofports : IdSpace

instance (σ : Type) : Timed (Mesh σ) where
  clock mesh := mesh.host.clock
  setClock clock mesh := { mesh with host := { mesh.host with clock } }

/-- What a pass over a snapshot did. -/
structure SyncSummary where
  linked : Nat := 0
  unlinked : Nat := 0
  failed : Nat := 0
  deriving Repr, DecidableEq

namespace Mesh

variable {σ : Type} [CommandRunner σ]

/-- Run an operation of the host. -/
def onHost {α : Type} (op : Operation (Host σ) α) : Operation (Mesh σ) α :=
  Operation.within Mesh.host (fun host mesh => { mesh with host }) op

/-- Install the rules for the current networks and tunnels. -/
def rebuild (settings : MeshSettings) : Operation (Mesh σ) RebuildSummary := do
  let mesh ← Operation.get
  onHost (settings.switch.rebuild mesh.networks mesh.ports)

/-- Issue a command, with as many attempts as the settings say. -/
def issueWithRetry (settings : MeshSettings) (command : SwitchCommand) :
    Operation (Mesh σ) String :=
  onHost (Operation.retry settings.switch.commandAttempts settings.switch.commandRetryMs
    (Host.issue command))

/-- Take an OpenFlow number. -/
def takeOfport : Operation (Mesh σ) Nat := Operation.tryStep fun mesh =>
  let (answer, ofports) := mesh.ofports.allocate
  (answer, { mesh with ofports })

/-- Give an OpenFlow number back. -/
def releaseOfport (ofport : Nat) : Operation (Mesh σ) Unit := Operation.modify fun mesh =>
  { mesh with ofports := mesh.ofports.release ofport }

/-! ## §2. Networks. -/

/-- Activate a network, unless it collides with an active one. -/
def addNetwork (settings : MeshSettings) (net : Network) : Operation (Mesh σ) Unit := do
  let mesh ← Operation.get
  if mesh.networks.any (·.collidesWith net) then
    Operation.fail (.networkExists net.id net.vni net.vlan)
  else
    Operation.modify fun mesh => { mesh with networks := mesh.networks ++ [net] }
    let _ ← rebuild settings

/-- Deactivate the network with an id. -/
def removeNetwork (settings : MeshSettings) (id : String) : Operation (Mesh σ) Unit := do
  let mesh ← Operation.get
  if mesh.networks.any (·.id == id) then
    Operation.modify fun mesh => { mesh with networks := mesh.networks.eraseP (·.id == id) }
    let _ ← rebuild settings
  else
    Operation.fail (.networkNotFound id)

/-! ## §3. Tunnels. -/

/-- The record of a peer. -/
def portOf (ports : List TunnelPort) (peer : String) : Option TunnelPort :=
  ports.find? (·.peerId == peer)

/-- Put a record in the place of the peer's record, or at the end. -/
def putPort (port : TunnelPort) : List TunnelPort → List TunnelPort
  | [] => [port]
  | p :: rest => if p.peerId == port.peerId then port :: rest else p :: putPort port rest

/-- The tunnel port to an agent. -/
def vxlanPort (settings : MeshSettings) (ofport : Nat) (agent : Agent) : VxlanPort where
  name := tunnelPortName ofport
  ofport := ofport
  remoteIp := agent.ip
  localIp := settings.localIp
  dstPort := settings.switch.dstPort

/-- Create the tunnel port to an agent and mark its record linked. -/
def createLink (settings : MeshSettings) (agent : Agent) : Operation (Mesh σ) Unit := do
  let ofport ← takeOfport
  match ← Operation.attempt (issueWithRetry settings
      (.addVxlanPort settings.switch.tunnelBridge (vxlanPort settings ofport agent))) with
  | .error e =>
      -- The port was not made, so its number is free again.
      releaseOfport ofport
      Operation.fail e
  | .ok _ =>
      Operation.modify fun mesh => { mesh with ports := putPort (.linked ofport agent) mesh.ports }
      let _ ← rebuild settings

/-- Delete the tunnel port to an agent and mark its record unlinked; the record keeps the
address it had and takes the status now reported. -/
def deleteLink (settings : MeshSettings) (agent : Agent) : Operation (Mesh σ) Unit := do
  let mesh ← Operation.get
  match portOf mesh.ports agent.id with
  -- If the port cannot be deleted the record stays linked and keeps its number.
  | some (.linked ofport known) =>
      let _ ← issueWithRetry settings
        (.deletePort settings.switch.tunnelBridge (tunnelPortName ofport))
      releaseOfport ofport
      Operation.modify fun mesh =>
        { mesh with ports := putPort (.unlinked { known with status := agent.status }) mesh.ports }
      let _ ← rebuild settings
  | _ => pure ()

/-! ## §4. Passes over a snapshot. -/

/-- What a snapshot asks for one peer. -/
inductive PeerChange where
  | keep
  | link
  | relink
  | unlink
  deriving Repr, DecidableEq

/-- What an agent's report asks, given the peer's record. -/
def changeFor (record : Option TunnelPort) (agent : Agent) : PeerChange :=
  match agent.status, record with
  | .ready, some (.linked _ known) => if known.ip = agent.ip then .keep else .relink
  | .ready, _ => .link
  | .down, some (.linked _ _) => .unlink
  | _, _ => .keep

/-- Carry out a change and count it. -/
def applyChange (settings : MeshSettings) (agent : Agent) (summary : SyncSummary) :
    PeerChange → Operation (Mesh σ) SyncSummary
  | .keep => pure summary
  | .link => do
      createLink settings agent
      pure { summary with linked := summary.linked + 1 }
  | .relink => do
      deleteLink settings agent
      createLink settings agent
      pure { summary with linked := summary.linked + 1 }
  | .unlink => do
      deleteLink settings agent
      pure { summary with unlinked := summary.unlinked + 1 }

/-- Bring the tunnel to one agent in step with its report. -/
def reconcile (settings : MeshSettings) (agent : Agent) (summary : SyncSummary) :
    Operation (Mesh σ) SyncSummary := do
  -- The manager lists this host among the agents.
  if agent.ip = settings.selfIp then pure summary
  else
    let mesh ← Operation.get
    let change := changeFor (portOf mesh.ports agent.id) agent
    match ← Operation.attempt (applyChange settings agent summary change) with
    | .ok summary => pure summary
    -- The tunnels to the agents after this one do not depend on it.
    | .error _ => pure { summary with failed := summary.failed + 1 }

/-- Bring the tunnels to some agents in step with their reports, one after the other. -/
def reconcileAll (settings : MeshSettings) :
    List Agent → SyncSummary → Operation (Mesh σ) SyncSummary
  | [], summary => pure summary
  | agent :: rest, summary => do
      reconcileAll settings rest (← reconcile settings agent summary)

/-- Bring the tunnels in step with a snapshot. -/
def sync (settings : MeshSettings) (topology : Topology) : Operation (Mesh σ) SyncSummary :=
  reconcileAll settings topology.agents {}

/-! ## §5. Ports of an earlier run. -/

/-- The names of tunnel ports in a listing. -/
def listedTunnelPorts (listing : String) : List String :=
  ((Text.lines listing).map Text.trim).filter fun name => Text.startsWith name tunnelPortStem

/-- Delete ports, counting those that went. -/
def deletePorts (bridge : String) : List String → Nat → Operation (Host σ) Nat
  | [], count => pure count
  | name :: rest, count => do
      let gone ← Host.succeeds (.deletePort bridge name)
      deletePorts bridge rest (if gone then count + 1 else count)

/-- Delete the tunnel ports that an earlier run left on the bridge. -/
def purgeStalePorts (settings : MeshSettings) : Operation (Mesh σ) Nat := onHost do
  let listing ← Host.issue (.listPorts settings.switch.tunnelBridge)
  deletePorts settings.switch.tunnelBridge (listedTunnelPorts listing) 0

end Mesh

end VxlanMesh
