/-
  VxlanMesh.Station
  ────────────────────────────────
  **THE AGENT OF A HOST: ITS NODE AND THE LINE TO THE MANAGER.**

  Starting a station goes in a fixed order: the registry is read, the
  bridges are prepared, ports of an earlier run are deleted, networks are
  activated again, and the first snapshot is waited for.  A failure before
  that ends the start; from then on failures of the manager only delay.
-/
import VxlanMesh.Config.Basic
import VxlanMesh.Manager.Client
import VxlanMesh.Tenant.Binder

namespace VxlanMesh

/-! ## §1. State. -/

/-- VLAN numbers from here on are not for networks. -/
def vlanLimit : Nat := 4095

/-- OpenFlow numbers from here on are not for ports. -/
def ofportLimit : Nat := 0xff00

/-- The node of a host and its line to the manager. -/
structure Station (σ : Type) where
  node : Node σ
  endpoint : Manager.Endpoint

instance (σ : Type) : Timed (Station σ) where
  clock station := Timed.clock station.node
  setClock clock station := { station with node := Timed.setClock clock station.node }

namespace Station

variable {σ : Type}

/-- The VLAN numbers at the start: zero stands for untagged packets. -/
def freshVlans : IdSpace := ({ name := "vlan", limit := some vlanLimit } : IdSpace).seed [0]

/-- The OpenFlow numbers at the start: the patch port has a number. -/
def freshOfports : IdSpace :=
  ({ name := "tunnel-ofport", limit := some ofportLimit } : IdSpace).seed [0, patchOfport]

/-- A station before its start. -/
def fresh (config : Config) (host : Host σ) (disk : Disk) (endpoint : Manager.Endpoint) :
    Station σ where
  node := {
    mesh := { host, ofports := freshOfports }
    registry := { store := ⟨config.store.dir⟩, disk }
    vlans := freshVlans }
  endpoint := endpoint

/-- The settings of the client. -/
def clientSettings (config : Config) : Manager.ClientSettings where
  url := Manager.syncUrl config.manager.url config.host.internalIp
  retrySeconds := config.manager.syncRetrySecs
  defaultSeconds := config.manager.defaultIntervalSecs
  mesh := config.meshSettings

/-- The client asks at an address made of the manager's and its own, keeps to the times of the
configuration, and hands snapshots to the overlay of the configuration. -/
theorem clientSettings_eq (config : Config) : clientSettings config = {
    url := Manager.syncUrl config.manager.url config.host.internalIp
    retrySeconds := config.manager.syncRetrySecs
    defaultSeconds := config.manager.defaultIntervalSecs
    mesh := {
      selfIp := config.host.internalIp
      localIp := config.host.tunnelIp.getD config.host.internalIp
      switch := config.switch } } := rfl

/-! ## §2. Operations of the parts. -/

/-- Run an operation of the node. -/
def onNode {α : Type} (op : Operation (Node σ) α) : Operation (Station σ) α :=
  Operation.within Station.node (fun node station => { station with node }) op

/-- Run an operation of the client. -/
def onLink {α : Type} (op : Operation (Manager.Link σ) α) : Operation (Station σ) α :=
  Operation.within (fun station => ⟨station.node.mesh, station.endpoint⟩)
    (fun link station =>
      { node := { station.node with mesh := link.mesh }, endpoint := link.endpoint }) op

/-! ## §3. Starting and running. -/

variable [CommandRunner σ]

/-- Start a station; the answer is the seconds to the next snapshot. -/
def start (config : Config) (patience : Nat) : Operation (Station σ) Nat := do
  onNode (Node.onRegistry Registry.load)
  let _ ← onNode (Node.onMesh (Mesh.onHost (config.switch.init patience)))
  let _ ← onNode (Node.onMesh (Mesh.purgeStalePorts config.meshSettings))
  let _ ← onNode (Node.runTask config.meshSettings Node.restore)
  onLink (Manager.Link.init (clientSettings config) patience)

/-- Heartbeats without end, beginning with an interval in seconds. -/
def run (config : Config) (patience seconds : Nat) : Operation (Station σ) Unit :=
  onLink (Manager.Link.run (clientSettings config) patience (seconds * 1000))

end Station

end VxlanMesh
