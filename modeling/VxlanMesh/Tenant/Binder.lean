/-
  VxlanMesh.Tenant.Binder
  ────────────────────────────────
  **BINDING PODS TO NETWORKS.**

  A `Node` is this host as a whole: the overlay, the registry and the
  VLANs.  The first pod of a network realizes it (a VLAN, an active
  network, a record); the last pod that leaves tears it down.  After a
  restart the networks of the registry are activated again.

      attach    bind a pod; answers the VLAN of the network
      detach    unbind a pod; answers whether the network was torn down
      restore   activate the networks of the registry

  The three are procedures over the steps of `Node.Step`, in the order in
  which they take effect.
-/
import VxlanMesh.Overlay.Mesh
import VxlanMesh.Procedure
import VxlanMesh.Tenant.Registry

namespace VxlanMesh

/-! ## §1. The node and its steps. -/

/-- The overlay, the registry and the VLANs of this host. -/
structure Node (σ : Type) where
  mesh : Mesh σ
  registry : Registry
  vlans : IdSpace

instance (σ : Type) : Timed (Node σ) where
  clock node := node.mesh.host.clock
  setClock clock node := { node with mesh := Timed.setClock clock node.mesh }

namespace Node

/-- A step of binding; one that can fail answers a result. -/
inductive Step : Type → Type where
  | lookUp (id : String) : Step (Option TenantRecord)
  | allRecords : Step TenantRecords
  | reserveVlans (vlans : List Nat) : Step Unit
  | takeVlan : Step (Except OverlayError Nat)
  | releaseVlan (vlan : Nat) : Step Unit
  | activate (net : Network) : Step (Except OverlayError Unit)
  | deactivate (id : String) : Step (Except OverlayError Unit)
  | insertRecord (net : Network) : Step (Except OverlayError Unit)
  | addPod (id pod : String) : Step (Except OverlayError Unit)
  | removePod (id pod : String) : Step (Except OverlayError Unit)
  | needsDelete (id : String) : Step Bool
  | deleteRecord (id : String) : Step (Except OverlayError Unit)

/-- A procedure of the node that can fail. -/
abbrev Task (α : Type) : Type 1 := ExceptT OverlayError (Procedure Step) α

/-- A step that always answers. -/
def ask {α : Type} (s : Step α) : Task α := ExceptT.lift (Procedure.ask s)

/-- A step whose failure ends the task. -/
def call {α : Type} (s : Step (Except OverlayError α)) : Task α := ExceptT.mk (Procedure.ask s)

/-- A step whose failure is a value. -/
def attempt {α : Type} (s : Step (Except OverlayError α)) : Task (Except OverlayError α) := ask s

/-! ## §2. Binding. -/

/-- The first use of a network: a VLAN, an active network and a record; whatever fails,
the steps before it are undone. -/
def realize (id : String) (vni : UInt32) : Task UInt16 := do
  let raw ← call .takeVlan
  -- A space without a limit can hand out more than a packet can carry.
  if raw > 65535 then
    ask (.releaseVlan raw)
    throw (.internal ("VLAN " ++ toString raw ++ " out of range"))
  let vlan := raw.toUInt16
  let net : Network := ⟨id, vni, vlan⟩
  match ← attempt (.activate net) with
  | .error e =>
      ask (.releaseVlan raw)
      throw e
  | .ok () => pure ()
  -- The record may be in memory although its snapshot failed.
  match ← attempt (.insertRecord net) with
  | .error e =>
      let _ ← attempt (.deactivate id)
      let _ ← attempt (.deleteRecord id)
      ask (.releaseVlan raw)
      throw e
  | .ok () => pure vlan

/-- The VLAN of a network that has a record, if it is the network that is meant. -/
def boundVlan (id : String) (vni : UInt32) (record : TenantRecord) :
    Except OverlayError UInt16 :=
  match record.vlan with
  | none => .error (.internal (id ++ " has invalid VLAN '" ++ record.vlanText ++ "'"))
  | some vlan =>
      if record.vni = vni then .ok vlan else .error (.networkExists id record.vni vlan)

/-- Bind a pod to a network. -/
def attach (id : String) (vni : UInt32) (pod : String) : Task UInt16 := do
  let vlan ← match ← ask (.lookUp id) with
    | some record => liftExcept (boundVlan id vni record)
    | none => realize id vni
  call (.addPod id pod)
  pure vlan
where
  /-- End as a result says. -/
  liftExcept {α : Type} : Except OverlayError α → Task α
    | .ok a => pure a
    | .error e => throw e

/-- Give back the VLAN of a record, if it has one. -/
def releaseVlanOf (record : TenantRecord) : Task Unit :=
  match record.vlan with
  | some vlan => ask (.releaseVlan vlan.toNat)
  | none => pure ()

/-- Deactivate a network; that it was not active is no failure. -/
def deactivateIfActive (id : String) : Task Unit := do
  match ← attempt (.deactivate id) with
  | .ok () => pure ()
  | .error e => if e.isMissing then pure () else throw e

/-- Unbind a pod from a network. -/
def detach (id pod : String) : Task Bool := do
  call (.removePod id pod)
  -- The pod is gone already, whatever becomes of the network.
  if ← ask (.needsDelete id) then
    match ← ask (.lookUp id) with
    | none => throw (Registry.missing id)
    | some record =>
        deactivateIfActive id
        call (.deleteRecord id)
        releaseVlanOf record
        pure true
  else pure false

/-! ## §3. After a restart. -/

/-- Another record holds the VLAN. -/
def isShared (records : TenantRecords) (id : String) (vlan : UInt16) : Bool :=
  records.entries.any fun (other, record) => other ≠ id && record.vlan = some vlan

/-- Activate the network of one record, or drop the record: when its VLAN is no number,
when no pod uses it, or when it collides with a network that is active.  The answer says
whether it is active now. -/
def restoreOne (records : TenantRecords) (id : String) (record : TenantRecord) : Task Bool := do
  match record.vlan with
  | none =>
      call (.deleteRecord id)
      pure false
  | some vlan =>
      if record.isUnused then
        call (.deleteRecord id)
        ask (.releaseVlan vlan.toNat)
        pure false
      else
        match ← attempt (.activate ⟨id, record.vni, vlan⟩) with
        | .ok () => pure true
        | .error _ =>
            call (.deleteRecord id)
            -- The network that was activated first keeps a VLAN that both records name.
            if !isShared records id vlan then ask (.releaseVlan vlan.toNat)
            pure false

/-- Activate the networks of some records, counting them. -/
def restoreAll (records : TenantRecords) :
    List (String × TenantRecord) → Nat → Task Nat
  | [], count => pure count
  | (id, record) :: rest, count => do
      let active ← restoreOne records id record
      restoreAll records rest (if active then count + 1 else count)

/-- Reserve the VLANs of all records, then activate their networks. -/
def restore : Task Nat := do
  let records ← ask .allRecords
  ask (.reserveVlans ((records.values.filterMap TenantRecord.vlan).map (·.toNat)))
  restoreAll records records.entries 0

/-! ## §4. Running on a node. -/

variable {σ : Type} [CommandRunner σ]

/-- Run an operation of the overlay. -/
def onMesh {α : Type} (op : Operation (Mesh σ) α) : Operation (Node σ) α :=
  Operation.within Node.mesh (fun mesh node => { node with mesh }) op

/-- Run an operation of the registry. -/
def onRegistry {α : Type} (op : Operation Registry α) : Operation (Node σ) α :=
  Operation.within Node.registry (fun registry node => { node with registry }) op

/-- Change the VLANs. -/
def onVlans {α : Type} (f : IdSpace → α × IdSpace) : Operation (Node σ) α :=
  Operation.step fun node => let (a, vlans) := f node.vlans; (a, { node with vlans })

/-- What a step does to a node. -/
def perform (settings : MeshSettings) : {α : Type} → Step α → Operation (Node σ) α
  | _, .lookUp id => fun node => (.done (node.registry.records.get? id), node)
  | _, .allRecords => fun node => (.done node.registry.records, node)
  | _, .reserveVlans vlans => onVlans fun space => ((), space.seed vlans)
  | _, .takeVlan => onVlans IdSpace.allocate
  | _, .releaseVlan vlan => onVlans fun space => ((), space.release vlan)
  | _, .activate net => Operation.attempt (onMesh (Mesh.addNetwork settings net))
  | _, .deactivate id => Operation.attempt (onMesh (Mesh.removeNetwork settings id))
  | _, .insertRecord net =>
      Operation.attempt (onRegistry (Registry.insert net.id net.vni net.vlan))
  | _, .addPod id pod => Operation.attempt (onRegistry (Registry.addPod id pod))
  | _, .removePod id pod => Operation.attempt (onRegistry (Registry.removePod id pod))
  | _, .needsDelete id => fun node => (.done (node.registry.needsDelete id), node)
  | _, .deleteRecord id => Operation.attempt (onRegistry (Registry.delete id))

/-- Run a task on a node. -/
def runTask {α : Type} (settings : MeshSettings) (task : Task α) : Operation (Node σ) α :=
  Procedure.run (perform settings) task.run >>= Operation.ofExcept

end Node

end VxlanMesh
