/-
  VxlanMesh.Tenant.Registry
  ────────────────────────────────
  **THE DURABLE REGISTRY OF TENANT NETWORKS.**

  A `Registry` holds the records in memory and the disk on which they are
  kept.  Every change is made in memory first and then written as a whole
  snapshot; when the write fails the cause is reported, and the change in
  memory stays.
-/
import VxlanMesh.Operation
import VxlanMesh.Storage.TableStore
import VxlanMesh.Tenant.Record

namespace VxlanMesh

/-- The table in which the registry is kept. -/
def tenantTable : String := "tenant_networks"

/-- Records in memory, and the disk on which they are kept. -/
structure Registry where
  store : TableStore
  disk : Disk := {}
  records : TenantRecords := KeyedTable.empty

namespace Registry

/-! ## §1. Snapshots. -/

/-- Write a snapshot of the records. -/
def persist : Operation Registry Unit := Operation.tryStep fun registry =>
  let (answer, disk) := registry.store.save tenantTable registry.records.toJson registry.disk
  (answer, { registry with disk })

/-- Replace the records in memory by the snapshot on disk. -/
def load : Operation Registry Unit := fun registry =>
  match registry.store.load tenantTable TenantRecords.decode? KeyedTable.empty
      registry.disk.tree with
  | .ok records => (.done (), { registry with records })
  | .error e => (.failed e, registry)

/-! ## §2. Look-up. -/

/-- No network with that id. -/
def missing (id : String) : OverlayError := .entryNotFound tenantTable id

/-- The record of a network. -/
def get (id : String) : Operation Registry TenantRecord := fun registry =>
  match registry.records.get? id with
  | some record => (.done record, registry)
  | none => (.failed (missing id), registry)

/-- The network has a record, and no pod uses it. -/
def needsDelete (registry : Registry) (id : String) : Bool :=
  match registry.records.get? id with
  | some record => record.isUnused
  | none => false

/-! ## §3. Changes. -/

/-- Change the records in memory, then write them. -/
def update (f : TenantRecords → TenantRecords) : Operation Registry Unit := do
  Operation.modify fun registry => { registry with records := f registry.records }
  persist

/-- Add the record of a network that no pod uses yet. -/
def insert (id : String) (vni : UInt32) (vlan : UInt16) : Operation Registry Unit :=
  update (·.insert id (TenantRecord.new vni vlan))

/-- Note that a pod uses a network; noting it again changes nothing. -/
def addPod (id pod : String) : Operation Registry Unit := do
  let record ← get id
  update (·.insert id (record.addPod pod))

/-- Note that a pod no longer uses a network. -/
def removePod (id pod : String) : Operation Registry Unit := do
  let record ← get id
  update (·.insert id (record.removePod pod))

/-- Forget a network; nothing is written if there is no record. -/
def delete (id : String) : Operation Registry Unit := fun registry =>
  if registry.records.contains id then update (·.erase id) registry
  else (.done (), registry)

end Registry

end VxlanMesh
