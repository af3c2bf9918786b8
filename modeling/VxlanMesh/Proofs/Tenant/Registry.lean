/-
  VxlanMesh.Proofs.Tenant.Registry
  ────────────────────────────────
  **WHAT THE OPERATIONS OF A REGISTRY DO.**

  Each change of the records either writes a snapshot of the changed
  records or, for want of the record that it is about, does nothing.

      persist_eq                    writing changes the disk and nothing else
      addPod_some, addPod_none      and so on for each change
-/
import VxlanMesh.Proofs.Operation
import VxlanMesh.Tenant.Registry

namespace VxlanMesh.Registry

variable {registry : Registry} {id : String} {record : TenantRecord}

/-- Writing ends as the disk says, and only the disk is another one afterwards. -/
theorem persist_eq (registry : Registry) {answer : Except OverlayError Unit} {disk : Disk}
    (h : registry.store.save tenantTable registry.records.toJson registry.disk = (answer, disk)) :
    persist registry = (.ofExcept answer, { registry with disk }) := by
  rw [persist, Operation.tryStep_eq, h]

/-- A record that is there is found. -/
theorem get_some (h : registry.records.get? id = some record) :
    get id registry = (.done record, registry) := by
  rw [get, h]

/-- Asking for a record that is not there fails, and names its key. -/
theorem get_none (h : registry.records.get? id = none) :
    get id registry = (.failed (missing id), registry) := by
  rw [get, h]

/-- Setting a record writes the records with it. -/
theorem insert_eq (registry : Registry) (id : String) (vni : UInt32) (vlan : UInt16) :
    insert id vni vlan registry = persist { registry with
      records := registry.records.insert id (TenantRecord.new vni vlan) } := rfl

/-- Adding a pod to a record writes the records with the pod. -/
theorem addPod_some (h : registry.records.get? id = some record) (pod : String) :
    addPod id pod registry = persist { registry with
      records := registry.records.insert id (record.addPod pod) } := by
  rw [addPod, Operation.bind_done (get_some h)]
  rfl

/-- A pod cannot be added to a record that is not there, and nothing is written. -/
theorem addPod_none (h : registry.records.get? id = none) (pod : String) :
    addPod id pod registry = (.failed (missing id), registry) := by
  rw [addPod, Operation.bind_failed (get_none h)]

/-- Removing a pod from a record writes the records without it; the record stays, also without
pods. -/
theorem removePod_some (h : registry.records.get? id = some record) (pod : String) :
    removePod id pod registry = persist { registry with
      records := registry.records.insert id (record.removePod pod) } := by
  rw [removePod, Operation.bind_done (get_some h)]
  rfl

theorem removePod_none (h : registry.records.get? id = none) (pod : String) :
    removePod id pod registry = (.failed (missing id), registry) := by
  rw [removePod, Operation.bind_failed (get_none h)]

/-- Deleting a record writes the records without it. -/
theorem delete_present (h : registry.records.contains id = true) :
    delete id registry = persist { registry with records := registry.records.erase id } := by
  rw [delete, if_pos h]
  rfl

/-- Deleting what is not there succeeds without a write. -/
theorem delete_absent (h : ¬ registry.records.contains id = true) :
    delete id registry = (.done (), registry) := by
  rw [delete, if_neg h]

/-- Records that cannot be read leave the registry as it was. -/
theorem load_failed {later : Registry} {outcome : Outcome Unit}
    (h : load registry = (outcome, later)) (hfailed : outcome ≠ .done ()) : later = registry := by
  rw [load] at h
  split at h
  · cases h
    exact absurd rfl hfailed
  · cases h
    rfl

end VxlanMesh.Registry
