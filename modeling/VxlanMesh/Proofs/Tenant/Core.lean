/-
  VxlanMesh.Proofs.Tenant.Core
  ────────────────────────────────
  **BINDING AS A FUNCTION OF RECORDS, NETWORKS, VLANS AND DISK.**

  What the switch answers never matters to binding: faults there are
  reported to nobody and tried again later.  Without the switch nothing is
  left open, since the disk decides which writes succeed, so on the rest
  of a node, its `Core`, a task is a function.

      Core.take       what each step answers, and what it leaves
      Core.run        a whole task
      runTask_core    a node runs a task as its core does
      writeAll        snapshots written one after the other
-/
import VxlanMesh.Proofs.Overlay.Networks
import VxlanMesh.Proofs.Procedure
import VxlanMesh.Proofs.Tenant.Durability
import VxlanMesh.Tenant.Binder

namespace VxlanMesh.Node

/-! ## §1. Cores and steps. -/

/-- The part of a node that decides how a task ends. -/
structure Core where
  registry : Registry
  networks : List Network
  vlans : IdSpace

namespace Core

/-- The records of a core. -/
def records (c : Core) : TenantRecords := c.registry.records

/-- Put records in memory, then write them. -/
def write (c : Core) (records : TenantRecords) : Except OverlayError Unit × Core :=
  let saved := c.registry.store.save tenantTable records.toJson c.registry.disk
  (saved.1, { c with registry := { c.registry with records, disk := saved.2 } })

/-- Change one record, if there is one. -/
def change (c : Core) (id : String) (f : TenantRecord → TenantRecord) :
    Except OverlayError Unit × Core :=
  match c.records.get? id with
  | none => (.error (Registry.missing id), c)
  | some record => c.write (c.records.insert id (f record))

/-- **What a step answers, and what it leaves.** -/
def take : {β : Type} → Step β → Core → β × Core
  | _, .lookUp id, c => (c.records.get? id, c)
  | _, .allRecords, c => (c.records, c)
  | _, .reserveVlans vlans, c => ((), { c with vlans := c.vlans.seed vlans })
  | _, .takeVlan, c => (c.vlans.allocate.1, { c with vlans := c.vlans.allocate.2 })
  | _, .releaseVlan vlan, c => ((), { c with vlans := c.vlans.release vlan })
  | _, .activate net, c =>
      if c.networks.any (·.collidesWith net) then
        (.error (.networkExists net.id net.vni net.vlan), c)
      else (.ok (), { c with networks := c.networks ++ [net] })
  | _, .deactivate id, c =>
      if c.networks.any (·.id == id) then
        (.ok (), { c with networks := c.networks.eraseP (·.id == id) })
      else (.error (.networkNotFound id), c)
  | _, .insertRecord net, c => c.write (c.records.insert net.id (TenantRecord.new net.vni net.vlan))
  | _, .addPod id pod, c => c.change id (·.addPod pod)
  | _, .removePod id pod, c => c.change id (·.removePod pod)
  | _, .needsDelete id, c => (c.registry.needsDelete id, c)
  | _, .deleteRecord id, c =>
      if c.records.contains id then c.write (c.records.erase id) else (.ok (), c)

/-- Run a task. -/
def run {α : Type} (task : Task α) : Core → Except OverlayError α × Core :=
  Procedure.run (m := StateM Core) take task.run

variable {α β : Type} {c c' : Core}

/-- A write answers as the disk does, and keeps the records in memory however it ends. -/
theorem write_eq {records : TenantRecords} {answer : Except OverlayError Unit} {disk : Disk}
    (h : c.registry.store.save tenantTable records.toJson c.registry.disk = (answer, disk)) :
    c.write records = (answer, { c with registry := { c.registry with records, disk } }) := by
  rw [write, h]

/-- **A write that is done brings memory and disk together.** -/
theorem isDurable_of_write {records : TenantRecords} (h : c.write records = (.ok (), c')) :
    c'.registry.IsDurable := by
  cases hsave : c.registry.store.save tenantTable records.toJson c.registry.disk with
  | mk answer disk =>
      rw [write_eq hsave] at h
      cases h
      exact Registry.isDurable_of_persist (Registry.persist_eq { c.registry with records } hsave)

/-! Some steps. -/

/-- A network that collides with none becomes active. -/
theorem take_activate_apart {net : Network}
    (hapart : c.networks.any (·.collidesWith net) = false) :
    c.take (.activate net) = (.ok (), { c with networks := c.networks ++ [net] }) := by
  rw [take, hapart]
  rfl

/-- A network that collides with an active one is refused, and nothing changes. -/
theorem take_activate_collides {net : Network}
    (hcollides : c.networks.any (·.collidesWith net) = true) :
    c.take (.activate net) = (.error (.networkExists net.id net.vni net.vlan), c) := by
  rw [take, hcollides]
  rfl

/-- Deleting a record that is there writes the others. -/
theorem take_deleteRecord {id : String} {record : TenantRecord}
    (hget : c.records.get? id = some record) :
    c.take (.deleteRecord id) = c.write (c.records.erase id) := by
  have hcontains : c.records.contains id = true := by
    rw [KeyedTable.contains, hget]
    rfl
  rw [take, if_pos hcontains]

/-- Adding a pod to a record that is there writes the records with the pod. -/
theorem take_addPod {id pod : String} {record : TenantRecord}
    (hget : c.records.get? id = some record) :
    c.take (.addPod id pod) = c.write (c.records.insert id (record.addPod pod)) := by
  rw [take, change, hget]

/-! Steps as they are used in tasks. -/

theorem run_pure (a : α) : run (pure a) c = (.ok a, c) := rfl

theorem run_throw (e : OverlayError) : run (throw e : Task α) c = (.error e, c) := rfl

/-- A step that cannot fail is followed by the rest of the task. -/
theorem run_ask (s : Step α) (next : α → Task β) :
    run (ask s >>= next) c = run (next (c.take s).1) (c.take s).2 := rfl

/-- Where a failure is caught, the rest of the task gets the answer. -/
theorem run_attempt {s : Step (Except OverlayError α)} {answer : Except OverlayError α}
    (h : c.take s = (answer, c')) (next : Except OverlayError α → Task β) :
    run (attempt s >>= next) c = run (next answer) c' := by
  show run (next (c.take s).1) (c.take s).2 = _
  rw [h]

/-- A step that succeeds hands its value to the rest of the task. -/
theorem run_call_ok {s : Step (Except OverlayError α)} {a : α} (h : c.take s = (.ok a, c'))
    (next : α → Task β) : run (call s >>= next) c = run (next a) c' := by
  show Procedure.run (m := StateM Core) take
    (ExceptT.bindCont next (c.take s).1) (c.take s).2 = _
  rw [h]
  rfl

/-- A step that fails ends the task, and what it left stays. -/
theorem run_call_error {s : Step (Except OverlayError α)} {e : OverlayError}
    (h : c.take s = (.error e, c')) (next : α → Task β) :
    run (call s >>= next) c = (.error e, c') := by
  show Procedure.run (m := StateM Core) take
    (ExceptT.bindCont next (c.take s).1) (c.take s).2 = _
  rw [h]
  rfl

/-! Tasks one after the other. -/

/-- Procedures in sequence run one after the other. Induction on the steps of the first. -/
theorem procedure_run_andThen (f : α → Procedure Step β) : ∀ (p : Procedure Step α) (c : Core),
    Procedure.run (m := StateM Core) take (p.andThen f) c
      = Procedure.run (m := StateM Core) take (f (Procedure.run (m := StateM Core) take p c).1)
          (Procedure.run (m := StateM Core) take p c).2
  | .done _, _ => rfl
  | .step first next, c => procedure_run_andThen f (next (c.take first).1) (c.take first).2

/-- A task that succeeds hands its value and its core to the next one. -/
theorem run_bind_ok {task : Task α} {a : α} (h : run task c = (.ok a, c'))
    (next : α → Task β) : run (task >>= next) c = run (next a) c' := by
  refine (procedure_run_andThen (ExceptT.bindCont next) task.run c).trans ?_
  rw [show Procedure.run (m := StateM Core) take task.run c = (.ok a, c') from h]
  rfl

/-- A task that fails ends what contains it. -/
theorem run_bind_error {task : Task α} {e : OverlayError} (h : run task c = (.error e, c'))
    (next : α → Task β) : run (task >>= next) c = (.error e, c') := by
  refine (procedure_run_andThen (ExceptT.bindCont next) task.run c).trans ?_
  rw [show Procedure.run (m := StateM Core) take task.run c = (.error e, c') from h]
  rfl

end Core

/-! ## §2. Nodes do what their cores do. -/

variable {σ : Type}

/-- The core of a node. -/
def core (node : Node σ) : Core := ⟨node.registry, node.mesh.networks, node.vlans⟩

/-- A step on the registry that writes nothing. -/
theorem attempt_registry {op : Operation Registry Unit} {node : Node σ}
    (answer : Except OverlayError Unit)
    (h : op node.registry = (.ofExcept answer, node.registry)) :
    Operation.attempt (onRegistry op) node = (.done answer, node) :=
  Operation.attempt_ofExcept (by rw [onRegistry, Operation.within, h])

/-- A step on the overlay leaves registry and VLANs alone. -/
theorem attempt_mesh {op : Operation (Mesh σ) Unit} {node : Node σ} {mesh : Mesh σ}
    (answer : Except OverlayError Unit) (h : op node.mesh = (.ofExcept answer, mesh)) :
    Operation.attempt (onMesh op) node = (.done answer, { node with mesh }) :=
  Operation.attempt_ofExcept (by rw [onMesh, Operation.within, h])

/-- A step that writes records. -/
theorem attempt_write {op : Operation Registry Unit} (node : Node σ)
    {records : TenantRecords}
    (h : op node.registry = Registry.persist { node.registry with records }) :
    ∃ node', Operation.attempt (onRegistry op) node = (.done (node.core.write records).1, node') ∧
      node'.core = (node.core.write records).2 := by
  cases hsave : node.registry.store.save tenantTable records.toJson node.registry.disk with
  | mk answer disk =>
      have hpersist := Registry.persist_eq { node.registry with records } hsave
      rw [Core.write_eq hsave]
      refine ⟨{ node with registry := { node.registry with records, disk } },
        Operation.attempt_ofExcept ?_, rfl⟩
      rw [onRegistry, Operation.within, h, hpersist]

variable [CommandRunner σ]

/-- **A node does what `Core.take` says.**  One case for each step. -/
theorem perform_take (settings : MeshSettings) {β : Type} (s : Step β) (node : Node σ) :
    ∃ node', perform settings s node = (.done (node.core.take s).1, node') ∧
      node'.core = (node.core.take s).2 := by
  cases s with
  | lookUp id | allRecords | reserveVlans vlans | takeVlan | releaseVlan vlan | needsDelete id =>
      exact ⟨_, rfl, rfl⟩
  | activate net =>
      rw [Core.take]
      cases h : node.core.networks.any (·.collidesWith net) with
      | true => exact ⟨_, attempt_mesh (.error _) (Mesh.addNetwork_collides h), rfl⟩
      | false =>
          obtain ⟨switch, hadd⟩ := Mesh.addNetwork_apart settings h
          exact ⟨_, attempt_mesh (.ok ()) hadd, rfl⟩
  | deactivate id =>
      rw [Core.take]
      cases h : node.core.networks.any (·.id == id) with
      | true =>
          obtain ⟨switch, hremove⟩ := Mesh.removeNetwork_present settings h
          exact ⟨_, attempt_mesh (.ok ()) hremove, rfl⟩
      | false => exact ⟨_, attempt_mesh (.error _) (Mesh.removeNetwork_absent h), rfl⟩
  | insertRecord net =>
      exact attempt_write node (node.registry.insert_eq net.id net.vni net.vlan)
  | addPod id pod =>
      rw [Core.take, Core.change]
      cases h : node.core.records.get? id with
      | none => exact ⟨_, attempt_registry (.error _) (Registry.addPod_none h pod), rfl⟩
      | some record => exact attempt_write node (Registry.addPod_some h pod)
  | removePod id pod =>
      rw [Core.take, Core.change]
      cases h : node.core.records.get? id with
      | none => exact ⟨_, attempt_registry (.error _) (Registry.removePod_none h pod), rfl⟩
      | some record => exact attempt_write node (Registry.removePod_some h pod)
  | deleteRecord id =>
      rw [Core.take]
      by_cases h : node.core.records.contains id = true
      · rw [if_pos h]
        exact attempt_write node (Registry.delete_present h)
      · rw [if_neg h]
        exact ⟨_, attempt_registry (.ok ()) (Registry.delete_absent h), rfl⟩

/-- **A node runs a task as its core does.**  Induction on the steps of the task. -/
theorem runTask_core (settings : MeshSettings) {α : Type} (task : Task α) (node : Node σ) :
    ∃ node', runTask settings task node = (.ofExcept (Core.run task node.core).1, node') ∧
      node'.core = (Core.run task node.core).2 := by
  have hrun : ∀ {γ : Type} (p : Procedure Step γ) (node : Node σ), ∃ node',
      Procedure.run (perform settings) p node
        = (.done (Procedure.run (m := StateM Core) Core.take p node.core).1, node') ∧
      node'.core = (Procedure.run (m := StateM Core) Core.take p node.core).2 := by
    intro γ p
    induction p with
    | done a => exact fun node => ⟨node, rfl, rfl⟩
    | step first next ih =>
        intro node
        obtain ⟨node₁, hperform, hcore⟩ := perform_take settings first node
        obtain ⟨node', hrest, hlast⟩ := ih (node.core.take first).1 node₁
        rw [hcore] at hrest hlast
        refine ⟨node', ?_, hlast⟩
        rw [Procedure.run, Operation.bind_done hperform, hrest]
        rfl
  obtain ⟨node', hdone, hcore⟩ := hrun task.run node
  refine ⟨node', ?_, hcore⟩
  rw [runTask, Operation.bind_done hdone]
  show Operation.ofExcept (Core.run task node.core).1 node' = _
  cases (Core.run task node.core).1 <;> rfl

/-! ## §3. Snapshots one after the other. -/

/-- Write snapshots until one fails. -/
def writeAll (store : TableStore) : List TenantRecords → Disk → Except OverlayError Unit × Disk
  | [], disk => (.ok (), disk)
  | records :: rest, disk =>
      match store.save tenantTable records.toJson disk with
      | (.ok (), later) => writeAll store rest later
      | (.error e, later) => (.error e, later)

section
variable {store : TableStore} {disk later : Disk} {first : List TenantRecords}

/-- After snapshots that are written the others follow. -/
theorem writeAll_append (h : writeAll store first disk = (.ok (), later))
    (rest : List TenantRecords) :
    writeAll store (first ++ rest) disk = writeAll store rest later := by
  induction first generalizing disk with
  | nil =>
      cases h
      rfl
  | cons records more ih =>
      rw [writeAll] at h
      rw [List.cons_append, writeAll]
      split at h
      · exact ih h
      · cases h

/-- Where all snapshots are written, the first ones are. -/
theorem writeAll_of_append {rest : List TenantRecords}
    (h : (writeAll store (first ++ rest) disk).1 = .ok ()) :
    ∃ later, writeAll store first disk = (.ok (), later) := by
  induction first generalizing disk with
  | nil => exact ⟨disk, rfl⟩
  | cons records more ih =>
      rw [List.cons_append, writeAll] at h
      rw [writeAll]
      split at h
      · exact ih h
      · cases h

/-- One snapshot is one write. -/
theorem writeAll_single (records : TenantRecords) :
    writeAll store [records] disk = store.save tenantTable records.toJson disk := by
  rw [writeAll]
  split <;> rename_i hsave <;> rw [hsave]
  rfl

end

end VxlanMesh.Node
