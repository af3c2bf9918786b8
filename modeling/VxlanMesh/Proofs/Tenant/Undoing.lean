/-
  VxlanMesh.Proofs.Tenant.Undoing
  ────────────────────────────────
  **A DETACH UNDOES THE ATTACH BEFORE IT.**

  An attach that fails may have left something behind: the pod that could
  not be written stays noted in memory.  So the caller detaches the pod
  whatever the attach answered.  If the pod was not noted before, this
  takes back precisely what was done: a network that other pods use only
  loses the pod, one that was realized is torn down, and where nothing was
  done there is nothing to find.

      run_detach_used, run_detach_unused, run_detach_unknown
                             a detach whose snapshots are written
      Attaching.undoneBy     the detach after each way to attach
      detach_undoes_attach   the main result
-/
import VxlanMesh.Proofs.Tenant.Outcomes

namespace VxlanMesh

/-! ## §1. Noting a pod and taking it back. -/

namespace TenantRecord

variable {record : TenantRecord} {pod : String}

theorem removePod_eq_self (hnew : record.pods.contains pod = false) :
    record.removePod pod = record := by
  rw [KeyedTable.contains, Option.isSome_eq_false_iff, Option.isNone_iff_eq_none] at hnew
  rw [removePod, KeyedTable.erase_eq_self hnew]

/-- **Taking back a pod that was just noted**, and was not before. -/
theorem removePod_addPod (hnew : record.pods.contains pod = false) :
    (record.addPod pod).removePod pod = record := by
  have hsame := removePod_eq_self hnew
  rw [removePod] at hsame
  rw [addPod, removePod, KeyedTable.erase_insert]
  exact hsame

end TenantRecord

namespace Node

open VxlanMesh.Node.Core (run_ask run_attempt run_call_ok run_call_error run_bind_ok)

/-! ## §2. Detaching. -/

/-- The snapshots that detaching writes if nothing else is in its way. -/
def detachSnapshots (records : TenantRecords) (id pod : String) : List TenantRecords :=
  match records.get? id with
  | none => []
  | some record =>
      if (record.removePod pod).isUnused then
        [records.insert id (record.removePod pod), records.erase id]
      else [records.insert id (record.removePod pod)]

section
variable {c : Core} {id pod : String} {record : TenantRecord} {disk disk' : Disk}

theorem run_detach_unknown (hnone : c.records.get? id = none) (pod : String) :
    Core.run (detach id pod) c = (.error (Registry.missing id), c) := by
  have hremove : c.take (.removePod id pod) = (.error (Registry.missing id), c) := by
    rw [Core.take, Core.change, hnone]
  unfold detach
  exact run_call_error hremove _

theorem take_removePod (hget : c.records.get? id = some record) (pod : String) :
    c.take (.removePod id pod) = c.write (c.records.insert id (record.removePod pod)) := by
  rw [Core.take, Core.change, hget]

/-- Whether the network is left unused is read off the record just changed. -/
theorem take_needsDelete (hget : c.records.get? id = some record) :
    c.take (.needsDelete id) = (record.isUnused, c) := by
  rw [Core.take]
  refine congrArg (·, c) ?_
  rw [Registry.needsDelete, show c.registry.records.get? id = some record from hget]

/-- The core once the pod is taken back. -/
def withoutPod (c : Core) (id pod : String) (record : TenantRecord) (disk : Disk) : Core :=
  { c with registry := { c.registry with
    records := c.records.insert id (record.removePod pod), disk } }

theorem get?_withoutPod :
    (withoutPod c id pod record disk).records.get? id = some (record.removePod pod) :=
  KeyedTable.get?_insert_self c.records id _

theorem take_removePod_ok (hget : c.records.get? id = some record)
    (hsave : c.registry.store.save tenantTable
      (TenantRecords.toJson (c.records.insert id (record.removePod pod))) c.registry.disk
        = (.ok (), disk)) :
    c.take (.removePod id pod) = (.ok (), withoutPod c id pod record disk) :=
  (take_removePod hget pod).trans (Core.write_eq hsave)

/-- Other pods use the network: it stays. -/
theorem run_detach_used (hget : c.records.get? id = some record)
    (hused : (record.removePod pod).isUnused = false)
    (hwritten : (writeAll c.registry.store (detachSnapshots c.records id pod)
      c.registry.disk).1 = .ok ()) :
    ∃ disk, Core.run (detach id pod) c = (.ok false, withoutPod c id pod record disk) := by
  have hsnapshots : detachSnapshots c.records id pod
      = [c.records.insert id (record.removePod pod)] := by
    rw [detachSnapshots, hget]
    exact if_neg (Bool.eq_false_iff.1 hused)
  rw [hsnapshots, writeAll_single] at hwritten
  have hremove := take_removePod_ok hget (Prod.ext hwritten rfl)
  unfold detach
  rw [run_call_ok hremove, run_ask, take_needsDelete get?_withoutPod, hused]
  exact ⟨_, rfl⟩

/-- Deactivating never fails the task. -/
theorem run_deactivateIfActive (c : Core) (id : String) : Core.run (deactivateIfActive id) c
    = (.ok (), { c with networks := c.networks.eraseP (·.id == id) }) := by
  unfold deactivateIfActive
  cases hany : c.networks.any (·.id == id) with
  | true =>
      have hdeactivate : c.take (.deactivate id)
          = (.ok (), { c with networks := c.networks.eraseP (·.id == id) }) := by
        rw [Core.take, if_pos hany]
      exact run_attempt hdeactivate _
  | false =>
      have hsame : c.networks.eraseP (·.id == id) = c.networks :=
        List.eraseP_of_forall_not fun net hnet => List.any_eq_false.1 hany net hnet
      have hdeactivate : c.take (.deactivate id) = (.error (.networkNotFound id), c) := by
        rw [Core.take, if_neg (Bool.eq_false_iff.1 hany)]
      rw [hsame]
      exact run_attempt hdeactivate _

theorem run_releaseVlanOf (c : Core) (record : TenantRecord) :
    Core.run (releaseVlanOf record) c
      = (.ok (), { c with vlans := releasedOf record c.vlans }) := by
  unfold releaseVlanOf releasedOf
  cases record.vlan with
  | none => rfl
  | some vlan => rfl

/-- The last pod leaves: nothing is left of the network. -/
theorem run_detach_unused (hget : c.records.get? id = some record)
    (hunused : (record.removePod pod).isUnused = true)
    (hwritten : (writeAll c.registry.store (detachSnapshots c.records id pod)
      c.registry.disk).1 = .ok ()) :
    ∃ disk, Core.run (detach id pod) c = (.ok true,
      ⟨{ c.registry with records := c.records.erase id, disk },
        c.networks.eraseP (·.id == id), releasedOf record c.vlans⟩) := by
  have hsnapshots : detachSnapshots c.records id pod
      = [c.records.insert id (record.removePod pod)] ++ [c.records.erase id] := by
    rw [detachSnapshots, hget]
    exact if_pos hunused
  rw [hsnapshots] at hwritten
  obtain ⟨disk, hfirst⟩ := writeAll_of_append hwritten
  rw [writeAll_append hfirst, writeAll_single] at hwritten
  rw [writeAll_single] at hfirst
  have hdelete : ∃ disk', Core.take (.deleteRecord id)
      { withoutPod c id pod record disk with networks := c.networks.eraseP (·.id == id) }
      = (.ok (), ⟨{ c.registry with records := c.records.erase id, disk := disk' },
          c.networks.eraseP (·.id == id), c.vlans⟩) := by
    rw [← KeyedTable.erase_insert c.records id (record.removePod pod)] at hwritten ⊢
    exact ⟨_, (Core.take_deleteRecord (c := { withoutPod c id pod record disk with
      networks := c.networks.eraseP (·.id == id) }) get?_withoutPod).trans
      (Core.write_eq (Prod.ext hwritten rfl))⟩
  obtain ⟨disk', hdelete⟩ := hdelete
  -- Taking back a pod leaves the VLAN of the record.
  have hreleased : releasedOf (record.removePod pod) c.vlans = releasedOf record c.vlans := rfl
  unfold detach
  rw [run_call_ok (take_removePod_ok hget hfirst), run_ask, take_needsDelete get?_withoutPod,
    hunused]
  show ∃ disk, Core.run (ask (.lookUp id) >>= _) (withoutPod c id pod record _) = _
  rw [run_ask, Core.take, get?_withoutPod]
  show ∃ disk, Core.run (deactivateIfActive id >>= _) (withoutPod c id pod record _) = _
  rw [run_bind_ok (run_deactivateIfActive _ id)]
  refine ⟨disk', (run_call_ok hdelete _).trans ?_⟩
  rw [run_bind_ok (run_releaseVlanOf _ _), hreleased]
  rfl

end

/-! ## §3. After an attach. -/

/-- A core with another disk. -/
def Core.withDisk (c : Core) (disk : Disk) : Core :=
  { c with registry := { c.registry with disk } }

/-- Records, networks and reserved VLANs are the same. -/
structure Core.Alike (c c' : Core) : Prop where
  records : c'.records = c.records
  networks : c'.networks = c.networks
  vlans : ∀ n, c'.vlans.isAllocated n = c.vlans.isAllocated n

/-- A detach answers, or finds no network, and leaves a core as some other one is. -/
def DetachedTo (id : String) (c : Core) (result : Except OverlayError Bool × Core) : Prop :=
  ((∃ last, result.1 = .ok last) ∨ result.1 = .error (Registry.missing id)) ∧ c.Alike result.2

section
variable {c c' : Core} {id pod : String} {vni : UInt32} {record : TenantRecord}
  {answer : Except OverlayError UInt16}

/-- Nothing was done, so there is no network to find. -/
theorem detachedTo_of_unknown {repaired : Disk} (hnone : c'.records.get? id = none)
    (halike : c.Alike c') :
    DetachedTo id c (Core.run (detach id pod) (c'.withDisk repaired)) := by
  have hnone' : (c'.withDisk repaired).records.get? id = none := hnone
  rw [run_detach_unknown hnone']
  exact ⟨Or.inr rfl, halike.records, halike.networks, halike.vlans⟩

/-- Other pods use the network, so it stays. -/
theorem detachedTo_of_used (record : TenantRecord) (hget : c'.records.get? id = some record)
    (hused : (record.removePod pod).isUnused = false) {repaired : Disk}
    (hwritten : (writeAll c'.registry.store (detachSnapshots c'.records id pod) repaired).1
      = .ok ())
    (hrecords : c'.records.insert id (record.removePod pod) = c.records)
    (hnetworks : c'.networks = c.networks) (hvlans : c'.vlans = c.vlans) :
    DetachedTo id c (Core.run (detach id pod) (c'.withDisk repaired)) := by
  obtain ⟨disk, hrun⟩ := run_detach_used (c := c'.withDisk repaired) hget hused hwritten
  rw [hrun]
  refine ⟨Or.inl ⟨false, rfl⟩, hrecords, hnetworks, fun n => ?_⟩
  show c'.vlans.isAllocated n = _
  rw [hvlans]

/-- The network was realized for the pod, so nobody else uses it. -/
theorem detachedTo_of_realized {vlan : UInt16} {later : IdSpace} {repaired : Disk}
    (hnone : c.records.get? id = none) (htake : c.vlans.allocate = (.ok vlan.toNat, later))
    (hapart : c.networks.any (·.collidesWith ⟨id, vni, vlan⟩) = false)
    (hrecords : c'.records = c.records.insert id ((TenantRecord.new vni vlan).addPod pod))
    (hnetworks : c'.networks = c.networks ++ [⟨id, vni, vlan⟩]) (hvlans : c'.vlans = later)
    (hwritten : (writeAll c'.registry.store (detachSnapshots c'.records id pod) repaired).1
      = .ok ()) :
    DetachedTo id c (Core.run (detach id pod) (c'.withDisk repaired)) := by
  have hget : c'.records.get? id = some ((TenantRecord.new vni vlan).addPod pod) := by
    rw [hrecords, KeyedTable.get?_insert_self]
  have halone : (((TenantRecord.new vni vlan).addPod pod).removePod pod).isUnused = true := by
    rw [TenantRecord.removePod_addPod rfl]
    rfl
  have hvlan : ((TenantRecord.new vni vlan).addPod pod).vlan = some vlan :=
    TenantRecord.vlan_new vni vlan
  obtain ⟨disk, hrun⟩ := run_detach_unused (c := c'.withDisk repaired) hget halone hwritten
  rw [hrun]
  refine ⟨Or.inl ⟨true, rfl⟩, ?records, ?networks, fun n => ?vlans⟩
  case records =>
    show c'.records.erase id = c.records
    rw [hrecords, erase_insert_of_none hnone]
  case networks =>
    show c'.networks.eraseP (·.id == id) = c.networks
    rw [hnetworks]
    exact Network.eraseP_concat hapart
  case vlans =>
    show (releasedOf ((TenantRecord.new vni vlan).addPod pod) c'.vlans).isAllocated n = _
    rw [releasedOf, hvlan, hvlans]
    exact IdSpace.isAllocated_release_of_allocate htake n

/-- **The detach after each way to attach.**  A network that had a record keeps its other pods;
one that was realized for the pod has no other. -/
theorem Attaching.undoneBy (h : Attaching id vni pod c answer c')
    (hconsistent : Consistent InRange c.view)
    (hused : ∀ record, c.records.get? id = some record → record.isUnused = false)
    (hnew : ∀ record, c.records.get? id = some record → record.pods.contains pod = false)
    {repaired : Disk}
    (hwritten : (writeAll c'.registry.store (detachSnapshots c'.records id pod) repaired).1
      = .ok ()) :
    DetachedTo id c (Core.run (detach id pod) (c'.withDisk repaired)) := by
  cases h with
  | @refused record _ hget _ _ =>
      have hsame := TenantRecord.removePod_eq_self (hnew record hget)
      refine detachedTo_of_used record hget ?_ hwritten ?_ rfl rfl
      · rw [hsame]
        exact hused record hget
      · rw [hsame]
        exact KeyedTable.insert_eq_self hget
  | @known record _ _ _ hget _ _ _ =>
      have hback := TenantRecord.removePod_addPod (hnew record hget)
      refine detachedTo_of_used (record.addPod pod) ?_ ?_ hwritten ?_ rfl rfl
      · exact KeyedTable.get?_insert_self c.records id _
      · rw [hback]
        exact hused record hget
      · rw [hback]
        exact (KeyedTable.insert_insert c.records id _ _).trans (KeyedTable.insert_eq_self hget)
  | exhausted hnone _ => exact detachedTo_of_unknown hnone ⟨rfl, rfl, fun n => rfl⟩
  | taken hnone htake _ | unwritten hnone htake _ _ =>
      exact detachedTo_of_unknown hnone
        ⟨rfl, rfl, IdSpace.isAllocated_release_of_allocate htake⟩
  | @realized vlan later _ _ _ hnone htake hvni _ _ =>
      have hapart := (hconsistent.collides_iff hnone (IdSpace.isAllocated_of_allocate htake)
        vni).2 hvni
      exact detachedTo_of_realized hnone htake hapart rfl rfl rfl hwritten

end

/-! ## §4. On a node. -/

variable {σ : Type} [CommandRunner σ]

/-- **A detach undoes the attach before it**, after any requests that leave every network with
a pod, whatever each write and each command of the switch has answered, and whatever the attach
answers.  The pod was not noted in the network before, and the disk takes the snapshots of the
detach, by whatever means it was repaired.  The detach is done, or finds no such network, and
records, networks and VLANs are what they were before the attach. -/
theorem detach_undoes_attach (settings : MeshSettings) (host : Host σ) (store : TableStore)
    (disk repaired : Disk) (requests : List Request) (id : String) (vni : UInt32)
    (ns name : String) :
    let node := requests.foldl (serve settings) (starting host { store, disk })
    let attached := (runTask settings (attach id vni (podKey ns name)) node).2
    let ready := { attached with registry := { attached.registry with disk := repaired } }
    let detached := runTask settings (detach id (podKey ns name)) ready
    (∀ entry ∈ node.registry.records.entries, entry.2.isUnused = false) →
    (∀ record ∈ node.registry.records.get? id,
      record.pods.contains (podKey ns name) = false) →
    (writeAll ready.registry.store (detachSnapshots ready.registry.records id (podKey ns name))
      ready.registry.disk).1 = .ok () →
    ((∃ last, detached.1 = .done last) ∨ detached.1 = .failed (Registry.missing id)) ∧
      detached.2.registry.records = node.registry.records ∧
      detached.2.mesh.networks = node.mesh.networks ∧
      ∀ n, detached.2.vlans.isAllocated n = node.vlans.isAllocated n := by
  intro node attached ready detached hused hnew hwritten
  have hconsistent : Consistent InRange node.core.view :=
    (serve_all_accounted settings requests (accounted_fresh store host disk)).consistent
  have hbounds : InBounds node.core.view :=
    serve_all_inBounds settings requests (inBounds_fresh store host disk)
  obtain ⟨attachedNode, hattach, hattached⟩ :=
    runTask_core settings (attach id vni (podKey ns name)) node
  have hends := run_attach hconsistent hbounds.limit id (podKey ns name) vni
  have hcore : attached.core = (Core.run (attach id vni (podKey ns name)) node.core).2 := by
    rw [← hattached]
    exact congrArg core (congrArg Prod.snd hattach)
  rw [← hcore] at hends
  obtain ⟨answers, halike⟩ := hends.undoneBy hconsistent
    (fun record hget => hused (id, record) (KeyedTable.mem_entries_iff.2 hget)) hnew hwritten
  obtain ⟨detachedNode, hdetach, hdetached⟩ :=
    runTask_core settings (detach id (podKey ns name)) ready
  obtain ⟨hrecords, hnetworks, hvlans⟩ : node.core.Alike detachedNode.core := by
    rw [hdetached]
    exact halike
  have hrun : detached = (.ofExcept _, detachedNode) := hdetach
  rw [hrun]
  refine ⟨?_, hrecords, hnetworks, hvlans⟩
  rcases answers with ⟨last, hlast⟩ | hmissing
  · exact Or.inl ⟨last, congrArg Outcome.ofExcept hlast⟩
  · exact Or.inr (congrArg Outcome.ofExcept hmissing)

/-- Another network is there, and the pod of a new one cannot be written: that attach fails with
its network active, and the detach tears it down again. -/
theorem detach_undoes_attach_unwritten :
    let node := [Request.attach "net-A" 100 "ns" "p"].foldl (serve hostSettings)
      (starting recordingHost { store := ⟨"state"⟩, disk := faultyDisk })
    let (answer, attached) := runTask hostSettings (attach "net-B" 200 (podKey "ns" "q")) node
    let detached := (runTask hostSettings (detach "net-B" (podKey "ns" "q")) attached).2
    answer.isUnwritten = true ∧ attached.mesh.networks.length = 2 ∧
      attached.vlans.isAllocated 2 = true ∧
      detached.registry.records = node.registry.records ∧
      detached.mesh.networks = [⟨"net-A", 100, 1⟩] ∧
      detached.vlans.isAllocated 2 = false := by
  intro node
  let attached := (runTask hostSettings (attach "net-B" 200 (podKey "ns" "q")) node).2
  obtain ⟨hused, hnew, hwritten, hfailed, hactive, htaken, hnetwork, hfree⟩ :
      (∀ entry ∈ node.registry.records.entries, entry.2.isUnused = false) ∧
      (∀ record ∈ node.registry.records.get? "net-B",
        record.pods.contains (podKey "ns" "q") = false) ∧
      (writeAll attached.registry.store
        (detachSnapshots attached.registry.records "net-B" (podKey "ns" "q"))
        attached.registry.disk).1 = .ok () ∧
      (runTask hostSettings (attach "net-B" 200 (podKey "ns" "q")) node).1.isUnwritten = true ∧
      attached.mesh.networks.length = 2 ∧ attached.vlans.isAllocated 2 = true ∧
      node.mesh.networks = [⟨"net-A", 100, 1⟩] ∧ node.vlans.isAllocated 2 = false := by
    decide +kernel
  obtain ⟨-, hrecords, hnetworks, hvlans⟩ := detach_undoes_attach hostSettings recordingHost
    ⟨"state"⟩ faultyDisk attached.registry.disk [Request.attach "net-A" 100 "ns" "p"] "net-B" 200
    "ns" "q" hused hnew hwritten
  exact ⟨hfailed, hactive, htaken, hrecords, hnetworks.trans hnetwork, (hvlans 2).trans hfree⟩

end Node

end VxlanMesh
