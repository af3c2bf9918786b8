/-
  VxlanMesh.Proofs.Tenant.Outcomes
  ────────────────────────────────
  **WHAT AN ATTACH ANSWERS, AND WHAT IS LEFT WHEN IT FAILS.**

  Whether a VLAN is left, whether the VNI is in use and whether the disk
  takes the snapshots decide together how an attach ends, in this order.
  Each way is listed once with the disk in it (`Attaching`).  When the
  network cannot be realized its steps are undone, so memory, networks and
  VLANs are as before, whatever the disk answers to that.

      run_attach                 the list is complete
      Attaching.outcome_new      which failure is reported, and when
      Attaching.undone           what a failure leaves
      attach_outcome             the main result
-/
import VxlanMesh.Proofs.NumberSet
import VxlanMesh.Proofs.Tenant.Core
import VxlanMesh.Proofs.Tenant.References
import VxlanMesh.Proofs.Tenant.VlanRange

namespace VxlanMesh.Node

open VxlanMesh.Node.Core (run_pure run_throw run_ask run_attempt run_call_ok run_call_error
  run_bind_ok run_bind_error)

/-! ## §1. Realizing a network. -/

/-- What is left of realizing a network once its VLAN is taken. -/
def install (net : Network) : Task UInt16 := do
  match ← attempt (.activate net) with
  | .error e =>
      ask (.releaseVlan net.vlan.toNat)
      throw e
  | .ok () => pure ()
  match ← attempt (.insertRecord net) with
  | .error e =>
      let _ ← attempt (.deactivate net.id)
      let _ ← attempt (.deleteRecord net.id)
      ask (.releaseVlan net.vlan.toNat)
      throw e
  | .ok () => pure net.vlan

section
variable {c : Core} {vlan : UInt16} {later : IdSpace} {net : Network}

theorem run_realize_error {e : OverlayError} (hspace : c.vlans.allocate = (.error e, later))
    (id : String) (vni : UInt32) :
    Core.run (realize id vni) c = (.error e, c) := by
  have htake : c.take .takeVlan = (.error e, c) := by
    rw [Core.take, hspace, (IdSpace.allocate_error hspace).1]
  unfold realize
  exact run_call_error htake _

theorem run_realize_ok (htake : c.vlans.allocate = (.ok vlan.toNat, later)) (id : String)
    (vni : UInt32) :
    Core.run (realize id vni) c = Core.run (install ⟨id, vni, vlan⟩) { c with vlans := later } := by
  have hstep : c.take .takeVlan = (.ok vlan.toNat, { c with vlans := later }) := by
    rw [Core.take, htake]
  have hfits : ¬ vlan.toNat > 65535 := by
    have := vlan.toNat_lt
    omega
  have hsame : vlan.toNat.toUInt16 = vlan := by simp
  unfold realize
  rw [run_call_ok hstep, if_neg hfits, hsame]
  rfl

/-- The network collides: it is not activated. -/
theorem run_install_collides (hcollides : c.networks.any (·.collidesWith net) = true) :
    Core.run (install net) c = (.error (.networkExists net.id net.vni net.vlan),
      { c with vlans := c.vlans.release net.vlan.toNat }) := by
  unfold install
  exact run_attempt (Core.take_activate_collides hcollides) _

/-- The network is active, and its record is written. -/
theorem run_install_written (hapart : c.networks.any (·.collidesWith net) = false) {disk : Disk}
    (hsave : c.registry.store.save tenantTable
      (TenantRecords.toJson (c.records.insert net.id (TenantRecord.new net.vni net.vlan)))
      c.registry.disk = (.ok (), disk)) :
    Core.run (install net) c = (.ok net.vlan,
      ⟨{ c.registry with
          records := c.records.insert net.id (TenantRecord.new net.vni net.vlan), disk },
        c.networks ++ [net], c.vlans⟩) := by
  have hinsert : Core.take (.insertRecord net) { c with networks := c.networks ++ [net] }
      = (.ok (), _) := Core.write_eq hsave
  unfold install
  rw [run_attempt (Core.take_activate_apart hapart)]
  show Core.run (attempt (.insertRecord net) >>= _) _ = _
  rw [run_attempt hinsert]
  rfl

/-- What undoes the network that was activated last: the disk may fail once more, and nothing
but the disk tells. -/
theorem run_undo {networks : List Network} (hapart : networks.any (·.collidesWith net) = false)
    (hnetworks : c.networks = networks ++ [net]) {record : TenantRecord}
    (hget : c.records.get? net.id = some record) (e : OverlayError) :
    ∃ disk, Core.run (attempt (.deactivate net.id) >>= fun _ =>
        attempt (.deleteRecord net.id) >>= fun _ =>
        ask (.releaseVlan net.vlan.toNat) >>= fun _ => throw e : Task UInt16) c
      = (.error e, ⟨{ c.registry with records := c.records.erase net.id, disk },
        networks, c.vlans.release net.vlan.toNat⟩) := by
  have hpresent : c.networks.any (·.id == net.id) = true := by simp [hnetworks]
  have hdeactivate : c.take (.deactivate net.id) = (.ok (), { c with networks }) := by
    rw [Core.take, if_pos hpresent, hnetworks, Network.eraseP_concat hapart]
  have hdelete := Core.take_deleteRecord (c := { c with networks }) hget
  refine ⟨(Core.write { c with networks } (c.records.erase net.id)).2.registry.disk, ?_⟩
  rw [run_attempt hdeactivate, run_attempt hdelete]
  rfl

/-- The record is not written: the network is not realized. -/
theorem run_install_unwritten (hapart : c.networks.any (·.collidesWith net) = false)
    (hnone : c.records.get? net.id = none) {e : OverlayError} {disk : Disk}
    (hsave : c.registry.store.save tenantTable
      (TenantRecords.toJson (c.records.insert net.id (TenantRecord.new net.vni net.vlan)))
      c.registry.disk = (.error e, disk)) :
    ∃ disk', Core.run (install net) c = (.error e,
      ⟨{ c.registry with disk := disk' }, c.networks, c.vlans.release net.vlan.toNat⟩) := by
  have hinsert : Core.take (.insertRecord net) { c with networks := c.networks ++ [net] }
      = (.error e, _) := Core.write_eq hsave
  have hget : (c.records.insert net.id (TenantRecord.new net.vni net.vlan)).get? net.id
      = some (TenantRecord.new net.vni net.vlan) := by
    rw [KeyedTable.get?_insert_self]
  obtain ⟨disk', hundo⟩ := run_undo (c := ⟨{ c.registry with
    records := c.records.insert net.id (TenantRecord.new net.vni net.vlan), disk },
    c.networks ++ [net], c.vlans⟩) hapart rfl hget e
  have hrecords : (c.records.insert net.id (TenantRecord.new net.vni net.vlan)).erase net.id
      = c.registry.records := erase_insert_of_none hnone
  refine ⟨disk', ?_⟩
  unfold install
  rw [run_attempt (Core.take_activate_apart hapart)]
  show Core.run (attempt (.insertRecord net) >>= _) _ = _
  rw [run_attempt hinsert]
  refine hundo.trans (congrArg (fun records => (Except.error e, Core.mk
    { c.registry with records, disk := disk' } c.networks (c.vlans.release net.vlan.toNat))) ?_)
  exact hrecords

end

/-! ## §2. How attaching ends. -/

/-- **How attaching can end** where records, networks and VLANs are consistent, and what it
writes then. -/
inductive Attaching (id : String) (vni : UInt32) (pod : String) (c : Core) :
    Except OverlayError UInt16 → Core → Prop where
  /-- The network has a record, with another VNI. -/
  | refused {record : TenantRecord} {vlan : UInt16} (hget : c.records.get? id = some record)
      (hvlan : record.vlan = some vlan) (hvni : record.vni ≠ vni) :
      Attaching id vni pod c (.error (.networkExists id record.vni vlan)) c
  /-- The network has a record, with this VNI, and the pod is noted in it. -/
  | known {record : TenantRecord} {vlan : UInt16} {answer : Except OverlayError Unit}
      {disk : Disk} (hget : c.records.get? id = some record) (hvlan : record.vlan = some vlan)
      (hvni : record.vni = vni)
      (hsave : c.registry.store.save tenantTable
        (TenantRecords.toJson (c.records.insert id (record.addPod pod))) c.registry.disk
          = (answer, disk)) :
      Attaching id vni pod c (answer.map fun _ => vlan) { c with
        registry := { c.registry with records := c.records.insert id (record.addPod pod), disk } }
  /-- No VLAN is left. -/
  | exhausted {name : String} {limit : Nat} {later : IdSpace} (hnone : c.records.get? id = none)
      (hspace : c.vlans.allocate = (.error (.idExhausted name limit), later)) :
      Attaching id vni pod c (.error (.idExhausted name limit)) c
  /-- An active network has the VNI. -/
  | taken {vlan : UInt16} {later : IdSpace} (hnone : c.records.get? id = none)
      (htake : c.vlans.allocate = (.ok vlan.toNat, later))
      (hvni : ∃ net ∈ c.networks, net.vni = vni) :
      Attaching id vni pod c (.error (.networkExists id vni vlan))
        { c with vlans := later.release vlan.toNat }
  /-- The record of the network is not written. -/
  | unwritten {vlan : UInt16} {later : IdSpace} {path reason : String} {disk disk' : Disk}
      (hnone : c.records.get? id = none) (htake : c.vlans.allocate = (.ok vlan.toNat, later))
      (hvni : ∀ net ∈ c.networks, net.vni ≠ vni)
      (hfirst : c.registry.store.save tenantTable
        (TenantRecords.toJson (c.records.insert id (TenantRecord.new vni vlan))) c.registry.disk
          = (.error (.persistence path reason), disk)) :
      Attaching id vni pod c (.error (.persistence path reason))
        ⟨{ c.registry with disk := disk' }, c.networks, later.release vlan.toNat⟩
  /-- The network is active, and the pod is noted. -/
  | realized {vlan : UInt16} {later : IdSpace} {answer : Except OverlayError Unit}
      {disk disk' : Disk} (hnone : c.records.get? id = none)
      (htake : c.vlans.allocate = (.ok vlan.toNat, later))
      (hvni : ∀ net ∈ c.networks, net.vni ≠ vni)
      (hfirst : c.registry.store.save tenantTable
        (TenantRecords.toJson (c.records.insert id (TenantRecord.new vni vlan))) c.registry.disk
          = (.ok (), disk))
      (hsecond : c.registry.store.save tenantTable
        (TenantRecords.toJson (c.records.insert id ((TenantRecord.new vni vlan).addPod pod))) disk
          = (answer, disk')) :
      Attaching id vni pod c (answer.map fun _ => vlan)
        ⟨{ c.registry with
            records := c.records.insert id ((TenantRecord.new vni vlan).addPod pod),
            disk := disk' },
          c.networks ++ [⟨id, vni, vlan⟩], later⟩

section
variable {c c' : Core} {id pod : String} {vni : UInt32} {vlan : UInt16} {record : TenantRecord}

/-- Noting a pod of a network that has a record. -/
theorem run_note (hget : c.records.get? id = some record) {answer : Except OverlayError Unit}
    {disk : Disk}
    (hsave : c.registry.store.save tenantTable
      (TenantRecords.toJson (c.records.insert id (record.addPod pod))) c.registry.disk
        = (answer, disk)) :
    Core.run (call (.addPod id pod) >>= fun _ => pure vlan : Task UInt16) c
      = (answer.map fun _ => vlan, { c with
        registry := { c.registry with records := c.records.insert id (record.addPod pod), disk } })
    := by
  have hadd := (Core.take_addPod hget).trans (Core.write_eq hsave)
  cases answer with
  | ok u => exact (run_call_ok hadd _).trans (run_pure vlan)
  | error e => exact run_call_error hadd _

/-- Noting the pod for which a network was realized. -/
theorem run_note_realized {networks : List Network} {vlans : IdSpace}
    {answer : Except OverlayError Unit} {disk later : Disk}
    (hsave : c.registry.store.save tenantTable
      (TenantRecords.toJson (c.records.insert id ((TenantRecord.new vni vlan).addPod pod))) disk
        = (answer, later)) :
    Core.run (call (.addPod id pod) >>= fun _ => pure vlan : Task UInt16)
      ⟨{ c.registry with records := c.records.insert id (TenantRecord.new vni vlan), disk },
        networks, vlans⟩
      = (answer.map fun _ => vlan,
        ⟨{ c.registry with
            records := c.records.insert id ((TenantRecord.new vni vlan).addPod pod),
            disk := later }, networks, vlans⟩) := by
  have hget : (c.records.insert id (TenantRecord.new vni vlan)).get? id
      = some (TenantRecord.new vni vlan) := by
    rw [KeyedTable.get?_insert_self]
  rw [← KeyedTable.insert_insert c.records id (TenantRecord.new vni vlan)
    ((TenantRecord.new vni vlan).addPod pod)] at hsave ⊢
  exact run_note (c := ⟨{ c.registry with
    records := c.records.insert id (TenantRecord.new vni vlan), disk }, networks, vlans⟩) hget hsave

theorem boundVlan_refused (hvlan : record.vlan = some vlan) (hvni : record.vni ≠ vni)
    (id : String) : boundVlan id vni record = .error (.networkExists id record.vni vlan) := by
  rw [boundVlan, hvlan]
  exact if_neg hvni

theorem boundVlan_known (hvlan : record.vlan = some vlan) (hvni : record.vni = vni)
    (id : String) : boundVlan id vni record = .ok vlan := by
  rw [boundVlan, hvlan]
  exact if_pos hvni

theorem run_attach_refused (hget : c.records.get? id = some record)
    (hvlan : record.vlan = some vlan) (hvni : record.vni ≠ vni) :
    Core.run (attach id vni pod) c = (.error (.networkExists id record.vni vlan), c) := by
  unfold attach
  rw [run_ask, Core.take, hget]
  show Core.run (attach.liftExcept (boundVlan id vni record) >>= _) c = _
  rw [boundVlan_refused hvlan hvni]
  exact run_bind_error (run_throw _) _

theorem run_attach_known (hget : c.records.get? id = some record)
    (hvlan : record.vlan = some vlan) (hvni : record.vni = vni) :
    Core.run (attach id vni pod) c
      = Core.run (call (.addPod id pod) >>= fun _ => pure vlan : Task UInt16) c := by
  unfold attach
  rw [run_ask, Core.take, hget]
  show Core.run (attach.liftExcept (boundVlan id vni record) >>= _) c = _
  rw [boundVlan_known hvlan hvni]
  exact run_bind_ok (run_pure vlan) _

theorem run_attach_unknown (hnone : c.records.get? id = none) :
    Core.run (attach id vni pod) c = Core.run (realize id vni >>= fun vlan =>
      call (.addPod id pod) >>= fun _ => pure vlan : Task UInt16) c := by
  unfold attach
  rw [run_ask, Core.take, hnone]

/-- Below the limit of VLANs a number that is handed out fits into a packet. -/
theorem allocate_cases {vlans : IdSpace} (hlimit : vlans.limit = some vlanLimit) :
    (∃ name limit later, vlans.allocate = (.error (.idExhausted name limit), later)) ∨
      ∃ (vlan : UInt16) (later : IdSpace), vlans.allocate = (.ok vlan.toNat, later) := by
  cases htake : vlans.allocate with
  | mk answer later =>
      cases answer with
      | error e =>
          obtain ⟨name, limit, rfl⟩ := error_of_allocate htake
          exact Or.inl ⟨name, limit, later, rfl⟩
      | ok raw =>
          obtain ⟨-, hbelow, -⟩ := IdSpace.allocate_ok htake
          rw [IdSpace.isBelowLimit, hlimit] at hbelow
          have hlt : raw < 4095 := of_decide_eq_true hbelow
          have hsame : raw.toUInt16.toNat = raw := by
            simp only [Nat.toUInt16_eq, UInt16.toNat_ofNat']
            omega
          exact Or.inr ⟨raw.toUInt16, later, by rw [hsame]⟩

/-- **A new network with a free VLAN collides only by its VNI.** -/
theorem Consistent.collides_iff {fits : UInt16 → Prop} {v : View} (h : Consistent fits v)
    (hnone : v.records.get? id = none) (hfree : v.vlans.isAllocated vlan.toNat = false)
    (vni : UInt32) :
    v.networks.any (·.collidesWith ⟨id, vni, vlan⟩) = false ↔
      ∀ net ∈ v.networks, net.vni ≠ vni := by
  rw [List.any_eq_false]
  refine forall₂_congr fun net hnet => ?_
  rw [Bool.not_eq_true, Network.collidesWith_eq_false]
  have hid : net.id ≠ id := by
    rintro rfl
    obtain ⟨record, hget, -⟩ := h.recorded hnet
    rw [hnone] at hget
    cases hget
  have hvlan : net.vlan ≠ vlan := by
    rintro rfl
    rw [h.reserved hnet] at hfree
    cases hfree
  exact ⟨fun hapart => hapart.2.1, fun hvni => ⟨hid, hvni, hvlan⟩⟩

/-- A network without a record, for which a VLAN is left. -/
theorem run_attach_new (h : Consistent InRange c.view) (hnone : c.records.get? id = none)
    {later : IdSpace} (htake : c.vlans.allocate = (.ok vlan.toNat, later)) (pod : String) :
    Attaching id vni pod c (Core.run (attach id vni pod) c).1
      (Core.run (attach id vni pod) c).2 := by
  have hcollides := h.collides_iff hnone (IdSpace.isAllocated_of_allocate htake) vni
  have hrealize := run_realize_ok htake id vni
  rw [run_attach_unknown hnone]
  by_cases hvni : ∀ net ∈ c.networks, net.vni ≠ vni
  · have hapart := hcollides.2 hvni
    obtain ⟨first, disk, hfirst⟩ : ∃ first disk, c.registry.store.save tenantTable
        (TenantRecords.toJson (c.records.insert id (TenantRecord.new vni vlan)))
        c.registry.disk = (first, disk) := ⟨_, _, rfl⟩
    cases first with
    | error e =>
        obtain ⟨path, reason, rfl⟩ := c.registry.store.error_of_save hfirst
        obtain ⟨disk', hundone⟩ :=
          run_install_unwritten (c := { c with vlans := later }) hapart hnone hfirst
        rw [run_bind_error (hrealize.trans hundone)]
        exact .unwritten hnone htake hvni hfirst
    | ok u =>
        have hinstalled := run_install_written (c := { c with vlans := later }) hapart hfirst
        obtain ⟨second, disk', hsecond⟩ : ∃ second disk', c.registry.store.save tenantTable
            (TenantRecords.toJson (c.records.insert id ((TenantRecord.new vni vlan).addPod pod)))
            disk = (second, disk') := ⟨_, _, rfl⟩
        have hrealized := run_bind_ok (hrealize.trans hinstalled) fun vlan =>
          call (.addPod id pod) >>= fun _ => pure vlan
        rw [hrealized.trans (run_note_realized hsecond)]
        exact .realized hnone htake hvni hfirst hsecond
  · have hany := Bool.eq_true_of_not_eq_false (mt hcollides.1 hvni)
    have hrefused := run_install_collides (c := { c with vlans := later }) hany
    rw [run_bind_error (hrealize.trans hrefused)]
    exact .taken hnone htake (by simpa using hvni)

/-- **The list is complete.** -/
theorem run_attach (h : Consistent InRange c.view) (hlimit : c.vlans.limit = some vlanLimit)
    (id pod : String) (vni : UInt32) :
    Attaching id vni pod c (Core.run (attach id vni pod) c).1
      (Core.run (attach id vni pod) c).2 := by
  cases hget : c.records.get? id with
  | some record =>
      obtain ⟨vlan, hvlan, -⟩ := h.active hget
      by_cases hvni : record.vni = vni
      · rw [run_attach_known hget hvlan hvni, run_note hget rfl]
        exact .known hget hvlan hvni rfl
      · rw [run_attach_refused hget hvlan hvni]
        exact .refused hget hvlan hvni
  | none =>
      rcases allocate_cases hlimit with ⟨name, limit, later, hspace⟩ | ⟨vlan, later, htake⟩
      · rw [run_attach_unknown hget, run_bind_error (run_realize_error hspace id vni)]
        exact .exhausted hget hspace
      · exact run_attach_new h hget htake pod

end

/-! ## §3. What is reported. -/

/-- The snapshots that attaching writes if nothing else is in its way. -/
def attachSnapshots (c : Core) (id pod : String) (vni : UInt32) : List TenantRecords :=
  match c.records.get? id with
  | some record => [c.records.insert id (record.addPod pod)]
  | none =>
      let record := TenantRecord.new vni c.vlans.firstFree.toUInt16
      [c.records.insert id record, c.records.insert id (record.addPod pod)]

/-- The VLAN is answered if the snapshots are written, and that one could not be written if
they are not. -/
def AnswersIfWritten (vlan : UInt16) (written : Except OverlayError Unit)
    (outcome : Outcome UInt16) : Prop :=
  (written = .ok () → outcome = .done vlan) ∧
    (outcome.isUnwritten = true ↔ written ≠ .ok ())

section
variable {c c' : Core} {id pod : String} {vni : UInt32} {vlan : UInt16} {record : TenantRecord}
  {later : IdSpace} {answer : Except OverlayError UInt16}

theorem attachSnapshots_known (hget : c.records.get? id = some record) :
    attachSnapshots c id pod vni = [c.records.insert id (record.addPod pod)] := by
  rw [attachSnapshots, hget]

theorem attachSnapshots_new (hnone : c.records.get? id = none)
    (htake : c.vlans.allocate = (.ok vlan.toNat, later)) :
    attachSnapshots c id pod vni = [c.records.insert id (TenantRecord.new vni vlan),
      c.records.insert id ((TenantRecord.new vni vlan).addPod pod)] := by
  have hsame : c.vlans.firstFree.toUInt16 = vlan := by
    rw [← (IdSpace.allocate_ok htake).1]
    simp
  rw [attachSnapshots, hnone, hsame]

theorem answersIfWritten_map {written : Except OverlayError Unit} (h : WriteAnswer written) :
    AnswersIfWritten vlan written (.ofExcept (written.map fun _ => vlan)) := by
  rcases h with rfl | ⟨path, reason, rfl⟩
  · exact ⟨fun _ => rfl, iff_of_false nofun fun hne => hne rfl⟩
  · exact ⟨nofun, iff_of_true rfl nofun⟩

/-- **A network that has a record with this VNI.** -/
theorem Attaching.answers_known (h : Attaching id vni pod c answer c')
    (hget : c.records.get? id = some record) (hvlan : record.vlan = some vlan)
    (hvni : record.vni = vni) :
    AnswersIfWritten vlan (writeAll c.registry.store (attachSnapshots c id pod vni)
      c.registry.disk).1 (.ofExcept answer) := by
  cases h with
  | refused hfound _ hother =>
      rw [hget] at hfound
      cases hfound
      exact absurd hvni hother
  | known hfound hfoundVlan _ hsave =>
      rw [hget] at hfound
      cases hfound
      rw [hvlan] at hfoundVlan
      cases hfoundVlan
      rw [attachSnapshots_known hget, writeAll_single, hsave]
      exact answersIfWritten_map (writeAnswer_of_save hsave)
  | exhausted hnone _ | taken hnone _ _ | unwritten hnone _ _ _ | realized hnone _ _ _ _ =>
      rw [hget] at hnone
      cases hnone

/-- **No VLAN is left** for a network without a record. -/
theorem Attaching.answer_exhausted (h : Attaching id vni pod c answer c')
    (hnone : c.records.get? id = none) {e : OverlayError}
    (hspace : c.vlans.allocate = (.error e, later)) : answer = .error e := by
  cases h with
  | refused hget _ _ | known hget _ _ _ =>
      rw [hnone] at hget
      cases hget
  | exhausted _ hspace' =>
      rw [hspace] at hspace'
      cases hspace'
      rfl
  | taken _ htake _ | unwritten _ htake _ _ | realized _ htake _ _ _ =>
      rw [hspace] at htake
      cases htake

/-- **An active network has the VNI** of a network without a record. -/
theorem Attaching.answer_taken (h : Attaching id vni pod c answer c')
    (hnone : c.records.get? id = none) (htake : c.vlans.allocate = (.ok vlan.toNat, later))
    (hvni : ∃ net ∈ c.networks, net.vni = vni) :
    answer = .error (.networkExists id vni vlan) := by
  obtain ⟨net, hnet, hsame⟩ := hvni
  cases h with
  | refused hget _ _ | known hget _ _ _ =>
      rw [hnone] at hget
      cases hget
  | exhausted _ hspace =>
      rw [htake] at hspace
      cases hspace
  | taken _ htake' _ =>
      rw [htake] at htake'
      rw [UInt16.toNat_inj.1 (Except.ok.inj (Prod.mk.inj htake').1)]
  | unwritten _ _ hunused _ | realized _ _ hunused _ _ => exact absurd hsame (hunused net hnet)

/-- **No active network has the VNI** of a network without a record. -/
theorem Attaching.answers_new (h : Attaching id vni pod c answer c')
    (hnone : c.records.get? id = none) (htake : c.vlans.allocate = (.ok vlan.toNat, later))
    (hvni : ∀ net ∈ c.networks, net.vni ≠ vni) :
    AnswersIfWritten vlan (writeAll c.registry.store (attachSnapshots c id pod vni)
      c.registry.disk).1 (.ofExcept answer) := by
  rw [attachSnapshots_new hnone htake, writeAll]
  cases h with
  | refused hget _ _ | known hget _ _ _ =>
      rw [hnone] at hget
      cases hget
  | exhausted _ hspace =>
      rw [htake] at hspace
      cases hspace
  | taken _ _ hused =>
      obtain ⟨net, hnet, hsame⟩ := hused
      exact absurd hsame (hvni net hnet)
  | unwritten _ htake' _ hfirst =>
      rw [htake] at htake'
      obtain rfl := UInt16.toNat_inj.1 (Except.ok.inj (Prod.mk.inj htake').1)
      rw [hfirst]
      exact answersIfWritten_map (Or.inr ⟨_, _, rfl⟩)
  | realized _ htake' _ hfirst hsecond =>
      rw [htake] at htake'
      obtain rfl := UInt16.toNat_inj.1 (Except.ok.inj (Prod.mk.inj htake').1)
      rw [hfirst]
      show AnswersIfWritten vlan (writeAll c.registry.store [_] _).1 _
      rw [writeAll_single, hsecond]
      exact answersIfWritten_map (writeAnswer_of_save hsecond)

theorem AnswersIfWritten.ne_failed {written : Except OverlayError Unit}
    {outcome : Outcome UInt16} (h : AnswersIfWritten vlan written outcome) {e : OverlayError}
    (hother : (Outcome.failed e : Outcome UInt16).isUnwritten = false) :
    outcome ≠ .failed e := by
  rintro rfl
  by_cases hwritten : written = .ok ()
  · cases h.1 hwritten
  · rw [h.2.2 hwritten] at hother
    cases hother

/-- What a failed write is. -/
theorem persistence_of_map {written : Except OverlayError Unit} (h : WriteAnswer written)
    {e : OverlayError} (he : (written.map fun _ => vlan) = .error e) :
    ∃ path reason, e = .persistence path reason := by
  rcases h with rfl | ⟨path, reason, rfl⟩
  · cases he
  · exact ⟨path, reason, (Except.error.inj he).symm⟩

/-- **What can be reported**: nothing else than these three. -/
theorem Attaching.kinds (h : Attaching id vni pod c answer c') {e : OverlayError}
    (he : answer = .error e) : (∃ name limit, e = .idExhausted name limit) ∨
      (∃ vni' vlan, e = .networkExists id vni' vlan) ∨
      ∃ path reason, e = .persistence path reason := by
  cases h with
  | refused _ _ _ => exact Or.inr (Or.inl ⟨_, _, (Except.error.inj he).symm⟩)
  | known _ _ _ hsave =>
      exact Or.inr (Or.inr (persistence_of_map (writeAnswer_of_save hsave) he))
  | exhausted _ _ => exact Or.inl ⟨_, _, (Except.error.inj he).symm⟩
  | taken _ _ _ => exact Or.inr (Or.inl ⟨_, _, (Except.error.inj he).symm⟩)
  | unwritten _ _ _ _ => exact Or.inr (Or.inr ⟨_, _, (Except.error.inj he).symm⟩)
  | realized _ _ _ _ hsecond =>
      exact Or.inr (Or.inr (persistence_of_map (writeAnswer_of_save hsecond) he))

/-! ## §4. What is left. -/

/-- **What a failure leaves**, unless it is that of the last snapshot. -/
theorem Attaching.undone (h : Attaching id vni pod c answer c') {e : OverlayError}
    (he : answer = .error e)
    (hlast : (∃ path reason, e = .persistence path reason) →
      (writeAll c.registry.store (attachSnapshots c id pod vni).dropLast
        c.registry.disk).1 ≠ .ok ()) :
    c'.records = c.records ∧ c'.networks = c.networks ∧
      ∀ n, c'.vlans.isAllocated n = c.vlans.isAllocated n := by
  cases h with
  | refused _ _ _ | exhausted _ _ => exact ⟨rfl, rfl, fun n => rfl⟩
  | known hget _ _ hsave =>
      rw [attachSnapshots_known hget] at hlast
      exact absurd rfl (hlast (persistence_of_map (writeAnswer_of_save hsave) he))
  | taken _ htake _ => exact ⟨rfl, rfl, IdSpace.isAllocated_release_of_allocate htake⟩
  | unwritten _ htake _ _ => exact ⟨rfl, rfl, IdSpace.isAllocated_release_of_allocate htake⟩
  | realized hnone htake _ hfirst hsecond =>
      refine absurd ?_ (hlast (persistence_of_map (writeAnswer_of_save hsecond) he))
      rw [attachSnapshots_new hnone htake]
      show (writeAll c.registry.store [_] _).1 = _
      rw [writeAll_single, hfirst]

/-! ## §5. The VLANs that are left. -/

/-- **All VLANs in range are taken** exactly if none is handed out. -/
theorem InBounds.full_iff {v : View} (h : InBounds v) :
    (∃ e later, v.vlans.allocate = (.error e, later)) ↔
      ∀ n, 1 ≤ n → n ≤ 4094 → v.vlans.isAllocated n = true := by
  constructor
  · rintro ⟨e, later, hspace⟩ n - hn
    have habove := (IdSpace.allocate_error hspace).2
    rw [IdSpace.isBelowLimit, h.limit] at habove
    have hfirst : ¬ v.vlans.firstFree < 4095 := of_decide_eq_false habove
    exact IdSpace.isAllocated_of_lt_firstFree (by omega)
  · intro hfull
    rcases allocate_cases h.limit with ⟨name, limit, later, hspace⟩ | ⟨vlan, later, htake⟩
    · exact ⟨_, _, hspace⟩
    · obtain ⟨hpositive, hsmall⟩ := h.inRange_of_allocate htake
      have htaken := hfull vlan.toNat hpositive hsmall
      rw [IdSpace.isAllocated_of_allocate htake] at htaken
      cases htaken

/-- **What is handed out is the least free VLAN in range.** -/
theorem InBounds.isLeast_of_allocate {v : View} (h : InBounds v)
    (htake : v.vlans.allocate = (.ok vlan.toNat, later)) :
    IsLeast {n | 1 ≤ n ∧ n ≤ 4094 ∧ v.vlans.isAllocated n = false} vlan.toNat := by
  obtain ⟨hpositive, hsmall⟩ := h.inRange_of_allocate htake
  have hleast := v.vlans.isLeast_firstFree
  rw [← (IdSpace.allocate_ok htake).1] at hleast
  exact ⟨⟨hpositive, hsmall, hleast.1⟩, fun n hn => hleast.2 hn.2.2⟩

/-- **A network without a record**: which failure is reported, and when. -/
theorem Attaching.outcome_new (h : Attaching id vni pod c answer c') (hbounds : InBounds c.view)
    (hnone : c.records.get? id = none) :
    ((∃ name limit, Outcome.ofExcept answer = .failed (.idExhausted name limit)) ↔
      ∀ n, 1 ≤ n → n ≤ 4094 → c.vlans.isAllocated n = true) ∧
    ((∃ n, 1 ≤ n ∧ n ≤ 4094 ∧ c.vlans.isAllocated n = false) → ∃ vlan : UInt16,
      IsLeast {n | 1 ≤ n ∧ n ≤ 4094 ∧ c.vlans.isAllocated n = false} vlan.toNat ∧
      (Outcome.ofExcept answer = .failed (.networkExists id vni vlan) ↔
        ∃ net ∈ c.networks, net.vni = vni) ∧
      ((∀ net ∈ c.networks, net.vni ≠ vni) →
        AnswersIfWritten vlan (writeAll c.registry.store (attachSnapshots c id pod vni)
          c.registry.disk).1 (.ofExcept answer))) := by
  have hfull := hbounds.full_iff
  rcases allocate_cases hbounds.limit with ⟨name, limit, later, hspace⟩ | ⟨vlan, later, htake⟩
  · have hanswer := h.answer_exhausted hnone hspace
    have hall := hfull.1 ⟨_, _, hspace⟩
    refine ⟨iff_of_true ⟨name, limit, by rw [hanswer]; rfl⟩ hall, ?_⟩
    rintro ⟨n, hpositive, hsmall, hfree⟩
    have htaken : c.vlans.isAllocated n = true := hall n hpositive hsmall
    rw [hfree] at htaken
    cases htaken
  · have hleast := hbounds.isLeast_of_allocate htake
    have hnotFull : ¬ ∀ n, 1 ≤ n → n ≤ 4094 → c.vlans.isAllocated n = true := by
      intro hall
      obtain ⟨e, later', hspace⟩ := hfull.2 hall
      have htake' : c.view.vlans.allocate = (.ok vlan.toNat, later) := htake
      rw [hspace] at htake'
      cases htake'
    by_cases hvni : ∃ net ∈ c.networks, net.vni = vni
    · have hanswer := h.answer_taken hnone htake hvni
      refine ⟨iff_of_false ?_ hnotFull, fun _ => ⟨vlan, hleast, iff_of_true ?_ hvni, ?_⟩⟩
      · rintro ⟨name, limit, hexhausted⟩
        rw [hanswer] at hexhausted
        cases hexhausted
      · rw [hanswer]
        rfl
      · obtain ⟨net, hnet, hsame⟩ := hvni
        exact fun hunused => absurd hsame (hunused net hnet)
    · have hunused : ∀ net ∈ c.networks, net.vni ≠ vni :=
        fun net hnet hsame => hvni ⟨net, hnet, hsame⟩
      have hanswers := h.answers_new hnone htake hunused
      refine ⟨iff_of_false ?_ hnotFull, fun _ => ⟨vlan, hleast, iff_of_false ?_ hvni,
        fun _ => hanswers⟩⟩
      · rintro ⟨name, limit, hexhausted⟩
        exact hanswers.ne_failed rfl hexhausted
      · exact hanswers.ne_failed rfl

end

/-! ## §6. On a node. -/

variable {σ : Type} [CommandRunner σ]

omit [CommandRunner σ] in
theorem inBounds_fresh (store : TableStore) (host : Host σ) (disk : Disk) :
    InBounds (starting host { store, disk }).view where
  networks hnet := absurd hnet List.not_mem_nil
  records hget := by cases hget
  untagged := (Process.isAllocated_freshVlans 0).2 rfl
  limit := rfl

/-- A node that refuses another VNI is not touched at all. -/
theorem runTask_attach_refused (settings : MeshSettings) {node : Node σ} {id : String}
    {record : TenantRecord} {vlan : UInt16} {vni : UInt32} (pod : String)
    (hget : node.registry.records.get? id = some record) (hvlan : record.vlan = some vlan)
    (hvni : record.vni ≠ vni) :
    runTask settings (attach id vni pod) node
      = (.failed (.networkExists id record.vni vlan), node) := by
  have hlookUp : perform settings (.lookUp id) node = (.done (some record), node) := by
    show (Outcome.done (node.registry.records.get? id), node) = _
    rw [hget]
  have hrun : Procedure.run (perform settings) (attach id vni pod).run node
      = (.done (.error (.networkExists id record.vni vlan)), node) := by
    unfold attach
    refine (Operation.bind_done hlookUp).trans ?_
    show Procedure.run (perform settings)
      (attach.liftExcept (boundVlan id vni record) >>= _ : Task UInt16).run node = _
    rw [boundVlan_refused hvlan hvni]
    rfl
  rw [runTask, Operation.bind_done hrun]
  rfl

/-- **What an attach answers, and what is left when it fails**, after any requests, whatever
each write and each command of the switch has answered.  For a network that has a record: with
another VNI it reports the VNI and the VLAN of the record, and the node is as before; with this
VNI it answers the VLAN of the record if its snapshot is written, and that it is not if it is
not.  For a network without one it reports that VLANs are exhausted exactly if all in range are
taken; otherwise it is about the least free one, and reports that the network exists exactly if
an active network has the VNI; otherwise it answers that VLAN if its two snapshots are written,
and that one is not if it is not.  No other failure is reported.  And a failure leaves records,
networks and VLANs as they were, unless it is that of the last snapshot, with all before it
written. -/
theorem attach_outcome (settings : MeshSettings) (host : Host σ) (store : TableStore)
    (disk : Disk) (requests : List Request) (id : String) (vni : UInt32) (ns name : String) :
    let node := requests.foldl (serve settings) (starting host { store, disk })
    let result := runTask settings (attach id vni (podKey ns name)) node
    let snapshots := attachSnapshots node.core id (podKey ns name) vni
    let written := (writeAll node.registry.store snapshots node.registry.disk).1
    (∀ record, node.registry.records.get? id = some record → ∃ vlan, record.vlan = some vlan ∧
      (record.vni ≠ vni → result = (.failed (.networkExists id record.vni vlan), node)) ∧
      (record.vni = vni → AnswersIfWritten vlan written result.1)) ∧
    (node.registry.records.get? id = none →
      ((∃ name limit, result.1 = .failed (.idExhausted name limit)) ↔
        ∀ n, 1 ≤ n → n ≤ 4094 → node.vlans.isAllocated n = true) ∧
      ((∃ n, 1 ≤ n ∧ n ≤ 4094 ∧ node.vlans.isAllocated n = false) → ∃ vlan : UInt16,
        IsLeast {n | 1 ≤ n ∧ n ≤ 4094 ∧ node.vlans.isAllocated n = false} vlan.toNat ∧
        (result.1 = .failed (.networkExists id vni vlan) ↔
          ∃ net ∈ node.mesh.networks, net.vni = vni) ∧
        ((∀ net ∈ node.mesh.networks, net.vni ≠ vni) →
          AnswersIfWritten vlan written result.1))) ∧
    (result.1 ≠ .abandoned ∧ ∀ e, result.1 = .failed e →
      (∃ name limit, e = .idExhausted name limit) ∨
      (∃ vni' vlan, e = .networkExists id vni' vlan) ∨
      ∃ path reason, e = .persistence path reason) ∧
    ∀ e, result.1 = .failed e →
      ¬ (result.1.isUnwritten = true ∧
        (writeAll node.registry.store snapshots.dropLast node.registry.disk).1 = .ok ()) →
      result.2.registry.records = node.registry.records ∧
        result.2.mesh.networks = node.mesh.networks ∧
        ∀ n, result.2.vlans.isAllocated n = node.vlans.isAllocated n := by
  intro node result snapshots written
  have hconsistent : Consistent InRange node.core.view :=
    (serve_all_accounted settings requests (accounted_fresh store host disk)).consistent
  have hbounds : InBounds node.core.view :=
    serve_all_inBounds settings requests (inBounds_fresh store host disk)
  obtain ⟨answer, node', hresult, hends⟩ : ∃ answer node', result = (.ofExcept answer, node') ∧
      Attaching id vni (podKey ns name) node.core answer node'.core := by
    obtain ⟨node', hrun, hcore⟩ := runTask_core settings (attach id vni (podKey ns name)) node
    have hends := run_attach hconsistent hbounds.limit id (podKey ns name) vni
    rw [← hcore] at hends
    exact ⟨_, node', hrun, hends⟩
  have herror : ∀ {e}, result.1 = .failed e → answer = .error e := by
    intro e he
    rw [hresult] at he
    cases answer with
    | ok vlan => cases he
    | error e' => exact congrArg Except.error (Outcome.failed.inj he)
  refine ⟨fun record hget => ?known, fun hnone => ?new,
    ⟨?ends, fun e he => hends.kinds (herror he)⟩, fun e he hlast => ?left⟩
  case known =>
    obtain ⟨vlan, hvlan, -⟩ := hconsistent.active hget
    refine ⟨vlan, hvlan, fun hvni => runTask_attach_refused settings _ hget hvlan hvni,
      fun hvni => ?_⟩
    rw [hresult]
    exact hends.answers_known hget hvlan hvni
  case new =>
    rw [hresult]
    exact hends.outcome_new hbounds hnone
  case ends =>
    rw [hresult]
    cases answer <;> exact nofun
  case left =>
    have hundone := hends.undone (herror he) fun hpersistence hdone => hlast ⟨?_, hdone⟩
    · rw [hresult]
      exact hundone
    · obtain ⟨path, reason, rfl⟩ := hpersistence
      rw [he]
      rfl

/-- If the first snapshot fails, nothing is left of the network; if the second does, it stays
active. -/
example :
    let attached := fun faults => runTask hostSettings (attach "net-A" 100 (podKey "ns" "p"))
      (starting recordingHost { store := ⟨"state"⟩, disk := { faults } })
    let first := attached [some ⟨.stage, .isDirectory⟩]
    let second := attached [none, some ⟨.stage, .isDirectory⟩]
    first.1.isUnwritten = true ∧ first.2.mesh.networks = [] ∧ first.2.vlans.allocated = [0] ∧
      second.1.isUnwritten = true ∧ second.2.mesh.networks = [⟨"net-A", 100, 1⟩] ∧
      second.2.vlans.allocated = [0, 1] := by
  decide +kernel

end VxlanMesh.Node
