/-
  VxlanMesh.Proofs.Tenant.VlanRange
  ────────────────────────────────
  **WHICH VLANS CAN COME UP AFTER A RESTART.**

  What is handed out lies below the limit, but a VLAN also comes from the
  text of a record, and no bound is put on it there.  A restart from any
  records whatsoever is therefore legal exactly if every record that names
  a VLAN out of range was refused, and if none of them gave zero back.
  Requests then keep what is legal so.

      InBounds.attached, .detached     however a request ends
      Restored.legal_iff               when a restart is legal
      legal_vlans_after_restore        the main result
-/
import VxlanMesh.Proofs.Tenant.Lifetime

namespace VxlanMesh.Node

/-! ## §1. The invariant. -/

/-- Active networks and records have VLANs in range, and zero is not handed out. -/
structure InBounds (v : View) : Prop where
  networks : ∀ {net}, net ∈ v.networks → InRange net.vlan
  records : ∀ {id record vlan}, v.records.get? id = some record → record.vlan = some vlan →
    InRange vlan
  untagged : v.vlans.isAllocated 0 = true
  limit : v.vlans.limit = some vlanLimit

section
variable {v v' : View} {id pod : String} {vni : UInt32}

theorem InBounds.insert (h : InBounds v) {record : TenantRecord}
    (hrecord : ∀ {vlan}, record.vlan = some vlan → InRange vlan) (id : String) :
    InBounds { v with records := v.records.insert id record } where
  networks := h.networks
  records {other found vlan} hget hvlan := by
    rw [KeyedTable.get?_insert] at hget
    split at hget
    · cases hget
      exact hrecord hvlan
    · exact h.records hget hvlan
  untagged := h.untagged
  limit := h.limit

/-- A record that keeps its VLAN. -/
theorem InBounds.change (h : InBounds v) {record changed : TenantRecord}
    (hget : v.records.get? id = some record) (hvlan : changed.vlan = record.vlan) :
    InBounds { v with records := v.records.insert id changed } :=
  h.insert (fun hchanged => h.records hget (hvlan.symm.trans hchanged)) id

theorem InBounds.erase (h : InBounds v) (id : String) :
    InBounds ⟨v.records.erase id, v.networks.eraseP (·.id == id), v.vlans⟩ where
  networks hnet := h.networks (List.mem_of_mem_eraseP hnet)
  records {other found vlan} hget hvlan := by
    rw [KeyedTable.get?_erase] at hget
    split at hget
    · cases hget
    · exact h.records hget hvlan
  untagged := h.untagged
  limit := h.limit

/-- VLANs of which the same numbers are taken. -/
theorem InBounds.changeVlans (h : InBounds v) {vlans : IdSpace}
    (hlimit : vlans.limit = v.vlans.limit)
    (htaken : ∀ n, vlans.isAllocated n = v.vlans.isAllocated n) :
    InBounds { v with vlans } where
  networks := h.networks
  records := h.records
  untagged := (htaken 0).trans h.untagged
  limit := hlimit.trans h.limit

/-- A VLAN that was taken and given back. -/
theorem InBounds.giveBack (h : InBounds v) {later : IdSpace} {raw : Nat}
    (htake : v.vlans.allocate = (.ok raw, later)) :
    InBounds { v with vlans := later.release raw } :=
  h.changeVlans (limit_of_allocate htake) (IdSpace.isAllocated_release_of_allocate htake)

/-! ## §2. Requests. -/

/-- **What is handed out is in range**: it was free, so it is not zero, and it lies below
the limit. -/
theorem InBounds.inRange_of_allocate (h : InBounds v) {vlan : UInt16} {later : IdSpace}
    (htake : v.vlans.allocate = (.ok vlan.toNat, later)) : InRange vlan := by
  obtain ⟨-, hbelow, -, -⟩ := IdSpace.allocate_ok htake
  exact Process.inRange_of_spare h.limit h.untagged hbelow (IdSpace.isAllocated_of_allocate htake)

theorem inRange_of_new {vlan : UInt16} (hrange : InRange vlan) (vni : UInt32) {found : UInt16}
    (hfound : (TenantRecord.new vni vlan).vlan = some found) : InRange found := by
  rw [TenantRecord.vlan_new] at hfound
  cases hfound
  exact hrange

/-- **Realizing a network.** -/
theorem InBounds.realized {result : Except OverlayError UInt16} (h : InBounds v)
    (hnone : v.records.get? id = none) (hend : Realized id vni v result v') :
    InBounds v' ∧ ∀ vlan, result = .ok vlan → InRange vlan := by
  cases hend with
  | exhausted hspace => exact ⟨h, fun _ => nofun⟩
  | unfit htake _ _ | taken htake _ =>
      exact ⟨h.giveBack htake, fun _ => nofun⟩
  | unwritten path reason htake hapart =>
      rw [erase_insert_of_none hnone]
      exact ⟨h.giveBack htake, fun _ => nofun⟩
  | @active vlan later htake hapart =>
      have hrange := h.inRange_of_allocate htake
      obtain ⟨-, -, hlimit, htaken⟩ := IdSpace.allocate_ok htake
      have hinserted := h.insert (fun hvlan => inRange_of_new hrange vni hvlan) id
      refine ⟨⟨fun hnet => ?_, hinserted.records, ?_, hlimit.trans h.limit⟩, fun found hok => ?_⟩
      · rcases List.mem_append.1 hnet with hnet | hnet
        · exact h.networks hnet
        · rw [List.mem_singleton.1 hnet]
          exact hrange
      · rw [htaken, h.untagged, Bool.or_true]
      · cases hok
        exact hrange

/-- **Attaching a pod**, however it ends: what was in bounds is, and so is the answer. -/
theorem InBounds.attached {answer : Except OverlayError UInt16} (h : InBounds v)
    (hend : Attached id vni pod v answer v') :
    InBounds v' ∧ ∀ vlan, answer = .ok vlan → InRange vlan := by
  -- A write that fails answers no VLAN.
  have hanswer : ∀ {vlan : UInt16}, InRange vlan → Noted vlan answer →
      ∀ found, answer = .ok found → InRange found := by
    rintro vlan hrange (rfl | ⟨path, reason, rfl⟩) found hok
    · cases hok
      exact hrange
    · cases hok
  cases hend with
  | refused hget hbound => exact ⟨h, fun _ => nofun⟩
  | @known record vlan _ hget hbound hnoted =>
      refine ⟨h.change hget rfl, hanswer ?_ hnoted⟩
      rw [boundVlan] at hbound
      split at hbound
      · cases hbound
      · rename_i found hvlan
        split at hbound
        · cases hbound
          exact h.records hget hvlan
        · cases hbound
  | unrealized hnone hend => exact ⟨(h.realized hnone hend).1, fun _ => nofun⟩
  | realized hnone hend hnoted =>
      obtain ⟨hrealized, hrange⟩ := h.realized hnone hend
      exact ⟨hrealized.change hend.record_of_ok rfl, hanswer (hrange _ rfl) hnoted⟩

/-- **Detaching a pod**, however it ends: the VLAN that is given back is that of a record,
so it is not zero. -/
theorem InBounds.detached {answer : Except OverlayError Bool} (h : InBounds v)
    (hend : Detached id pod v answer v') : InBounds v' := by
  cases hend with
  | unknown hnone => exact h
  | unwritten path reason hget => exact h.change hget rfl
  | left hget hused => exact h.change hget rfl
  | stranded path reason hget hunused => exact h.erase id
  | @tornDown record hget hunused =>
      rw [releasedOf]
      split
      · rename_i vlan hvlan
        have hpositive : 0 ≠ vlan.toNat := Nat.ne_of_lt (h.records hget hvlan).1
        have hkept : (v.vlans.release vlan.toNat).isAllocated 0 = true := by
          rw [IdSpace.isAllocated_release, h.untagged, bne_iff_ne.2 hpositive, Bool.and_true]
        exact ⟨(h.erase id).networks, (h.erase id).records, hkept, h.limit⟩
      · exact h.erase id

end

variable {σ : Type} [CommandRunner σ]

/-- **One request.** -/
theorem serve_inBounds (settings : MeshSettings) {node : Node σ} (h : InBounds node.view)
    (request : Request) : InBounds (serve settings node request).view := by
  cases request with
  | attach id vni ns name =>
      obtain ⟨answer, node', hrun, hends⟩ := runTask_attach settings node id (podKey ns name) vni
      rw [serve, hrun]
      exact (h.attached hends).1
  | detach id ns name =>
      obtain ⟨answer, node', hrun, hends⟩ := runTask_detach settings node id (podKey ns name)
      rw [serve, hrun]
      exact h.detached hends
  | sync topology =>
      rw [serve, view_sync]
      exact h

/-- **Any number of requests.** -/
theorem serve_all_inBounds (settings : MeshSettings) (requests : List Request) :
    ∀ {node : Node σ}, InBounds node.view →
      InBounds (requests.foldl (serve settings) node).view := by
  induction requests with
  | nil => intro node h; exact h
  | cons request rest ih => intro node h; exact ih (serve_inBounds settings h request)

/-! ## §3. After a restart. -/

/-- The VLANs of the active networks are in range, and zero is not handed out. -/
structure LegalVlans (node : Node σ) : Prop where
  active : ∀ net ∈ node.mesh.networks, InRange net.vlan
  untagged : node.vlans.isAllocated 0 = true

/-- The record did no harm although it names a VLAN out of range: its network is not active,
and if it names zero, which is given back with a record that nobody uses or that no other one
shares it with, it has pods and is not alone. -/
def Harmless (records : TenantRecords) (active : List Network) (id : String)
    (record : TenantRecord) (vlan : UInt16) : Prop :=
  (∀ net ∈ active, net.id ≠ id) ∧
    (vlan = 0 → record.isUnused = false ∧ ∃ other shared,
      records.get? other = some shared ∧ other ≠ id ∧ shared.vlan = some 0)

theorem not_inRange_zero : ¬ InRange 0 := fun h => absurd h.1 (by decide)

omit [CommandRunner σ] in
/-- **When a restart is legal**: every record that names a VLAN out of range did no harm. -/
theorem Restored.legal_iff {records : TenantRecords} {node : Node σ}
    (h : Restored records Station.freshVlans node.view) : LegalVlans node ↔
      ∀ id record vlan, records.get? id = some record → record.vlan = some vlan →
        ¬ InRange vlan → Harmless records node.mesh.networks id record vlan := by
  constructor
  · intro hlegal id record vlan hget hvlan hout
    have hinactive : ∀ net ∈ node.mesh.networks, net.id ≠ id := by
      rintro net hnet rfl
      obtain ⟨found, hfound, -, -, hnetVlan, -⟩ := h.record hnet
      rw [hget] at hfound
      cases hfound
      rw [hvlan] at hnetVlan
      cases hnetVlan
      exact hout (hlegal.active net hnet)
    refine ⟨hinactive, ?_⟩
    rintro rfl
    -- Zero is still taken, so this record has not given it back.
    have hkept := ((h.taken 0).1 hlegal.untagged).2
    have hfrees : ¬ Frees records node.mesh.networks id record 0 := fun hfrees =>
      hkept ⟨id, record, KeyedTable.mem_entries_iff.2 hget, hfrees⟩
    rw [frees_iff hvlan] at hfrees
    refine ⟨Bool.eq_false_iff.2 fun hunused => hfrees ⟨rfl, Or.inl hunused⟩, ?_⟩
    by_contra hnot
    have halone : isShared records id 0 = false := isShared_eq_false.2
      fun other shared hother hne hsame => hnot ⟨other, shared, hother, hne, hsame⟩
    exact hfrees ⟨rfl, Or.inr ⟨hinactive, halone⟩⟩
  · intro hall
    refine ⟨fun net hnet => ?_, (h.taken 0).2 ⟨?_, ?_⟩⟩
    · obtain ⟨record, hget, -, -, hvlan, -⟩ := h.record hnet
      by_contra hout
      exact (hall net.id record net.vlan hget hvlan hout).1 net hnet rfl
    · exact (IdSpace.isAllocated_seed _ _ _).2
        (Or.inr ((Process.isAllocated_freshVlans 0).2 rfl))
    · rintro ⟨id, record, hmem, vlan, hvlan, hzero, hcause⟩
      have hget := KeyedTable.mem_entries_iff.1 hmem
      have hsame : vlan = 0 := UInt16.toNat_inj.1 hzero
      subst hsame
      obtain ⟨hused, other, shared, hother, hne, hshared⟩ :=
        (hall id record 0 hget hvlan not_inRange_zero).2 rfl
      rcases hcause with hunused | ⟨-, hunshared⟩
      · rw [hused] at hunused
        cases hunused
      · exact isShared_eq_false.1 hunshared other shared hother hne hshared

omit [CommandRunner σ] in
/-- A record that is left is that of an active network, so it is in bounds as well. -/
theorem Restored.inBounds {records : TenantRecords} {node : Node σ}
    (h : Restored records Station.freshVlans node.view) (hlegal : LegalVlans node) :
    InBounds node.view where
  networks hnet := hlegal.active _ hnet
  records {id record vlan} hget hvlan := by
    obtain ⟨hold, hactive⟩ := (h.left id record).1 hget
    obtain ⟨net, hnet, rfl⟩ := hactive ⟨(id, record), KeyedTable.mem_entries_iff.2 hold, rfl⟩
    obtain ⟨found, hfound, -, -, hnetVlan, -⟩ := h.record hnet
    rw [hold] at hfound
    cases hfound
    rw [hvlan] at hnetVlan
    cases hnetVlan
    exact hlegal.active net hnet
  untagged := hlegal.untagged
  limit := h.limit

/-- **Legal VLANs after a restart.**  The records on disk are any, and so is what the switch
and the disk answer, then and later.  VLANs are legal right after the restart exactly if each
record that names one out of range did no harm; and if they are, they stay so after any
requests, and attaching answers a VLAN in range. -/
theorem legal_vlans_after_restore (settings : MeshSettings) {node node' : Node σ} {count : Nat}
    (hvlans : node.vlans = Station.freshVlans) (hnone : node.mesh.networks = [])
    (hrestore : runTask settings restore node = (.done count, node')) :
    (LegalVlans node' ↔ ∀ id record vlan, node.registry.records.get? id = some record →
      record.vlan = some vlan → ¬ InRange vlan →
        Harmless node.registry.records node'.mesh.networks id record vlan) ∧
    (LegalVlans node' → ∀ requests : List Request,
      let later := requests.foldl (serve settings) node'
      LegalVlans later ∧ ∀ (id : String) (vni : UInt32) (ns name : String) (vlan : UInt16),
        (runTask settings (attach id vni (podKey ns name)) later).1 = .done vlan →
          InRange vlan) := by
  have hrestored := restored_of_done settings hnone hrestore
  rw [hvlans] at hrestored
  refine ⟨hrestored.legal_iff, fun hlegal requests => ?_⟩
  have hlater := serve_all_inBounds settings requests (hrestored.inBounds hlegal)
  refine ⟨⟨fun net hnet => hlater.networks hnet, hlater.untagged⟩, ?_⟩
  intro id vni ns name vlan hdone
  obtain ⟨answer, last, hattach, hends⟩ := runTask_attach settings
    (requests.foldl (serve settings) node') id (podKey ns name) vni
  rw [hattach] at hdone
  refine (hlater.attached hends).2 vlan ?_
  cases answer with
  | ok found => exact congrArg Except.ok (Outcome.done.inj hdone)
  | error e => cases hdone

/-- Two records that name VLANs in range come up, and nothing that is asked later changes
that all VLANs are legal. -/
theorem legal_vlans_after_restore_two :
    let node := loadedNode { vni := 200, vlanText := "2", pods := KeySet.ofList ["ns:q"] }
    ∃ node', runTask hostSettings restore node = (.done 2, node') ∧
      ∀ requests : List Request, LegalVlans (requests.foldl (serve hostSettings) node') := by
  intro node
  obtain ⟨hdone, hactive, huntagged⟩ :
      (runTask hostSettings restore node).1 = .done 2 ∧
        (∀ net ∈ (runTask hostSettings restore node).2.mesh.networks,
          1 ≤ net.vlan.toNat ∧ net.vlan.toNat ≤ 4094) ∧
        (runTask hostSettings restore node).2.vlans.isAllocated 0 = true := by decide +kernel
  cases hrestore : runTask hostSettings restore node with
  | mk outcome node' =>
      rw [hrestore] at hdone hactive huntagged
      cases hdone
      have hlegal : LegalVlans node' := ⟨hactive, huntagged⟩
      have hafter := legal_vlans_after_restore hostSettings rfl rfl hrestore
      exact ⟨node', rfl, fun requests => (hafter.2 hlegal requests).1⟩

/-- A record without pods that names VLAN 0 gives it back, and the next network gets it. -/
theorem untagged_vlan_is_given_back :
    let restored := runTask hostSettings restore (loadedNode { vni := 200, vlanText := "0" })
    restored.1 = .done 1 ∧ restored.2.vlans.isAllocated 0 = false ∧
      (runTask hostSettings (attach "net-C" 300 (podKey "ns" "q")) restored.2).1 = .done 0 := by
  decide +kernel

end VxlanMesh.Node
