/-
  VxlanMesh.Proofs.Tenant.Stranding
  ────────────────────────────────
  **WHICH VLANS STAY TAKEN FOR NOBODY AFTER A RESTART.**

  A record that is dropped gives its VLAN back unless another record names
  the VLAN too, and that is asked of the records that were loaded, not of
  those that are left.  So a VLAN stays taken without a record exactly if
  several records name it and each of them is refused by the overlay: each
  one keeps the VLAN for the others.

      Restored.stranded_iff       when a VLAN is stranded
      stranded_after_restore      the main result
-/
import VxlanMesh.Proofs.Tenant.Lifetime

namespace VxlanMesh

/-- The VLAN of the record is that number. -/
def TenantRecord.Names (record : TenantRecord) (n : Nat) : Prop :=
  ∃ vlan, record.vlan = some vlan ∧ vlan.toNat = n

namespace Node

/-! ## §1. Records that keep a VLAN for each other. -/

/-- The number is taken, and no record names it. -/
def Stranded (v : View) (n : Nat) : Prop :=
  v.vlans.isAllocated n = true ∧ n ∉ namedVlans v.records

/-- Two of the records, or more, name the number. -/
def NamedTwice (records : TenantRecords) (n : Nat) : Prop :=
  ∃ id id' record record', id ≠ id' ∧ records.get? id = some record ∧
    records.get? id' = some record' ∧ record.Names n ∧ record'.Names n

section
variable {records : TenantRecords} {vlans : IdSpace} {v : View} {n : Nat}

theorem mem_namedVlans_of_names {id : String} {record : TenantRecord}
    (hget : records.get? id = some record) (hnames : record.Names n) : n ∈ namedVlans records := by
  obtain ⟨vlan, hvlan, hn⟩ := hnames
  exact mem_namedVlans.2 ⟨id, record, vlan, hget, hvlan, hn⟩

/-- A record of which the VLAN is shared is not the only one that names it. -/
theorem namedTwice_of_isShared {id : String} {record : TenantRecord} {vlan : UInt16}
    (hget : records.get? id = some record) (hvlan : record.vlan = some vlan)
    (hshared : isShared records id vlan = true) : NamedTwice records vlan.toNat := by
  by_contra hnot
  have hunshared : isShared records id vlan = false := by
    refine isShared_eq_false.2 fun other found hfound hne hsame => hnot ?_
    exact ⟨id, other, record, found, hne.symm, hget, hfound, ⟨vlan, hvlan, rfl⟩,
      ⟨vlan, hsame, rfl⟩⟩
  rw [hshared] at hunshared
  cases hunshared

/-- Where two records name a VLAN, each record shares it with another one. -/
theorem isShared_of_namedTwice {vlan : UInt16} (h : NamedTwice records vlan.toNat)
    (id : String) : isShared records id vlan = true := by
  obtain ⟨first, second, record, record', hne, hget, hget', ⟨found, hfound, hsame⟩,
    ⟨found', hfound', hsame'⟩⟩ := h
  rw [UInt16.toNat_inj.1 hsame] at hfound
  rw [UInt16.toNat_inj.1 hsame'] at hfound'
  by_contra hnot
  have hunshared := isShared_eq_false.1 (Bool.eq_false_iff.2 hnot)
  -- One of the two is another record than this one.
  by_cases hid : first = id
  · exact hunshared second record' hget' (fun hsecond => hne (hid.trans hsecond.symm)) hfound'
  · exact hunshared first record hget hid hfound

/-- **When a VLAN is stranded** that was free before the restart: several records name it,
and each of them has pods, and yet its network is not active. -/
theorem Restored.stranded_iff (h : Restored records vlans v) (hfree : vlans.isAllocated n = false) :
    Stranded v n ↔ NamedTwice records n ∧
      ∀ id record, records.get? id = some record → record.Names n →
        record.isUnused = false ∧ ∀ net ∈ v.networks, net.id ≠ id := by
  constructor
  · rintro ⟨htaken, hunnamed⟩
    obtain ⟨hreserved, hkept⟩ := (h.taken n).1 htaken
    have hall : ∀ id record, records.get? id = some record → record.Names n →
        record.isUnused = false ∧ ∀ net ∈ v.networks, net.id ≠ id := by
      rintro id record hget ⟨vlan, hvlan, hn⟩
      refine ⟨Bool.eq_false_iff.2 fun hunused => hkept ?_, fun net hnet hid => hunnamed ?_⟩
      · exact ⟨id, record, KeyedTable.mem_entries_iff.2 hget, vlan, hvlan, hn, Or.inl hunused⟩
      -- The record of an active network is left, and names the VLAN.
      · have hleft : v.records.get? id = some record :=
          (h.left id record).2 ⟨hget, fun _ => ⟨net, hnet, hid⟩⟩
        exact mem_namedVlans_of_names hleft ⟨vlan, hvlan, hn⟩
    refine ⟨?_, hall⟩
    rcases (IdSpace.isAllocated_seed _ _ _).1 hreserved with hnamed | hbefore
    · obtain ⟨id, record, vlan, hget, hvlan, hn⟩ := mem_namedVlans.1 hnamed
      obtain ⟨-, hinactive⟩ := hall id record hget ⟨vlan, hvlan, hn⟩
      rw [← hn]
      refine namedTwice_of_isShared hget hvlan ?_
      -- An only record would have given the VLAN back.
      by_contra hunshared
      exact hkept ⟨id, record, KeyedTable.mem_entries_iff.2 hget, vlan, hvlan, hn,
        Or.inr ⟨hinactive, Bool.eq_false_iff.2 hunshared⟩⟩
    · rw [hfree] at hbefore
      cases hbefore
  · rintro ⟨htwice, hall⟩
    refine ⟨(h.taken n).2 ⟨(IdSpace.isAllocated_seed _ _ _).2 (Or.inl ?_), ?_⟩, fun hnamed => ?_⟩
    · obtain ⟨id, -, record, -, -, hget, -, hnames, -⟩ := htwice
      exact mem_namedVlans_of_names hget hnames
    · rintro ⟨id, record, hmem, vlan, hvlan, rfl, hcause⟩
      have hget := KeyedTable.mem_entries_iff.1 hmem
      rcases hcause with hunused | ⟨-, hunshared⟩
      · rw [(hall id record hget ⟨vlan, hvlan, rfl⟩).1] at hunused
        cases hunused
      · rw [isShared_of_namedTwice htwice id] at hunshared
        cases hunshared
    · obtain ⟨id, record, vlan, hget, hvlan, hn⟩ := mem_namedVlans.1 hnamed
      obtain ⟨hold, hactive⟩ := (h.left id record).1 hget
      obtain ⟨net, hnet, hid⟩ :=
        hactive ⟨(id, record), KeyedTable.mem_entries_iff.2 hold, rfl⟩
      exact (hall id record hold ⟨vlan, hvlan, hn⟩).2 net hnet hid

end

/-! ## §2. On a node. -/

variable {σ : Type} [CommandRunner σ]

/-- **VLANs that a restart strands.**  The records on disk are any, and so is what the switch
and the disk answer.  Every VLAN but zero that is taken afterwards is that of a record that is
left, except for those that several of the loaded records name while the network of each of
these is refused, although it has pods; and these VLANs are taken without a record. -/
theorem stranded_after_restore (settings : MeshSettings) {node node' : Node σ} {count : Nat}
    (hvlans : ∀ n, node.vlans.isAllocated n = true ↔ n = 0) (hnone : node.mesh.networks = [])
    (hrestore : runTask settings restore node = (.done count, node')) (n : Nat) (hn : n ≠ 0) :
    (node'.vlans.isAllocated n = true ∧ n ∉ namedVlans node'.registry.records) ↔
      NamedTwice node.registry.records n ∧
      ∀ id record, node.registry.records.get? id = some record → record.Names n →
        record.isUnused = false ∧ ∀ net ∈ node'.mesh.networks, net.id ≠ id :=
  (restored_of_done settings hnone hrestore).stranded_iff
    (Bool.eq_false_iff.2 fun htaken => hn ((hvlans n).1 htaken))

/-- A node that has loaded three records with one VNI, two of which name one VLAN. -/
def crowdedNode : Node Recorder where
  mesh := { host := recordingHost, ofports := { name := "tunnel-ofport" } }
  registry := {
    store := ⟨"state"⟩
    records := KeyedTable.ofList
      [("net-A", { vni := 100, vlanText := "1", pods := KeySet.ofList ["ns:p"] }),
        ("net-B", { vni := 100, vlanText := "2", pods := KeySet.ofList ["ns:q"] }),
        ("net-C", { vni := 100, vlanText := "2", pods := KeySet.ofList ["ns:r"] })] }
  vlans := Station.freshVlans

/-- Of these the first becomes active.  Its VLAN is not stranded: one record names it. -/
theorem stranded_after_restore_crowded :
    ∃ node', runTask hostSettings restore crowdedNode = (.done 1, node') ∧
      ¬ (node'.vlans.isAllocated 1 = true ∧ 1 ∉ namedVlans node'.registry.records) ∧
      NamedTwice crowdedNode.registry.records 2 := by
  obtain ⟨hdone, hnamed, htaken, hunnamed⟩ :
      (runTask hostSettings restore crowdedNode).1 = .done 1 ∧
        1 ∈ namedVlans (runTask hostSettings restore crowdedNode).2.registry.records ∧
        (runTask hostSettings restore crowdedNode).2.vlans.isAllocated 2 = true ∧
        2 ∉ namedVlans (runTask hostSettings restore crowdedNode).2.registry.records := by
    decide +kernel
  cases hrestore : runTask hostSettings restore crowdedNode with
  | mk outcome node' =>
      rw [hrestore] at hdone hnamed htaken hunnamed
      cases hdone
      have hstranded := (stranded_after_restore hostSettings Process.isAllocated_freshVlans rfl
        hrestore 2 (by decide)).1 ⟨htaken, hunnamed⟩
      exact ⟨node', rfl, fun h => h.2 hnamed, hstranded.1⟩

/-- The other two are refused for their VNI, and neither gives back the VLAN that both name.
So it is taken although no record names it, and the next network gets another one. -/
theorem vlan_of_dropped_records_stays_taken :
    let restored := runTask hostSettings restore crowdedNode
    restored.1 = .done 1 ∧ namedVlans restored.2.registry.records = [1] ∧
      restored.2.vlans.allocated = [0, 1, 2] ∧
      (runTask hostSettings (attach "net-D" 300 (podKey "ns" "s")) restored.2).1 = .done 3 := by
  decide +kernel

end Node

end VxlanMesh
