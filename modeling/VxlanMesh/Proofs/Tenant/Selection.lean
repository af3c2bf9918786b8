/-
  VxlanMesh.Proofs.Tenant.Selection
  ────────────────────────────────
  **WHICH RECORDS A RESTART KEEPS.**

  The records are gone through in the order of their ids.  A record is
  kept if its VLAN is a number, pods use it, and no record that was kept
  before it has its VNI or its VLAN; all others are dropped, and a record
  that is dropped stands in nobody's way.  This is said once without
  networks, memory and disk (`Selection`); after a restart all three are
  what the selection says.

      Selection.pick_eq_some      when a record is kept
      restoreAll_selects           the records that are ahead
      restore_selects              the main result
-/
import VxlanMesh.Proofs.Tenant.Core
import VxlanMesh.Proofs.Tenant.Restarting

namespace VxlanMesh.Node

/-! ## §1. The selection. -/

/-- The networks that are kept, and the ids of the records that are dropped, in order. -/
structure Selection where
  kept : List Network := []
  dropped : List String := []

namespace Selection

/-- The network of an entry, if it is kept beside those that are kept already. -/
def pick (selection : Selection) (entry : String × TenantRecord) : Option Network :=
  (networkOf entry).filter fun net =>
    !entry.2.isUnused &&
      selection.kept.all fun other => other.vni != net.vni && other.vlan != net.vlan

/-- One more entry is kept or dropped. -/
def add (selection : Selection) (entry : String × TenantRecord) : Selection :=
  match selection.pick entry with
  | some net => { selection with kept := selection.kept ++ [net] }
  | none => { selection with dropped := selection.dropped ++ [entry.1] }

/-- The selection from some entries. -/
def of (entries : List (String × TenantRecord)) : Selection := entries.foldl add {}

variable {selection : Selection} {entry : String × TenantRecord} {net : Network}
  {before rest : List (String × TenantRecord)}

/-- **When an entry is kept.** -/
theorem pick_eq_some : selection.pick entry = some net ↔
    networkOf entry = some net ∧ entry.2.isUnused = false ∧
      ∀ other ∈ selection.kept, other.vni ≠ net.vni ∧ other.vlan ≠ net.vlan := by
  simp [pick, Option.filter_eq_some_iff]

theorem of_concat : of (before ++ [entry]) = (of before).add entry := by
  rw [of, List.foldl_append]
  rfl

theorem add_of_pick (h : selection.pick entry = some net) :
    selection.add entry = { selection with kept := selection.kept ++ [net] } := by
  rw [add, h]

theorem add_of_not_pick (h : selection.pick entry = none) :
    selection.add entry = { selection with dropped := selection.dropped ++ [entry.1] } := by
  rw [add, h]

/-- What is dropped stays dropped. -/
theorem dropped_append (before rest : List (String × TenantRecord)) :
    ∃ more, (of (before ++ rest)).dropped = (of before).dropped ++ more := by
  induction rest using List.reverseRecOn with
  | nil => exact ⟨[], by rw [List.append_nil, List.append_nil]⟩
  | append_singleton rest entry ih =>
      obtain ⟨more, hmore⟩ := ih
      rw [← List.append_assoc, of_concat]
      cases h : (of (before ++ rest)).pick entry with
      | some net => exact ⟨more, by rw [add_of_pick h, hmore]⟩
      | none =>
          exact ⟨more ++ [entry.1], by rw [add_of_not_pick h, hmore, List.append_assoc]⟩

/-- **Every entry is either kept or dropped.** -/
theorem perm_ids (entries : List (String × TenantRecord)) :
    ((of entries).kept.map (·.id) ++ (of entries).dropped).Perm (entries.map Prod.fst) := by
  induction entries using List.reverseRecOn with
  | nil => exact List.Perm.nil
  | append_singleton entries entry ih =>
      rw [of_concat, List.map_append, List.map_singleton]
      cases h : (of entries).pick entry with
      | some net =>
          have hid := (networkOf_eq_some.1 (pick_eq_some.1 h).1).1
          rw [add_of_pick h, List.map_append, List.map_singleton, hid]
          refine List.Perm.trans ?_ (ih.append_right [entry.1])
          rw [List.append_assoc, List.append_assoc]
          exact (List.perm_append_comm).append_left _
      | none =>
          rw [add_of_not_pick h, ← List.append_assoc]
          exact ih.append_right [entry.1]

/-- The entries that are not dropped are those that are kept. -/
theorem filter_not_dropped (records : TenantRecords) :
    records.entries.filter (·.1 ∉ (of records.entries).dropped)
      = records.entries.filter (·.1 ∈ (of records.entries).kept.map (·.id)) := by
  have hperm := perm_ids records.entries
  have hdisjoint := List.disjoint_of_nodup_append (hperm.nodup_iff.2 records.nodup_keys)
  refine List.filter_congr fun entry hmem => ?_
  have hid := hperm.mem_iff.2 (List.mem_map_of_mem hmem)
  rw [decide_eq_decide]
  constructor
  · exact fun hnot => (List.mem_append.1 hid).resolve_right hnot
  · exact fun hkept hdropped => hdisjoint hkept hdropped

end Selection

/-! ## §2. The snapshots of a restart. -/

/-- The records after each of some ids is forgotten in turn. -/
def erasures : TenantRecords → List String → List TenantRecords
  | _, [] => []
  | records, id :: rest => records.erase id :: erasures (records.erase id) rest

/-- The snapshots that a restart writes, one for each record that is dropped. -/
def droppedSnapshots (records : TenantRecords) : List TenantRecords :=
  erasures records (Selection.of records.entries).dropped

theorem erasures_append (ids more : List String) (records : TenantRecords) :
    erasures records (ids ++ more)
      = erasures records ids ++ erasures (ids.foldl KeyedTable.erase records) more := by
  induction ids generalizing records with
  | nil => rfl
  | cons id rest ih =>
      rw [List.cons_append, erasures, erasures, ih]
      rfl

/-! ## §3. One record, and all of them. -/

open VxlanMesh.Node.Core (run_pure run_ask run_attempt run_call_ok run_bind_ok)

/-- **The entries `before` are behind**: memory, networks and disk are what the selection from
them says. -/
structure Selecting (start : Core) (before : List (String × TenantRecord)) (c : Core) : Prop where
  networks : c.networks = (Selection.of before).kept
  records : c.records = (Selection.of before).dropped.foldl KeyedTable.erase start.records
  store : c.registry.store = start.registry.store
  written : writeAll start.registry.store (erasures start.records (Selection.of before).dropped)
    start.registry.disk = (.ok (), c.registry.disk)
  durable : c.registry.IsDurable

section
variable {start c : Core} {before rest : List (String × TenantRecord)} {id : String}
  {record : TenantRecord}

/-- The next network collides exactly if its VNI or its VLAN is that of a network that is
kept: the ids are different anyway. -/
theorem Selecting.collides_iff (h : Selecting start before c)
    (hsplit : start.records.entries = before ++ (id, record) :: rest) (vlan : UInt16) :
    c.networks.any (·.collidesWith ⟨id, record.vni, vlan⟩) = false ↔
      ∀ other ∈ (Selection.of before).kept, other.vni ≠ record.vni ∧ other.vlan ≠ vlan := by
  rw [h.networks, List.any_eq_false]
  refine forall₂_congr fun other hother => ?_
  rw [Bool.not_eq_true, Network.collidesWith_eq_false]
  refine and_iff_right fun hid => ?_
  have hbehind : other.id ∈ before.map Prod.fst :=
    (Selection.perm_ids before).mem_iff.1 (List.mem_append_left _ (List.mem_map_of_mem hother))
  obtain ⟨earlier, hmem, hearlier⟩ := List.mem_map.1 hbehind
  exact KeyedTable.key_ne_of_mem_before hsplit hmem (hearlier.trans hid)

/-- **The next record is kept.** -/
theorem Selecting.keep (h : Selecting start before c)
    (hsplit : start.records.entries = before ++ (id, record) :: rest) {net : Network}
    (hpick : (Selection.of before).pick (id, record) = some net) :
    ∃ c', Core.run (restoreOne start.records id record) c = (.ok true, c') ∧
      Selecting start (before ++ [(id, record)]) c' := by
  obtain ⟨hnet, hused, hnone⟩ := Selection.pick_eq_some.1 hpick
  obtain ⟨vlan, hvlan, rfl⟩ := Option.map_eq_some_iff.1 hnet
  have hapart := (h.collides_iff hsplit vlan).2 hnone
  refine ⟨{ c with networks := c.networks ++ [⟨id, record.vni, vlan⟩] }, ?_, ?_⟩
  · unfold restoreOne
    rw [show record.vlan = some vlan from hvlan]
    show Core.run (if record.isUnused = true then _ else _) c = _
    rw [if_neg (Bool.eq_false_iff.1 hused), run_attempt (Core.take_activate_apart hapart)]
    rfl
  · have hselect := Selection.of_concat.trans (Selection.add_of_pick hpick)
    constructor
    case networks => rw [hselect, h.networks]
    case records => rw [hselect]; exact h.records
    case store => exact h.store
    case written => rw [hselect]; exact h.written
    case durable => exact h.durable

/-- What becomes of a record that is not kept, when its deletion is done. -/
theorem Selecting.run_drop (h : Selecting start before c)
    (hsplit : start.records.entries = before ++ (id, record) :: rest)
    (hpick : (Selection.of before).pick (id, record) = none) {c' : Core}
    (hdelete : c.take (.deleteRecord id) = (.ok (), c')) :
    ∃ vlans, Core.run (restoreOne start.records id record) c = (.ok false, { c' with vlans }) := by
  unfold restoreOne
  cases hvlan : record.vlan with
  | none => exact ⟨c'.vlans, (run_call_ok hdelete _).trans (run_pure false)⟩
  | some vlan =>
      show ∃ vlans, Core.run (if record.isUnused = true then _ else _) c = _
      split
      · refine ⟨c'.vlans.release vlan.toNat, ?_⟩
        rw [run_call_ok hdelete, run_ask]
        rfl
      -- It has pods and a VLAN, so a network that is kept has its VNI or its VLAN.
      · rename_i hused
        have hcollides : c.networks.any (·.collidesWith ⟨id, record.vni, vlan⟩) = true := by
          by_contra hapart
          have hnone := (h.collides_iff hsplit vlan).1 (Bool.eq_false_iff.2 hapart)
          have hnet : networkOf (id, record) = some ⟨id, record.vni, vlan⟩ :=
            Option.map_eq_some_iff.2 ⟨vlan, hvlan, rfl⟩
          have hsome := Selection.pick_eq_some.2 ⟨hnet, Bool.eq_false_iff.2 hused, hnone⟩
          rw [hpick] at hsome
          cases hsome
        rw [run_attempt (Core.take_activate_collides hcollides)]
        show ∃ vlans, Core.run (call (.deleteRecord id) >>= _) c = _
        cases isShared start.records id vlan with
        | true =>
            refine ⟨c'.vlans, ?_⟩
            rw [run_call_ok hdelete]
            rfl
        | false =>
            refine ⟨c'.vlans.release vlan.toNat, ?_⟩
            rw [run_call_ok hdelete]
            rfl

/-- **The next record is dropped**, if all snapshots are written. -/
theorem Selecting.drop (h : Selecting start before c)
    (hsplit : start.records.entries = before ++ (id, record) :: rest)
    (hpick : (Selection.of before).pick (id, record) = none)
    (hwritten : (writeAll start.registry.store (droppedSnapshots start.records)
      start.registry.disk).1 = .ok ()) :
    ∃ c', Core.run (restoreOne start.records id record) c = (.ok false, c') ∧
      Selecting start (before ++ [(id, record)]) c' := by
  have hselect := Selection.of_concat.trans (Selection.add_of_not_pick hpick)
  -- The snapshots up to this one are among those that are written.
  obtain ⟨later, hlater⟩ : ∃ later, writeAll start.registry.store
      (erasures start.records ((Selection.of before).dropped ++ [id])) start.registry.disk
        = (.ok (), later) := by
    obtain ⟨more, hmore⟩ := Selection.dropped_append (before ++ [(id, record)]) rest
    rw [List.append_assoc, List.singleton_append, ← hsplit, hselect] at hmore
    rw [droppedSnapshots, hmore, erasures_append] at hwritten
    exact writeAll_of_append hwritten
  have hsave : c.registry.store.save tenantTable (TenantRecords.toJson (c.records.erase id))
      c.registry.disk = (.ok (), later) := by
    have hlast := hlater
    rw [erasures_append, writeAll_append h.written] at hlast
    rw [h.store, h.records, ← writeAll_single]
    exact hlast
  have hget : c.records.get? id = some record := by
    rw [h.records, KeyedTable.get?_foldl_erase, if_neg, ← KeyedTable.mem_entries_iff, hsplit]
    · simp
    · intro hdropped
      obtain ⟨earlier, hmem, hearlier⟩ := List.mem_map.1
        ((Selection.perm_ids before).mem_iff.1 (List.mem_append_right _ hdropped))
      exact KeyedTable.key_ne_of_mem_before hsplit hmem hearlier
  have hdelete := Core.take_deleteRecord hget
  have hdone := Core.write_eq hsave
  have hdurable := Core.isDurable_of_write hdone
  obtain ⟨vlans, hrun⟩ := h.run_drop hsplit hpick (hdelete.trans hdone)
  refine ⟨_, hrun, ?_⟩
  constructor
  case networks => rw [hselect]; exact h.networks
  case records =>
    rw [hselect, List.foldl_append, ← h.records]
    rfl
  case store => exact h.store
  case written => rw [hselect]; exact hlater
  case durable => exact hdurable

/-- **All records**, those behind and those ahead.  Induction on the records ahead. -/
theorem restoreAll_selects
    (hwritten : (writeAll start.registry.store (droppedSnapshots start.records)
      start.registry.disk).1 = .ok ()) :
    ∀ {rest : List (String × TenantRecord)} (before : List (String × TenantRecord)) {c : Core},
      Selecting start before c → start.records.entries = before ++ rest →
      ∃ c', Core.run (restoreAll start.records rest (Selection.of before).kept.length) c
          = (.ok (Selection.of start.records.entries).kept.length, c') ∧
        Selecting start start.records.entries c' := by
  intro rest
  induction rest with
  | nil =>
      intro before c h hsplit
      rw [List.append_nil] at hsplit
      rw [hsplit]
      exact ⟨c, run_pure _, h⟩
  | cons entry rest ih =>
      intro before c h hsplit
      obtain ⟨id, record⟩ := entry
      have hnext : start.records.entries = (before ++ [(id, record)]) ++ rest := by
        rw [hsplit, List.append_assoc]
        rfl
      unfold restoreAll
      cases hpick : (Selection.of before).pick (id, record) with
      | some net =>
          obtain ⟨c₁, hrun, h₁⟩ := h.keep hsplit hpick
          obtain ⟨c', hlast, h'⟩ := ih _ h₁ hnext
          refine ⟨c', ?_, h'⟩
          rw [Selection.of_concat, Selection.add_of_pick hpick, List.length_append] at hlast
          rw [run_bind_ok hrun]
          exact hlast
      | none =>
          obtain ⟨c₁, hrun, h₁⟩ := h.drop hsplit hpick hwritten
          obtain ⟨c', hlast, h'⟩ := ih _ h₁ hnext
          refine ⟨c', ?_, h'⟩
          rw [Selection.of_concat, Selection.add_of_not_pick hpick] at hlast
          rw [run_bind_ok hrun]
          exact hlast

end

/-- **Restoring**, from the core of a node that has just loaded its records. -/
theorem restore_core (start : Core) (hnone : start.networks = [])
    (hdurable : start.registry.IsDurable)
    (hwritten : (writeAll start.registry.store (droppedSnapshots start.records)
      start.registry.disk).1 = .ok ()) :
    ∃ c', Core.run restore start = (.ok (Selection.of start.records.entries).kept.length, c') ∧
      Selecting start start.records.entries c' := by
  unfold restore
  rw [run_ask, run_ask]
  refine restoreAll_selects hwritten [] ?_ rfl
  exact ⟨hnone, rfl, rfl, rfl, hdurable⟩

/-! ## §4. On a node. -/

variable {σ : Type} [CommandRunner σ]

/-- **A restart keeps exactly what the selection keeps.**  The table file says what the memory
says, no network is active yet, and the snapshots of the restart are written; the records, the
VLANs and the switch are any.  Then restoring answers how many records are kept, the networks
that are active are those of the kept records in the order of their ids, the records in memory
are the kept ones, unchanged, and the same table file says so too. -/
theorem restore_selects (settings : MeshSettings) {node : Node σ}
    (hnone : node.mesh.networks = []) (hdurable : node.registry.IsDurable)
    (hwritten : (writeAll node.registry.store (droppedSnapshots node.registry.records)
      node.registry.disk).1 = .ok ()) :
    let kept := (Selection.of node.registry.records.entries).kept
    ∃ node', runTask settings restore node = (.done kept.length, node') ∧
      node'.mesh.networks = kept ∧
      node'.registry.records.entries
        = node.registry.records.entries.filter (·.1 ∈ kept.map (·.id)) ∧
      node'.registry.store = node.registry.store ∧ node'.registry.IsDurable := by
  intro kept
  obtain ⟨c', hrun, hselecting⟩ := restore_core node.core hnone hdurable hwritten
  obtain ⟨node', htask, hcore⟩ := runTask_core settings restore node
  rw [hrun] at htask hcore
  obtain rfl : node'.core = c' := hcore
  refine ⟨node', htask, hselecting.networks, ?_, hselecting.store, hselecting.durable⟩
  have hrecords : node'.registry.records = _ := hselecting.records
  rw [hrecords, KeyedTable.entries_foldl_erase]
  exact Selection.filter_not_dropped node.registry.records

/-- A node that has just written six records: `net-B` has the VLAN of `net-A` and `net-F` its
VNI, the VLAN of `net-C` is no number, and `net-D` has no pods. -/
def mixedNode : Node Recorder :=
  starting recordingHost (Registry.persist {
    store := ⟨"state"⟩
    records := KeyedTable.ofList
      [("net-A", { vni := 100, vlanText := "1", pods := KeySet.ofList ["ns:p"] }),
        ("net-B", { vni := 200, vlanText := "1", pods := KeySet.ofList ["ns:q"] }),
        ("net-C", { vni := 200, vlanText := "two", pods := KeySet.ofList ["ns:r"] }),
        ("net-D", { vni := 200, vlanText := "2" }),
        ("net-E", { vni := 200, vlanText := "2", pods := KeySet.ofList ["ns:s"] }),
        ("net-F", { vni := 100, vlanText := "3", pods := KeySet.ofList ["ns:t"] })] }).2

/-- Four records are dropped, and none of them stands in the way of `net-E`. -/
theorem restore_selects_mixed :
    ∃ node', runTask hostSettings restore mixedNode = (.done 2, node') ∧
      node'.mesh.networks = [⟨"net-A", 100, 1⟩, ⟨"net-E", 200, 2⟩] ∧
      node'.registry.IsDurable := by
  obtain ⟨hpersist, hwritten, hkept⟩ :
      (Registry.persist { mixedNode.registry with disk := {} }).1 = .done () ∧
        (writeAll mixedNode.registry.store (droppedSnapshots mixedNode.registry.records)
          mixedNode.registry.disk).1 = .ok () ∧
        (Selection.of mixedNode.registry.records.entries).kept
          = [⟨"net-A", 100, 1⟩, ⟨"net-E", 200, 2⟩] := by decide +kernel
  have hdurable : mixedNode.registry.IsDurable :=
    Registry.isDurable_of_persist (Prod.ext hpersist rfl)
  obtain ⟨node', hrestore, hnetworks, -, -, hlater⟩ :=
    restore_selects hostSettings rfl hdurable hwritten
  rw [hkept] at hrestore hnetworks
  exact ⟨node', hrestore, hnetworks, hlater⟩

end VxlanMesh.Node
