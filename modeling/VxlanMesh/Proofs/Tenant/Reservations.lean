/-
  VxlanMesh.Proofs.Tenant.Reservations
  ────────────────────────────────
  **WHICH VLANS ARE TAKEN WHILE REQUESTS ARE SERVED.**

  The VLANs that are taken are zero, those of the records and the lost
  ones.  A VLAN is lost when a network is torn down and the snapshot
  without its record cannot be written: the record is gone from memory
  then, and with it what would say that the VLAN has to be given back.

      Accounted.attached      attaching loses nothing, however it ends
      Accounted.detached      detaching loses what `lostIn` says
      vlans_after_requests    the main result
-/
import VxlanMesh.Proofs.Tenant.Lifetime

namespace VxlanMesh.Node

/-! ## §1. Named VLANs. -/

section
variable {records : TenantRecords} {id : String} {record changed : TenantRecord} {vlan : UInt16}
  {n : Nat}

/-- A record that keeps its VLAN names what it named. -/
theorem mem_namedVlans_change (hget : records.get? id = some record)
    (hvlan : changed.vlan = record.vlan) :
    n ∈ namedVlans (records.insert id changed) ↔ n ∈ namedVlans records := by
  rw [mem_namedVlans, mem_namedVlans]
  constructor
  · rintro ⟨other, found, vlan, hfound, hfoundVlan, hn⟩
    rw [KeyedTable.get?_insert] at hfound
    split at hfound
    · cases hfound
      exact ⟨id, record, vlan, hget, hvlan.symm.trans hfoundVlan, hn⟩
    · exact ⟨other, found, vlan, hfound, hfoundVlan, hn⟩
  · rintro ⟨other, found, vlan, hfound, hfoundVlan, hn⟩
    by_cases hid : other = id
    · rw [hid, hget] at hfound
      cases hfound
      exact ⟨id, changed, vlan, by rw [KeyedTable.get?_insert_self],
        hvlan.trans hfoundVlan, hn⟩
    · exact ⟨other, found, vlan, by rw [KeyedTable.get?_insert, if_neg hid]; exact hfound,
        hfoundVlan, hn⟩

/-- A new record names its own VLAN and no other. -/
theorem mem_namedVlans_add (hnone : records.get? id = none) (hvlan : record.vlan = some vlan) :
    n ∈ namedVlans (records.insert id record) ↔ n = vlan.toNat ∨ n ∈ namedVlans records := by
  rw [mem_namedVlans, mem_namedVlans]
  constructor
  · rintro ⟨other, found, vlan', hfound, hfoundVlan, hn⟩
    rw [KeyedTable.get?_insert] at hfound
    split at hfound
    · cases hfound
      rw [hvlan] at hfoundVlan
      cases hfoundVlan
      exact Or.inl hn.symm
    · exact Or.inr ⟨other, found, vlan', hfound, hfoundVlan, hn⟩
  · rintro (rfl | ⟨other, found, vlan', hfound, hfoundVlan, hn⟩)
    · exact ⟨id, record, vlan, by rw [KeyedTable.get?_insert_self], hvlan, rfl⟩
    · have hid : other ≠ id := by
        rintro rfl
        rw [hnone] at hfound
        cases hfound
      exact ⟨other, found, vlan', by rw [KeyedTable.get?_insert, if_neg hid]; exact hfound,
        hfoundVlan, hn⟩

/-- Without a record its VLAN is named no longer, since no other record names it. -/
theorem mem_namedVlans_erase {fits : UInt16 → Prop} (htidy : Tidy fits records)
    (hget : records.get? id = some record) (hvlan : record.vlan = some vlan) :
    n ∈ namedVlans (records.erase id) ↔ n ∈ namedVlans records ∧ n ≠ vlan.toNat := by
  rw [mem_namedVlans, mem_namedVlans]
  constructor
  · rintro ⟨other, found, vlan', hfound, hfoundVlan, hn⟩
    rw [KeyedTable.get?_erase] at hfound
    split at hfound
    · cases hfound
    · rename_i hid
      refine ⟨⟨other, found, vlan', hfound, hfoundVlan, hn⟩, fun hsame => hid ?_⟩
      rw [← hn] at hsame
      rw [UInt16.toNat_inj.1 hsame] at hfoundVlan
      exact htidy.vlans hfound hget (hfoundVlan.trans hvlan.symm)
  · rintro ⟨⟨other, found, vlan', hfound, hfoundVlan, hn⟩, hne⟩
    have hid : other ≠ id := by
      rintro rfl
      rw [hget] at hfound
      cases hfound
      rw [hvlan] at hfoundVlan
      cases hfoundVlan
      exact hne hn.symm
    exact ⟨other, found, vlan', by rw [KeyedTable.get?_erase, if_neg hid]; exact hfound,
      hfoundVlan, hn⟩

end

/-! ## §2. The invariant. -/

/-- **Every number that is taken is accounted for**: it is zero, the VLAN of a record, or
lost.  What is lost is none of the others. -/
structure Accounted (lost : List Nat) (v : View) : Prop where
  consistent : Consistent InRange v
  taken : ∀ n, v.vlans.isAllocated n = true ↔ n = 0 ∨ n ∈ namedVlans v.records ∨ n ∈ lost
  apart : ∀ n ∈ lost, n ≠ 0 ∧ n ∉ namedVlans v.records

section
variable {lost : List Nat} {v v' : View} {id pod : String} {vni : UInt32}

theorem Accounted.changeRecord (h : Accounted lost v) {record changed : TenantRecord}
    (hget : v.records.get? id = some record) (hvni : changed.vni = record.vni)
    (hvlan : changed.vlan = record.vlan) :
    Accounted lost { v with records := v.records.insert id changed } where
  consistent := h.consistent.changeRecord hget changed hvni hvlan
  taken n := (h.taken n).trans <| or_congr_right <| or_congr_left
    (mem_namedVlans_change hget hvlan).symm
  apart n hn := (h.apart n hn).imp_right fun hnamed =>
    fun hmem => hnamed ((mem_namedVlans_change hget hvlan).1 hmem)

theorem Accounted.changeVlans (h : Accounted lost v) {vlans : IdSpace}
    (hlimit : vlans.limit = v.vlans.limit)
    (htaken : ∀ n, vlans.isAllocated n = v.vlans.isAllocated n) :
    Accounted lost { v with vlans } where
  consistent := h.consistent.changeVlans hlimit htaken
  taken n := by
    show vlans.isAllocated n = true ↔ _
    rw [htaken]
    exact h.taken n
  apart := h.apart

/-- A VLAN that was taken and given back. -/
theorem Accounted.giveBack (h : Accounted lost v) {later : IdSpace} {raw : Nat}
    (htake : v.vlans.allocate = (.ok raw, later)) :
    Accounted lost { v with vlans := later.release raw } :=
  h.changeVlans (limit_of_allocate htake) (IdSpace.isAllocated_release_of_allocate htake)

/-- **The VLAN of a network that is realized was free**, so it is no lost one. -/
theorem Accounted.addNetwork (h : Accounted lost v) {vlan : UInt16} {later : IdSpace}
    (hnone : v.records.get? id = none)
    (hapart : v.networks.any (·.collidesWith ⟨id, vni, vlan⟩) = false)
    (htake : v.vlans.allocate = (.ok vlan.toNat, later)) :
    Accounted lost ⟨v.records.insert id (TenantRecord.new vni vlan),
      v.networks ++ [⟨id, vni, vlan⟩], later⟩ := by
  obtain ⟨hfirst, -, -, htaken⟩ := IdSpace.allocate_ok htake
  have hvlan := TenantRecord.vlan_new vni vlan
  refine ⟨h.consistent.addNetwork ⟨id, vni, vlan⟩ hnone hapart htake, fun n => ?_,
    fun n hn => ⟨(h.apart n hn).1, fun hmem => ?_⟩⟩
  · rw [htaken, Bool.or_eq_true, beq_iff_eq, h.taken, mem_namedVlans_add hnone hvlan]
    rw [or_left_comm, or_assoc]
  · rcases (mem_namedVlans_add hnone hvlan).1 hmem with hsame | hmem
    · have htrue := (h.taken n).2 (Or.inr (Or.inr hn))
      rw [hsame, hfirst, v.vlans.isAllocated_firstFree] at htrue
      cases htrue
    · exact (h.apart n hn).2 hmem

/-- **Attaching loses nothing**, however it ends. -/
theorem Accounted.attached {answer : Except OverlayError UInt16} (h : Accounted lost v)
    (hend : Attached id vni pod v answer v') : Accounted lost v' := by
  cases hend with
  | refused hget hbound => exact h
  | known hget hbound hnoted => exact h.changeRecord hget rfl rfl
  | unrealized hnone hend =>
      cases hend with
      | exhausted hspace => exact h
      -- The number that was taken is given back.
      | unfit htake _ _ | taken htake _ =>
          exact h.giveBack htake
      | unwritten path reason htake hapart =>
          rw [erase_insert_of_none hnone]
          exact h.giveBack htake
  | realized hnone hend hnoted =>
      have hget := hend.record_of_ok
      cases hend with
      | active htake hapart =>
          exact (h.addNetwork hnone hapart htake).changeRecord hget rfl rfl

/-- A network is gone with its record, and its VLAN is given back. -/
theorem Accounted.tearDown (h : Accounted lost v) {record : TenantRecord} {vlan : UInt16}
    (hget : v.records.get? id = some record) (hvlan : record.vlan = some vlan)
    (hmem : (⟨id, record.vni, vlan⟩ : Network) ∈ v.networks) :
    Accounted lost ⟨v.records.erase id, v.networks.eraseP (·.id == id),
      v.vlans.release vlan.toNat⟩ := by
  have hnamed : vlan.toNat ∈ namedVlans v.records := mem_namedVlans.2 ⟨_, _, _, hget, hvlan, rfl⟩
  have hzero : vlan.toNat ≠ 0 := Nat.ne_of_gt (h.consistent.fit hmem).1
  refine ⟨(h.consistent.removeNetwork id).releaseVlan (h.consistent.fit hmem) fun net hnet => ?_,
    fun n => ?_, fun n hn => ⟨(h.apart n hn).1, fun hleft => ?_⟩⟩
  · obtain ⟨hnet, hid⟩ := h.consistent.apart.mem_eraseP.1 hnet
    exact (h.consistent.apart.ne hnet hmem hid).2
  · rw [IdSpace.isAllocated_release, Bool.and_eq_true, bne_iff_ne, h.taken,
      mem_namedVlans_erase h.consistent.tidy hget hvlan]
    -- Neither zero nor a lost number is the VLAN of a record.
    constructor
    · rintro ⟨hne, rfl | hleft | hn⟩
      · exact Or.inl rfl
      · exact Or.inr (Or.inl ⟨hleft, hne⟩)
      · exact Or.inr (Or.inr hn)
    · rintro (rfl | ⟨hleft, hne⟩ | hn)
      · exact ⟨hzero.symm, Or.inl rfl⟩
      · exact ⟨hne, Or.inr (Or.inl hleft)⟩
      · refine ⟨fun hsame => (h.apart n hn).2 ?_, Or.inr (Or.inr hn)⟩
        rw [hsame]
        exact hnamed
  · exact (h.apart n hn).2 ((mem_namedVlans_erase h.consistent.tidy hget hvlan).1 hleft).1

/-- A network is gone with its record, and its VLAN is not given back: it is lost. -/
theorem Accounted.strand (h : Accounted lost v) {record : TenantRecord} {vlan : UInt16}
    (hget : v.records.get? id = some record) (hvlan : record.vlan = some vlan)
    (hmem : (⟨id, record.vni, vlan⟩ : Network) ∈ v.networks) :
    Accounted (lost ++ [vlan.toNat])
      ⟨v.records.erase id, v.networks.eraseP (·.id == id), v.vlans⟩ := by
  have hnamed : vlan.toNat ∈ namedVlans v.records := mem_namedVlans.2 ⟨_, _, _, hget, hvlan, rfl⟩
  refine ⟨h.consistent.removeNetwork id, fun n => ?_, fun n hn => ?_⟩
  · rw [h.taken, mem_namedVlans_erase h.consistent.tidy hget hvlan, List.mem_append,
      List.mem_singleton]
    by_cases hn : n = vlan.toNat
    · rw [hn]
      exact iff_of_true (Or.inr (Or.inl hnamed)) (Or.inr (Or.inr (Or.inr rfl)))
    · rw [and_iff_left hn, or_iff_left hn]
  · rw [mem_namedVlans_erase h.consistent.tidy hget hvlan]
    rcases List.mem_append.1 hn with hn | hn
    · exact (h.apart n hn).imp_right fun hnot hleft => hnot hleft.1
    · rw [List.mem_singleton.1 hn]
      exact ⟨Nat.ne_of_gt (h.consistent.fit hmem).1, fun hleft => hleft.2 rfl⟩

/-- What a detach loses: it fails, and the record of the network is gone all the same. -/
def lostIn (id : String) (before : TenantRecords) (failed : Bool) (after : TenantRecords) :
    List Nat :=
  if failed && !after.contains id then
    ((before.get? id).bind TenantRecord.vlan).toList.map (·.toNat)
  else []

/-- **Detaching loses what `lostIn` says**, however it ends. -/
theorem Accounted.detached {answer : Except OverlayError Bool} (h : Accounted lost v)
    (hend : Detached id pod v answer v') :
    Accounted (lost ++ lostIn id v.records (!answer.isOk) v'.records) v' := by
  have hnothing : ∀ {records : TenantRecords} {record : TenantRecord} {failed : Bool},
      lostIn id records failed (records.insert id record) = [] := by
    intro records record failed
    have hget : (records.insert id record).get? id = some record := by
      rw [KeyedTable.get?_insert_self]
    rw [lostIn, KeyedTable.contains_iff.2 ⟨record, hget⟩, Bool.not_true, Bool.and_false]
    rfl
  cases hend with
  | unknown hnone =>
      rw [lostIn, hnone]
      simpa using h
  | unwritten path reason hget =>
      rw [hnothing, List.append_nil]
      exact h.changeRecord hget rfl rfl
  | left hget hused =>
      rw [hnothing, List.append_nil]
      exact h.changeRecord hget rfl rfl
  | stranded path reason hget hunused =>
      obtain ⟨vlan, hvlan, hmem⟩ := h.consistent.active hget
      have herased : (v.records.erase id).contains id = false := by
        rw [KeyedTable.contains, KeyedTable.get?_erase, if_pos rfl]
        rfl
      have hlost : lostIn id v.records true (v.records.erase id) = [vlan.toNat] := by
        simp [lostIn, herased, hget, hvlan]
      show Accounted (lost ++ lostIn id v.records true (v.records.erase id)) _
      rw [hlost]
      exact h.strand hget hvlan hmem
  | tornDown hget hunused =>
      obtain ⟨vlan, hvlan, hmem⟩ := h.consistent.active hget
      show Accounted (lost ++ []) _
      rw [List.append_nil, releasedOf, hvlan]
      exact h.tearDown hget hvlan hmem

end

/-! ## §3. Requests. -/

variable {σ : Type} [CommandRunner σ]

/-- The VLAN that a request loses, if it does: that of a network of which the record is gone
although detaching failed. -/
def lostBy (settings : MeshSettings) (node : Node σ) : Request → List Nat
  | .detach id ns name =>
      let (outcome, after) := runTask settings (detach id (podKey ns name)) node
      lostIn id node.registry.records (outcome matches .failed _) after.registry.records
  | .attach _ _ _ _ | .sync _ => []

/-- The VLANs that requests lose. -/
def lost (settings : MeshSettings) : Node σ → List Request → List Nat
  | _, [] => []
  | node, request :: rest =>
      lostBy settings node request ++ lost settings (serve settings node request) rest

/-- **One request.** -/
theorem serve_accounted (settings : MeshSettings) {earlier : List Nat} {node : Node σ}
    (h : Accounted earlier node.view) (request : Request) :
    Accounted (earlier ++ lostBy settings node request) (serve settings node request).view := by
  cases request with
  | attach id vni ns name =>
      obtain ⟨answer, node', hrun, hends⟩ := runTask_attach settings node id (podKey ns name) vni
      rw [serve, hrun, lostBy, List.append_nil]
      exact h.attached hends
  | detach id ns name =>
      obtain ⟨answer, node', hrun, hends⟩ := runTask_detach settings node id (podKey ns name)
      have h' := h.detached hends
      rw [serve, lostBy, hrun]
      cases answer <;> exact h'
  | sync topology =>
      rw [serve, view_sync, lostBy, List.append_nil]
      exact h

/-- **Any number of requests.**  Induction on the requests, with what was lost before. -/
theorem serve_all_accounted (settings : MeshSettings) (requests : List Request) :
    ∀ {earlier : List Nat} {node : Node σ}, Accounted earlier node.view →
      Accounted (earlier ++ lost settings node requests)
        (requests.foldl (serve settings) node).view := by
  induction requests with
  | nil =>
      intro earlier node h
      rw [lost, List.append_nil]
      exact h
  | cons request rest ih =>
      intro earlier node h
      rw [lost, ← List.append_assoc]
      exact ih (serve_accounted settings h request)

omit [CommandRunner σ] in
theorem accounted_fresh (store : TableStore) (host : Host σ) (disk : Disk) :
    Accounted [] (starting host { store, disk }).view where
  consistent := Process.consistent_fresh store host disk
  taken n := by
    have hnone : n ∉ namedVlans (KeyedTable.empty : TenantRecords) := List.not_mem_nil
    rw [view_starting, Process.isAllocated_freshVlans]
    exact (or_iff_left fun h => h.elim hnone List.not_mem_nil).symm
  apart n hn := absurd hn List.not_mem_nil

/-- **Which VLANs are taken after requests**, whatever each write and each command of the
switch answers: zero, those of the records, and those that were lost on the way, which are
none of the others.  So a VLAN without a record is free again exactly if it was not lost. -/
theorem vlans_after_requests (settings : MeshSettings) (host : Host σ) (store : TableStore)
    (disk : Disk) (requests : List Request) :
    let start := starting host { store, disk }
    let node := requests.foldl (serve settings) start
    (∀ n, node.vlans.isAllocated n = true ↔
      n = 0 ∨ n ∈ namedVlans node.registry.records ∨ n ∈ lost settings start requests) ∧
    ∀ n ∈ lost settings start requests, n ≠ 0 ∧ n ∉ namedVlans node.registry.records := by
  intro start node
  have h : Accounted (lost settings start requests) node.view :=
    serve_all_accounted settings requests (accounted_fresh store host disk)
  exact ⟨h.taken, h.apart⟩

/-- A disk on which the fourth snapshot cannot be written. -/
def faultyDisk : Disk := { faults := [none, none, none, some ⟨.stage, .isDirectory⟩] }

/-- A pod has come and gone, which takes four snapshots. -/
def strandedNode : Node Recorder :=
  [Request.attach "net-A" 100 "ns" "p", .detach "net-A" "ns" "p"].foldl (serve hostSettings)
    (starting recordingHost { store := ⟨"state"⟩, disk := faultyDisk })

/-- Nothing has a record then, and yet the VLAN is taken: the next network gets another. -/
theorem vlan_without_record_stays_taken :
    strandedNode.registry.records = KeyedTable.empty ∧ strandedNode.vlans.allocated = [0, 1] ∧
      (runTask hostSettings (attach "net-B" 200 (podKey "ns" "q")) strandedNode).1 = .done 2 := by
  decide +kernel

end VxlanMesh.Node
