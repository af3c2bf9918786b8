/-
  VxlanMesh.Proofs.Tenant.Consistency
  ────────────────────────────────
  **RECORDS, ACTIVE NETWORKS AND VLANS TELL THE SAME STORY.**

  A view is `Consistent` when each record belongs to one active network
  and the other way round, when active networks share no identifier, and
  when their VLANs are taken.  Attaching and detaching keep it so, however
  they end and whatever the writes answer; on the way the records stay
  `Tidy`, so that every snapshot that is written is.

      Consistent.attached    each way in which attaching can end
      Consistent.detached    each way in which detaching can end
      attach_upholds         consistent before, consistent after
      detach_upholds         consistent before, consistent after
-/
import VxlanMesh.Proofs.Numeral.ReadBack
import VxlanMesh.Proofs.Tenant.Endings

namespace VxlanMesh

theorem TenantRecord.vlan_new (vni : UInt32) (vlan : UInt16) :
    (TenantRecord.new vni vlan).vlan = some vlan := by
  have hle : vlan.toNat ≤ 65535 := by
    have := vlan.toNat_lt
    omega
  rw [TenantRecord.vlan, TenantRecord.new, Numeral.readBounded?_decimal hle]
  simp

namespace Node

open VxlanMesh.Procedure (Upholds)

/-! ## §1. The invariant. -/

variable {fits : UInt16 → Prop}

/-- Every record has a VLAN, one that fits, and no two records share a VNI or a VLAN. -/
structure Tidy (fits : UInt16 → Prop) (records : TenantRecords) : Prop where
  numbered : ∀ {id record}, records.get? id = some record →
    ∃ vlan, record.vlan = some vlan ∧ fits vlan
  vnis : ∀ {id id' record record'}, records.get? id = some record →
    records.get? id' = some record' → record.vni = record'.vni → id = id'
  vlans : ∀ {id id' record record'}, records.get? id = some record →
    records.get? id' = some record' → record.vlan = record'.vlan → id = id'

/-- Records and active networks are the same, and the VLANs of networks are taken. -/
structure Consistent (fits : UInt16 → Prop) (v : View) : Prop where
  /-- Each record is that of an active network. -/
  active : ∀ {id record}, v.records.get? id = some record →
    ∃ vlan, record.vlan = some vlan ∧ (⟨id, record.vni, vlan⟩ : Network) ∈ v.networks
  /-- Each active network has a record. -/
  recorded : ∀ {net}, net ∈ v.networks → ∃ record, v.records.get? net.id = some record ∧
    record.vni = net.vni ∧ record.vlan = some net.vlan
  apart : Network.Apart v.networks
  reserved : ∀ {net}, net ∈ v.networks → v.vlans.isAllocated net.vlan.toNat = true
  fit : ∀ {net}, net ∈ v.networks → fits net.vlan
  /-- What may still be handed out fits. -/
  spare : ∀ {vlan : UInt16}, v.vlans.isBelowLimit vlan.toNat = true →
    v.vlans.isAllocated vlan.toNat = false → fits vlan

/-- **Consistent records are tidy.** -/
theorem Consistent.tidy {v : View} (h : Consistent fits v) : Tidy fits v.records where
  numbered hget := by
    obtain ⟨vlan, hvlan, hmem⟩ := h.active hget
    exact ⟨vlan, hvlan, h.fit hmem⟩
  vnis {id id' record record'} hget hget' hsame := by
    obtain ⟨vlan, -, hmem⟩ := h.active hget
    obtain ⟨vlan', -, hmem'⟩ := h.active hget'
    by_cases hid : id = id'
    · exact hid
    · exact absurd hsame (h.apart.ne hmem hmem' hid).1
  vlans {id id' record record'} hget hget' hsame := by
    obtain ⟨vlan, hvlan, hmem⟩ := h.active hget
    obtain ⟨vlan', hvlan', hmem'⟩ := h.active hget'
    by_cases hid : id = id'
    · exact hid
    · rw [hvlan, hvlan'] at hsame
      exact absurd (Option.some.inj hsame) (h.apart.ne hmem hmem' hid).2

/-- Fewer records are as tidy. -/
theorem Tidy.sub {records fewer : TenantRecords} (h : Tidy fits records)
    (hsub : ∀ {id record}, fewer.get? id = some record → records.get? id = some record) :
    Tidy fits fewer where
  numbered hget := h.numbered (hsub hget)
  vnis hget hget' := h.vnis (hsub hget) (hsub hget')
  vlans hget hget' := h.vlans (hsub hget) (hsub hget')

theorem Tidy.empty : Tidy fits KeyedTable.empty where
  numbered hget := by cases hget
  vnis hget := by cases hget
  vlans hget := by cases hget

/-! ## §2. Changes that keep it. -/

/-- A record of the same network: another set of pods. -/
theorem Consistent.changeRecord {v : View} (h : Consistent fits v) {id : String}
    {record : TenantRecord} (hget : v.records.get? id = some record) (changed : TenantRecord)
    (hvni : changed.vni = record.vni) (hvlan : changed.vlan = record.vlan) :
    Consistent fits { v with records := v.records.insert id changed } where
  active {other found} hfound := by
    rw [KeyedTable.get?_insert] at hfound
    split at hfound
    · rename_i hid
      cases hfound
      rw [hid, hvni, hvlan]
      exact h.active hget
    · exact h.active hfound
  recorded {net} hmem := by
    obtain ⟨found, hfound, hfoundVni, hfoundVlan⟩ := h.recorded hmem
    by_cases hid : net.id = id
    · rw [hid, hget] at hfound
      cases hfound
      refine ⟨changed, ?_, hvni.trans hfoundVni, hvlan.trans hfoundVlan⟩
      rw [KeyedTable.get?_insert, if_pos hid]
    · refine ⟨found, ?_, hfoundVni, hfoundVlan⟩
      rw [KeyedTable.get?_insert, if_neg hid]
      exact hfound
  apart := h.apart
  reserved := h.reserved
  fit := h.fit
  spare := h.spare

/-- VLANs of which the same numbers are taken. -/
theorem Consistent.changeVlans {v : View} (h : Consistent fits v) {vlans : IdSpace}
    (hlimit : vlans.limit = v.vlans.limit)
    (htaken : ∀ n, vlans.isAllocated n = v.vlans.isAllocated n) :
    Consistent fits { v with vlans } where
  active := h.active
  recorded := h.recorded
  apart := h.apart
  reserved hmem := (htaken _).trans (h.reserved hmem)
  fit := h.fit
  spare hbelow hfree :=
    h.spare ((IdSpace.isBelowLimit_congr hlimit _).symm.trans hbelow)
      ((htaken _).symm.trans hfree)

theorem limit_of_allocate {space later : IdSpace} {raw : Nat}
    (h : space.allocate = (.ok raw, later)) : (later.release raw).limit = space.limit :=
  (IdSpace.allocate_ok h).2.2.1

/-- A VLAN that was taken and given back. -/
theorem Consistent.giveBack {v : View} (h : Consistent fits v) {later : IdSpace} {raw : Nat}
    (htake : v.vlans.allocate = (.ok raw, later)) :
    Consistent fits { v with vlans := later.release raw } :=
  h.changeVlans (limit_of_allocate htake) (IdSpace.isAllocated_release_of_allocate htake)

/-- One more network, with a VLAN that was free. -/
theorem Consistent.addNetwork {v : View} (h : Consistent fits v) (net : Network)
    {later : IdSpace} (hnone : v.records.get? net.id = none)
    (hapart : v.networks.any (·.collidesWith net) = false)
    (htake : v.vlans.allocate = (.ok net.vlan.toNat, later)) :
    Consistent fits ⟨v.records.insert net.id (TenantRecord.new net.vni net.vlan),
      v.networks ++ [net], later⟩ := by
  obtain ⟨-, hbelow, hlimit, htaken⟩ := IdSpace.allocate_ok htake
  have hfits : fits net.vlan := h.spare hbelow (IdSpace.isAllocated_of_allocate htake)
  constructor
  case active =>
    intro id record hget
    rw [KeyedTable.get?_insert] at hget
    split at hget
    · rename_i hid
      cases hget
      exact ⟨net.vlan, TenantRecord.vlan_new _ _, by rw [hid]; simp [TenantRecord.new]⟩
    · obtain ⟨vlan, hvlan, hmem⟩ := h.active hget
      exact ⟨vlan, hvlan, List.mem_append_left _ hmem⟩
  case recorded =>
    intro other hmem
    rcases List.mem_append.1 hmem with hmem | hmem
    -- A network that was active has a record, so its id is another one.
    · obtain ⟨record, hget, hrecord⟩ := h.recorded hmem
      have hid : other.id ≠ net.id := by
        intro hid
        rw [hid, hnone] at hget
        cases hget
      exact ⟨record, by rw [KeyedTable.get?_insert, if_neg hid]; exact hget, hrecord⟩
    · rw [List.mem_singleton.1 hmem]
      exact ⟨TenantRecord.new net.vni net.vlan, by rw [KeyedTable.get?_insert_self],
        rfl, TenantRecord.vlan_new _ _⟩
  case apart => exact h.apart.concat hapart
  case reserved =>
    intro other hmem
    rw [htaken]
    rcases List.mem_append.1 hmem with hmem | hmem
    · rw [h.reserved hmem, Bool.or_true]
    · rw [List.mem_singleton.1 hmem, beq_self_eq_true, Bool.true_or]
  case fit =>
    intro other hmem
    rcases List.mem_append.1 hmem with hmem | hmem
    · exact h.fit hmem
    · rw [List.mem_singleton.1 hmem]
      exact hfits
  -- What is free now was free before.
  case spare =>
    intro vlan hbelow' hfree
    rw [htaken, Bool.or_eq_false_iff] at hfree
    exact h.spare ((IdSpace.isBelowLimit_congr hlimit _).symm.trans hbelow') hfree.2

/-- One network less; its VLAN stays taken. -/
theorem Consistent.removeNetwork {v : View} (h : Consistent fits v) (id : String) :
    Consistent fits ⟨v.records.erase id, v.networks.eraseP (·.id == id), v.vlans⟩ where
  active {other record} hget := by
    rw [KeyedTable.get?_erase] at hget
    split at hget
    · cases hget
    · rename_i hid
      obtain ⟨vlan, hvlan, hmem⟩ := h.active hget
      exact ⟨vlan, hvlan, h.apart.mem_eraseP.2 ⟨hmem, hid⟩⟩
  recorded {net} hmem := by
    obtain ⟨hmem, hid⟩ := h.apart.mem_eraseP.1 hmem
    obtain ⟨record, hget, hrecord⟩ := h.recorded hmem
    exact ⟨record, by rw [KeyedTable.get?_erase, if_neg hid]; exact hget, hrecord⟩
  apart := h.apart.eraseP id
  reserved hmem := h.reserved (h.apart.mem_eraseP.1 hmem).1
  fit hmem := h.fit (h.apart.mem_eraseP.1 hmem).1
  spare := h.spare

/-- A VLAN that no network has is given back. -/
theorem Consistent.releaseVlan {v : View} (h : Consistent fits v) {vlan : UInt16}
    (hfits : fits vlan) (hnone : ∀ net ∈ v.networks, net.vlan ≠ vlan) :
    Consistent fits { v with vlans := v.vlans.release vlan.toNat } where
  active := h.active
  recorded := h.recorded
  apart := h.apart
  reserved {net} hmem := by
    have hne : net.vlan.toNat ≠ vlan.toNat := fun hsame =>
      hnone net hmem (UInt16.toNat_inj.1 hsame)
    rw [IdSpace.isAllocated_release, h.reserved hmem, bne_iff_ne.2 hne, Bool.true_and]
  fit := h.fit
  spare {other} hbelow hfree := by
    by_cases hsame : other = vlan
    · rw [hsame]
      exact hfits
    · have hne : other.toNat ≠ vlan.toNat := fun heq => hsame (UInt16.toNat_inj.1 heq)
      rw [IdSpace.isAllocated_release, bne_iff_ne.2 hne, Bool.true_and] at hfree
      exact h.spare hbelow hfree

/-! ## §3. Attaching. -/

theorem erase_insert_of_none {records : TenantRecords} {id : String} {record : TenantRecord}
    (hnone : records.get? id = none) : (records.insert id record).erase id = records := by
  rw [KeyedTable.erase_insert, KeyedTable.erase_eq_self hnone]

/-- **However it ends, realizing keeps the view consistent.** -/
theorem Consistent.realized {id : String} {vni : UInt32} {v v' : View}
    {result : Except OverlayError UInt16} (h : Consistent fits v)
    (hnone : v.records.get? id = none) (hend : Realized id vni v result v') :
    Consistent fits v' := by
  cases hend with
  | exhausted hspace => exact h
  | unfit htake hlarge reason => exact h.giveBack htake
  | taken htake hcollides => exact h.giveBack htake
  | unwritten path reason htake hapart =>
      rw [erase_insert_of_none hnone]
      exact h.giveBack htake
  | active htake hapart => exact h.addNetwork ⟨id, vni, _⟩ hnone hapart htake

/-- What is reported for a network without a record: a VLAN that is a new one, and a
collision only if an active network has the VNI. -/
def ReportsNew (vni : UInt32) (v : View) (result : Except OverlayError UInt16) : Prop :=
  (∀ vlan, result = .ok vlan → ∀ net ∈ v.networks, net.vlan ≠ vlan) ∧
    ((∀ net ∈ v.networks, net.vni ≠ vni) →
      ∀ id vni' vlan, result ≠ .error (.networkExists id vni' vlan))

theorem reportsNew_error {vni : UInt32} {v : View} {e : OverlayError}
    (h : ∀ id vni' vlan, e ≠ .networkExists id vni' vlan) : ReportsNew vni v (.error e) := by
  constructor
  · intro vlan hok
    cases hok
  · intro _ id vni' vlan hexists
    exact h id vni' vlan (Except.error.inj hexists)

theorem Consistent.reportsNew {id : String} {vni : UInt32} {v v' : View}
    {result : Except OverlayError UInt16} (h : Consistent fits v)
    (hnone : v.records.get? id = none) (hend : Realized id vni v result v') :
    ReportsNew vni v result := by
  cases hend with
  | exhausted hspace =>
      obtain ⟨name, limit, rfl⟩ := error_of_allocate hspace
      exact reportsNew_error (by simp)
  | unfit htake hlarge reason => exact reportsNew_error (by simp)
  | unwritten path reason htake hapart => exact reportsNew_error (by simp)
  | active htake hapart =>
      constructor
      · intro vlan hok net hmem
        cases hok
        have hfalse := Bool.eq_false_iff.2 (List.any_eq_false.1 hapart net hmem)
        exact (Network.collidesWith_eq_false.1 hfalse).2.2
      · intro _ id' vni' vlan' hexists
        cases hexists
  | taken htake hcollides =>
      constructor
      · intro vlan hok
        cases hok
      · intro hvni
        obtain ⟨net, hmem, hcollides⟩ := List.any_eq_true.1 hcollides
        refine absurd hcollides (Bool.eq_false_iff.1 (Network.collidesWith_eq_false.2
          ⟨fun hid => ?_, hvni net hmem, fun hvlan => ?_⟩))
        · obtain ⟨record, hget, -⟩ := h.recorded hmem
          rw [hid, hnone] at hget
          cases hget
        -- The number that is handed out is not that of an active network.
        · have htaken := h.reserved hmem
          rw [hvlan, IdSpace.isAllocated_of_allocate htake] at htaken
          cases htaken

/-- **However it ends, attaching keeps the view consistent.** -/
theorem Consistent.attached {id pod : String} {vni : UInt32} {v v' : View}
    {answer : Except OverlayError UInt16} (h : Consistent fits v)
    (hend : Attached id vni pod v answer v') : Consistent fits v' := by
  cases hend with
  | refused hget hbound => exact h
  | known hget hbound hnoted => exact h.changeRecord hget _ rfl rfl
  | unrealized hnone hend => exact h.realized hnone hend
  | realized hnone hend hnoted =>
      exact (h.realized hnone hend).changeRecord hend.record_of_ok _ rfl rfl

theorem Consistent.reports {id pod : String} {vni : UInt32} {v v' : View}
    {answer : Except OverlayError UInt16} (h : Consistent fits v)
    (hnone : v.records.get? id = none) (hend : Attached id vni pod v answer v') :
    ReportsNew vni v answer := by
  cases hend with
  | refused hget hbound => rw [hnone] at hget; cases hget
  | known hget hbound hnoted => rw [hnone] at hget; cases hget
  | unrealized _ hend => exact h.reportsNew hnone hend
  | realized _ hend hnoted =>
      rcases hnoted with rfl | ⟨path, reason, rfl⟩
      · exact h.reportsNew hnone hend
      · exact reportsNew_error (by simp)

/-- **Attaching a pod**: consistent before, consistent after, however it ends; and what is
reported for a network without a record. -/
theorem attach_upholds (id pod : String) (vni : UInt32) {v : View} (h : Consistent fits v) :
    Upholds Answers (fun v => Tidy fits v.records) (attach id vni pod).run
      (fun result v' => Consistent fits v' ∧
        (v.records.get? id = none → ReportsNew vni v result)) v :=
  Procedure.Upholds.mono (fun _ _ _ hend => ⟨h.attached hend, fun hnone => h.reports hnone hend⟩)
    (attach_ends (Tidy fits) id pod vni h.tidy (fun hnone _ _ hend => (h.realized hnone hend).tidy)
      fun hend => (h.attached hend).tidy)

/-! ## §4. Detaching. -/

/-- **However it ends, detaching keeps the view consistent.** -/
theorem Consistent.detached {id pod : String} {v v' : View} {answer : Except OverlayError Bool}
    (h : Consistent fits v) (hend : Detached id pod v answer v') : Consistent fits v' := by
  cases hend with
  | unknown hnone => exact h
  | unwritten path reason hget => exact h.changeRecord hget _ rfl rfl
  | left hget hused => exact h.changeRecord hget _ rfl rfl
  | stranded path reason hget hunused => exact h.removeNetwork id
  | tornDown hget hunused =>
      obtain ⟨vlan, hvlan, hmem⟩ := h.active hget
      rw [releasedOf, hvlan]
      refine (h.removeNetwork id).releaseVlan (h.fit hmem) fun net hnet => ?_
      -- No other network has the VLAN that is given back.
      obtain ⟨hnet, hid⟩ := h.apart.mem_eraseP.1 hnet
      exact (h.apart.ne hnet hmem hid).2

/-- **Detaching a pod**: consistent before, consistent after, however it ends. -/
theorem detach_upholds (id pod : String) {v : View} (h : Consistent fits v) :
    Upholds Answers (fun v => Tidy fits v.records) (detach id pod).run
      (fun _ v' => Consistent fits v') v :=
  Procedure.Upholds.mono (fun _ _ _ hend => h.detached hend)
    (detach_ends (Tidy fits) id pod h.tidy fun hend => (h.detached hend).tidy)

end Node

end VxlanMesh
