/-
  VxlanMesh.Proofs.Tenant.Restoring
  ────────────────────────────────
  **WHAT IS ACTIVE AND WHAT IS RESERVED AFTER A RESTART.**

  The records are gone through in the order of their ids, from any table
  whatsoever: texts that are no VLAN, VLANs or VNIs that several records
  name, records without pods.  `Restoring` says what holds when some of
  them are behind; at the end every record left is that of an active
  network, and the VLAN of an active network is taken unless a record
  without pods named it too.

      restoreOne_upholds           one record
      restore_upholds              all of them
      reserved_iff_no_unused       which active networks keep their VLAN
-/
import VxlanMesh.Proofs.KeyedTable
import VxlanMesh.Proofs.Tenant.Serving
import VxlanMesh.Switch.Recorder

namespace VxlanMesh

/-! ## §1. Shared VLANs. -/

namespace Node

open VxlanMesh.Procedure (Upholds upholds_bind)

theorem isShared_eq_false {records : TenantRecords} {id : String} {vlan : UInt16} :
    isShared records id vlan = false ↔
      ∀ other record, records.get? other = some record → other ≠ id → record.vlan ≠ some vlan := by
  rw [isShared, List.any_eq_false]
  constructor
  · intro h other record hget hne hvlan
    refine h (other, record) (KeyedTable.mem_entries_iff.2 hget) ?_
    simp [hne, hvlan]
  · rintro h ⟨other, record⟩ hmem hshared
    simp only [ne_eq, Bool.and_eq_true, decide_eq_true_eq] at hshared
    exact h other record (KeyedTable.mem_entries_iff.1 hmem) hshared.1 hshared.2

/-! ## §2. Behind and ahead. -/

/-- Dropping the record gives its VLAN back: it has no pods, or it is not active and shares
its VLAN with no other record. -/
def Frees (records : TenantRecords) (active : List Network) (id : String)
    (record : TenantRecord) (n : Nat) : Prop :=
  ∃ vlan, record.vlan = some vlan ∧ vlan.toNat = n ∧ (record.isUnused = true ∨
    ((∀ net ∈ active, net.id ≠ id) ∧ isShared records id vlan = false))

/-- One of these entries gave the VLAN back. -/
def Freed (records : TenantRecords) (active : List Network)
    (entries : List (String × TenantRecord)) (n : Nat) : Prop :=
  ∃ id record, (id, record) ∈ entries ∧ Frees records active id record n

/-- **The entries `before` are behind.**  Of the records, those that are behind are left
only if they are active; of the VLANs, those in `reserved` are taken but for the freed. -/
structure Restoring (records : TenantRecords) (reserved : IdSpace)
    (before : List (String × TenantRecord)) (v : View) : Prop where
  source : ∀ {net}, net ∈ v.networks → ∃ record, (net.id, record) ∈ before ∧
    record.vni = net.vni ∧ record.vlan = some net.vlan ∧ record.isUnused = false
  apart : Network.Apart v.networks
  left : ∀ id record, v.records.get? id = some record ↔ records.get? id = some record ∧
    ((∃ e ∈ before, e.1 = id) → ∃ net ∈ v.networks, net.id = id)
  taken : ∀ n, v.vlans.isAllocated n = true ↔
    reserved.isAllocated n = true ∧ ¬ Freed records v.networks before n
  limit : v.vlans.limit = reserved.limit

section
variable {records : TenantRecords} {reserved : IdSpace}
  {before rest : List (String × TenantRecord)} {id : String} {record : TenantRecord} {v : View}

/-- What one more entry frees. -/
theorem freed_concat {active : List Network} {n : Nat} :
    Freed records active (before ++ [(id, record)]) n ↔
      Freed records active before n ∨ Frees records active id record n := by
  constructor
  · rintro ⟨other, found, hmem, hfrees⟩
    rcases List.mem_append.1 hmem with hmem | hmem
    · exact Or.inl ⟨other, found, hmem, hfrees⟩
    · cases List.mem_singleton.1 hmem
      exact Or.inr hfrees
  · rintro (⟨other, found, hmem, hfrees⟩ | hfrees)
    · exact ⟨other, found, List.mem_append_left _ hmem, hfrees⟩
    · exact ⟨id, record, by simp, hfrees⟩

/-- Another network that becomes active frees nothing of other records. -/
theorem frees_concat {active : List Network} {net : Network} {n : Nat} (hid : net.id ≠ id) :
    Frees records (active ++ [net]) id record n ↔ Frees records active id record n := by
  have hinactive :
      (∀ other ∈ active ++ [net], other.id ≠ id) ↔ ∀ other ∈ active, other.id ≠ id := by
    constructor
    · exact fun h other hmem => h other (List.mem_append_left _ hmem)
    · intro h other hmem
      rcases List.mem_append.1 hmem with hmem | hmem
      · exact h other hmem
      · rw [List.mem_singleton.1 hmem]
        exact hid
  unfold Frees
  rw [hinactive]

theorem not_frees_of_vlan_none {active : List Network} {n : Nat} (hvlan : record.vlan = none) :
    ¬ Frees records active id record n := by
  rintro ⟨vlan, hsome, -⟩
  rw [hvlan] at hsome
  cases hsome

theorem frees_iff {active : List Network} {n : Nat} {vlan : UInt16}
    (hvlan : record.vlan = some vlan) : Frees records active id record n ↔
      n = vlan.toNat ∧ (record.isUnused = true ∨
        ((∀ net ∈ active, net.id ≠ id) ∧ isShared records id vlan = false)) := by
  constructor
  · rintro ⟨found, hfound, hn, hcause⟩
    rw [hvlan] at hfound
    cases hfound
    exact ⟨hn.symm, hcause⟩
  · rintro ⟨hn, hcause⟩
    exact ⟨vlan, hvlan, hn.symm, hcause⟩

theorem Restoring.sub (h : Restoring records reserved before v) {other : String}
    {found : TenantRecord} (hget : v.records.get? other = some found) :
    records.get? other = some found :=
  ((h.left other found).1 hget).1

/-- The next entry is still there, and not active. -/
theorem Restoring.ahead (h : Restoring records reserved before v)
    (hsplit : records.entries = before ++ (id, record) :: rest) :
    v.records.get? id = some record ∧ ∀ net ∈ v.networks, net.id ≠ id := by
  have hget : records.get? id = some record := by
    rw [← KeyedTable.mem_entries_iff, hsplit]
    simp
  constructor
  · refine (h.left id record).2 ⟨hget, fun ⟨e, hmem, hid⟩ => ?_⟩
    exact absurd hid (KeyedTable.key_ne_of_mem_before hsplit hmem)
  · intro net hnet hid
    obtain ⟨found, hmem, -⟩ := h.source hnet
    exact KeyedTable.key_ne_of_mem_before hsplit hmem hid

/-- The next record is dropped, and VLANs are given back as `freed` says. -/
theorem Restoring.drop (h : Restoring records reserved before v)
    (hsplit : records.entries = before ++ (id, record) :: rest) {vlans : IdSpace}
    (hlimit : vlans.limit = v.vlans.limit)
    (htaken : ∀ n, vlans.isAllocated n = true ↔
      v.vlans.isAllocated n = true ∧ ¬ Frees records v.networks id record n) :
    Restoring records reserved (before ++ [(id, record)])
      ⟨v.records.erase id, v.networks, vlans⟩ where
  source hnet := by
    obtain ⟨found, hmem, hfound⟩ := h.source hnet
    exact ⟨found, List.mem_append_left _ hmem, hfound⟩
  apart := h.apart
  left other found := by
    rw [KeyedTable.get?_erase]
    split
    -- The record that is dropped is behind now, and its network is not active.
    · rename_i hid
      refine ⟨fun hnone => absurd hnone.symm (by simp), fun ⟨_, hactive⟩ => ?_⟩
      obtain ⟨net, hnet, hnetId⟩ := hactive ⟨(id, record), by simp, hid.symm⟩
      exact absurd (hnetId.trans hid) ((h.ahead hsplit).2 net hnet)
    · rename_i hid
      rw [h.left other found]
      refine and_congr_right fun _ => ⟨fun himp hbehind => ?_, fun himp hbehind => ?_⟩
      · obtain ⟨e, hmem, he⟩ := hbehind
        rcases List.mem_append.1 hmem with hmem | hmem
        · exact himp ⟨e, hmem, he⟩
        · rw [List.mem_singleton.1 hmem] at he
          exact absurd he.symm hid
      · obtain ⟨e, hmem, he⟩ := hbehind
        exact himp ⟨e, List.mem_append_left _ hmem, he⟩
  taken n := by
    rw [htaken, h.taken, freed_concat, not_or, and_assoc]
  limit := hlimit.trans h.limit

/-- The next network is active. -/
theorem Restoring.activate (h : Restoring records reserved before v)
    (hsplit : records.entries = before ++ (id, record) :: rest) {vlan : UInt16}
    (hvlan : record.vlan = some vlan) (hused : record.isUnused = false)
    (hapart : v.networks.any (·.collidesWith ⟨id, record.vni, vlan⟩) = false) :
    Restoring records reserved (before ++ [(id, record)])
      { v with networks := v.networks ++ [⟨id, record.vni, vlan⟩] } where
  source {net} hnet := by
    rcases List.mem_append.1 hnet with hnet | hnet
    · obtain ⟨found, hmem, hfound⟩ := h.source hnet
      exact ⟨found, List.mem_append_left _ hmem, hfound⟩
    · rw [List.mem_singleton.1 hnet]
      exact ⟨record, by simp, rfl, hvlan, hused⟩
  apart := h.apart.concat hapart
  left other found := by
    rw [h.left other found]
    refine and_congr_right fun _ => ⟨fun himp hbehind => ?_, fun himp hbehind => ?_⟩
    · obtain ⟨e, hmem, he⟩ := hbehind
      rcases List.mem_append.1 hmem with hmem | hmem
      · obtain ⟨net, hnet, hid⟩ := himp ⟨e, hmem, he⟩
        exact ⟨net, List.mem_append_left _ hnet, hid⟩
      · rw [List.mem_singleton.1 hmem] at he
        exact ⟨⟨id, record.vni, vlan⟩, by simp, he⟩
    · obtain ⟨e, hmem, he⟩ := hbehind
      obtain ⟨net, hnet, hid⟩ := himp ⟨e, List.mem_append_left _ hmem, he⟩
      rcases List.mem_append.1 hnet with hnet | hnet
      · exact ⟨net, hnet, hid⟩
      · rw [List.mem_singleton.1 hnet] at hid
        exact absurd (he.trans hid.symm) (KeyedTable.key_ne_of_mem_before hsplit hmem)
  -- An active network with pods frees nothing, and those behind free what they did before.
  taken n := by
    have hnew : ¬ Frees records (v.networks ++ [⟨id, record.vni, vlan⟩]) id record n := by
      rw [frees_iff hvlan, hused]
      rintro ⟨-, hunused | ⟨hinactive, -⟩⟩
      · cases hunused
      · exact hinactive ⟨id, record.vni, vlan⟩ (by simp) rfl
    have hold : Freed records (v.networks ++ [⟨id, record.vni, vlan⟩]) before n
        ↔ Freed records v.networks before n := by
      constructor
      · rintro ⟨other, found, hmem, hfrees⟩
        exact ⟨other, found, hmem,
          (frees_concat (KeyedTable.key_ne_of_mem_before hsplit hmem).symm).1 hfrees⟩
      · rintro ⟨other, found, hmem, hfrees⟩
        exact ⟨other, found, hmem,
          (frees_concat (KeyedTable.key_ne_of_mem_before hsplit hmem).symm).2 hfrees⟩
    rw [h.taken, freed_concat, hold, or_iff_left hnew]
  limit := h.limit

end

/-! ## §3. One record, and all of them. -/

section
variable {records : TenantRecords} {reserved : IdSpace} {allowed : TenantRecords → Prop}

/-- Tables with fewer records are allowed as well. -/
def AllowsFewer (records : TenantRecords) (allowed : TenantRecords → Prop) : Prop :=
  ∀ fewer : TenantRecords,
    (∀ id record, fewer.get? id = some record → records.get? id = some record) → allowed fewer

theorem Restoring.allows {before : List (String × TenantRecord)} {v : View}
    (h : Restoring records reserved before v) (hallowed : AllowsFewer records allowed) :
    allowed v.records :=
  hallowed v.records fun _ _ hget => h.sub hget

theorem Restoring.allows_erase {before : List (String × TenantRecord)} {v : View}
    (h : Restoring records reserved before v) (hallowed : AllowsFewer records allowed)
    (id : String) : allowed (v.records.erase id) := by
  refine hallowed _ fun other record hget => ?_
  rw [KeyedTable.get?_erase] at hget
  split at hget
  · cases hget
  · exact h.sub hget

/-- What is said at the end of a task that may fail: nothing if it did. -/
def IfDone {α : Type} (p : View → Prop) : Except OverlayError α → View → Prop
  | .ok _, v => p v
  | .error _, _ => True

/-- Deleting the next record, which is there, and what follows if that is done. -/
theorem deleteNext_upholds {before rest : List (String × TenantRecord)} {id : String}
    {record : TenantRecord} {v : View} {α : Type} {next : Unit → Task α} {p : View → Prop}
    (hallowed : AllowsFewer records allowed) (h : Restoring records reserved before v)
    (hsplit : records.entries = before ++ (id, record) :: rest)
    (hnext : Upholds Answers (fun v => allowed v.records) (next ()).run (IfDone p)
      { v with records := v.records.erase id }) :
    Upholds Answers (fun v => allowed v.records) (call (.deleteRecord id) >>= next).run
      (IfDone p) v := by
  have hcontains : v.records.contains id = true :=
    KeyedTable.contains_iff.2 ⟨record, (h.ahead hsplit).1⟩
  have herased := h.allows_erase hallowed id
  refine upholds_call (h.allows hallowed) (fun _ v₁ hdelete => ?_) (fun e v₁ hdelete => ?_)
  · obtain ⟨-, rfl⟩ := (if_pos hcontains).mp hdelete
    exact hnext
  -- The write has failed, so the task ends here, with the record gone from memory.
  · obtain ⟨-, rfl⟩ := (if_pos hcontains).mp hdelete
    exact ⟨herased, trivial⟩

/-- The next record is dropped and its VLAN given back. -/
theorem Restoring.drop_release {before rest : List (String × TenantRecord)} {id : String}
    {record : TenantRecord} {v : View} {vlan : UInt16}
    (h : Restoring records reserved before v)
    (hsplit : records.entries = before ++ (id, record) :: rest) (hvlan : record.vlan = some vlan)
    (hcause : record.isUnused = true ∨ isShared records id vlan = false) :
    Restoring records reserved (before ++ [(id, record)])
      ⟨v.records.erase id, v.networks, v.vlans.release vlan.toNat⟩ := by
  refine h.drop hsplit rfl fun n => ?_
  have hfrees : Frees records v.networks id record n ↔ n = vlan.toNat := by
    rw [frees_iff hvlan]
    exact and_iff_left (hcause.imp_right fun hshared => ⟨(h.ahead hsplit).2, hshared⟩)
  rw [IdSpace.isAllocated_release, Bool.and_eq_true, bne_iff_ne, hfrees, and_comm]

/-- **One record**: its network is active, or the record is dropped. -/
theorem restoreOne_upholds {before rest : List (String × TenantRecord)} {id : String}
    {record : TenantRecord} {v : View} (hallowed : AllowsFewer records allowed)
    (h : Restoring records reserved before v)
    (hsplit : records.entries = before ++ (id, record) :: rest) :
    Upholds Answers (fun v => allowed v.records) (restoreOne records id record).run
      (IfDone (Restoring records reserved (before ++ [(id, record)]))) v := by
  have hbefore := h.allows hallowed
  have herased := h.allows_erase hallowed id
  unfold restoreOne
  cases hvlan : record.vlan with
  -- The text is no VLAN: there is nothing to give back.
  | none =>
      refine deleteNext_upholds hallowed h hsplit (upholds_pure herased ?_)
      refine h.drop hsplit rfl fun n => ?_
      exact (and_iff_left (not_frees_of_vlan_none hvlan)).symm
  | some vlan =>
      show Upholds Answers _ (ExceptT.run (if record.isUnused = true then _ else _)) _ v
      split
      -- No pod uses it: the VLAN is given back, whoever else names it.
      · rename_i hunused
        refine deleteNext_upholds hallowed h hsplit ?_
        refine upholds_ask herased fun _ v₂ hrelease => ?_
        cases hrelease
        exact upholds_pure herased (h.drop_release hsplit hvlan (Or.inl hunused))
      · rename_i hused
        have hused : record.isUnused = false := Bool.eq_false_iff.2 hused
        refine upholds_attempt hbefore fun answer v₁ hactivate => ?_
        cases hany : v.networks.any (·.collidesWith ⟨id, record.vni, vlan⟩) with
        | false =>
            obtain ⟨rfl, rfl⟩ := (if_neg (by simp [hany])).mp hactivate
            exact upholds_pure hbefore (h.activate hsplit hvlan hused hany)
        | true =>
            obtain ⟨rfl, rfl⟩ := (if_pos hany).mp hactivate
            refine deleteNext_upholds hallowed h hsplit ?_
            -- It is refused: the VLAN is given back only if no other record names it.
            cases hshared : isShared records id vlan with
            | false =>
                refine upholds_ask herased fun _ v₃ hrelease => ?_
                cases hrelease
                exact upholds_pure herased (h.drop_release hsplit hvlan (Or.inr hshared))
            | true =>
                refine upholds_pure herased (h.drop hsplit rfl fun n => ?_)
                refine (and_iff_left fun hfrees => ?_).symm
                rw [frees_iff hvlan, hused, hshared] at hfrees
                simp at hfrees

/-- **All records**, those behind and those ahead.  Induction on the records ahead. -/
theorem restoreAll_upholds (hallowed : AllowsFewer records allowed) :
    ∀ {rest : List (String × TenantRecord)} (before : List (String × TenantRecord)) (count : Nat)
      {v : View},
      Restoring records reserved before v → records.entries = before ++ rest →
      Upholds Answers (fun v => allowed v.records) (restoreAll records rest count).run
        (IfDone (Restoring records reserved records.entries)) v := by
  intro rest
  induction rest with
  | nil =>
      intro before count v h hsplit
      rw [List.append_nil] at hsplit
      rw [hsplit]
      exact upholds_pure (h.allows hallowed) h
  | cons e rest ih =>
      intro before count v h hsplit
      obtain ⟨id, record⟩ := e
      unfold restoreAll
      refine upholds_bind (Procedure.Upholds.mono (fun result v₁ _ hend => ?_)
        (restoreOne_upholds hallowed h hsplit))
      cases result with
      | error e => exact trivial
      -- One more record is behind, and the rest is ahead of it.
      | ok active => exact ih _ _ hend (by rw [hsplit, List.append_assoc]; rfl)

end

/-- The VLANs that records name. -/
def namedVlans (records : TenantRecords) : List Nat :=
  (records.values.filterMap TenantRecord.vlan).map (·.toNat)

/-- What is left after a restart from these records. -/
def Restored (records : TenantRecords) (vlans : IdSpace) (v : View) : Prop :=
  Restoring records (vlans.seed (namedVlans records)) records.entries v

/-- At the start no record is behind. -/
theorem restoring_start {v : View} {reserved : IdSpace} (hnone : v.networks = []) :
    Restoring v.records reserved [] { v with vlans := reserved } where
  source {net} hnet := by
    rw [hnone] at hnet
    cases hnet
  apart := by
    rw [Network.Apart, hnone]
    exact List.Pairwise.nil
  left id record := (and_iff_left fun ⟨e, he, _⟩ => absurd he List.not_mem_nil).symm
  taken n := (and_iff_left fun ⟨id, record, hmem, _⟩ => absurd hmem List.not_mem_nil).symm
  limit := rfl

/-- **Restoring**, from any records: when it is done, `Restored` holds. -/
theorem restore_upholds (allowed : TenantRecords → Prop) {v : View}
    (hallowed : AllowsFewer v.records allowed) (hnone : v.networks = []) :
    Upholds Answers (fun v => allowed v.records) restore.run
      (IfDone (Restored v.records v.vlans)) v := by
  have hstart : allowed v.records := hallowed v.records fun _ _ hget => hget
  unfold restore
  refine upholds_ask hstart fun records v₁ hall => ?_
  obtain ⟨rfl, rfl⟩ := hall
  refine upholds_ask hstart fun _ v₂ hreserve => ?_
  cases hreserve
  exact restoreAll_upholds hallowed [] 0 (restoring_start hnone) rfl

/-! ## §4. What is left. -/

section
variable {records : TenantRecords} {vlans : IdSpace} {v : View}

theorem mem_namedVlans {n : Nat} : n ∈ namedVlans records ↔
    ∃ id record vlan, records.get? id = some record ∧ record.vlan = some vlan ∧ vlan.toNat = n := by
  simp only [namedVlans, KeyedTable.values, List.mem_map, List.mem_filterMap]
  constructor
  · rintro ⟨vlan, ⟨record, ⟨⟨id, found⟩, hmem, rfl⟩, hvlan⟩, hn⟩
    exact ⟨id, found, vlan, KeyedTable.mem_entries_iff.1 hmem, hvlan, hn⟩
  · rintro ⟨id, record, vlan, hget, hvlan, hn⟩
    exact ⟨vlan, ⟨record, ⟨(id, record), KeyedTable.mem_entries_iff.2 hget, rfl⟩, hvlan⟩, hn⟩

/-- An active network has the record from which it was restored. -/
theorem Restored.record (h : Restored records vlans v) {net : Network} (hnet : net ∈ v.networks) :
    ∃ record, records.get? net.id = some record ∧ v.records.get? net.id = some record ∧
      record.vni = net.vni ∧ record.vlan = some net.vlan ∧ record.isUnused = false := by
  obtain ⟨record, hmem, hrecord⟩ := h.source hnet
  have hget := KeyedTable.mem_entries_iff.1 hmem
  exact ⟨record, hget, (h.left _ _).2 ⟨hget, fun _ => ⟨net, hnet, rfl⟩⟩, hrecord⟩

/-- **Which active networks keep their VLAN**: those whose VLAN no record without pods
named. -/
theorem Restored.reserved_iff_no_unused (h : Restored records vlans v) {net : Network}
    (hnet : net ∈ v.networks) : v.vlans.isAllocated net.vlan.toNat = true ↔
      ∀ id record, records.get? id = some record → record.isUnused = true →
        record.vlan ≠ some net.vlan := by
  obtain ⟨record, hget, -, -, hvlan, -⟩ := h.record hnet
  have hnamed : (vlans.seed (namedVlans records)).isAllocated net.vlan.toNat = true :=
    (IdSpace.isAllocated_seed _ _ _).2
      (Or.inl (mem_namedVlans.2 ⟨net.id, record, net.vlan, hget, hvlan, rfl⟩))
  rw [h.taken]
  constructor
  · rintro ⟨-, hfreed⟩ id found hfound hunused hsame
    exact hfreed ⟨id, found, KeyedTable.mem_entries_iff.2 hfound, net.vlan, hsame, rfl,
      Or.inl hunused⟩
  · rintro hall
    refine ⟨hnamed, ?_⟩
    rintro ⟨id, found, hmem, vlan, hfoundVlan, hn, hcause⟩
    have hfound := KeyedTable.mem_entries_iff.1 hmem
    rw [UInt16.toNat_inj.1 hn] at hfoundVlan hcause
    rcases hcause with hunused | ⟨hinactive, hshared⟩
    · exact hall id found hfound hunused hfoundVlan
    -- The record of the network names the VLAN, so it is shared.
    · exact isShared_eq_false.1 hshared net.id record hget (hinactive net hnet) hvlan

/-- **Where each active network keeps its VLAN, the view is consistent.** -/
theorem Restored.consistent {fits : UInt16 → Prop} (h : Restored records vlans v)
    (hreserved : ∀ {net}, net ∈ v.networks → v.vlans.isAllocated net.vlan.toNat = true)
    (hfit : ∀ {id record vlan}, records.get? id = some record → record.vlan = some vlan →
      fits vlan)
    (hspare : ∀ {vlan : UInt16}, v.vlans.isBelowLimit vlan.toNat = true →
      v.vlans.isAllocated vlan.toNat = false → fits vlan) : Consistent fits v where
  active {id record} hget := by
    obtain ⟨hold, hactive⟩ := (h.left id record).1 hget
    obtain ⟨net, hnet, hid⟩ :=
      hactive ⟨(id, record), KeyedTable.mem_entries_iff.2 hold, rfl⟩
    obtain ⟨found, hfound, -, hvni, hvlan, -⟩ := h.record hnet
    rw [hid, hold] at hfound
    cases hfound
    refine ⟨net.vlan, hvlan, ?_⟩
    rw [← hid, hvni]
    exact hnet
  recorded {net} hnet := by
    obtain ⟨record, -, hget, hvni, hvlan, -⟩ := h.record hnet
    exact ⟨record, hget, hvni, hvlan⟩
  apart := h.apart
  reserved := hreserved
  fit {net} hnet := by
    obtain ⟨record, hget, -, -, hvlan, -⟩ := h.record hnet
    exact hfit hget hvlan
  spare := hspare

/-- The network is refused because it exists. -/
def RefusesAsExisting {α : Type} (result : Except OverlayError α) : Prop :=
  ∃ id vni vlan, result = .error (.networkExists id vni vlan)

/-- The VLAN that is handed out next is that of an active network. -/
def NextIsActive (v : View) : Prop :=
  ∃ net ∈ v.networks, v.vlans.allocate.1 = .ok net.vlan.toNat

theorem not_refusesAsExisting_ok {α : Type} (a : α) : ¬ RefusesAsExisting (.ok a) := by
  rintro ⟨_, _, _, hsame⟩
  cases hsame

theorem not_refusesAsExisting_persistence {α : Type} (path reason : String) :
    ¬ RefusesAsExisting (.error (.persistence path reason) : Except OverlayError α) := by
  rintro ⟨_, _, _, hsame⟩
  cases hsame

/-- A network whose id and VNI are new collides by its VLAN only. -/
theorem collides_iff_vlan {id : String} {vni : UInt32} (hids : ∀ net ∈ v.networks, net.id ≠ id)
    (hvnis : ∀ net ∈ v.networks, net.vni ≠ vni) (vlan : UInt16) :
    v.networks.any (·.collidesWith ⟨id, vni, vlan⟩) = true ↔
      ∃ net ∈ v.networks, net.vlan = vlan := by
  rw [List.any_eq_true]
  refine exists_congr fun net => and_congr_right fun hnet => ?_
  simp [Network.collidesWith, hids net hnet, hvnis net hnet]

/-- **When realizing is refused as existing**, for a new id and a new VNI.  One case for
each way in which it can end. -/
theorem Realized.refuses_iff {id : String} {vni : UInt32} {v' : View}
    {result : Except OverlayError UInt16} (hids : ∀ net ∈ v.networks, net.id ≠ id)
    (hvnis : ∀ net ∈ v.networks, net.vni ≠ vni) (hend : Realized id vni v result v') :
    RefusesAsExisting result ↔ NextIsActive v := by
  have hapart : ∀ {vlan : UInt16} {later : IdSpace},
      v.vlans.allocate = (.ok vlan.toNat, later) →
      v.networks.any (·.collidesWith ⟨id, vni, vlan⟩) = false → ¬ NextIsActive v := by
    rintro vlan later htake hfalse ⟨net, hnet, hsame⟩
    rw [htake] at hsame
    have hvlan := UInt16.toNat_inj.1 (Except.ok.inj hsame)
    rw [(collides_iff_vlan hids hvnis vlan).2 ⟨net, hnet, hvlan.symm⟩] at hfalse
    cases hfalse
  cases hend with
  | exhausted hspace =>
      obtain ⟨name, limit, rfl⟩ := error_of_allocate hspace
      simp [RefusesAsExisting, NextIsActive, hspace]
  | unfit htake hlarge reason =>
      refine iff_of_false ?_ ?_
      · rintro ⟨_, _, _, hsame⟩
        cases hsame
      · rintro ⟨net, hnet, hsame⟩
        rw [htake] at hsame
        have hraw := Except.ok.inj hsame
        have hlt := net.vlan.toNat_lt
        omega
  | taken htake htrue =>
      obtain ⟨net, hnet, hvlan⟩ := (collides_iff_vlan hids hvnis _).1 htrue
      exact iff_of_true ⟨_, _, _, rfl⟩ ⟨net, hnet, by rw [htake, hvlan]⟩
  | unwritten path reason htake hfalse =>
      exact iff_of_false (not_refusesAsExisting_persistence path reason) (hapart htake hfalse)
  | active htake hfalse => exact iff_of_false (not_refusesAsExisting_ok _) (hapart htake hfalse)

/-- **When a network without a record is refused as existing**, although no active network
has its VNI: when the VLAN that comes next is that of an active network. -/
theorem attach_conflict_upholds {id : String} (pod : String) {vni : UInt32}
    (hnone : v.records.get? id = none) (hids : ∀ net ∈ v.networks, net.id ≠ id)
    (hvnis : ∀ net ∈ v.networks, net.vni ≠ vni) :
    Upholds Answers (fun _ => True) (attach id vni pod).run
      (fun result _ => RefusesAsExisting result ↔ NextIsActive v) v := by
  have hrealize : Upholds Answers (fun _ => True) (realize id vni).run (Realized id vni v) v :=
    realize_upholds (fun _ => True) trivial fun _ _ => ⟨trivial, trivial⟩
  refine attach_unknown_upholds (fun _ => True) trivial hnone hrealize
    (fun e v' hend => hend.refuses_iff hids hvnis) (fun vlan v' hend => ?_)
  have hiff := hend.refuses_iff hids hvnis
  -- The network is active; what is left is to note the pod, which may fail to be written.
  have hnext : ¬ NextIsActive v := fun h => not_refusesAsExisting_ok vlan (hiff.2 h)
  exact ⟨trivial, hiff, fun path reason =>
    iff_of_false (not_refusesAsExisting_persistence path reason) hnext⟩

end

/-! ## §5. Attaching after a restart. -/

variable {σ : Type} [CommandRunner σ]

/-- A task that is done leaves behind what it said it would. -/
theorem restored_of_done (settings : MeshSettings) {node node' : Node σ} {count : Nat}
    (hnone : node.mesh.networks = [])
    (hrestore : runTask settings restore node = (.done count, node')) :
    Restored node.registry.records node.vlans node'.view := by
  obtain ⟨result, found, hrun, hends⟩ := runTask_ends settings
    (restore_upholds (fun _ => True) (fun _ _ => trivial)
      (show node.view.networks = [] from hnone))
  rw [hrestore] at hrun
  cases result with
  | error e => cases hrun
  | ok restored =>
      obtain ⟨-, rfl⟩ := Prod.mk.inj hrun
      exact hends

/-- What attaching reports for a network without a record. -/
theorem attach_reports (settings : MeshSettings) {fits : UInt16 → Prop} {node : Node σ}
    (h : Consistent fits node.view) {id : String} (hunknown : node.registry.records.get? id = none)
    (vni : UInt32) (pod : String) :
    (∀ vlan, (runTask settings (attach id vni pod) node).1 = .done vlan →
        ∀ net ∈ node.mesh.networks, net.vlan ≠ vlan) ∧
      ((∀ net ∈ node.mesh.networks, net.vni ≠ vni) → ∀ id' vni' vlan,
        (runTask settings (attach id vni pod) node).1
          ≠ .failed (.networkExists id' vni' vlan)) := by
  obtain ⟨result, last, hattach, -, hreports⟩ :=
    runTask_ends settings (attach_upholds id pod vni h)
  obtain ⟨hnew, hexists⟩ := hreports hunknown
  rw [hattach]
  cases result with
  | ok found =>
      refine ⟨fun vlan hdone => ?_, fun _ _ _ _ => nofun⟩
      exact hnew vlan (congrArg Except.ok (Outcome.done.inj hdone))
  | error e =>
      refine ⟨fun _ => nofun, fun hvnis id' vni' vlan hfailed => ?_⟩
      cases hfailed
      exact hexists hvnis id' vni' vlan rfl

/-- When attaching refuses a network without a record as existing. -/
theorem attach_refuses_iff (settings : MeshSettings) {node : Node σ} {id : String}
    (hunknown : node.registry.records.get? id = none)
    (hids : ∀ net ∈ node.mesh.networks, net.id ≠ id) {vni : UInt32}
    (hvnis : ∀ net ∈ node.mesh.networks, net.vni ≠ vni) (pod : String) :
    (∃ id' vni' vlan, (runTask settings (attach id vni pod) node).1
        = .failed (.networkExists id' vni' vlan)) ↔
      ∃ net ∈ node.mesh.networks, node.vlans.allocate.1 = .ok net.vlan.toNat := by
  obtain ⟨result, last, hattach, hconflict⟩ := runTask_ends settings
    (attach_conflict_upholds (v := node.view) pod hunknown hids hvnis)
  have hiff : RefusesAsExisting result ↔
      ∃ net ∈ node.mesh.networks, node.vlans.allocate.1 = .ok net.vlan.toNat := hconflict
  rw [hattach, ← hiff]
  cases result with
  | ok vlan =>
      refine iff_of_false ?_ (not_refusesAsExisting_ok vlan)
      rintro ⟨_, _, _, hfailed⟩
      cases hfailed
  | error e => simp [Outcome.ofExcept, RefusesAsExisting]

/-- **Restored networks and their VLANs.**  The records on disk are any, and so is what the
switch and the disk answer.  An active network keeps its VLAN exactly if no record without
pods named it.  If all of them do, a network without a record never gets the VLAN of an
active one, whatever was asked before, and is refused as existing only for its VNI; in any
case, right after the restart, it is refused so exactly if the next VLAN is that of an
active network. -/
theorem vlans_after_restore (settings : MeshSettings) {node node' : Node σ} {count : Nat}
    (hnone : node.mesh.networks = [])
    (hrestore : runTask settings restore node = (.done count, node')) :
    (∀ net ∈ node'.mesh.networks, node'.vlans.isAllocated net.vlan.toNat = true ↔
      ∀ id record, node.registry.records.get? id = some record → record.isUnused = true →
        record.vlan ≠ some net.vlan) ∧
    ((∀ net ∈ node'.mesh.networks, node'.vlans.isAllocated net.vlan.toNat = true) →
      ∀ (requests : List Request) (id : String) (vni : UInt32) (ns name : String),
        let later := requests.foldl (serve settings) node'
        let answer := (runTask settings (attach id vni (podKey ns name)) later).1
        later.registry.records.get? id = none →
          (∀ vlan, answer = .done vlan → ∀ net ∈ later.mesh.networks, net.vlan ≠ vlan) ∧
          ((∀ net ∈ later.mesh.networks, net.vni ≠ vni) →
            ∀ id' vni' vlan, answer ≠ .failed (.networkExists id' vni' vlan))) ∧
    ∀ (id : String) (vni : UInt32) (ns name : String),
      node'.registry.records.get? id = none → (∀ net ∈ node'.mesh.networks, net.vni ≠ vni) →
      ((∃ id' vni' vlan, (runTask settings (attach id vni (podKey ns name)) node').1
          = .failed (.networkExists id' vni' vlan)) ↔
        ∃ net ∈ node'.mesh.networks, node'.vlans.allocate.1 = .ok net.vlan.toNat) := by
  have hrestored := restored_of_done settings hnone hrestore
  refine ⟨fun net hnet => hrestored.reserved_iff_no_unused hnet, fun hreserved => ?_, ?_⟩
  · intro requests id vni ns name later answer hunknown
    have hstart : Consistent (fun _ => True) node'.view :=
      hrestored.consistent (fun hnet => hreserved _ hnet) (fun _ _ => trivial)
        fun _ _ => trivial
    have hlater : Consistent (fun _ => True) later.view :=
      serve_all_consistent settings (keptBySnapshots_true _) requests hstart trivial
    exact attach_reports settings hlater hunknown vni (podKey ns name)
  · intro id vni ns name hunknown hvnis
    -- An active network has a record, so its id is another one.
    have hids : ∀ net ∈ node'.mesh.networks, net.id ≠ id := by
      intro net hnet hid
      obtain ⟨record, -, hget, -⟩ := hrestored.record hnet
      rw [hid] at hget
      exact absurd (hget.symm.trans hunknown) (by simp)
    exact attach_refuses_iff settings hunknown hids hvnis (podKey ns name)

/-- The settings of a host. -/
def hostSettings : MeshSettings := { selfIp := "192.168.10.1", localIp := "192.168.10.1" }

/-- A host whose switch only records what it is told. -/
def recordingHost : Host Recorder := { switch := { recorded := #[] } }

/-- A node that has loaded two records with one VLAN, the first of them with a pod. -/
def loadedNode (second : TenantRecord) : Node Recorder where
  mesh := { host := recordingHost, ofports := { name := "tunnel-ofport" } }
  registry := {
    store := ⟨"state"⟩
    records := KeyedTable.ofList
      [("net-A", { vni := 100, vlanText := "1", pods := KeySet.ofList ["ns:p"] }),
        ("net-B", second)] }
  vlans := ({ name := "vlan", limit := some 4095 } : IdSpace).seed [0]

/-- Where the second record has a pod too, its network is refused, and the first network
keeps the VLAN. -/
theorem vlans_after_restore_refused :
    let node := loadedNode { vni := 200, vlanText := "1", pods := KeySet.ofList ["ns:q"] }
    ∃ node', runTask hostSettings restore node = (.done 1, node') ∧
      ∀ net ∈ node'.mesh.networks, (node'.vlans.isAllocated net.vlan.toNat = true ↔
        ∀ id record, node.registry.records.get? id = some record → record.isUnused = true →
          record.vlan ≠ some net.vlan) := by
  intro node
  have hdone : (runTask hostSettings restore node).1 = .done 1 := by decide +kernel
  cases hrestore : runTask hostSettings restore node with
  | mk outcome node' =>
      rw [hrestore] at hdone
      cases hdone
      exact ⟨node', rfl, (vlans_after_restore hostSettings rfl hrestore).1⟩

/-- Where the second record has no pod, its VLAN is given back although the first network
has it; the next network is handed that VLAN and refused. -/
theorem active_vlan_is_given_back :
    let restored := runTask hostSettings restore (loadedNode { vni := 200, vlanText := "1" })
    restored.1 = .done 1 ∧ restored.2.mesh.networks = [⟨"net-A", 100, 1⟩] ∧
      restored.2.vlans.isAllocated 1 = false ∧
      (runTask hostSettings (attach "net-C" 300 (podKey "ns" "q")) restored.2).1
        = .failed (.networkExists "net-C" 300 1) := by
  decide +kernel

end Node

end VxlanMesh
