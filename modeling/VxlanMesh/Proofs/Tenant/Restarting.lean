/-
  VxlanMesh.Proofs.Tenant.Restarting
  ────────────────────────────────
  **A RESTART THAT CANNOT BE TOLD.**

  While snapshots are written, the table file says at any time between two
  requests what the memory says, every record has a pod, and no VLAN is
  lost.  A process that starts on such a directory therefore drops no
  record: it activates the networks one after the other, in the order of
  their ids instead of that in which they were realized, and no two of
  them collide.

      perform_settles      which steps keep memory and disk together
      serve_settled        requests keep what a restart needs
      restore_active       restoring when every record can stay
      restart_is_transparent    the main result
-/
import VxlanMesh.Proofs.Tenant.References

namespace VxlanMesh

/-! ## §1. Memory and disk. -/

namespace Registry

variable {store : TableStore} {registry later : Registry}

/-- A new process that loads its records from the disk has the ones that are in memory. -/
def Reloads (store : TableStore) (registry : Registry) : Prop :=
  load { store, disk := registry.disk } = (.done (), registry)

theorem Reloads.store_eq (h : registry.Reloads store) : registry.store = store := by
  unfold Reloads at h
  rw [load] at h
  split at h
  · exact congrArg (fun result => result.2.store) h.symm
  · cases h

/-- **A write that is done brings memory and disk together.** -/
theorem reloads_of_persist (hstore : registry.store = store)
    (h : persist registry = (.done (), later)) : later.Reloads store := by
  have hrestart := (isDurable_of_persist h).restart
  have hlater : later.store = store := by
    rw [persist_eq registry (Prod.mk.eta).symm] at h
    rw [← congrArg (fun result => result.2.store) h]
    exact hstore
  rw [restart] at hrestart
  rw [Reloads, ← hlater]
  exact hrestart

/-- Where there is no table file, there are no records. -/
theorem reloads_of_notFound {disk : Disk}
    (h : disk.tree.read (store.path tenantTable) = .error .notFound) :
    Reloads store { store, disk } := by
  rw [Reloads, load]
  simp only [TableStore.load_of_notFound h]

end Registry

namespace Node

open VxlanMesh.Procedure (Upholds upholds_bind)

/-- **Which steps keep memory and disk together**, as far as the answers tell: one that writes
does unless a snapshot could not be written, and all others do. -/
def Settles : Procedure.Answering Step Prop
  | _, .insertRecord _, before, answer, after =>
      WriteAnswer answer ∧ (before → Written answer → after)
  | _, .addPod _ _, before, answer, after => before → Written answer → after
  | _, .removePod _ _, before, answer, after => before → Written answer → after
  | _, .deleteRecord _, before, answer, after => before → Written answer → after
  | _, _, before, _, after => before → after

/-- Memory and disk agree at the end of a task, unless it reports a snapshot. -/
def EndsSettled {α : Type} (result : Except OverlayError α) (after : Prop) : Prop :=
  Written result → after

section
variable {s : Prop}

theorem addPod_settles (h : s) (id pod : String) (vlan : UInt16) :
    Upholds Settles (fun _ => True)
      (call (.addPod id pod) >>= fun _ => pure vlan : Task UInt16).run EndsSettled s :=
  upholds_call trivial (fun _ _ hadd => upholds_pure trivial fun _ => hadd h trivial)
    fun _ _ hadd => ⟨trivial, fun hwritten => hadd h hwritten⟩

theorem realize_settles (h : s) (id : String) (vni : UInt32) :
    Upholds Settles (fun _ => True) (realize id vni).run EndsSettled s := by
  unfold realize
  refine upholds_call trivial (fun raw s₁ htake => ?_) fun e s₁ htake => ⟨trivial, fun _ => htake h⟩
  have h₁ : s₁ := htake h
  split
  · refine upholds_ask trivial fun _ s₂ hrelease => ?_
    exact upholds_throw trivial fun _ => hrelease h₁
  refine upholds_attempt trivial fun activated s₂ hactivate => ?_
  cases activated with
  | error e =>
      refine upholds_ask trivial fun _ s₃ hrelease => ?_
      exact upholds_throw_bind trivial fun _ => hrelease (hactivate h₁)
  | ok u =>
      refine upholds_attempt trivial fun inserted s₃ hinsert => ?_
      obtain ⟨rfl | ⟨path, reason, rfl⟩, hkeeps⟩ := hinsert
      · exact upholds_pure trivial fun _ => hkeeps (hactivate h₁) trivial
      -- Nothing is said of the disk after this; the failure is what is reported.
      · refine upholds_attempt trivial fun _ s₄ _ => ?_
        refine upholds_attempt trivial fun _ s₅ _ => ?_
        refine upholds_ask trivial fun _ s₆ _ => ?_
        exact upholds_throw trivial fun hwritten => absurd rfl (hwritten path reason)

/-- **Attaching** keeps memory and disk together, unless it reports a snapshot. -/
theorem attach_settles (h : s) (id pod : String) (vni : UInt32) :
    Upholds Settles (fun _ => True) (attach id vni pod).run EndsSettled s := by
  unfold attach
  refine upholds_ask trivial fun found s₁ hlookUp => ?_
  have h₁ : s₁ := hlookUp h
  cases found with
  | none =>
      show Upholds Settles _ (realize id vni >>= fun vlan =>
        call (.addPod id pod) >>= fun _ => pure vlan : Task UInt16).run _ s₁
      refine upholds_bind (Procedure.Upholds.mono (fun result s₂ _ hend => ?_)
        (realize_settles h₁ id vni))
      cases result with
      | ok vlan => exact addPod_settles (hend trivial) id pod vlan
      | error e => exact hend
  | some record =>
      show Upholds Settles _ (attach.liftExcept (boundVlan id vni record) >>= fun vlan =>
        call (.addPod id pod) >>= fun _ => pure vlan : Task UInt16).run _ s₁
      cases boundVlan id vni record with
      | ok vlan => exact addPod_settles h₁ id pod vlan
      | error e => exact upholds_throw_bind trivial fun _ => h₁

theorem deactivateIfActive_settles (h : s) (id : String) :
    Upholds Settles (fun _ => True) (deactivateIfActive id).run (fun _ after => after) s := by
  unfold deactivateIfActive
  refine upholds_attempt trivial fun answer s₁ hdeactivate => ?_
  have h₁ : s₁ := hdeactivate h
  cases answer with
  | ok u => exact upholds_pure trivial h₁
  | error e =>
      show Upholds Settles _ (ExceptT.run (if e.isMissing = true then _ else _)) _ s₁
      split
      · exact upholds_pure trivial h₁
      · exact upholds_throw trivial h₁

/-- **Detaching** keeps memory and disk together, unless it reports a snapshot. -/
theorem detach_settles (h : s) (id pod : String) :
    Upholds Settles (fun _ => True) (detach id pod).run EndsSettled s := by
  unfold detach
  refine upholds_call trivial (fun _ s₁ hremove => ?_) fun e s₁ hremove =>
    ⟨trivial, fun hwritten => hremove h hwritten⟩
  have h₁ : s₁ := hremove h trivial
  refine upholds_ask trivial fun needed s₂ hneeded => ?_
  have h₂ : s₂ := hneeded h₁
  split
  case isFalse => exact upholds_pure trivial fun _ => h₂
  refine upholds_ask trivial fun found s₃ hlookUp => ?_
  have h₃ : s₃ := hlookUp h₂
  cases found with
  | none => exact upholds_throw trivial fun _ => h₃
  | some record =>
      refine upholds_bind (Procedure.Upholds.mono (fun result s₄ _ h₄ => ?_)
        (deactivateIfActive_settles h₃ id))
      cases result with
      | error e => exact fun _ => h₄
      | ok u =>
          refine upholds_call trivial (fun _ s₅ hdelete => ?_) fun e s₅ hdelete =>
            ⟨trivial, fun hwritten => hdelete h₄ hwritten⟩
          have h₅ : s₅ := hdelete h₄ trivial
          show Upholds Settles _ (releaseVlanOf record >>= fun _ => pure true : Task Bool).run _ s₅
          unfold releaseVlanOf
          cases record.vlan with
          | none => exact upholds_pure trivial fun _ => h₅
          | some vlan =>
              refine upholds_ask trivial fun _ s₆ hrelease => ?_
              exact upholds_pure trivial fun _ => hrelease h₅

end

section
variable {store : TableStore}

/-- A write on a core, and what it leaves on the disk. -/
theorem reloads_write {c : Core} (hbefore : c.registry.Reloads store) (records : TenantRecords)
    (hwritten : Written (c.write records).1) : (c.write records).2.registry.Reloads store := by
  cases hsave : c.registry.store.save tenantTable records.toJson c.registry.disk with
  | mk answer disk =>
      rw [Core.write_eq hsave] at hwritten ⊢
      rcases writeAnswer_of_save hsave with rfl | ⟨path, reason, rfl⟩
      · have hstore : ({ c.registry with records } : Registry).store = store := hbefore.store_eq
        exact Registry.reloads_of_persist hstore
          (Registry.persist_eq { c.registry with records } hsave)
      · exact absurd rfl (hwritten path reason)

theorem reloads_change {c : Core} (hbefore : c.registry.Reloads store) (id : String)
    (f : TenantRecord → TenantRecord) (hwritten : Written (c.change id f).1) :
    (c.change id f).2.registry.Reloads store := by
  rw [Core.change] at hwritten ⊢
  cases hget : c.records.get? id with
  | none => exact hbefore
  | some record =>
      rw [hget] at hwritten
      exact reloads_write hbefore _ hwritten

/-- **Steps on a core do what `Settles` says.**  One case for each step. -/
theorem settles_take (store : TableStore) {β : Type} (s : Step β) (c : Core) :
    Settles β s (c.registry.Reloads store) (c.take s).1 ((c.take s).2.registry.Reloads store) := by
  cases s with
  | lookUp id | allRecords | reserveVlans vlans | takeVlan | releaseVlan vlan | needsDelete id =>
      exact fun h => h
  | activate net | deactivate id =>
      rw [Core.take]
      split <;> exact fun h => h
  | insertRecord net => exact ⟨writeAnswer_of_write rfl, fun h => reloads_write h _⟩
  | addPod id pod => exact fun h => reloads_change h id _
  | removePod id pod => exact fun h => reloads_change h id _
  | deleteRecord id =>
      rw [Core.take]
      split
      · exact fun h => reloads_write h _
      · exact fun h _ => h

end

section
variable {σ : Type} [CommandRunner σ]

/-- **A node does what `Settles` says**, since its core does. -/
theorem perform_settles (settings : MeshSettings) (store : TableStore) :
    Procedure.Carries Settles (perform (σ := σ) settings) (fun node => node.registry.Reloads store)
      (fun _ => True) fun _ => True := by
  intro β s node _
  obtain ⟨node', hperform, hcore⟩ := perform_take settings s node
  have hsettles := settles_take store s node.core
  rw [← hcore] at hsettles
  exact ⟨_, node', hperform, hsettles, fun _ => trivial⟩

/-- **A task** leaves memory and disk together, unless it reports a snapshot. -/
theorem runTask_settles (settings : MeshSettings) (store : TableStore) {α : Type} {task : Task α}
    {node node' : Node σ} {result : Except OverlayError α}
    (htask : Upholds Settles (fun _ => True) task.run EndsSettled (node.registry.Reloads store))
    (hrun : runTask settings task node = (.ofExcept result, node')) (hwritten : Written result) :
    node'.registry.Reloads store := by
  have hcarries : Procedure.Carries Settles (perform (σ := σ) settings)
      (fun node => node.registry.Reloads store) (fun _ => True) fun _ => True :=
    perform_settles settings store
  obtain ⟨found, last, hfound, hends, -⟩ : ∃ found last,
      Procedure.run (perform settings) task.run node = (.done found, last) ∧
        EndsSettled found (last.registry.Reloads store) ∧ True :=
    Procedure.run_of_upholds hcarries htask trivial
  rw [runTask, Operation.bind_done hfound] at hrun
  have hsame : found = result ∧ last = node' := by
    cases found <;> cases result <;> cases hrun <;> exact ⟨rfl, rfl⟩
  obtain ⟨rfl, rfl⟩ := hsame
  exact hends hwritten

end

/-! ## §2. What requests keep. -/

/-- Every record has a pod. -/
def Used (records : TenantRecords) : Prop :=
  ∀ id record, records.get? id = some record → record.isUnused = false

theorem isUnused_addPod (record : TenantRecord) (pod : String) :
    (record.addPod pod).isUnused = false := by
  have hmem : (pod, ()) ∈ (record.addPod pod).pods.entries := by
    rw [KeyedTable.mem_entries_iff, TenantRecord.addPod, KeyedTable.get?_insert_self]
  rw [TenantRecord.isUnused, List.isEmpty_eq_false_iff]
  exact List.ne_nil_of_mem hmem

section
variable {records : TenantRecords} {id pod : String} {vni : UInt32} {v v' : View}

theorem Used.insert (h : Used records) {record : TenantRecord} (hused : record.isUnused = false) :
    Used (records.insert id record) := by
  intro other found hfound
  rw [KeyedTable.get?_insert] at hfound
  split at hfound
  · cases hfound
    exact hused
  · exact h other found hfound

theorem Used.erase (h : Used records) : Used (records.erase id) := by
  intro other found hfound
  rw [KeyedTable.get?_erase] at hfound
  split at hfound
  · cases hfound
  · exact h other found hfound

theorem Used.attached {answer : Except OverlayError UInt16} (h : Used v.records)
    (hend : Attached id vni pod v answer v') (hwritten : Written answer) : Used v'.records := by
  cases answer with
  | error e =>
      rw [hend.records_of_error hwritten]
      exact h
  | ok vlan =>
      obtain ⟨record, -, -, -, hrecords⟩ := hend.records_of_ok
      rw [hrecords]
      exact h.insert (isUnused_addPod record pod)

/-- **A detach whose snapshots are written** leaves no record without pods, and loses no
VLAN. -/
theorem Used.detached {answer : Except OverlayError Bool} (h : Used v.records)
    (hend : Detached id pod v answer v') (hwritten : Written answer) :
    Used v'.records ∧ lostIn id v.records (!answer.isOk) v'.records = [] := by
  cases hend with
  | unwritten path reason hget => exact absurd rfl (hwritten path reason)
  | stranded path reason hget hunused => exact absurd rfl (hwritten path reason)
  | unknown hnone => exact ⟨h, by simp [lostIn, hnone]⟩
  | left hget hused => exact ⟨h.insert hused, rfl⟩
  | tornDown hget hunused => exact ⟨h.erase, rfl⟩

end

section
variable {σ : Type} [CommandRunner σ]

/-- **What a restart needs of a node.** -/
structure Settled (store : TableStore) (node : Node σ) : Prop where
  reloads : node.registry.Reloads store
  used : Used node.registry.records
  accounted : Accounted [] node.view

/-- **One request.** -/
theorem serve_settled {settings : MeshSettings} {store : TableStore} (node : Node σ)
    (request : Request) (h : Settled store node)
    (hwritten : isWritten settings node request = true) :
    Settled store (serve settings node request) := by
  cases request with
  | sync topology =>
      refine ⟨h.reloads, h.used, ?_⟩
      rw [serve, view_sync]
      exact h.accounted
  | attach id vni ns name =>
      obtain ⟨answer, node', hrun, hend⟩ := runTask_attach settings node id (podKey ns name) vni
      rw [isWritten, hrun] at hwritten
      have hanswer := written_of_outcome hwritten
      rw [serve, hrun]
      exact ⟨runTask_settles settings store (attach_settles h.reloads id _ vni) hrun hanswer,
        Used.attached (v := node.view) h.used hend hanswer, h.accounted.attached hend⟩
  | detach id ns name =>
      obtain ⟨answer, node', hrun, hend⟩ := runTask_detach settings node id (podKey ns name)
      rw [isWritten, hrun] at hwritten
      have hanswer := written_of_outcome hwritten
      have hused := Used.detached (v := node.view) h.used hend hanswer
      have haccounted := h.accounted.detached hend
      rw [hused.2] at haccounted
      rw [serve, hrun]
      exact ⟨runTask_settles settings store (detach_settles h.reloads id _) hrun hanswer,
        hused.1, haccounted⟩

end

/-! ## §3. Restoring when every record can stay. -/

/-- The network of a record. -/
def networkOf (entry : String × TenantRecord) : Option Network :=
  entry.2.vlan.map fun vlan => ⟨entry.1, entry.2.vni, vlan⟩

section
variable {v : View}

/-- A record with pods and a VLAN that collides with no active network. -/
theorem restoreOne_active {records : TenantRecords} {id : String} {record : TenantRecord}
    {vlan : UInt16} (hvlan : record.vlan = some vlan) (hused : record.isUnused = false)
    (hapart : v.networks.any (·.collidesWith ⟨id, record.vni, vlan⟩) = false) :
    Upholds Answers (fun _ => True) (restoreOne records id record).run
      (fun result v' => result = .ok true ∧
        v' = { v with networks := v.networks ++ [⟨id, record.vni, vlan⟩] }) v := by
  unfold restoreOne
  rw [hvlan]
  show Upholds Answers _ (ExceptT.run (if record.isUnused = true then _ else _)) _ v
  rw [if_neg (Bool.eq_false_iff.1 hused)]
  refine upholds_attempt trivial fun answer v₁ hactivate => ?_
  obtain ⟨rfl, rfl⟩ := (if_neg (Bool.eq_false_iff.1 hapart)).mp hactivate
  exact upholds_pure trivial ⟨rfl, rfl⟩

/-- **Records with pods whose networks share nothing** all become active.  Induction on the
records ahead; those behind are active already. -/
theorem restoreAll_active (records : TenantRecords) : ∀ {rest : List (String × TenantRecord)}
    (before : List (String × TenantRecord)) (count : Nat) {v : View},
    (∀ entry ∈ rest, entry.2.isUnused = false ∧ entry.2.vlan.isSome) →
    Network.Apart ((before ++ rest).filterMap networkOf) →
    v.networks = before.filterMap networkOf →
    Upholds Answers (fun _ => True) (restoreAll records rest count).run
      (fun result v' => result = .ok (count + rest.length) ∧
        v' = { v with networks := (before ++ rest).filterMap networkOf }) v := by
  intro rest
  induction rest with
  | nil =>
      intro before count v _ _ hactive
      refine upholds_pure trivial ⟨rfl, ?_⟩
      rw [List.append_nil, ← hactive]
  | cons entry rest ih =>
      intro before count v hgood hapart hactive
      obtain ⟨id, record⟩ := entry
      obtain ⟨hused, hsome⟩ := hgood (id, record) List.mem_cons_self
      obtain ⟨vlan, hvlan⟩ := Option.isSome_iff_exists.1 hsome
      have hnet : networkOf (id, record) = some ⟨id, record.vni, vlan⟩ := by
        rw [networkOf, hvlan]
        rfl
      -- The next network is apart from those that are active.
      have hcollides : v.networks.any (·.collidesWith ⟨id, record.vni, vlan⟩) = false := by
        rw [List.filterMap_append, List.filterMap_cons_some hnet] at hapart
        rw [hactive, List.any_eq_false]
        intro net hmem
        rw [(List.pairwise_append.1 hapart).2.2 net hmem _ List.mem_cons_self]
        exact Bool.false_ne_true
      unfold restoreAll
      refine upholds_bind (Procedure.Upholds.mono (fun result v₁ _ hend => ?_)
        (restoreOne_active hvlan hused hcollides))
      obtain ⟨rfl, rfl⟩ := hend
      have hsplit : before ++ (id, record) :: rest = (before ++ [(id, record)]) ++ rest := by simp
      have hnext := ih (before ++ [(id, record)]) (count + 1)
        (v := { v with networks := v.networks ++ [⟨id, record.vni, vlan⟩] })
        (fun entry hmem => hgood entry (List.mem_cons_of_mem _ hmem)) (hsplit ▸ hapart)
        (by simp [hactive, hnet])
      rw [hsplit, List.length_cons, Nat.add_comm rest.length, ← Nat.add_assoc]
      exact hnext

/-- **Restoring** then drops nothing: it answers the number of records, and their networks
are active. -/
theorem restore_active (hnone : v.networks = [])
    (hgood : ∀ entry ∈ v.records.entries, entry.2.isUnused = false ∧ entry.2.vlan.isSome)
    (hapart : Network.Apart (v.records.entries.filterMap networkOf)) :
    Upholds Answers (fun _ => True) restore.run
      (fun result v' => result = .ok v.records.size ∧
        v' = ⟨v.records, v.records.entries.filterMap networkOf,
          v.vlans.seed (namedVlans v.records)⟩) v := by
  unfold restore
  refine upholds_ask trivial fun records v₁ hall => ?_
  obtain ⟨rfl, rfl⟩ := hall
  refine upholds_ask trivial fun _ v₂ hreserve => ?_
  cases hreserve
  have hend := restoreAll_active v₁.records [] 0
    (v := { v₁ with vlans := v₁.vlans.seed (namedVlans v₁.records) }) hgood hapart hnone
  rw [Nat.zero_add] at hend
  exact hend

end

/-! ## §4. The networks of records. -/

section
variable {fits : UInt16 → Prop} {v : View}

theorem networkOf_eq_some {entry : String × TenantRecord} {net : Network} :
    networkOf entry = some net ↔
      net.id = entry.1 ∧ net.vni = entry.2.vni ∧ entry.2.vlan = some net.vlan := by
  rw [networkOf, Option.map_eq_some_iff]
  constructor
  · rintro ⟨vlan, hvlan, rfl⟩
    exact ⟨rfl, rfl, hvlan⟩
  · rintro ⟨hid, hvni, hvlan⟩
    exact ⟨net.vlan, hvlan, by rw [← hid, ← hvni]⟩

/-- The networks of the records are the active ones. -/
theorem Consistent.mem_networks (h : Consistent fits v) {net : Network} :
    net ∈ v.records.entries.filterMap networkOf ↔ net ∈ v.networks := by
  rw [List.mem_filterMap]
  constructor
  · rintro ⟨⟨id, record⟩, hmem, hnet⟩
    obtain ⟨hid, hvni, hvlan⟩ := networkOf_eq_some.1 hnet
    obtain ⟨vlan, hfound, hactive⟩ := h.active (KeyedTable.mem_entries_iff.1 hmem)
    have hsame : net = ⟨id, record.vni, vlan⟩ := by
      rw [hvlan] at hfound
      cases net
      simp_all
    rw [hsame]
    exact hactive
  · intro hnet
    obtain ⟨record, hget, hvni, hvlan⟩ := h.recorded hnet
    exact ⟨(net.id, record), KeyedTable.mem_entries_iff.2 hget,
      networkOf_eq_some.2 ⟨rfl, hvni.symm, hvlan⟩⟩

/-- No id occurs twice, since no key does. -/
theorem ids_filterMap_networkOf (records : TenantRecords) :
    (records.entries.filterMap networkOf).Pairwise fun a b => a.id ≠ b.id := by
  rw [List.pairwise_filterMap]
  refine (List.pairwise_map.1 records.nodup_keys).imp fun hkeys a ha b hb => ?_
  rw [(networkOf_eq_some.1 ha).1, (networkOf_eq_some.1 hb).1]
  exact hkeys

/-- **In the order of the ids as in the order of realization** the networks share nothing. -/
theorem Consistent.apart_filterMap (h : Consistent fits v) :
    Network.Apart (v.records.entries.filterMap networkOf) := by
  refine List.Pairwise.imp_of_mem (fun {a b} ha hb hid => ?_)
    (ids_filterMap_networkOf v.records)
  exact Network.collidesWith_eq_false.2
    ⟨hid, h.apart.ne (h.mem_networks.1 ha) (h.mem_networks.1 hb) hid⟩

/-- **The same networks**, in another order. -/
theorem Consistent.perm_networks (h : Consistent fits v) :
    (v.records.entries.filterMap networkOf).Perm v.networks :=
  (List.perm_ext_iff_of_nodup h.apart_filterMap.nodup h.apart.nodup).2 fun _ => h.mem_networks

theorem Consistent.vlan_isSome (h : Consistent fits v) {entry : String × TenantRecord}
    (hmem : entry ∈ v.records.entries) : entry.2.vlan.isSome := by
  obtain ⟨vlan, hvlan, -⟩ := h.active (KeyedTable.mem_entries_iff.1 hmem)
  rw [hvlan]
  rfl

/-- There are as many records as active networks. -/
theorem Consistent.size_eq (h : Consistent fits v) : v.records.size = v.networks.length := by
  rw [← h.perm_networks.length_eq, KeyedTable.size, eq_comm, List.filterMap_length_eq_length]
  intro entry hmem
  rw [networkOf, Option.isSome_map]
  exact h.vlan_isSome hmem

end

/-! ## §5. The restart. -/

section
variable {σ : Type} [CommandRunner σ]

/-- **Restoring from the records of a settled node** brings back its networks and VLANs. -/
theorem restore_settled (settings : MeshSettings) {store : TableStore} {node : Node σ}
    (h : Settled store node) (host : Host σ) :
    ∃ node', runTask settings restore (starting host node.registry)
        = (.done node.mesh.networks.length, node') ∧
      node'.registry.records = node.registry.records ∧
      node'.mesh.networks.Perm node.mesh.networks ∧
      ∀ n, node'.vlans.isAllocated n = node.vlans.isAllocated n := by
  have hconsistent := h.accounted.consistent
  have hgood : ∀ entry ∈ node.registry.records.entries,
      entry.2.isUnused = false ∧ entry.2.vlan.isSome := fun entry hmem =>
    ⟨h.used entry.1 entry.2 (KeyedTable.mem_entries_iff.1 hmem), hconsistent.vlan_isSome hmem⟩
  obtain ⟨result, node', hrun, rfl, hview⟩ := runTask_ends settings
    (restore_active (v := (starting host node.registry).view) rfl hgood
      hconsistent.apart_filterMap)
  have hsize : node.registry.records.size = node.mesh.networks.length := hconsistent.size_eq
  refine ⟨node', ?_, congrArg View.records hview, ?_, fun n => ?_⟩
  · rw [hrun, ← hsize]
    rfl
  · rw [show node'.mesh.networks = _ from congrArg View.networks hview]
    exact hconsistent.perm_networks
  · rw [show node'.vlans = _ from congrArg View.vlans hview, Bool.eq_iff_iff,
      show node.vlans.isAllocated n = true ↔ _ from h.accounted.taken n,
      IdSpace.isAllocated_seed]
    show n ∈ namedVlans node.registry.records ∨ Station.freshVlans.isAllocated n = true ↔
      n = 0 ∨ n ∈ namedVlans node.registry.records ∨ n ∈ []
    rw [Process.isAllocated_freshVlans]
    simp [or_comm]

theorem Attached.answer_of_known {id pod : String} {record : TenantRecord} {vlan : UInt16}
    {v v' : View} {answer : Except OverlayError UInt16}
    (hend : Attached id record.vni pod v answer v') (hget : v.records.get? id = some record)
    (hvlan : record.vlan = some vlan) (hwritten : Written answer) : answer = .ok vlan := by
  have hbound : boundVlan id record.vni record = .ok vlan := by
    rw [boundVlan, hvlan]
    exact if_pos rfl
  cases hend with
  | unrealized hnone hend => rw [hget] at hnone; cases hnone
  | realized hnone hend hnoted => rw [hget] at hnone; cases hnone
  | refused hfound hrefused =>
      rw [hget] at hfound
      cases hfound
      rw [hbound] at hrefused
      cases hrefused
  | known hfound hknown hnoted =>
      rw [hget] at hfound
      cases hfound
      rw [hbound] at hknown
      cases hknown
      rcases hnoted with rfl | ⟨path, reason, rfl⟩
      · rfl
      · exact absurd rfl (hwritten path reason)

/-- **An attach to a network with a record** answers the VLAN of the record. -/
theorem attach_of_known {settings : MeshSettings} {node : Node σ} {id : String}
    {record : TenantRecord} {vlan : UInt16}
    (hget : node.registry.records.get? id = some record) (hvlan : record.vlan = some vlan)
    (ns name : String)
    (hwritten : isWritten settings node (.attach id record.vni ns name) = true) :
    (runTask settings (attach id record.vni (podKey ns name)) node).1 = .done vlan := by
  obtain ⟨answer, node', hrun, hend⟩ :=
    runTask_attach settings node id (podKey ns name) record.vni
  rw [isWritten, hrun] at hwritten
  rw [hrun, hend.answer_of_known hget hvlan (written_of_outcome hwritten)]
  rfl

/-- **Later attaches** to a network that was active before, on a node that has the same
records. -/
theorem attach_after_restart (settings : MeshSettings) {node node' : Node σ}
    (h : Consistent InRange node.view)
    (hrecords : node'.registry.records = node.registry.records) (later : List Request)
    {net : Network} (hnet : net ∈ node.mesh.networks)
    (hknown : ∀ part, part <+: later →
      (part.foldl (serve settings) node').registry.records.contains net.id = true)
    (vni : UInt32) (ns name : String) :
    (∀ vlan, (runTask settings (attach net.id vni (podKey ns name))
        (later.foldl (serve settings) node')).1 = .done vlan → vlan = net.vlan) ∧
      (vni = net.vni → isWritten settings (later.foldl (serve settings) node')
          (.attach net.id vni ns name) = true →
        (runTask settings (attach net.id vni (podKey ns name))
          (later.foldl (serve settings) node')).1 = .done net.vlan) := by
  obtain ⟨record, hget, hvni, hvlan⟩ := h.recorded hnet
  have hstart : node'.registry.records.get? net.id = some record := by
    rw [hrecords]
    exact hget
  obtain ⟨record', hget'⟩ := KeyedTable.contains_iff.1 (hknown later (List.prefix_refl _))
  obtain ⟨hsameVni, hsameVlan⟩ := network_kept settings later hknown hstart hget'
  rw [hvlan] at hsameVlan
  constructor
  · intro vlan hdone
    have hfound := (vlan_of_attach hdone).1 record' hget'
    rw [hsameVlan] at hfound
    exact (Option.some.inj hfound).symm
  · rintro rfl hwritten
    rw [← hvni, ← hsameVni] at hwritten ⊢
    exact attach_of_known hget' hsameVlan ns name hwritten

/-- **A restart cannot be told.**  A process begins without a table file and serves any
requests, all snapshots of which are written.  A new process on the same directory, with a
switch in any state, loads the same records; restoring answers how many networks were active
and drops none of their records; the same networks are active and the same VLANs are taken.
An attach to one of these networks, after any later requests that leave it there, answers the
VLAN that it had: no other one ever, and that one if it names the VNI of the network and its
snapshot is written. -/
theorem restart_is_transparent (settings : MeshSettings) (host host' : Host σ)
    (store : TableStore) (disk : Disk)
    (hempty : disk.tree.read (store.path tenantTable) = .error .notFound)
    (requests : List Request)
    (hwritten : allWritten settings (starting host { store, disk }) requests = true) :
    let node := requests.foldl (serve settings) (starting host { store, disk })
    ∃ registry node', Registry.load { store, disk := node.registry.disk } = (.done (), registry) ∧
      registry.records = node.registry.records ∧
      runTask settings restore (starting host' registry)
        = (.done node.mesh.networks.length, node') ∧
      node'.registry.records = node.registry.records ∧
      node'.mesh.networks.Perm node.mesh.networks ∧
      (∀ n, node'.vlans.isAllocated n = node.vlans.isAllocated n) ∧
      ∀ (later : List Request) (net : Network), net ∈ node.mesh.networks →
        (∀ part, part <+: later →
          (part.foldl (serve settings) node').registry.records.contains net.id = true) →
        ∀ vni ns name,
          let last := later.foldl (serve settings) node'
          let answer := (runTask settings (attach net.id vni (podKey ns name)) last).1
          (∀ vlan, answer = .done vlan → vlan = net.vlan) ∧
          (vni = net.vni → isWritten settings last (.attach net.id vni ns name) = true →
            answer = .done net.vlan) := by
  intro node
  have hstart : Settled store (starting host { store, disk }) :=
    ⟨Registry.reloads_of_notFound hempty, fun id record hget => (by cases hget),
      accounted_fresh store host disk⟩
  have hnode : Settled store node := serve_all_written serve_settled requests hstart hwritten
  obtain ⟨node', hrestore, hrecords, hnetworks, hvlans⟩ := restore_settled settings hnode host'
  exact ⟨node.registry, node', hnode.reloads, rfl, hrestore, hrecords, hnetworks, hvlans,
    fun later net hnet hknown vni ns name =>
      attach_after_restart settings hnode.accounted.consistent hrecords later hnet hknown vni ns
        name⟩

/-- Two networks, the one with the later id realized first. -/
def twoNetworks : List Request :=
  [.attach "net-B" 200 "ns" "q", .attach "net-A" 100 "ns" "p"]

/-- Both are restored, in the order of their ids, with the VLANs that they had. -/
theorem restart_is_transparent_two :
    let node := twoNetworks.foldl (serve hostSettings)
      (starting recordingHost { store := ⟨"state"⟩ })
    node.mesh.networks = [⟨"net-B", 200, 1⟩, ⟨"net-A", 100, 2⟩] ∧
    ∃ registry node', Registry.load { store := ⟨"state"⟩, disk := node.registry.disk }
        = (.done (), registry) ∧
      runTask hostSettings restore (starting recordingHost registry)
        = (.done node.mesh.networks.length, node') ∧
      node'.mesh.networks.Perm node.mesh.networks := by
  intro node
  obtain ⟨hwritten, hnetworks⟩ :
      allWritten hostSettings (starting recordingHost { store := ⟨"state"⟩ }) twoNetworks = true ∧
      node.mesh.networks = [⟨"net-B", 200, 1⟩, ⟨"net-A", 100, 2⟩] := by decide +kernel
  obtain ⟨registry, node', hload, -, hrestore, -, hperm, -⟩ := restart_is_transparent
    hostSettings recordingHost recordingHost ⟨"state"⟩ {} rfl twoNetworks hwritten
  exact ⟨hnetworks, registry, node', hload, hrestore, hperm⟩

end

end Node

end VxlanMesh
