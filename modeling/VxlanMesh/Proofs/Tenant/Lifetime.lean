/-
  VxlanMesh.Proofs.Tenant.Lifetime
  ────────────────────────────────
  **CONSISTENT THROUGH FAILURES, CRASHES AND RESTARTS.**

  A process serves requests until it dies, in the middle of a request or
  in the middle of starting; the next process begins with fresh parts, the
  same directory and whatever the switch has become.  Writes and commands
  may fail one by one: the runner of the switch is any runner, and the
  disk brings any list of faults.

  What survives a crash is the disk, so the invariant of a whole life is
  about the disk while no process is up (`OnDisk`), and about records,
  networks and VLANs while one is (`Consistent`).

      boot_sound                   a process that comes up is consistent
      consistent_through_events    the same after any events
-/
import VxlanMesh.Proofs.Tenant.Restoring
import VxlanMesh.Station

namespace VxlanMesh

/-! ## §1. Directories. -/

/-- The directory of the store is empty or not there. -/
def TableStore.Vacant (store : TableStore) (tree : FileTree) : Prop :=
  ∀ name, tree.kind? (store.place ++ [name]) = none

namespace Node

open VxlanMesh.Procedure (Upholds)

/-- A VLAN that networks can have: neither that of untagged packets nor the one beyond. -/
def InRange (vlan : UInt16) : Prop := 1 ≤ vlan.toNat ∧ vlan.toNat ≤ 4094

/-- The table file, if there is one, is the text of tidy records. -/
def OnDisk (fits : UInt16 → Prop) (store : TableStore) (disk : Disk) : Prop :=
  ∀ bytes, disk.tree.content? (store.fileOf tenantTable) = some bytes →
    ∃ records, Tidy fits records ∧ bytes = Text.Utf8.encode records.toJson.pretty

variable {fits : UInt16 → Prop}

/-- An empty directory holds no table file. -/
theorem onDisk_of_vacant {store : TableStore} {disk : Disk} (h : store.Vacant disk.tree) :
    OnDisk fits store disk := by
  intro bytes hbytes
  rw [FileTree.content?_eq_some] at hbytes
  have hnone : disk.tree.kind? (store.fileOf tenantTable) = none := h _
  rw [hnone] at hbytes
  cases hbytes

/-- **Snapshots of tidy records keep the table file so**, written or not. -/
theorem onDisk_kept (fits : UInt16 → Prop) :
    KeptBySnapshots (fun v => Tidy fits v.records) (OnDisk fits) := by
  intro v store disk htidy hdisk bytes hbytes
  cases hsave : store.save tenantTable v.records.toJson disk with
  | mk answer later =>
      rw [hsave] at hbytes
      rcases TableStore.save_cases isPlain_tenantTable hsave with ⟨-, -, hnew⟩ | ⟨-, hold⟩
      · rw [hnew] at hbytes
        exact ⟨v.records, htidy, (Option.some.inj hbytes).symm⟩
      · rw [hold] at hbytes
        exact hdisk bytes hbytes

/-- The same, of one store. -/
def OnDiskOf (fits : UInt16 → Prop) (store store' : TableStore) (disk : Disk) : Prop :=
  store' = store ∧ OnDisk fits store disk

theorem onDiskOf_kept (fits : UInt16 → Prop) (store : TableStore) :
    KeptBySnapshots (fun v => Tidy fits v.records) (OnDiskOf fits store) := by
  rintro v store' disk htidy ⟨rfl, hdisk⟩
  exact ⟨rfl, onDisk_kept fits v store' disk htidy hdisk⟩

/-- **What is loaded is tidy.** -/
theorem tidy_of_load (registry : Registry) {later : Registry}
    (hdisk : OnDisk fits registry.store registry.disk)
    (h : Registry.load registry = (.done (), later)) :
    Tidy fits later.records ∧ later.store = registry.store ∧ later.disk = registry.disk := by
  rw [Registry.load] at h
  split at h
  · rename_i records hload
    cases h
    refine ⟨?_, rfl, rfl⟩
    rcases TableStore.load_cases isPlain_tenantTable hload with hempty | ⟨bytes, text, hfound⟩
    · rw [hempty]
      exact Tidy.empty
    · obtain ⟨hbytes, htext, hvalue⟩ := hfound
      obtain ⟨written, htidy, rfl⟩ := hdisk bytes hbytes
      rw [Text.Utf8.decode?_encode] at htext
      cases htext
      rw [TenantRecords.decodeText?_pretty] at hvalue
      rw [← Option.some.inj hvalue]
      exact htidy
  · cases h

/-! ## §2. Processes. -/

variable {σ : Type}

/-- A node with fresh parts and a registry. -/
def starting (host : Host σ) (registry : Registry) : Node σ where
  mesh := { host, ofports := Station.freshOfports }
  registry := registry
  vlans := Station.freshVlans

theorem view_starting (host : Host σ) (registry : Registry) :
    (starting host registry).view = ⟨registry.records, [], Station.freshVlans⟩ := rfl

/-- A process that is up, or what is left of one. -/
inductive Process (σ : Type) where
  | up (node : Node σ)
  | down (disk : Disk)

/-- What can happen.  A process that dies while it writes is one that dies after the write
has failed at that point. -/
inductive Event (σ : Type) where
  /-- A request is carried out to its end. -/
  | request (request : Request)
  /-- The process dies before step number `n` of a request. -/
  | crash (request : Request) (n : Nat)
  /-- A new process starts; the switch is in any state. -/
  | restart (host : Host σ)
  /-- A new process starts and dies before step number `n` of restoring. -/
  | restartCrash (host : Host σ) (n : Nat)

namespace Process

/-- The disk of a process, or the one it left. -/
def disk : Process σ → Disk
  | up node => node.registry.disk
  | down disk => disk

/-- The process is up. -/
def isUp : Process σ → Bool
  | up _ => true
  | down _ => false

variable [CommandRunner σ]

/-- Start a process: load the records, then restore the networks. -/
def boot (settings : MeshSettings) (store : TableStore) (host : Host σ) (disk : Disk) :
    Process σ :=
  match Registry.load { store, disk } with
  | (.done (), registry) =>
      match runTask settings restore (starting host registry) with
      | (.done _, node) => up node
      | (_, node) => down node.registry.disk
  | (_, registry) => down registry.disk

/-- The disk when a starting process dies before step number `n` of restoring. -/
def bootCut (settings : MeshSettings) (store : TableStore) (host : Host σ) (n : Nat)
    (disk : Disk) : Disk :=
  match Registry.load { store, disk } with
  | (.done (), registry) =>
      (Procedure.cut (perform settings) n restore.run (starting host registry)).registry.disk
  | (_, registry) => registry.disk

/-- The process after an event.  Where none is up, only a restart makes a difference. -/
def after (settings : MeshSettings) (store : TableStore) : Process σ → Event σ → Process σ
  | up node, .request request => up (serve settings node request)
  | up node, .crash request n => down (serveCut settings n node request).registry.disk
  | down disk, .request _ => down disk
  | down disk, .crash _ _ => down disk
  | process, .restart host => boot settings store host process.disk
  | process, .restartCrash host n => down (bootCut settings store host n process.disk)

/-! ## §3. The invariant of a life. -/

/-- A process that is up is consistent, and the disk holds tidy records in any case. -/
def Sound (store : TableStore) : Process σ → Prop
  | up node => Consistent InRange node.view ∧
      OnDiskOf InRange store node.registry.store node.registry.disk
  | down disk => OnDisk InRange store disk

/-- Of fresh VLANs only the one of untagged packets is taken. -/
theorem isAllocated_freshVlans (n : Nat) : Station.freshVlans.isAllocated n = true ↔ n = 0 := by
  rw [Station.freshVlans, IdSpace.isAllocated_seed, List.mem_singleton]
  exact or_iff_left (by simp [IdSpace.isAllocated])

/-- A free VLAN below the limit is one that networks can have. -/
theorem inRange_of_spare {vlans : IdSpace} (hlimit : vlans.limit = some vlanLimit)
    (hzero : vlans.isAllocated 0 = true) {vlan : UInt16}
    (hbelow : vlans.isBelowLimit vlan.toNat = true)
    (hfree : vlans.isAllocated vlan.toNat = false) : InRange vlan := by
  constructor
  · rcases Nat.eq_zero_or_pos vlan.toNat with hsame | hpos
    · rw [hsame, hzero] at hfree
      cases hfree
    · exact hpos
  · rw [IdSpace.isBelowLimit, hlimit] at hbelow
    have hlt : vlan.toNat < 4095 := of_decide_eq_true hbelow
    omega

omit [CommandRunner σ] in
/-- A process that has restored nothing yet is consistent with no records. -/
theorem consistent_fresh (store : TableStore) (host : Host σ) (disk : Disk) :
    Consistent InRange (starting host { store, disk }).view where
  active hget := by cases hget
  recorded hnet := absurd hnet List.not_mem_nil
  apart := List.Pairwise.nil
  reserved hnet := absurd hnet List.not_mem_nil
  fit hnet := absurd hnet List.not_mem_nil
  spare := inRange_of_spare rfl ((isAllocated_freshVlans 0).2 rfl)

/-- Tidy records are restored to a consistent view. -/
theorem consistent_of_restored {records : TenantRecords} {v : View} (htidy : Tidy InRange records)
    (h : Restored records Station.freshVlans v) : Consistent InRange v := by
  have hfit : ∀ {id record vlan}, records.get? id = some record → record.vlan = some vlan →
      InRange vlan := by
    intro id record vlan hget hvlan
    obtain ⟨found, hfound, hrange⟩ := htidy.numbered hget
    rw [hvlan] at hfound
    rw [Option.some.inj hfound]
    exact hrange
  have hzero : v.vlans.isAllocated 0 = true := by
    rw [h.taken]
    -- A VLAN that is given back was named by a record, and those are in range.
    refine ⟨(IdSpace.isAllocated_seed _ _ _).2 (Or.inr ((isAllocated_freshVlans 0).2 rfl)), ?_⟩
    rintro ⟨id, record, hmem, vlan, hvlan, hn, -⟩
    have hrange := hfit (KeyedTable.mem_entries_iff.1 hmem) hvlan
    exact absurd hn (Nat.ne_of_gt hrange.1)
  refine h.consistent (fun {net} hnet => ?_) hfit (inRange_of_spare h.limit hzero)
  -- A record without pods is another one than that of the network.
  rw [h.reserved_iff_no_unused hnet]
  intro id record hget hunused hvlan
  obtain ⟨found, hfound, -, -, hfoundVlan, hused⟩ := h.record hnet
  have hid := htidy.vlans hget hfound (hvlan.trans hfoundVlan.symm)
  rw [hid, hfound] at hget
  cases hget
  rw [hused] at hunused
  cases hunused

theorem allowsFewer_tidy {records : TenantRecords} (htidy : Tidy fits records) :
    AllowsFewer records (Tidy fits) :=
  fun _ hsub => htidy.sub fun hget => hsub _ _ hget

omit [CommandRunner σ] in
theorem restore_starting_upholds {registry : Registry} (host : Host σ)
    (htidy : Tidy InRange registry.records) :
    Upholds Answers (fun v => Tidy InRange v.records) restore.run
      (IfDone (Restored registry.records Station.freshVlans)) (starting host registry).view := by
  rw [view_starting]
  exact restore_upholds (Tidy _) (v := ⟨registry.records, [], Station.freshVlans⟩)
    (allowsFewer_tidy htidy) rfl

/-- **A process that comes up is consistent**, and one that does not leaves a disk from
which another one may. -/
theorem boot_sound (settings : MeshSettings) {store : TableStore} (host : Host σ) {disk : Disk}
    (hdisk : OnDisk InRange store disk) : (boot settings store host disk).Sound store := by
  unfold boot
  cases hload : Registry.load { store, disk } with
  | mk outcome registry =>
      cases outcome with
      | failed e => simp only; rw [Registry.load_failed hload nofun]; exact hdisk
      | abandoned => simp only; rw [Registry.load_failed hload nofun]; exact hdisk
      | done u =>
          obtain ⟨htidy, hstore, hsame⟩ := tidy_of_load { store, disk } hdisk hload
          obtain ⟨result, node, hrun, hends, hnode⟩ := runTask_of_upholds settings
            (onDiskOf_kept InRange store) (restore_starting_upholds host htidy)
            (show OnDiskOf InRange store registry.store registry.disk from
              ⟨hstore, by rw [hsame]; exact hdisk⟩)
          simp only [hrun]
          cases result with
          | ok count =>
              exact ⟨consistent_of_restored htidy hends, hnode⟩
          | error e => exact hnode.2

/-- A start that is cut off leaves tidy records on disk. -/
theorem bootCut_onDisk (settings : MeshSettings) {store : TableStore} (host : Host σ) (n : Nat)
    {disk : Disk} (hdisk : OnDisk InRange store disk) :
    OnDisk InRange store (bootCut settings store host n disk) := by
  unfold bootCut
  cases hload : Registry.load { store, disk } with
  | mk outcome registry =>
      cases outcome with
      | done u =>
          obtain ⟨htidy, hstore, hsame⟩ := tidy_of_load { store, disk } hdisk hload
          have hcut := Procedure.cut_of_upholds
            (carries_perform (σ := σ) settings (onDiskOf_kept InRange store)) n
            (restore_starting_upholds host htidy)
            (show OnDiskOf InRange store registry.store registry.disk from
              ⟨hstore, by rw [hsame]; exact hdisk⟩)
          exact hcut.2
      | failed e => simp only; rw [Registry.load_failed hload nofun]; exact hdisk
      | abandoned => simp only; rw [Registry.load_failed hload nofun]; exact hdisk

/-- **One event.** -/
theorem after_sound (settings : MeshSettings) {store : TableStore} {process : Process σ}
    (h : process.Sound store) (event : Event σ) :
    (process.after settings store event).Sound store := by
  -- Whatever happens, the disk is one from which a process may start.
  have hdisk : OnDisk InRange store process.disk := by
    cases process with
    | up node => exact h.2.2
    | down disk => exact h
  cases event with
  | request request =>
      cases process with
      | up node => exact serve_consistent settings (onDiskOf_kept InRange store) h.1 h.2 request
      | down disk => exact h
  | crash request n =>
      cases process with
      | up node =>
          exact (serveCut_safe settings (onDiskOf_kept InRange store) h.1 h.2 n request).2
      | down disk => exact h
  | restart host =>
      have hboot := boot_sound settings host hdisk
      cases process <;> exact hboot
  | restartCrash host n =>
      have hboot := bootCut_onDisk settings host n hdisk
      cases process <;> exact hboot

/-- **Any events.** -/
theorem run_sound (settings : MeshSettings) {store : TableStore} (events : List (Event σ)) :
    ∀ {process : Process σ}, process.Sound store →
      (events.foldl (after settings store) process).Sound store := by
  induction events with
  | nil => intro process h; exact h
  | cons event rest ih => intro process h; exact ih (after_sound settings h event)

end Process

/-! ## §4. What holds in between. -/

/-- One network exactly for each record. -/
theorem Consistent.record_iff_count {v : View} (h : Consistent fits v) (id : String)
    (vni : UInt32) (vlan : UInt16) :
    (∃ record, v.records.get? id = some record ∧ record.vni = vni ∧ record.vlan = some vlan) ↔
      v.networks.count ⟨id, vni, vlan⟩ = 1 := by
  constructor
  · rintro ⟨record, hget, rfl, hvlan⟩
    obtain ⟨vlan', hvlan', hnet⟩ := h.active hget
    rw [hvlan] at hvlan'
    cases hvlan'
    rw [h.apart.nodup.count, if_pos hnet]
  · intro hcount
    have hnet : (⟨id, vni, vlan⟩ : Network) ∈ v.networks := by
      rw [← List.count_pos_iff, hcount]
      exact Nat.one_pos
    exact h.recorded hnet

variable [CommandRunner σ]

/-- **After whatever has happened**, a process that is up has one active network for each
record and one record for each active network, no two of them share an id, a VNI or a VLAN,
and the VLANs of the active networks are taken and in range. -/
theorem consistent_through_events (settings : MeshSettings) (store : TableStore) (host : Host σ)
    (disk : Disk) (hvacant : store.Vacant disk.tree) (events : List (Event σ)) (node : Node σ)
    (hup : events.foldl (Process.after settings store) (.up (starting host { store, disk }))
      = .up node) :
    (∀ id vni vlan, (∃ record, node.registry.records.get? id = some record ∧
        record.vni = vni ∧ record.vlan = some vlan) ↔
      node.mesh.networks.count ⟨id, vni, vlan⟩ = 1) ∧
    (node.mesh.networks.Pairwise fun a b => a.id ≠ b.id ∧ a.vni ≠ b.vni ∧ a.vlan ≠ b.vlan) ∧
    Tidy InRange node.registry.records ∧
    ∀ net ∈ node.mesh.networks, InRange net.vlan ∧
      node.vlans.isAllocated net.vlan.toNat = true := by
  have hstart : (Process.up (starting host { store, disk })).Sound store :=
    ⟨Process.consistent_fresh store host disk, rfl, onDisk_of_vacant hvacant⟩
  have hend := Process.run_sound settings events hstart
  rw [hup] at hend
  have h : Consistent InRange node.view := hend.1
  exact ⟨h.record_iff_count, h.apart.imp fun hapart => Network.collidesWith_eq_false.1 hapart,
    h.tidy, fun net hnet => ⟨h.fit hnet, h.reserved hnet⟩⟩

/-- The second of two networks is half attached when the process dies; the next process
comes up and attaches it. -/
def crashInBetween : List (Event Recorder) :=
  [.request (.attach "net-A" 100 "ns" "p"), .crash (.attach "net-B" 200 "ns" "q") 3,
    .restart recordingHost, .request (.attach "net-B" 200 "ns" "q")]

/-- After the crash each record still has exactly one network. -/
theorem consistent_through_crash :
    ∃ node, crashInBetween.foldl (Process.after hostSettings ⟨"state"⟩)
        (.up (starting recordingHost { store := ⟨"state"⟩ })) = .up node ∧
      ∀ id vni vlan, (∃ record, node.registry.records.get? id = some record ∧
          record.vni = vni ∧ record.vlan = some vlan) ↔
        node.mesh.networks.count ⟨id, vni, vlan⟩ = 1 := by
  have hvacant : TableStore.Vacant ⟨"state"⟩ ({} : Disk).tree := fun name => rfl
  have hup : (crashInBetween.foldl (Process.after hostSettings ⟨"state"⟩)
      (.up (starting recordingHost { store := ⟨"state"⟩ }))).isUp = true := by decide +kernel
  cases hrun : crashInBetween.foldl (Process.after hostSettings ⟨"state"⟩)
      (.up (starting recordingHost { store := ⟨"state"⟩ })) with
  | down disk => rw [hrun] at hup; cases hup
  | up node =>
      exact ⟨node, rfl, (consistent_through_events hostSettings ⟨"state"⟩ recordingHost {} hvacant
        crashInBetween node hrun).1⟩

end Node

end VxlanMesh
