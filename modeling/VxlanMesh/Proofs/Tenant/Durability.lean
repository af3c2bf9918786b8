/-
  VxlanMesh.Proofs.Tenant.Durability
  ────────────────────────────────
  **A CHANGE THAT IS REPORTED AS DONE SURVIVES A RESTART.**

  Memory is changed before the snapshot is written and is not changed back
  when the write fails, so memory and disk can part.  Whatever has
  happened before, on any tree and with any faults:

      a change that writes and is done brings the two together;
      a change that is done without writing (the network to be forgotten
      had no record) leaves both alone, so they agree if the last load or
      write did not fail.

  The run is a list of calls; `settled` remembers how the last of them
  that loaded or wrote ended.
-/
import VxlanMesh.Proofs.Storage.Snapshot
import VxlanMesh.Proofs.Tenant.Encoding
import VxlanMesh.Proofs.Tenant.Registry

namespace VxlanMesh

/-- The operation ended with a value. -/
def Outcome.isDone {α : Type} : Outcome α → Bool
  | done _ => true
  | _ => false

theorem isPlain_tenantTable : TableStore.IsPlain tenantTable :=
  ⟨by decide, by decide, by decide⟩

namespace Registry

/-! ## §1. Calls. -/

/-- What changes the records. -/
inductive Change where
  | insert (id : String) (vni : UInt32) (vlan : UInt16)
  | addPod (id ns name : String)
  | removePod (id ns name : String)
  | delete (id : String)

/-- What a process can ask of its registry. -/
inductive Call where
  | load
  | change (change : Change)

namespace Change

/-- The operation of a change. -/
def run : Change → Operation Registry Unit
  | insert id vni vlan => Registry.insert id vni vlan
  | addPod id ns name => Registry.addPod id (podKey ns name)
  | removePod id ns name => Registry.removePod id (podKey ns name)
  | delete id => Registry.delete id

/-- The records that a change writes, none where it writes nothing. -/
def written : Change → TenantRecords → Option TenantRecords
  | insert id vni vlan, records => some (records.insert id (TenantRecord.new vni vlan))
  | addPod id ns name, records =>
      (records.get? id).map fun record => records.insert id (record.addPod (podKey ns name))
  | removePod id ns name, records =>
      (records.get? id).map fun record => records.insert id (record.removePod (podKey ns name))
  | delete id, records => if records.contains id then some (records.erase id) else none

theorem run_of_written {change : Change} {registry : Registry} {records : TenantRecords}
    (h : change.written registry.records = some records) :
    change.run registry = persist { registry with records } := by
  cases change with
  | insert id vni vlan => cases h; rfl
  | addPod id ns name =>
      cases hget : registry.records.get? id with
      | none => simp [written, hget] at h
      | some record =>
          simp only [written, hget, Option.map_some, Option.some.injEq] at h
          rw [run, addPod_some hget, h]
  | removePod id ns name =>
      cases hget : registry.records.get? id with
      | none => simp [written, hget] at h
      | some record =>
          simp only [written, hget, Option.map_some, Option.some.injEq] at h
          rw [run, removePod_some hget, h]
  | delete id =>
      simp only [written, Option.ite_none_right_eq_some] at h
      rw [run, delete_present h.1, Option.some.inj h.2]

/-- **What writes nothing changes nothing.** -/
theorem run_of_not_written {change : Change} {registry : Registry}
    (h : change.written registry.records = none) : (change.run registry).2 = registry := by
  cases change with
  | insert id vni vlan => cases h
  | addPod id ns name =>
      have hget : registry.records.get? id = none := Option.map_eq_none_iff.1 h
      rw [run, addPod_none hget]
  | removePod id ns name =>
      have hget : registry.records.get? id = none := Option.map_eq_none_iff.1 h
      rw [run, removePod_none hget]
  | delete id =>
      have hcontains : registry.records.contains id ≠ true := by
        intro hcontains
        rw [written, if_pos hcontains] at h
        cases h
      rw [run, delete_absent hcontains]

end Change

/-! ## §2. Memory and disk. -/

/-- The table file says what the memory says; where there is no file, the memory is empty. -/
def IsDurable (registry : Registry) : Prop :=
  registry.store.load tenantTable TenantRecords.decode? KeyedTable.empty registry.disk.tree
    = .ok registry.records

/-- A new process takes over: it begins with no records and loads what is on disk. -/
def restart (registry : Registry) : Outcome Unit × Registry :=
  load { registry with records := KeyedTable.empty }

/-- **A restart then loses nothing and brings nothing back.** -/
theorem IsDurable.restart {registry : Registry} (h : registry.IsDurable) :
    registry.restart = (.done (), registry) := by
  unfold IsDurable at h
  rw [Registry.restart, load]
  simp only [h]

/-- **A write that is done brings memory and disk together.** -/
theorem isDurable_of_persist {registry later : Registry}
    (h : persist registry = (.done (), later)) : later.IsDurable := by
  cases hsave : registry.store.save tenantTable registry.records.toJson registry.disk with
  | mk answer disk =>
      rw [persist_eq registry hsave] at h
      cases answer with
      | error e => cases h
      | ok u =>
          cases h
          exact TableStore.load_save isPlain_tenantTable registry.records.decodeText?_pretty hsave

theorem isDurable_of_load {registry later : Registry} (h : load registry = (.done (), later)) :
    later.IsDurable := by
  rw [load] at h
  split at h
  · rename_i records hload
    cases h
    exact hload
  · cases h

/-! ## §3. Runs. -/

/-- A registry in use, and whether the last of its loads and writes to have an effect in
memory was done. -/
structure Session where
  registry : Registry
  settled : Bool := false

namespace Session

/-- The session after a call.  A load that fails touches neither memory nor disk. -/
def after (session : Session) : Call → Session
  | .load =>
      let (outcome, registry) := load session.registry
      ⟨registry, outcome.isDone || session.settled⟩
  | .change change =>
      let (outcome, registry) := change.run session.registry
      ⟨registry, if (change.written session.registry.records).isSome then outcome.isDone
        else session.settled⟩

/-- Memory and disk agree if the session is settled. -/
def Sound (session : Session) : Prop := session.settled = true → session.registry.IsDurable

/-- **One call.** -/
theorem sound_after {session : Session} (h : session.Sound) (call : Call) :
    (session.after call).Sound := by
  intro hsettled
  cases call with
  | load =>
      rw [after] at hsettled ⊢
      cases hload : load session.registry with
      | mk outcome registry =>
          simp only [hload] at hsettled ⊢
          cases outcome with
          | done u => exact isDurable_of_load hload
          | failed e =>
              rw [load_failed hload nofun]
              exact h hsettled
          | abandoned =>
              rw [load_failed hload nofun]
              exact h hsettled
  -- Only a change that writes settles anew; any other one leaves things as they are.
  | change change =>
      rw [after] at hsettled ⊢
      cases hwritten : change.written session.registry.records with
      | none =>
          simp only [hwritten, Option.isSome_none, Bool.false_eq_true, if_false] at hsettled
          simp only [change.run_of_not_written hwritten]
          exact h hsettled
      | some records =>
          simp only [hwritten, Option.isSome_some, if_true] at hsettled
          cases hrun : change.run session.registry with
          | mk outcome registry =>
              simp only [hrun] at hsettled ⊢
              cases outcome with
              | done u =>
                  rw [change.run_of_written hwritten] at hrun
                  exact isDurable_of_persist hrun
              | failed e => cases hsettled
              | abandoned => cases hsettled

/-- **Any number of calls.**  Induction on the calls from the front, with the session so
far in front of it. -/
theorem sound_run (calls : List Call) : ∀ {session : Session}, session.Sound →
    (calls.foldl after session).Sound := by
  induction calls with
  | nil => intro session h; exact h
  | cons call rest ih => intro session h; exact ih (sound_after h call)

end Session

/-- **What is reported as done survives a restart.**  The process begins on any disk, the
calls before the change are any, and each write meets any fault. -/
theorem restart_after_done (start : Registry) (calls : List Call) (change : Change)
    (later : Registry)
    (hdone : change.run (calls.foldl Session.after ⟨start, false⟩).registry = (.done (), later)) :
    let session := calls.foldl Session.after ⟨start, false⟩
    ((change.written session.registry.records).isSome →
        later.IsDurable ∧ later.restart = (.done (), later)) ∧
      (change.written session.registry.records = none →
        later = session.registry ∧
          (session.settled = true → later.IsDurable ∧ later.restart = (.done (), later))) := by
  intro session
  -- Nothing is said of the start: it is not settled.
  have hsound : session.Sound := Session.sound_run calls fun h => by cases h
  constructor
  · intro hsome
    obtain ⟨records, hwritten⟩ := Option.isSome_iff_exists.1 hsome
    have hpersist := (change.run_of_written hwritten).symm.trans hdone
    have hdurable := isDurable_of_persist hpersist
    exact ⟨hdurable, hdurable.restart⟩
  · intro hnone
    have hkept : later = session.registry := by
      rw [← change.run_of_not_written hnone, hdone]
    rw [hkept]
    exact ⟨rfl, fun hsettled => ⟨hsound hsettled, (hsound hsettled).restart⟩⟩

/-- A directory that does not exist yet; the second write fails after it has begun. -/
def secondWriteFails : Registry where
  store := ⟨"state"⟩
  disk := { faults := [none, some ⟨.stage, .isDirectory⟩] }

/-- The first write of that process is durable. -/
theorem restart_after_done_insert :
    ∃ later, (Change.insert "net-A" 100 7).run
        ([Call.load].foldl Session.after ⟨secondWriteFails, false⟩).registry = (.done (), later) ∧
      later.IsDurable ∧ later.restart = (.done (), later) := by
  refine ⟨_, Prod.ext (by rfl) rfl, ?_⟩
  exact (restart_after_done secondWriteFails [.load] (.insert "net-A" 100 7) _
    (Prod.ext (by rfl) rfl)).1 rfl

/-- The write that forgets a network fails; forgetting it once more is done, but the table
file still has it, and a restart brings it back. -/
theorem forgotten_network_comes_back :
    let session := [Call.load, .change (.insert "net-A" 100 7), .change (.delete "net-A")].foldl
      Session.after ⟨secondWriteFails, false⟩
    let last := (Change.delete "net-A").run session.registry
    last.1.isDone = true ∧ ¬ last.2.IsDurable ∧
      last.2.records.get? "net-A" = none ∧
      last.2.restart.2.records.get? "net-A" = some (TenantRecord.new 100 7) := by
  intro session last
  have hback : last.2.restart.2.records.get? "net-A" = some (TenantRecord.new 100 7) := by
    decide +kernel
  have hgone : last.2.records.get? "net-A" = none := by decide +kernel
  refine ⟨by decide +kernel, fun hdurable => ?_, hgone, hback⟩
  rw [hdurable.restart, hgone] at hback
  cases hback

end Registry

end VxlanMesh
