/-
  VxlanMesh.Proofs.Tenant.View
  ────────────────────────────────
  **WHAT THE STEPS OF BINDING DO, WITH THE SWITCH AND THE DISK LEFT OUT.**

  Of a node, binding reads and changes three things: the records, the
  active networks and the VLANs.  `Answers` says once what each step does
  to them; the only choice it leaves open is whether a write succeeds,
  which the disk of a core decides.

      answers_take         a step on a core is one that `Answers` allows
      perform_answers      a node does what `Answers` says, and its disk
                           changes only by snapshots of the records
-/
import VxlanMesh.Proofs.Tenant.Core

namespace VxlanMesh.Node

open VxlanMesh.Procedure (Upholds)

/-! ## §1. Views and steps. -/

/-- The part of a node that binding reads and changes. -/
structure View where
  records : TenantRecords
  networks : List Network
  vlans : IdSpace

variable {σ : Type}

/-- The part of a node that binding reads and changes. -/
def view (node : Node σ) : View := ⟨node.registry.records, node.mesh.networks, node.vlans⟩

/-- What a write can answer: it is done, or it is a failure of the disk. -/
def WriteAnswer (answer : Except OverlayError Unit) : Prop :=
  answer = .ok () ∨ ∃ path reason, answer = .error (.persistence path reason)

/-- A step that changes one record if there is one. -/
def ChangesRecord (id : String) (f : TenantRecord → TenantRecord) (before : View)
    (answer : Except OverlayError Unit) (after : View) : Prop :=
  match before.records.get? id with
  | none => answer = .error (Registry.missing id) ∧ after = before
  | some record => WriteAnswer answer ∧
      after = { before with records := before.records.insert id (f record) }

theorem changesRecord_none {id : String} {f : TenantRecord → TenantRecord} {v : View}
    (h : v.records.get? id = none) :
    ChangesRecord id f v (.error (Registry.missing id)) v := by
  rw [ChangesRecord, h]
  exact ⟨rfl, rfl⟩

theorem changesRecord_some {id : String} {f : TenantRecord → TenantRecord} {v : View}
    {record : TenantRecord} {answer : Except OverlayError Unit}
    (h : v.records.get? id = some record) (hanswer : WriteAnswer answer) :
    ChangesRecord id f v answer { v with records := v.records.insert id (f record) } := by
  rw [ChangesRecord, h]
  exact ⟨hanswer, rfl⟩

/-- **What a step can answer, and what it does.** -/
def Answers : (β : Type) → Step β → View → β → View → Prop
  | _, .lookUp id, before, answer, after => answer = before.records.get? id ∧ after = before
  | _, .allRecords, before, answer, after => answer = before.records ∧ after = before
  | _, .reserveVlans vlans, before, _, after =>
      after = { before with vlans := before.vlans.seed vlans }
  | _, .takeVlan, before, answer, after =>
      answer = before.vlans.allocate.1 ∧ after = { before with vlans := before.vlans.allocate.2 }
  | _, .releaseVlan vlan, before, _, after =>
      after = { before with vlans := before.vlans.release vlan }
  | _, .activate net, before, answer, after =>
      if before.networks.any (·.collidesWith net) then
        answer = .error (.networkExists net.id net.vni net.vlan) ∧ after = before
      else answer = .ok () ∧ after = { before with networks := before.networks ++ [net] }
  | _, .deactivate id, before, answer, after =>
      if before.networks.any (·.id == id) then
        answer = .ok () ∧ after = { before with networks := before.networks.eraseP (·.id == id) }
      else answer = .error (.networkNotFound id) ∧ after = before
  | _, .insertRecord net, before, answer, after => WriteAnswer answer ∧
      after = { before with
        records := before.records.insert net.id (TenantRecord.new net.vni net.vlan) }
  | _, .addPod id pod, before, answer, after =>
      ChangesRecord id (·.addPod pod) before answer after
  | _, .removePod id pod, before, answer, after =>
      ChangesRecord id (·.removePod pod) before answer after
  | _, .needsDelete id, before, answer, after =>
      answer = (match before.records.get? id with
        | some record => record.isUnused
        | none => false) ∧ after = before
  | _, .deleteRecord id, before, answer, after =>
      if before.records.contains id then
        WriteAnswer answer ∧ after = { before with records := before.records.erase id }
      else answer = .ok () ∧ after = before

/-! ## §2. Steps of a task. -/

section
variable {α β S : Type} {answers : Procedure.Answering Step S} {keep : S → Prop}
  {ends : Except OverlayError β → S → Prop} {v : S}

/-- A step whose answer is a value. -/
theorem upholds_ask {s : Step α} {next : α → Task β} (hkeep : keep v)
    (h : ∀ answer v', answers α s v answer v' →
      Upholds answers keep (next answer).run ends v') :
    Upholds answers keep (ask s >>= next).run ends v :=
  ⟨hkeep, h⟩

/-- A step whose failure is a value. -/
theorem upholds_attempt {s : Step (Except OverlayError α)}
    {next : Except OverlayError α → Task β} (hkeep : keep v)
    (h : ∀ answer v', answers _ s v answer v' →
      Upholds answers keep (next answer).run ends v') :
    Upholds answers keep (attempt s >>= next).run ends v :=
  ⟨hkeep, h⟩

/-- A step whose failure ends the task. -/
theorem upholds_call {s : Step (Except OverlayError α)} {next : α → Task β} (hkeep : keep v)
    (hok : ∀ a v', answers _ s v (.ok a) v' → Upholds answers keep (next a).run ends v')
    (herror : ∀ e v', answers _ s v (.error e) v' → keep v' ∧ ends (.error e) v') :
    Upholds answers keep (call s >>= next).run ends v := by
  refine ⟨hkeep, fun answer v' hanswer => ?_⟩
  cases answer with
  | ok a => exact hok a v' hanswer
  | error e => exact herror e v' hanswer

/-- A task that is done keeps what holds. -/
theorem upholds_pure {a : β} (hkeep : keep v) (h : ends (.ok a) v) :
    Upholds answers keep (pure a : Task β).run ends v :=
  ⟨hkeep, h⟩

/-- So does a task that fails. -/
theorem upholds_throw {e : OverlayError} (hkeep : keep v) (h : ends (.error e) v) :
    Upholds answers keep (throw e : Task β).run ends v :=
  ⟨hkeep, h⟩

/-- What follows a failure is not run. -/
theorem upholds_throw_bind {e : OverlayError} {next : α → Task β} (hkeep : keep v)
    (h : ends (.error e) v) : Upholds answers keep ((throw e : Task α) >>= next).run ends v :=
  ⟨hkeep, h⟩

end

/-! ## §3. Nodes do what `Answers` says. -/

/-- A snapshot fails with a failure of the disk, if it fails. -/
theorem writeAnswer_of_save {store : TableStore} {table : String} {value : Json}
    {disk later : Disk} {answer : Except OverlayError Unit}
    (h : store.save table value disk = (answer, later)) : WriteAnswer answer := by
  cases answer with
  | ok u => exact Or.inl rfl
  | error e =>
      obtain ⟨path, reason, rfl⟩ := store.error_of_save h
      exact Or.inr ⟨path, reason, rfl⟩

/-- What a step leaves of the disk: nothing is written, or a snapshot of the records. -/
def Wrote (before after : Registry) : Prop :=
  after.store = before.store ∧ (after.disk = before.disk ∨
    after.disk = (before.store.save tenantTable after.records.toJson before.disk).2)

theorem Wrote.refl (registry : Registry) : Wrote registry registry := ⟨rfl, Or.inl rfl⟩

/-- A core without its disk. -/
def Core.view (c : Core) : View := ⟨c.records, c.networks, c.vlans⟩

/-- A write answers as the snapshot does. -/
theorem writeAnswer_of_write {c c' : Core} {records : TenantRecords}
    {answer : Except OverlayError Unit} (h : c.write records = (answer, c')) :
    WriteAnswer answer := by
  cases hsave : c.registry.store.save tenantTable records.toJson c.registry.disk with
  | mk saved disk =>
      rw [Core.write_eq hsave] at h
      cases h
      exact writeAnswer_of_save hsave

/-- A change of one record is a write, or it fails for want of the record. -/
theorem changesRecord_change (c : Core) (id : String) (f : TenantRecord → TenantRecord) :
    ChangesRecord id f c.view (c.change id f).1 (c.change id f).2.view := by
  rw [Core.change]
  cases h : c.records.get? id with
  | none => exact changesRecord_none h
  | some record => exact changesRecord_some (v := c.view) h (writeAnswer_of_write rfl)

/-- **A step on a core is one that `Answers` allows.**  One case for each step. -/
theorem answers_take {β : Type} (s : Step β) (c : Core) :
    Answers β s c.view (c.take s).1 (c.take s).2.view := by
  cases s with
  | lookUp id | allRecords | takeVlan | needsDelete id => exact ⟨rfl, rfl⟩
  | reserveVlans vlans | releaseVlan vlan => exact rfl
  | activate net =>
      rw [Core.take]
      cases h : c.networks.any (·.collidesWith net) with
      | true => exact (if_pos h).mpr ⟨rfl, rfl⟩
      | false => exact (if_neg (Bool.eq_false_iff.1 h)).mpr ⟨rfl, rfl⟩
  | deactivate id =>
      rw [Core.take]
      cases h : c.networks.any (·.id == id) with
      | true => exact (if_pos h).mpr ⟨rfl, rfl⟩
      | false => exact (if_neg (Bool.eq_false_iff.1 h)).mpr ⟨rfl, rfl⟩
  | insertRecord net => exact ⟨writeAnswer_of_write rfl, rfl⟩
  | addPod id pod => exact changesRecord_change c id (·.addPod pod)
  | removePod id pod => exact changesRecord_change c id (·.removePod pod)
  | deleteRecord id =>
      rw [Core.take]
      by_cases h : c.records.contains id = true
      · rw [if_pos h]
        exact (if_pos h).mpr ⟨writeAnswer_of_write rfl, rfl⟩
      · rw [if_neg h]
        exact (if_neg h).mpr ⟨rfl, rfl⟩

theorem wrote_write (c : Core) (records : TenantRecords) :
    Wrote c.registry (c.write records).2.registry := ⟨rfl, Or.inr rfl⟩

theorem wrote_change (c : Core) (id : String) (f : TenantRecord → TenantRecord) :
    Wrote c.registry (c.change id f).2.registry := by
  rw [Core.change]
  cases c.records.get? id with
  | none => exact Wrote.refl _
  | some record => exact wrote_write c _

/-- **A step writes one snapshot at most**, of the records that it leaves in memory. -/
theorem wrote_take {β : Type} (s : Step β) (c : Core) : Wrote c.registry (c.take s).2.registry := by
  cases s with
  | lookUp id | allRecords | reserveVlans vlans | takeVlan | releaseVlan vlan | needsDelete id =>
      exact Wrote.refl _
  | activate net | deactivate id =>
      rw [Core.take]
      split <;> exact Wrote.refl _
  | insertRecord net => exact wrote_write c _
  | addPod id pod => exact wrote_change c id _
  | removePod id pod => exact wrote_change c id _
  | deleteRecord id =>
      rw [Core.take]
      split
      · exact wrote_write c _
      · exact Wrote.refl _

variable [CommandRunner σ]

/-- **A node does what `Answers` says**; its disk changes only by snapshots of the records
that it then has. -/
theorem perform_answers (settings : MeshSettings) {β : Type} (s : Step β) (node : Node σ) :
    ∃ answer node', perform settings s node = (.done answer, node') ∧
      Answers β s node.view answer node'.view ∧ Wrote node.registry node'.registry := by
  obtain ⟨node', hperform, hcore⟩ := perform_take settings s node
  have hanswers := answers_take s node.core
  have hwrote := wrote_take s node.core
  rw [← hcore] at hanswers hwrote
  exact ⟨_, node', hperform, hanswers, hwrote⟩

/-! ## §4. Running tasks. -/

/-- What is said of the disk holds on, as long as the records that are written are such that
`keep` holds. -/
def KeptBySnapshots (keep : View → Prop) (safe : TableStore → Disk → Prop) : Prop :=
  ∀ (v : View) (store : TableStore) (disk : Disk), keep v → safe store disk →
    safe store (store.save tenantTable v.records.toJson disk).2

/-- Nothing may be said of it. -/
theorem keptBySnapshots_true (keep : View → Prop) : KeptBySnapshots keep fun _ _ => True :=
  fun _ _ _ _ _ => trivial

/-- What snapshots keep of the disk, every step of a node keeps. -/
theorem carries_perform (settings : MeshSettings) {keep : View → Prop}
    {safe : TableStore → Disk → Prop} (hsafe : KeptBySnapshots keep safe) :
    Procedure.Carries Answers (perform (σ := σ) settings) view keep
      (fun node => safe node.registry.store node.registry.disk) := by
  intro β s node hbefore
  obtain ⟨answer, node', hperform, hanswer, hstore, hdisk⟩ := perform_answers settings s node
  refine ⟨answer, node', hperform, hanswer, fun hkeep => ?_⟩
  show safe node'.registry.store node'.registry.disk
  rw [hstore]
  -- The disk is as before, or a snapshot of the records was written to it.
  rcases hdisk with hdisk | hdisk
  · rw [hdisk]
    exact hbefore
  · rw [hdisk]
    exact hsafe node'.view _ _ hkeep hbefore

/-- **A task on a node** always ends, with a result and a view of which `ends` holds. -/
theorem runTask_of_upholds (settings : MeshSettings) {α : Type} {keep : View → Prop}
    {safe : TableStore → Disk → Prop} (hsafe : KeptBySnapshots keep safe) {task : Task α}
    {ends : Except OverlayError α → View → Prop} {node : Node σ}
    (h : Upholds Answers keep task.run ends node.view)
    (hnode : safe node.registry.store node.registry.disk) :
    ∃ result node', runTask settings task node = (.ofExcept result, node') ∧
      ends result node'.view ∧ safe node'.registry.store node'.registry.disk := by
  obtain ⟨result, node', hrun, hends⟩ :=
    Procedure.run_of_upholds (carries_perform settings hsafe) h hnode
  refine ⟨result, node', ?_, hends⟩
  rw [runTask, Operation.bind_done hrun]
  cases result <;> rfl

/-- A task of which nothing is said about the disk. -/
theorem runTask_ends (settings : MeshSettings) {α : Type} {keep : View → Prop} {task : Task α}
    {ends : Except OverlayError α → View → Prop} {node : Node σ}
    (h : Upholds Answers keep task.run ends node.view) :
    ∃ result node', runTask settings task node = (.ofExcept result, node') ∧
      ends result node'.view := by
  obtain ⟨result, node', hrun, hends, -⟩ := runTask_of_upholds settings
    (keptBySnapshots_true keep) h trivial
  exact ⟨result, node', hrun, hends⟩

end VxlanMesh.Node
