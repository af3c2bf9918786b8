/-
  VxlanMesh.Proofs.Tenant.Endings
  ────────────────────────────────
  **HOW ATTACHING AND DETACHING CAN END.**

  A request ends in one of a few ways, each with its answer and the view
  that it leaves.  They are listed here once, for any view whatsoever and
  for any answers of the disk; what requests keep is then shown of each
  item of the list, without running the request again.

      realize_upholds    the first use of a network
      attach_ends        binding a pod
      detach_ends        unbinding a pod
      runTask_attach, runTask_detach    the same on a node
-/
import VxlanMesh.Proofs.IdSpace
import VxlanMesh.Proofs.KeyedTable
import VxlanMesh.Proofs.Tenant.View

namespace VxlanMesh.Node

open VxlanMesh.Procedure (Upholds upholds_bind)

/-! ## §1. Realizing a network. -/

/-- **How a network can be realized**: the answer and the view afterwards. -/
inductive Realized (id : String) (vni : UInt32) (v : View) :
    Except OverlayError UInt16 → View → Prop where
  /-- No VLAN is left. -/
  | exhausted {e : OverlayError} {later : IdSpace} (hspace : v.vlans.allocate = (.error e, later)) :
      Realized id vni v (.error e) v
  /-- The number is larger than a packet can carry. -/
  | unfit {raw : Nat} {later : IdSpace} (htake : v.vlans.allocate = (.ok raw, later))
      (hlarge : 65535 < raw) (reason : String) :
      Realized id vni v (.error (.internal reason)) { v with vlans := later.release raw }
  /-- An active network has one of the identifiers. -/
  | taken {vlan : UInt16} {later : IdSpace}
      (htake : v.vlans.allocate = (.ok vlan.toNat, later))
      (hcollides : v.networks.any (·.collidesWith ⟨id, vni, vlan⟩) = true) :
      Realized id vni v (.error (.networkExists id vni vlan))
        { v with vlans := later.release vlan.toNat }
  /-- The record could not be written. -/
  | unwritten {vlan : UInt16} {later : IdSpace} (path reason : String)
      (htake : v.vlans.allocate = (.ok vlan.toNat, later))
      (hapart : v.networks.any (·.collidesWith ⟨id, vni, vlan⟩) = false) :
      Realized id vni v (.error (.persistence path reason))
        { v with
          records := (v.records.insert id (TenantRecord.new vni vlan)).erase id
          vlans := later.release vlan.toNat }
  /-- There is one more network. -/
  | active {vlan : UInt16} {later : IdSpace}
      (htake : v.vlans.allocate = (.ok vlan.toNat, later))
      (hapart : v.networks.any (·.collidesWith ⟨id, vni, vlan⟩) = false) :
      Realized id vni v (.ok vlan)
        ⟨v.records.insert id (TenantRecord.new vni vlan), v.networks ++ [⟨id, vni, vlan⟩], later⟩

theorem error_of_allocate {space later : IdSpace} {e : OverlayError}
    (h : space.allocate = (.error e, later)) : ∃ name limit, e = .idExhausted name limit := by
  rw [IdSpace.allocate] at h
  split at h
  · cases h
  · exact ⟨_, _, (Except.error.inj (Prod.mk.inj h).1).symm⟩

/-- What follows when the record of a network that was just activated is not written: each
of the three steps is undone, the last one first. -/
theorem undo_upholds {allowed : TenantRecords → Prop} {v : View} {net : Network}
    {record : TenantRecord} {later : IdSpace} {raw : Nat} {e : OverlayError}
    {ends : Except OverlayError UInt16 → View → Prop}
    (hapart : v.networks.any (·.collidesWith net) = false)
    (hinserted : allowed (v.records.insert net.id record))
    (herased : allowed ((v.records.insert net.id record).erase net.id))
    (hend : ends (.error e)
      ⟨(v.records.insert net.id record).erase net.id, v.networks, later.release raw⟩) :
    Upholds Answers (fun v => allowed v.records)
      (attempt (.deactivate net.id) >>= fun _ => attempt (.deleteRecord net.id) >>= fun _ =>
        ask (.releaseVlan raw) >>= fun _ => throw e : Task UInt16).run ends
      ⟨v.records.insert net.id record, v.networks ++ [net], later⟩ := by
  refine upholds_attempt hinserted fun _ v₁ hdeactivate => ?_
  obtain ⟨-, rfl⟩ := (if_pos (by simp)).mp hdeactivate
  refine upholds_attempt hinserted fun _ v₂ hdelete => ?_
  have hcontains : (v.records.insert net.id record).contains net.id = true := by
    rw [KeyedTable.contains_iff]
    exact ⟨_, by rw [KeyedTable.get?_insert_self]⟩
  obtain ⟨-, rfl⟩ := (if_pos hcontains).mp hdelete
  refine upholds_ask herased fun _ v₃ hrelease => ?_
  cases hrelease
  refine upholds_throw herased ?_
  -- The network was the last one, and no other has its id, so the others are left.
  have hkept := Network.eraseP_concat hapart
  simp only at hkept ⊢
  rw [hkept]
  exact hend

/-- A network that is realized has a record without pods. -/
theorem Realized.record_of_ok {id : String} {vni : UInt32} {v v' : View} {vlan : UInt16}
    (h : Realized id vni v (.ok vlan) v') :
    v'.records.get? id = some (TenantRecord.new vni vlan) := by
  cases h
  rw [KeyedTable.get?_insert_self]

/-- **Realizing a network** ends in one of these ways.  `allowed` is what is to hold of the
records all along. -/
theorem realize_upholds (allowed : TenantRecords → Prop) {id : String} {vni : UInt32} {v : View}
    (hbefore : allowed v.records)
    (hallowed : ∀ {vlan : UInt16} {later : IdSpace},
      v.vlans.allocate = (.ok vlan.toNat, later) →
      v.networks.any (·.collidesWith ⟨id, vni, vlan⟩) = false →
      allowed (v.records.insert id (TenantRecord.new vni vlan)) ∧
        allowed ((v.records.insert id (TenantRecord.new vni vlan)).erase id)) :
    Upholds Answers (fun v => allowed v.records) (realize id vni).run (Realized id vni v) v := by
  unfold realize
  refine upholds_call hbefore (fun raw v₁ hraw => ?_) (fun e v₁ hraw => ?_)
  -- No number is handed out.
  case refine_2 =>
    cases htake : v.vlans.allocate with
    | mk answer later =>
        obtain ⟨hanswer, rfl⟩ := hraw
        rw [htake] at hanswer
        cases hanswer
        rw [htake, (IdSpace.allocate_error htake).1]
        exact ⟨hbefore, .exhausted htake⟩
  cases htake : v.vlans.allocate with
  | mk answer later =>
      obtain ⟨hanswer, rfl⟩ := hraw
      rw [htake] at hanswer ⊢
      cases hanswer
      split
      -- The number fits no packet, and is given back at once.
      · rename_i hlarge
        refine upholds_ask hbefore fun _ v₂ hrelease => ?_
        cases hrelease
        exact upholds_throw hbefore (.unfit htake hlarge _)
      -- It fits: from here on the number and the VLAN are the same.
      · rename_i hsmall
        have hvlan : raw.toUInt16.toNat = raw := by
          simp only [Nat.toUInt16_eq, UInt16.toNat_ofNat']
          omega
        have htake' : v.vlans.allocate = (.ok raw.toUInt16.toNat, later) := by rw [hvlan, htake]
        refine upholds_attempt hbefore fun activated v₂ hactivate => ?_
        cases hany : v.networks.any (·.collidesWith ⟨id, vni, raw.toUInt16⟩) with
        | true =>
            obtain ⟨rfl, rfl⟩ := (if_pos hany).mp hactivate
            refine upholds_ask hbefore fun _ v₃ hrelease => ?_
            cases hrelease
            refine upholds_throw_bind hbefore ?_
            have hend := Realized.taken htake' hany
            rw [hvlan] at hend
            exact hend
        | false =>
            obtain ⟨rfl, rfl⟩ := (if_neg (by simp [hany])).mp hactivate
            obtain ⟨hinserted, herased⟩ := hallowed htake' hany
            refine upholds_attempt hbefore fun inserted v₃ hinsert => ?_
            obtain ⟨hwrite, rfl⟩ := hinsert
            rcases hwrite with rfl | ⟨path, reason, rfl⟩
            · exact upholds_pure hinserted (.active htake' hany)
            · have hend := Realized.unwritten path reason htake' hany
              rw [hvlan] at hend
              exact undo_upholds hany hinserted herased hend

/-! ## §2. Attaching. -/

/-- What is answered when the last step is a write: the value, or a failure of the disk. -/
def Noted {α : Type} (value : α) (answer : Except OverlayError α) : Prop :=
  answer = .ok value ∨ ∃ path reason, answer = .error (.persistence path reason)

/-- **How attaching can end.** -/
inductive Attached (id : String) (vni : UInt32) (pod : String) (v : View) :
    Except OverlayError UInt16 → View → Prop where
  /-- The network has a record, and it is not the network that is meant. -/
  | refused {record : TenantRecord} {e : OverlayError} (hget : v.records.get? id = some record)
      (hbound : boundVlan id vni record = .error e) : Attached id vni pod v (.error e) v
  /-- The network has a record, and the pod is noted in it. -/
  | known {record : TenantRecord} {vlan : UInt16} {answer : Except OverlayError UInt16}
      (hget : v.records.get? id = some record) (hbound : boundVlan id vni record = .ok vlan)
      (hnoted : Noted vlan answer) :
      Attached id vni pod v answer { v with records := v.records.insert id (record.addPod pod) }
  /-- The network has no record and is not realized. -/
  | unrealized {e : OverlayError} {v' : View} (hnone : v.records.get? id = none)
      (hend : Realized id vni v (.error e) v') : Attached id vni pod v (.error e) v'
  /-- The network is realized, and the pod is noted. -/
  | realized {vlan : UInt16} {v' : View} {answer : Except OverlayError UInt16}
      (hnone : v.records.get? id = none) (hend : Realized id vni v (.ok vlan) v')
      (hnoted : Noted vlan answer) :
      Attached id vni pod v answer { v' with
        records := v'.records.insert id ((TenantRecord.new vni vlan).addPod pod) }

/-- Noting a pod of a network that has a record. -/
theorem addPod_upholds {allowed : TenantRecords → Prop} {id pod : String} {vlan : UInt16}
    {v : View} {record : TenantRecord} {ends : Except OverlayError UInt16 → View → Prop}
    (hget : v.records.get? id = some record) (hbefore : allowed v.records)
    (hafter : allowed (v.records.insert id (record.addPod pod)))
    (hok : ends (.ok vlan) { v with records := v.records.insert id (record.addPod pod) })
    (herror : ∀ path reason, ends (.error (.persistence path reason))
      { v with records := v.records.insert id (record.addPod pod) }) :
    Upholds Answers (fun v => allowed v.records)
      (call (.addPod id pod) >>= fun _ => pure vlan : Task UInt16).run ends v := by
  have hchanged : ∀ {answer v'}, Answers _ (.addPod id pod) v answer v' →
      WriteAnswer answer ∧ v' = { v with records := v.records.insert id (record.addPod pod) } := by
    intro answer v' hanswer
    have hstep : ChangesRecord id (·.addPod pod) v answer v' := hanswer
    rw [ChangesRecord, hget] at hstep
    exact hstep
  refine upholds_call hbefore (fun _ v' hanswer => ?_) (fun e v' hanswer => ?_)
  · obtain ⟨-, rfl⟩ := hchanged hanswer
    exact upholds_pure hafter hok
  · obtain ⟨hwrite, rfl⟩ := hchanged hanswer
    rcases hwrite with hwrite | ⟨path, reason, hwrite⟩
    · cases hwrite
    · cases hwrite
      exact ⟨hafter, herror path reason⟩

/-- Attaching to a network without a record realizes it first. -/
theorem attach_unknown_upholds (allowed : TenantRecords → Prop) {id pod : String} {vni : UInt32}
    {v : View} {ends : Except OverlayError UInt16 → View → Prop} (hbefore : allowed v.records)
    (hnone : v.records.get? id = none)
    (hrealize : Upholds Answers (fun v => allowed v.records) (realize id vni).run
      (Realized id vni v) v)
    (herror : ∀ e v', Realized id vni v (.error e) v' → ends (.error e) v')
    (hok : ∀ vlan v', Realized id vni v (.ok vlan) v' →
      let v'' := { v' with
        records := v'.records.insert id ((TenantRecord.new vni vlan).addPod pod) }
      allowed v''.records ∧ ends (.ok vlan) v'' ∧
        ∀ path reason, ends (.error (.persistence path reason)) v'') :
    Upholds Answers (fun v => allowed v.records) (attach id vni pod).run ends v := by
  unfold attach
  refine upholds_ask hbefore fun found v₁ hlookUp => ?_
  obtain ⟨rfl, rfl⟩ := hlookUp
  rw [hnone]
  show Upholds Answers (fun v => allowed v.records)
    (realize id vni >>= fun vlan =>
      call (.addPod id pod) >>= fun _ => pure vlan : Task UInt16).run _ v₁
  refine upholds_bind (Procedure.Upholds.mono (fun result v₂ hallowed hend => ?_) hrealize)
  cases result with
  | error e => exact herror e v₂ hend
  | ok vlan =>
      obtain ⟨hafter, hdone, hfailed⟩ := hok vlan v₂ hend
      exact addPod_upholds hend.record_of_ok hallowed hafter hdone hfailed

/-- **Attaching a pod** ends in one of these ways.  `allowed` is what is to hold of the
records all along. -/
theorem attach_ends (allowed : TenantRecords → Prop) (id pod : String) (vni : UInt32) {v : View}
    (hbefore : allowed v.records)
    (hrealized : v.records.get? id = none → ∀ {answer v'}, Realized id vni v answer v' →
      allowed v'.records)
    (hattached : ∀ {answer v'}, Attached id vni pod v answer v' → allowed v'.records) :
    Upholds Answers (fun v => allowed v.records) (attach id vni pod).run
      (Attached id vni pod v) v := by
  cases hget : v.records.get? id with
  | none =>
      have hrealize : Upholds Answers (fun v => allowed v.records) (realize id vni).run
          (Realized id vni v) v :=
        realize_upholds allowed hbefore fun htake hapart =>
          ⟨hrealized hget (.active htake hapart), hrealized hget (.unwritten "" "" htake hapart)⟩
      refine attach_unknown_upholds allowed hbefore hget hrealize
        (fun e v' hend => .unrealized hget hend) (fun vlan v' hend => ?_)
      have hdone : Attached id vni pod v (.ok vlan) _ := .realized hget hend (Or.inl rfl)
      exact ⟨hattached hdone, hdone, fun path reason =>
        .realized hget hend (Or.inr ⟨path, reason, rfl⟩)⟩
  | some record =>
      unfold attach
      refine upholds_ask hbefore fun found v₁ hlookUp => ?_
      obtain ⟨rfl, rfl⟩ := hlookUp
      rw [hget]
      show Upholds Answers (fun v => allowed v.records)
        (attach.liftExcept (boundVlan id vni record) >>= fun vlan =>
          call (.addPod id pod) >>= fun _ => pure vlan : Task UInt16).run _ v₁
      cases hbound : boundVlan id vni record with
      | error e => exact upholds_throw_bind hbefore (.refused hget hbound)
      | ok vlan =>
          have hdone : Attached id vni pod v₁ (.ok vlan) _ := .known hget hbound (Or.inl rfl)
          exact addPod_upholds hget hbefore (hattached hdone) hdone
            fun path reason => .known hget hbound (Or.inr ⟨path, reason, rfl⟩)

/-! ## §3. Detaching. -/

/-- The VLANs without that of a record, if it has one. -/
def releasedOf (record : TenantRecord) (vlans : IdSpace) : IdSpace :=
  match record.vlan with
  | some vlan => vlans.release vlan.toNat
  | none => vlans

/-- **How detaching can end.** -/
inductive Detached (id pod : String) (v : View) : Except OverlayError Bool → View → Prop where
  /-- The network has no record. -/
  | unknown (hnone : v.records.get? id = none) :
      Detached id pod v (.error (Registry.missing id)) v
  /-- The pod is gone from memory, and that could not be written. -/
  | unwritten {record : TenantRecord} (path reason : String)
      (hget : v.records.get? id = some record) :
      Detached id pod v (.error (.persistence path reason))
        { v with records := v.records.insert id (record.removePod pod) }
  /-- Other pods are left. -/
  | left {record : TenantRecord} (hget : v.records.get? id = some record)
      (hused : (record.removePod pod).isUnused = false) :
      Detached id pod v (.ok false)
        { v with records := v.records.insert id (record.removePod pod) }
  /-- The network and its record are gone from memory, and that could not be written: the
  VLAN is not given back. -/
  | stranded {record : TenantRecord} (path reason : String)
      (hget : v.records.get? id = some record)
      (hunused : (record.removePod pod).isUnused = true) :
      Detached id pod v (.error (.persistence path reason))
        ⟨v.records.erase id, v.networks.eraseP (·.id == id), v.vlans⟩
  /-- The network is torn down. -/
  | tornDown {record : TenantRecord} (hget : v.records.get? id = some record)
      (hunused : (record.removePod pod).isUnused = true) :
      Detached id pod v (.ok true)
        ⟨v.records.erase id, v.networks.eraseP (·.id == id), releasedOf record v.vlans⟩

/-- Deactivating never ends the task: a network that is not active is none to erase. -/
theorem deactivateIfActive_upholds {keep : View → Prop} {id : String} {v : View} {α : Type}
    {next : Unit → Task α} {ends : Except OverlayError α → View → Prop} (hkeep : keep v)
    (hnext : Upholds Answers keep (next ()).run ends
      { v with networks := v.networks.eraseP (·.id == id) }) :
    Upholds Answers keep (deactivateIfActive id >>= next).run ends v := by
  have hdone : Upholds Answers keep (deactivateIfActive id).run (fun result v' =>
      result = .ok () ∧ v' = { v with networks := v.networks.eraseP (·.id == id) }) v := by
    unfold deactivateIfActive
    refine upholds_attempt hkeep fun answer v' hanswer => ?_
    cases hany : v.networks.any (·.id == id) with
    | true =>
        obtain ⟨rfl, rfl⟩ := (if_pos hany).mp hanswer
        exact upholds_pure hnext.keep_start ⟨rfl, rfl⟩
    | false =>
        have hsame : v.networks.eraseP (·.id == id) = v.networks :=
          List.eraseP_of_forall_not fun net hnet => List.any_eq_false.1 hany net hnet
        obtain ⟨rfl, rfl⟩ := (if_neg (by simp [hany])).mp hanswer
        exact upholds_pure hkeep ⟨rfl, by rw [hsame]⟩
  refine upholds_bind (Procedure.Upholds.mono (fun result v' _ hend => ?_) hdone)
  obtain ⟨rfl, rfl⟩ := hend
  exact hnext

/-- Giving back the VLAN of a record never ends the task. -/
theorem releaseVlanOf_upholds {keep : View → Prop} {record : TenantRecord} {v : View} {α : Type}
    {next : Unit → Task α} {ends : Except OverlayError α → View → Prop} (hkeep : keep v)
    (hnext : Upholds Answers keep (next ()).run ends
      { v with vlans := releasedOf record v.vlans }) :
    Upholds Answers keep (releaseVlanOf record >>= next).run ends v := by
  revert hnext
  unfold releasedOf releaseVlanOf
  cases record.vlan with
  | none => exact id
  | some vlan =>
      refine fun hnext => upholds_ask hkeep fun _ v' hrelease => ?_
      cases hrelease
      exact hnext

/-- **Detaching a pod** ends in one of these ways.  `allowed` is what is to hold of the
records all along. -/
theorem detach_ends (allowed : TenantRecords → Prop) (id pod : String) {v : View}
    (hbefore : allowed v.records)
    (hdetached : ∀ {answer v'}, Detached id pod v answer v' → allowed v'.records) :
    Upholds Answers (fun v => allowed v.records) (detach id pod).run (Detached id pod v) v := by
  unfold detach
  cases hget : v.records.get? id with
  | none =>
      have hmissing : ∀ {answer v'}, Answers _ (.removePod id pod) v answer v' →
          answer = .error (Registry.missing id) ∧ v' = v := by
        intro answer v' hanswer
        have hstep : ChangesRecord id (·.removePod pod) v answer v' := hanswer
        rw [ChangesRecord, hget] at hstep
        exact hstep
      refine upholds_call hbefore (fun _ v₁ hremove => ?_) (fun e v₁ hremove => ?_)
      · cases (hmissing hremove).1
      · obtain ⟨he, rfl⟩ := hmissing hremove
        cases he
        exact ⟨hbefore, .unknown hget⟩
  | some record =>
      have hchanged : ∀ {answer v'}, Answers _ (.removePod id pod) v answer v' →
          WriteAnswer answer ∧
            v' = { v with records := v.records.insert id (record.removePod pod) } := by
        intro answer v' hanswer
        have hstep : ChangesRecord id (·.removePod pod) v answer v' := hanswer
        rw [ChangesRecord, hget] at hstep
        exact hstep
      have hremoved : allowed (v.records.insert id (record.removePod pod)) :=
        hdetached (.unwritten "" "" hget)
      refine upholds_call hbefore (fun _ v₁ hremove => ?_) (fun e v₁ hremove => ?_)
      case refine_2 =>
        obtain ⟨hwrite, rfl⟩ := hchanged hremove
        rcases hwrite with hwrite | ⟨path, reason, hwrite⟩
        · cases hwrite
        · cases hwrite
          exact ⟨hremoved, .unwritten path reason hget⟩
      obtain ⟨-, rfl⟩ := hchanged hremove
      have hfound : (v.records.insert id (record.removePod pod)).get? id
          = some (record.removePod pod) := by
        rw [KeyedTable.get?_insert_self]
      refine upholds_ask hremoved fun needed v₂ hneeded => ?_
      obtain ⟨hneeded, rfl⟩ := hneeded
      simp only [hfound] at hneeded
      subst hneeded
      split
      case isFalse hused => exact upholds_pure hremoved (.left hget (Bool.eq_false_iff.2 hused))
      rename_i hunused
      refine upholds_ask hremoved fun found v₃ hlookUp => ?_
      obtain ⟨rfl, rfl⟩ := hlookUp
      simp only [hfound]
      -- The last pod has left: the network goes first, then its record, then its VLAN.
      have herase := KeyedTable.erase_insert v.records id (record.removePod pod)
      have hcontains : (v.records.insert id (record.removePod pod)).contains id = true :=
        KeyedTable.contains_iff.2 ⟨_, hfound⟩
      have herased : allowed (v.records.erase id) := hdetached (.stranded "" "" hget hunused)
      refine deactivateIfActive_upholds hremoved ?_
      refine upholds_call hremoved (fun _ v₄ hdelete => ?_) (fun e v₄ hdelete => ?_)
      · obtain ⟨-, rfl⟩ := (if_pos hcontains).mp hdelete
        simp only [herase]
        have hend := Detached.tornDown hget hunused
        exact releaseVlanOf_upholds herased (upholds_pure herased hend)
      · obtain ⟨hwrite, rfl⟩ := (if_pos hcontains).mp hdelete
        simp only [herase]
        rcases hwrite with hwrite | ⟨path, reason, hwrite⟩
        · cases hwrite
        · cases hwrite
          exact ⟨herased, .stranded path reason hget hunused⟩

/-! ## §4. On a node. -/

variable {σ : Type} [CommandRunner σ]

/-- **On a node attaching ends**, in one of the ways that are listed. -/
theorem runTask_attach (settings : MeshSettings) (node : Node σ) (id pod : String)
    (vni : UInt32) : ∃ answer node',
    runTask settings (attach id vni pod) node = (.ofExcept answer, node') ∧
      Attached id vni pod node.view answer node'.view :=
  runTask_ends settings
    (attach_ends (fun _ => True) id pod vni trivial (fun _ _ _ _ => trivial) fun _ => trivial)

/-- **On a node detaching ends**, in one of the ways that are listed. -/
theorem runTask_detach (settings : MeshSettings) (node : Node σ) (id pod : String) :
    ∃ answer node', runTask settings (detach id pod) node = (.ofExcept answer, node') ∧
      Detached id pod node.view answer node'.view :=
  runTask_ends settings (detach_ends (fun _ => True) id pod trivial fun _ => trivial)

end VxlanMesh.Node
