/-
  VxlanMesh.Proofs.Tenant.References
  ────────────────────────────────
  **COUNTING REFERENCES IS KEEPING SETS OF PODS.**

  What a run of requests is meant to do needs no node: for each network it
  keeps the set of pods that were attached and have not been detached
  (`PodSets`).  As long as snapshots are written, the records of the node
  stand for these sets: a network has a record, and is active, while its
  set has a pod, and the keys in the record are those of the pods.  For
  that a key has to tell pods apart, which it does for namespaces without
  a colon.

      serve_sameNetworks        a record that stays keeps VNI and VLAN
      serve_refers              one request, on both sides
      references_refine_pods    the main result
-/
import Mathlib.Data.Finset.Card
import Mathlib.Logic.Function.Basic
import VxlanMesh.Proofs.Tenant.Reservations

namespace VxlanMesh

/-! ## §1. Keys of pods. -/

theorem takeWhile_podKey {ns : String} (name : String) (hplain : ':' ∉ ns.toList) :
    (podKey ns name).toList.takeWhile (· ≠ ':') = ns.toList := by
  have hall : ∀ c ∈ ns.toList, decide (c ≠ ':') = true :=
    fun c hc => decide_eq_true fun hsame => hplain (hsame ▸ hc)
  rw [podKey, String.toList_append, String.toList_append, List.append_assoc,
    List.takeWhile_append_of_pos hall]
  simp

/-- **Keys tell pods apart**, as long as no namespace has a colon. -/
theorem podKey_inj {ns ns' name name' : String} (hplain : ':' ∉ ns.toList)
    (hplain' : ':' ∉ ns'.toList) (hsame : podKey ns name = podKey ns' name') :
    ns = ns' ∧ name = name' := by
  -- The namespace is what stands before the first colon.
  have hns : ns = ns' := by
    rw [← String.toList_inj, ← takeWhile_podKey name hplain, hsame,
      takeWhile_podKey name' hplain']
  subst hns
  refine ⟨rfl, ?_⟩
  rw [← String.toList_inj] at hsame ⊢
  simpa [podKey] using hsame

/-- The operation ended because a snapshot could not be written. -/
def Outcome.isUnwritten {α : Type} : Outcome α → Bool
  | failed (.persistence _ _) => true
  | _ => false

namespace Node

/-! ## §2. Requests whose snapshots are written. -/

section
variable {σ : Type} [CommandRunner σ]

/-- The answer is another one than that a snapshot could not be written. -/
def Written {α : Type} : Except OverlayError α → Prop
  | .ok _ => True
  | .error e => ∀ path reason, e ≠ .persistence path reason

/-- The snapshots of a request are written: if one is not, the request fails, and that is
what it reports. -/
def isWritten (settings : MeshSettings) (node : Node σ) : Request → Bool
  | .attach id vni ns name =>
      !(runTask settings (attach id vni (podKey ns name)) node).1.isUnwritten
  | .detach id ns name => !(runTask settings (detach id (podKey ns name)) node).1.isUnwritten
  | .sync _ => true

/-- The snapshots of all requests are written. -/
def allWritten (settings : MeshSettings) : Node σ → List Request → Bool
  | _, [] => true
  | node, request :: rest =>
      isWritten settings node request && allWritten settings (serve settings node request) rest

theorem allWritten_append {settings : MeshSettings} {node : Node σ} {earlier later : List Request} :
    allWritten settings node (earlier ++ later) = true ↔ allWritten settings node earlier = true ∧
      allWritten settings (earlier.foldl (serve settings) node) later = true := by
  induction earlier generalizing node with
  | nil => simp [allWritten]
  | cons request rest ih =>
      rw [List.cons_append, allWritten, allWritten, Bool.and_eq_true, Bool.and_eq_true, ih,
        and_assoc]
      rfl

theorem allWritten_part {settings : MeshSettings} {node : Node σ}
    {earlier requests : List Request} (h : allWritten settings node requests = true)
    (hpart : earlier <+: requests) : allWritten settings node earlier = true := by
  obtain ⟨later, rfl⟩ := hpart
  exact (allWritten_append.1 h).1

/-- **What each request keeps, if its snapshots are written**, is kept by all of them. -/
theorem serve_all_written {settings : MeshSettings} {P : Node σ → Prop}
    (hstep : ∀ node request, P node → isWritten settings node request = true →
      P (serve settings node request)) (requests : List Request) :
    ∀ {node : Node σ}, P node → allWritten settings node requests = true →
      P (requests.foldl (serve settings) node) := by
  induction requests with
  | nil => intro node h _; exact h
  | cons request rest ih =>
      intro node h hwritten
      rw [allWritten, Bool.and_eq_true] at hwritten
      exact ih (hstep node request h hwritten.1) hwritten.2

theorem written_of_outcome {α : Type} {answer : Except OverlayError α}
    (h : (!(Outcome.ofExcept answer).isUnwritten) = true) : Written answer := by
  cases answer with
  | ok a => exact trivial
  | error e =>
      rintro path reason rfl
      cases h

end

/-! ## §3. Records before and after. -/

section
variable {id pod : String} {vni : UInt32} {v v' : View}

theorem bound_of_ok {record : TenantRecord} {vlan : UInt16}
    (h : boundVlan id vni record = .ok vlan) : record.vni = vni ∧ record.vlan = some vlan := by
  unfold boundVlan at h
  split at h
  · cases h
  · rename_i found hvlan
    split at h
    · rename_i hvni
      cases h
      exact ⟨hvni, hvlan⟩
    · cases h

/-- **A pod that is attached** is noted in the record of its network, or in a new one. -/
theorem Attached.records_of_ok {vlan : UInt16} (h : Attached id vni pod v (.ok vlan) v') :
    ∃ record, (v.records.get? id = some record ∨
        v.records.get? id = none ∧ record = TenantRecord.new vni vlan) ∧
      record.vni = vni ∧ record.vlan = some vlan ∧
      v'.records = v.records.insert id (record.addPod pod) := by
  cases h with
  | known hget hbound hnoted =>
      rename_i record vlan'
      obtain rfl : vlan = vlan' := by
        rcases hnoted with hsame | ⟨path, reason, hsame⟩ <;> cases hsame
        rfl
      obtain ⟨hvni, hvlan⟩ := bound_of_ok hbound
      exact ⟨record, Or.inl hget, hvni, hvlan, rfl⟩
  | realized hnone hend hnoted =>
      rename_i vlan' v₁
      obtain rfl : vlan = vlan' := by
        rcases hnoted with hsame | ⟨path, reason, hsame⟩ <;> cases hsame
        rfl
      cases hend with
      | active htake hapart =>
          exact ⟨_, Or.inr ⟨hnone, rfl⟩, rfl, TenantRecord.vlan_new _ _,
            KeyedTable.insert_insert _ _ _ _⟩

/-- **A pod that is not attached** is noted nowhere, unless what failed is the snapshot. -/
theorem Attached.records_of_error {e : OverlayError} (h : Attached id vni pod v (.error e) v')
    (hwritten : Written (.error e : Except OverlayError UInt16)) : v'.records = v.records := by
  cases h with
  | refused hget hbound => rfl
  | known hget hbound hnoted =>
      rcases hnoted with hsame | ⟨path, reason, hsame⟩ <;> cases hsame
      exact absurd rfl (hwritten path reason)
  | realized hnone hend hnoted =>
      rcases hnoted with hsame | ⟨path, reason, hsame⟩ <;> cases hsame
      exact absurd rfl (hwritten path reason)
  | unrealized hnone hend =>
      cases hend with
      | exhausted hspace => rfl
      | unfit htake hlarge reason => rfl
      | taken htake hcollides => rfl
      | unwritten path reason htake hapart => exact absurd rfl (hwritten path reason)

/-- Networks that have a record before and after have the same VNI and VLAN. -/
def SameNetworks (before after : TenantRecords) : Prop :=
  ∀ id record record', before.get? id = some record → after.get? id = some record' →
    record'.vni = record.vni ∧ record'.vlan = record.vlan

theorem SameNetworks.refl (records : TenantRecords) : SameNetworks records records := by
  intro id record record' hget hget'
  rw [hget] at hget'
  cases hget'
  exact ⟨rfl, rfl⟩

/-- Another set of pods makes no other network, and a network that is new was none. -/
theorem sameNetworks_insert {records : TenantRecords} {changed : TenantRecord}
    (hsame : ∀ found, records.get? id = some found →
      changed.vni = found.vni ∧ changed.vlan = found.vlan) :
    SameNetworks records (records.insert id changed) := by
  intro other found found' hfound hfound'
  rw [KeyedTable.get?_insert] at hfound'
  split at hfound'
  · rename_i hid
    subst hid
    cases hfound'
    exact hsame found hfound
  · exact SameNetworks.refl records other found found' hfound hfound'

theorem sameNetworks_change {records : TenantRecords} {record changed : TenantRecord}
    (hget : records.get? id = some record) (hvni : changed.vni = record.vni)
    (hvlan : changed.vlan = record.vlan) : SameNetworks records (records.insert id changed) := by
  refine sameNetworks_insert fun found hfound => ?_
  rw [hget] at hfound
  cases hfound
  exact ⟨hvni, hvlan⟩

theorem sameNetworks_erase (records : TenantRecords) (id : String) :
    SameNetworks records (records.erase id) := by
  intro other found found' hfound hfound'
  rw [KeyedTable.get?_erase] at hfound'
  split at hfound'
  · cases hfound'
  · exact SameNetworks.refl records other found found' hfound hfound'

/-- **However it ends, attaching makes no network another one.** -/
theorem Attached.sameNetworks {answer : Except OverlayError UInt16}
    (h : Attached id vni pod v answer v') : SameNetworks v.records v'.records := by
  cases h with
  | refused hget hbound => exact SameNetworks.refl _
  | known hget hbound hnoted => exact sameNetworks_change hget rfl rfl
  | unrealized hnone hend =>
      cases hend with
      | exhausted hspace => exact SameNetworks.refl _
      | unfit htake hlarge reason => exact SameNetworks.refl _
      | taken htake hcollides => exact SameNetworks.refl _
      | unwritten path reason htake hapart =>
          rw [erase_insert_of_none hnone]
          exact SameNetworks.refl _
  | realized hnone hend hnoted =>
      cases hend with
      | active htake hapart =>
          simp only [KeyedTable.insert_insert]
          refine sameNetworks_insert fun found hfound => ?_
          rw [hnone] at hfound
          cases hfound

/-- **However it ends, detaching makes no network another one.** -/
theorem Detached.sameNetworks {answer : Except OverlayError Bool}
    (h : Detached id pod v answer v') : SameNetworks v.records v'.records := by
  cases h with
  | unknown hnone => exact SameNetworks.refl _
  | unwritten path reason hget => exact sameNetworks_change hget rfl rfl
  | left hget hused => exact sameNetworks_change hget rfl rfl
  | stranded path reason hget hunused => exact sameNetworks_erase _ _
  | tornDown hget hunused => exact sameNetworks_erase _ _

end

section
variable {σ : Type} [CommandRunner σ]

/-- **One request makes no network another one.** -/
theorem serve_sameNetworks (settings : MeshSettings) (node : Node σ) (request : Request) :
    SameNetworks node.registry.records (serve settings node request).registry.records := by
  cases request with
  | attach id vni ns name =>
      obtain ⟨answer, node', hrun, hend⟩ := runTask_attach settings node id (podKey ns name) vni
      rw [serve, hrun]
      exact hend.sameNetworks
  | detach id ns name =>
      obtain ⟨answer, node', hrun, hend⟩ := runTask_detach settings node id (podKey ns name)
      rw [serve, hrun]
      exact hend.sameNetworks
  | sync topology => exact SameNetworks.refl _

/-- **A network that never goes** keeps its VNI and its VLAN.  Induction on the requests. -/
theorem network_kept (settings : MeshSettings) {id : String} (requests : List Request) :
    ∀ {node : Node σ} {record record' : TenantRecord},
      (∀ earlier, earlier <+: requests →
        (earlier.foldl (serve settings) node).registry.records.contains id = true) →
      node.registry.records.get? id = some record →
      (requests.foldl (serve settings) node).registry.records.get? id = some record' →
      record'.vni = record.vni ∧ record'.vlan = record.vlan := by
  induction requests with
  | nil => intro node record record' _ hget hget'; exact SameNetworks.refl _ id _ _ hget hget'
  | cons request rest ih =>
      intro node record record' hknown hget hget'
      -- The record in between, after the first request.
      obtain ⟨next, hnext⟩ := KeyedTable.contains_iff.1
        (hknown [request] (List.prefix_append [request] rest))
      have hlater := ih (fun earlier hpart => hknown (request :: earlier)
        (List.cons_prefix_cons.2 ⟨rfl, hpart⟩)) hnext hget'
      have hfirst := serve_sameNetworks settings node request id record next hget hnext
      exact ⟨hlater.1.trans hfirst.1, hlater.2.trans hfirst.2⟩

/-- What is answered to an attach is the VLAN of the record, before and after. -/
theorem vlan_of_attach {settings : MeshSettings} {node : Node σ} {id ns name : String}
    {vni : UInt32} {vlan : UInt16}
    (h : (runTask settings (attach id vni (podKey ns name)) node).1 = .done vlan) :
    (∀ record, node.registry.records.get? id = some record → record.vlan = some vlan) ∧
    ∃ record, (serve settings node (.attach id vni ns name)).registry.records.get? id
      = some record ∧ record.vlan = some vlan := by
  obtain ⟨answer, node', hrun, hend⟩ := runTask_attach settings node id (podKey ns name) vni
  rw [serve, hrun]
  rw [hrun] at h
  obtain rfl : answer = .ok vlan := by
    cases answer with
    | error e => cases h
    | ok found => cases h; rfl
  obtain ⟨record, hfound, -, hvlan, hrecords⟩ := hend.records_of_ok
  constructor
  · intro found hget
    rcases hfound with hsome | ⟨hnone, -⟩
    · rw [Option.some.inj (hget.symm.trans hsome)]
      exact hvlan
    · exact absurd (hget.symm.trans hnone) (by simp)
  · refine ⟨record.addPod (podKey ns name), ?_, hvlan⟩
    show node'.view.records.get? id = _
    rw [hrecords, KeyedTable.get?_insert_self]

end

/-! ## §4. Sets of pods. -/

/-- For each network the pods, by namespace and name, that were attached and have not been
detached. -/
abbrev PodSets : Type := String → Finset (String × String)

/-- A record lists the keys of these pods. -/
structure Lists (pods : Finset (String × String)) (record : TenantRecord) : Prop where
  plain : ∀ pod ∈ pods, ':' ∉ pod.1.toList
  keys : ∀ key, record.pods.contains key = true ↔ ∃ pod ∈ pods, podKey pod.1 pod.2 = key

/-- **What is found of a network stands for its set of pods**: nothing for the empty set. -/
def StandsFor (pods : Finset (String × String)) : Option TenantRecord → Prop
  | none => pods = ∅
  | some record => pods.Nonempty ∧ Lists pods record

section
variable {pods : Finset (String × String)} {record : TenantRecord} {ns name : String}

theorem lists_new (vni : UInt32) (vlan : UInt16) : Lists ∅ (TenantRecord.new vni vlan) where
  plain pod hpod := absurd hpod (Finset.notMem_empty pod)
  keys key := by simp [TenantRecord.new, KeyedTable.contains]

theorem Lists.contains_iff (h : Lists pods record) (hplain : ':' ∉ ns.toList) :
    record.pods.contains (podKey ns name) = true ↔ (ns, name) ∈ pods := by
  rw [h.keys]
  constructor
  · rintro ⟨pod, hpod, hsame⟩
    obtain ⟨hns, hname⟩ := podKey_inj (h.plain pod hpod) hplain hsame
    subst hns hname
    exact hpod
  · exact fun hpod => ⟨(ns, name), hpod, rfl⟩

/-- A pod more, and one that is there already is not counted twice. -/
theorem Lists.addPod (h : Lists pods record) (name : String) (hplain : ':' ∉ ns.toList) :
    Lists (insert (ns, name) pods) (record.addPod (podKey ns name)) where
  plain pod hpod := by
    rcases Finset.mem_insert.1 hpod with rfl | hpod
    · exact hplain
    · exact h.plain pod hpod
  keys key := by
    rw [Finset.exists_mem_insert, ← h.keys, TenantRecord.addPod, KeyedTable.contains,
      KeyedTable.get?_insert]
    by_cases hkey : key = podKey ns name
    · simp [hkey]
    · simp [hkey, KeyedTable.contains, Ne.symm hkey]

/-- A pod less, if it was there. -/
theorem Lists.removePod (h : Lists pods record) (name : String) (hplain : ':' ∉ ns.toList) :
    Lists (pods.erase (ns, name)) (record.removePod (podKey ns name)) where
  plain pod hpod := h.plain pod (Finset.mem_of_mem_erase hpod)
  keys key := by
    rw [TenantRecord.removePod, KeyedTable.contains, KeyedTable.get?_erase]
    constructor
    · intro hsome
      split at hsome
      · cases hsome
      · rename_i hkey
        obtain ⟨pod, hpod, rfl⟩ := (h.keys key).1 hsome
        exact ⟨pod, Finset.mem_erase.2 ⟨fun hsame => hkey (by rw [hsame]), hpod⟩, rfl⟩
    -- Another pod has another key.
    · rintro ⟨pod, hpod, rfl⟩
      obtain ⟨hne, hpod⟩ := Finset.mem_erase.1 hpod
      rw [if_neg]
      · exact (h.keys _).2 ⟨pod, hpod, rfl⟩
      · intro hsame
        obtain ⟨hns, hname⟩ := podKey_inj (h.plain pod hpod) hplain hsame
        exact hne (Prod.ext hns hname)

/-- A record is unused if it lists no pod. -/
theorem Lists.isUnused_iff (h : Lists pods record) : record.isUnused = true ↔ pods = ∅ := by
  rw [TenantRecord.isUnused, List.isEmpty_iff, Finset.eq_empty_iff_forall_notMem]
  constructor
  · intro hnone pod hpod
    obtain ⟨value, hvalue⟩ := KeyedTable.contains_iff.1 ((h.keys _).2 ⟨pod, hpod, rfl⟩)
    have hmem := KeyedTable.mem_entries_iff.2 hvalue
    rw [hnone] at hmem
    exact List.not_mem_nil hmem
  · intro hnone
    refine List.eq_nil_iff_forall_not_mem.2 fun entry hentry => ?_
    have hkey : record.pods.contains entry.1 = true :=
      KeyedTable.contains_iff.2 ⟨entry.2, KeyedTable.mem_entries_iff.1 hentry⟩
    obtain ⟨pod, hpod, -⟩ := (h.keys entry.1).1 hkey
    exact hnone pod hpod

/-- **As many keys as pods.** -/
theorem Lists.size (h : Lists pods record) : record.pods.size = pods.card := by
  have hkeys : (record.pods.entries.map Prod.fst).toFinset
      = pods.image fun pod => podKey pod.1 pod.2 := by
    ext key
    rw [List.mem_toFinset, Finset.mem_image, ← h.keys, KeyedTable.contains_iff, List.mem_map]
    constructor
    · rintro ⟨entry, hentry, rfl⟩
      exact ⟨entry.2, KeyedTable.mem_entries_iff.1 hentry⟩
    · rintro ⟨value, hvalue⟩
      exact ⟨(key, value), KeyedTable.mem_entries_iff.2 hvalue, rfl⟩
  have hinj : Set.InjOn (fun pod : String × String => podKey pod.1 pod.2) pods := by
    intro a ha b hb hsame
    obtain ⟨hns, hname⟩ := podKey_inj (h.plain a ha) (h.plain b hb) hsame
    exact Prod.ext hns hname
  calc record.pods.size = (record.pods.entries.map Prod.fst).length := by
        rw [List.length_map, KeyedTable.size]
    _ = (record.pods.entries.map Prod.fst).toFinset.card :=
        (List.toFinset_card_of_nodup record.pods.nodup_keys).symm
    _ = pods.card := by rw [hkeys, Finset.card_image_of_injOn hinj]

end

/-- The records stand for sets of pods, network by network. -/
def Refers (pods : PodSets) (records : TenantRecords) : Prop :=
  ∀ id, StandsFor (pods id) (records.get? id)

section
variable {pods : PodSets} {records : TenantRecords} {id : String}

theorem Refers.contains_iff (h : Refers pods records) :
    records.contains id = true ↔ (pods id).Nonempty := by
  have hid := h id
  rw [KeyedTable.contains_iff]
  cases hget : records.get? id with
  | none =>
      rw [hget] at hid
      rw [show pods id = ∅ from hid]
      simp
  | some record =>
      rw [hget] at hid
      exact iff_of_true ⟨record, rfl⟩ hid.1

/-- Only what is found of one network is another one. -/
theorem Refers.insert (h : Refers pods records) {set : Finset (String × String)}
    {record : TenantRecord} (hset : StandsFor set (some record)) :
    Refers (Function.update pods id set) (records.insert id record) := by
  intro other
  rw [KeyedTable.get?_insert]
  split
  · rename_i hid
    rw [hid, Function.update_self]
    exact hset
  · rename_i hid
    rw [Function.update_of_ne hid]
    exact h other

theorem Refers.erase (h : Refers pods records) :
    Refers (Function.update pods id ∅) (records.erase id) := by
  intro other
  rw [KeyedTable.get?_erase]
  split
  · rename_i hid
    rw [hid, Function.update_self]
    exact rfl
  · rename_i hid
    rw [Function.update_of_ne hid]
    exact h other

end

/-! ## §5. Requests on both sides. -/

/-- One more pod of a network. -/
def PodSets.add (pods : PodSets) (id ns name : String) : PodSets :=
  Function.update pods id (insert (ns, name) (pods id))

/-- One pod less of a network. -/
def PodSets.drop (pods : PodSets) (id ns name : String) : PodSets :=
  Function.update pods id ((pods id).erase (ns, name))

section
variable {pods : PodSets} {v v' : View} {id ns name : String} {vni : UInt32}

/-- **Attaching, on both sides**: the pod is added if it is done, and if it fails for another
reason than a snapshot, nothing is changed. -/
theorem Refers.attached {answer : Except OverlayError UInt16} (h : Refers pods v.records)
    (hend : Attached id vni (podKey ns name) v answer v') (hplain : ':' ∉ ns.toList)
    (hwritten : Written answer) :
    Refers (if answer.isOk then pods.add id ns name else pods) v'.records := by
  cases answer with
  | error e =>
      rw [hend.records_of_error hwritten]
      exact h
  | ok vlan =>
      obtain ⟨record, hfound, -, -, hrecords⟩ := hend.records_of_ok
      have hid := h id
      have hlists : Lists (pods id) record := by
        rcases hfound with hget | ⟨hnone, rfl⟩
        · rw [hget] at hid
          exact hid.2
        · rw [hnone] at hid
          rw [show pods id = ∅ from hid]
          exact lists_new vni vlan
      rw [hrecords]
      exact h.insert ⟨Finset.insert_nonempty _ _, hlists.addPod name hplain⟩

/-- **Detaching, on both sides**, and which answer goes with which sets. -/
theorem Refers.detached {answer : Except OverlayError Bool} (h : Refers pods v.records)
    (hend : Detached id (podKey ns name) v answer v') (hplain : ':' ∉ ns.toList)
    (hwritten : Written answer) :
    Refers (if answer.isOk then pods.drop id ns name else pods) v'.records ∧
      answer = if pods id = ∅ then .error (Registry.missing id)
        else .ok (decide ((pods id).erase (ns, name) = ∅)) := by
  have hid := h id
  cases hend with
  | unwritten path reason hget => exact absurd rfl (hwritten path reason)
  | stranded path reason hget hunused => exact absurd rfl (hwritten path reason)
  | unknown hnone =>
      rw [hnone] at hid
      exact ⟨h, (if_pos hid).symm⟩
  | left hget hused =>
      rw [hget] at hid
      have hlists := hid.2.removePod name hplain
      have hleft : (pods id).erase (ns, name) ≠ ∅ := by
        rw [Ne, ← hlists.isUnused_iff, hused]
        exact Bool.false_ne_true
      rw [if_neg hid.1.ne_empty, decide_eq_false hleft]
      exact ⟨h.insert ⟨Finset.nonempty_iff_ne_empty.2 hleft, hlists⟩, rfl⟩
  | tornDown hget hunused =>
      rw [hget] at hid
      have hlists := hid.2.removePod name hplain
      have hnone : (pods id).erase (ns, name) = ∅ := hlists.isUnused_iff.1 hunused
      rw [if_neg hid.1.ne_empty, decide_eq_true hnone]
      refine ⟨?_, rfl⟩
      show Refers (pods.drop id ns name) _
      rw [PodSets.drop, hnone]
      exact h.erase

end

/-- No namespace of the request has a colon. -/
def Request.isPlain : Request → Bool
  | .attach _ _ ns _ | .detach _ ns _ => !ns.toList.contains ':'
  | .sync _ => true

section
variable {σ : Type} [CommandRunner σ]

/-- The sets of pods after a request: one that is done adds its pod, or takes it away. -/
def PodSets.after (settings : MeshSettings) (node : Node σ) (pods : PodSets) : Request → PodSets
  | .attach id vni ns name =>
      if (runTask settings (attach id vni (podKey ns name)) node).1.isDone then
        pods.add id ns name
      else pods
  | .detach id ns name =>
      if (runTask settings (detach id (podKey ns name)) node).1.isDone then
        pods.drop id ns name
      else pods
  | .sync _ => pods

/-- The sets of pods after requests. -/
def podsAfter (settings : MeshSettings) : Node σ → PodSets → List Request → PodSets
  | _, pods, [] => pods
  | node, pods, request :: rest =>
      podsAfter settings (serve settings node request) (pods.after settings node request) rest

theorem isDone_ofExcept {α : Type} (answer : Except OverlayError α) :
    (Outcome.ofExcept answer).isDone = answer.isOk := by
  cases answer <;> rfl

variable {settings : MeshSettings} {node : Node σ} {pods : PodSets}

/-- **One request, on both sides.** -/
theorem serve_refers (h : Refers pods node.registry.records) {request : Request}
    (hplain : request.isPlain = true) (hwritten : isWritten settings node request = true) :
    Refers (pods.after settings node request) (serve settings node request).registry.records := by
  cases request with
  | sync topology => exact h
  | attach id vni ns name =>
      obtain ⟨answer, node', hrun, hend⟩ := runTask_attach settings node id (podKey ns name) vni
      rw [isWritten, hrun] at hwritten
      rw [serve, PodSets.after, hrun, isDone_ofExcept]
      exact Refers.attached (v := node.view) h hend (by simpa [Request.isPlain] using hplain)
        (written_of_outcome hwritten)
  | detach id ns name =>
      obtain ⟨answer, node', hrun, hend⟩ := runTask_detach settings node id (podKey ns name)
      rw [isWritten, hrun] at hwritten
      rw [serve, PodSets.after, hrun, isDone_ofExcept]
      exact (Refers.detached (v := node.view) h hend (by simpa [Request.isPlain] using hplain)
        (written_of_outcome hwritten)).1

/-- **Any number of requests, on both sides.**  Induction on the requests from the front. -/
theorem serve_all_refers (requests : List Request) : ∀ {node : Node σ} {pods : PodSets},
    Refers pods node.registry.records → (∀ request ∈ requests, request.isPlain = true) →
    allWritten settings node requests = true →
    Refers (podsAfter settings node pods requests)
      (requests.foldl (serve settings) node).registry.records := by
  induction requests with
  | nil => intro node pods h _ _; exact h
  | cons request rest ih =>
      intro node pods h hplain hwritten
      rw [allWritten, Bool.and_eq_true] at hwritten
      exact ih (serve_refers h (hplain request List.mem_cons_self) hwritten.1)
        (fun later hlater => hplain later (List.mem_cons_of_mem _ hlater)) hwritten.2

/-- **What a detach answers**, by the sets alone. -/
theorem detach_answer (h : Refers pods node.registry.records) {id ns name : String}
    (hplain : ':' ∉ ns.toList) (hwritten : isWritten settings node (.detach id ns name) = true) :
    (runTask settings (detach id (podKey ns name)) node).1
      = if pods id = ∅ then .failed (Registry.missing id)
        else .done (decide ((pods id).erase (ns, name) = ∅)) := by
  obtain ⟨answer, node', hrun, hend⟩ := runTask_detach settings node id (podKey ns name)
  rw [isWritten, hrun] at hwritten
  rw [hrun, (Refers.detached (v := node.view) h hend hplain (written_of_outcome hwritten)).2]
  split <;> rfl

/-- **When a detach gives each of its answers.** -/
theorem detach_answer_iff (h : Refers pods node.registry.records) {id ns name : String}
    (hplain : ':' ∉ ns.toList) (hwritten : isWritten settings node (.detach id ns name) = true) :
    let answer := (runTask settings (detach id (podKey ns name)) node).1
    (answer = .done true ↔ (pods id).Nonempty ∧ (pods id).erase (ns, name) = ∅) ∧
      (answer = .done false ↔ node.registry.records.contains id = true ∧
        ((pods id).erase (ns, name)).Nonempty) ∧
      (answer = .failed (Registry.missing id) ↔
        ¬ node.registry.records.contains id = true) := by
  intro answer
  have hanswer : answer = _ := detach_answer h hplain hwritten
  rw [hanswer, h.contains_iff]
  by_cases hset : pods id = ∅
  · simp [hset]
  · have hnonempty : (pods id).Nonempty := Finset.nonempty_iff_ne_empty.2 hset
    by_cases hlast : (pods id).erase (ns, name) = ∅
    · simp [hset, hnonempty, hlast]
    · simp [hset, hnonempty, hlast, Finset.nonempty_iff_ne_empty]

/-! ## §6. The whole run. -/

/-- A network is active if it has a record. -/
theorem Consistent.active_iff {fits : UInt16 → Prop} {v : View} (h : Consistent fits v)
    {id : String} : (∃ net ∈ v.networks, net.id = id) ↔ v.records.contains id = true := by
  rw [KeyedTable.contains_iff]
  constructor
  · rintro ⟨net, hnet, rfl⟩
    obtain ⟨record, hget, -⟩ := h.recorded hnet
    exact ⟨record, hget⟩
  · rintro ⟨record, hget⟩
    obtain ⟨vlan, -, hnet⟩ := h.active hget
    exact ⟨_, hnet, rfl⟩

/-- **The VLAN of a network stays while the network is there**, whatever is attached and
detached in between. -/
theorem vlan_stays (settings : MeshSettings) (node : Node σ) {id ns name ns' name' : String}
    {vni vni' : UInt32} {vlan vlan' : UInt16} (between : List Request)
    (hfirst : (runTask settings (attach id vni (podKey ns name)) node).1 = .done vlan)
    (hknown : ∀ part, part <+: between →
      ((Request.attach id vni ns name :: part).foldl (serve settings)
        node).registry.records.contains id = true)
    (hsecond : (runTask settings (attach id vni' (podKey ns' name'))
      ((Request.attach id vni ns name :: between).foldl (serve settings) node)).1 = .done vlan') :
    vlan' = vlan := by
  obtain ⟨-, record, hget, hvlan⟩ := vlan_of_attach hfirst
  obtain ⟨record', hget'⟩ := KeyedTable.contains_iff.1 (hknown between (List.prefix_refl _))
  have hkept := network_kept settings between hknown hget hget'
  have hvlan' := (vlan_of_attach hsecond).1 record' hget'
  rw [hkept.2, hvlan] at hvlan'
  exact (Option.some.inj hvlan').symm

/-- **Counting references is keeping sets of pods.**  From an empty table and with fresh
VLANs, after any requests whose snapshots are written: a network is active, and has a record,
exactly while its set has a pod, and its record counts each pod once.  A detach answers that
the network is torn down if the last pod leaves, that it is not if others are left, and that
it is missing if it has no pods.  While a network is there, all attaches to it that are done
answer one VLAN. -/
theorem references_refine_pods (settings : MeshSettings) (host : Host σ) (store : TableStore)
    (disk : Disk) (requests : List Request) (hplain : ∀ request ∈ requests, request.isPlain = true)
    (hwritten : allWritten settings (starting host { store, disk }) requests = true) :
    let nodeAt := fun part : List Request => part.foldl (serve settings)
      (starting host { store, disk })
    let podsAt := podsAfter settings (starting host { store, disk }) fun _ => ∅
    let node := nodeAt requests
    (∀ id, ((∃ net ∈ node.mesh.networks, net.id = id) ↔ (podsAt requests id).Nonempty) ∧
      (node.registry.records.contains id = true ↔ (podsAt requests id).Nonempty) ∧
      ∀ record, node.registry.records.get? id = some record →
        record.pods.size = (podsAt requests id).card ∧
        ∀ ns name, ':' ∉ ns.toList →
          (record.pods.contains (podKey ns name) = true ↔ (ns, name) ∈ podsAt requests id)) ∧
    (∀ id ns name, ':' ∉ ns.toList → isWritten settings node (.detach id ns name) = true →
      let answer := (runTask settings (detach id (podKey ns name)) node).1
      (answer = .done true ↔
        (podsAt requests id).Nonempty ∧ (podsAt requests id).erase (ns, name) = ∅) ∧
      (answer = .done false ↔ node.registry.records.contains id = true ∧
        ((podsAt requests id).erase (ns, name)).Nonempty) ∧
      (answer = .failed (Registry.missing id) ↔ ¬ node.registry.records.contains id = true)) ∧
    ∀ (earlier between : List Request) (id ns name ns' name' : String) (vni vni' : UInt32)
      (vlan vlan' : UInt16), requests = earlier ++ .attach id vni ns name :: between →
      (∀ part, part <+: between →
        (podsAt (earlier ++ .attach id vni ns name :: part) id).Nonempty) →
      (runTask settings (attach id vni (podKey ns name)) (nodeAt earlier)).1 = .done vlan →
      (runTask settings (attach id vni' (podKey ns' name')) node).1 = .done vlan' →
      vlan' = vlan := by
  intro nodeAt podsAt node
  have hstart : Refers (fun _ => ∅) (starting host { store, disk }).registry.records :=
    fun id => rfl
  have hrefers : ∀ part, part <+: requests → Refers (podsAt part) (nodeAt part).registry.records :=
    fun part hpart => serve_all_refers part hstart (fun request hmem => hplain request
      (hpart.subset hmem)) (allWritten_part hwritten hpart)
  have hend : Refers (podsAt requests) node.registry.records :=
    hrefers requests (List.prefix_refl _)
  have hconsistent : Consistent InRange node.view :=
    serve_all_consistent settings (keptBySnapshots_true _) requests
      (Process.consistent_fresh store host disk) trivial
  refine ⟨fun id => ⟨hconsistent.active_iff.trans hend.contains_iff, hend.contains_iff,
    fun record hget => ?_⟩, fun id ns name => detach_answer_iff hend, ?_⟩
  · have hid := hend id
    rw [hget] at hid
    exact ⟨hid.2.size, fun ns name hns => hid.2.contains_iff hns⟩
  · intro earlier between id ns name ns' name' vni vni' vlan vlan' hsplit hpods hfirst hsecond
    have hnode : ∀ part, nodeAt (earlier ++ .attach id vni ns name :: part)
        = (Request.attach id vni ns name :: part).foldl (serve settings) (nodeAt earlier) :=
      fun part => List.foldl_append
    have hlast : node = (Request.attach id vni ns name :: between).foldl (serve settings)
        (nodeAt earlier) := by
      rw [← hnode, ← hsplit]
    rw [hlast] at hsecond
    refine vlan_stays settings (nodeAt earlier) between hfirst (fun part hpart => ?_) hsecond
    have hsofar : earlier ++ .attach id vni ns name :: part <+: requests := by
      rw [hsplit, List.prefix_append_right_inj, List.cons_prefix_cons]
      exact ⟨rfl, hpart⟩
    rw [← hnode, (hrefers _ hsofar).contains_iff]
    exact hpods part hpart

/-- A pod comes twice; a pod of another network is asked for with the same VNI. -/
def comingTwice : List Request :=
  [.attach "net-A" 100 "ns" "p", .attach "net-A" 100 "ns" "p", .attach "net-B" 100 "ns" "q"]

/-- The pod came twice and leaves once: the network is torn down, and the set is empty. -/
theorem references_refine_pods_twice :
    let node := comingTwice.foldl (serve hostSettings)
      (starting recordingHost { store := ⟨"state"⟩ })
    let pods := podsAfter hostSettings (starting recordingHost { store := ⟨"state"⟩ })
      (fun _ => ∅) comingTwice
    (runTask hostSettings (detach "net-A" (podKey "ns" "p")) node).1 = .done true ∧
      (pods "net-A").Nonempty ∧ (pods "net-A").erase ("ns", "p") = ∅ ∧ pods "net-B" = ∅ := by
  intro node pods
  obtain ⟨hwritten, hdetach, hanswer, hunknown⟩ :
      allWritten hostSettings (starting recordingHost { store := ⟨"state"⟩ }) comingTwice = true ∧
      isWritten hostSettings node (.detach "net-A" "ns" "p") = true ∧
      (runTask hostSettings (detach "net-A" (podKey "ns" "p")) node).1 = .done true ∧
      node.registry.records.contains "net-B" = false := by decide +kernel
  obtain ⟨hsets, hdetached, -⟩ := references_refine_pods hostSettings recordingHost ⟨"state"⟩ {}
    comingTwice (by decide) hwritten
  have hempty := (hdetached "net-A" "ns" "p" (by decide) hdetach).1.1 hanswer
  have hnone : ¬ (pods "net-B").Nonempty := by
    rw [← (hsets "net-B").2.1]
    exact Bool.eq_false_iff.1 hunknown
  exact ⟨hanswer, hempty.1, hempty.2, Finset.not_nonempty_iff_eq_empty.1 hnone⟩

end

end Node

end VxlanMesh
