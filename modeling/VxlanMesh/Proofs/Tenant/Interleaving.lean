/-
  VxlanMesh.Proofs.Tenant.Interleaving
  ────────────────────────────────
  **REQUESTS THAT RUN AT THE SAME TIME.**

  Each request has a party of its own.  The party of an attach or detach
  waits for the guard of binding, takes the steps of its task while it
  holds the guard, and leaves; the party of a snapshot goes through it in
  one step, at any time.  Each step that touches the overlay is one step
  under its lock.  A schedule says which party is next.

      move, play           one step of a party; a schedule
      Moved                the four things that a step can be
      alone                requests one after the other, with nobody else
      interleaved_runs_serialize    the main result
-/
import VxlanMesh.Proofs.Overlay.Unhindered
import VxlanMesh.Proofs.Tenant.Serving

namespace VxlanMesh.Node

open FlowSwitch (Heard since)

/-! ## §1. Parties and schedules. -/

/-- What a request is answered. -/
inductive Reply where
  | vlan (vlan : UInt16)
  | tornDown (torn : Bool)
  | summary (summary : SyncSummary)
  deriving Repr, DecidableEq

/-- What there is to do: a task that needs the guard, or a pass over a snapshot. -/
inductive Work : Type 1 where
  | binding (task : Task Reply)
  | pass (topology : Topology)

/-- What there is to do for a request. -/
def workOf : Request → Work
  | .attach id vni ns name => .binding (Reply.vlan <$> attach id vni (podKey ns name))
  | .detach id ns name => .binding (Reply.tornDown <$> detach id (podKey ns name))
  | .sync topology => .pass topology

/-- How far a request is. -/
inductive Party : Type 1 where
  | waiting (request : Request)
  /-- It holds the guard, with some steps of its task left. -/
  | binding (rest : Procedure Step (Except OverlayError Reply))
  | ended (answer : Outcome Reply)

/-- A node and the parties of its requests, which are known by their numbers. -/
structure Scene (σ : Type) : Type 1 where
  node : Node σ
  parties : List Party
  /-- Who holds the guard. -/
  guard : Option Nat := none
  /-- Who got the guard, in that order. -/
  entered : List Nat := []
  /-- Who went through a snapshot, in that order. -/
  passed : List Nat := []

/-- What a party was answered. -/
def replyIn (parties : List Party) (i : Nat) : Option (Outcome Reply) :=
  match parties[i]? with
  | some (.ended answer) => some answer
  | _ => none

section
variable {parties : List Party} {i j : Nat} {party found : Party}

/-- Who is at a place where one party has moved on. -/
theorem party_set (h : (parties.set i party)[j]? = some found) :
    (j = i ∧ found = party) ∨ (j ≠ i ∧ parties[j]? = some found) := by
  by_cases hij : i = j
  · subst hij
    rw [List.getElem?_set_self'] at h
    obtain ⟨_, _, hparty⟩ := Option.map_eq_some_iff.1 h
    exact Or.inl ⟨rfl, hparty.symm⟩
  · rw [List.getElem?_set_ne hij] at h
    exact Or.inr ⟨fun same => hij same.symm, h⟩

/-- A party that has moved on is at its place. -/
theorem party_set_self (h : parties[i]? = some found) (party : Party) :
    (parties.set i party)[i]? = some party := by
  rw [List.getElem?_set_self', h]
  rfl

theorem replyIn_set_ne (h : j ≠ i) : replyIn (parties.set i party) j = replyIn parties j := by
  unfold replyIn
  rw [List.getElem?_set_ne h.symm]

/-- A party that has ended has its answer. -/
theorem replyIn_set_ended (h : parties[i]? = some found) (answer : Outcome Reply) :
    replyIn (parties.set i (.ended answer)) i = some answer := by
  unfold replyIn
  rw [party_set_self h]

/-- What others were answered stays. -/
theorem map_replyIn_set {indices : List Nat} (h : i ∉ indices) (party : Party) :
    indices.map (replyIn (parties.set i party)) = indices.map (replyIn parties) :=
  List.map_congr_left fun _ hmem => replyIn_set_ne fun same => h (same ▸ hmem)

end

namespace Scene

variable {σ : Type}

/-- Some requests arrive at a node. -/
def start (node : Node σ) (requests : List Request) : Scene σ :=
  { node, parties := requests.map .waiting }

/-- What a party was answered. -/
def reply? (scene : Scene σ) : Nat → Option (Outcome Reply) := replyIn scene.parties

/-- Everybody was answered. -/
def isOver (scene : Scene σ) : Bool :=
  (List.range scene.parties.length).all fun i => (scene.reply? i).isSome

variable [CommandRunner σ]

/-- A pass over a snapshot. -/
def pass (settings : MeshSettings) (topology : Topology) : Operation (Node σ) Reply :=
  Reply.summary <$> onMesh (Mesh.sync settings topology)

/-- The next step of a party, if it may take one. -/
def move (settings : MeshSettings) (scene : Scene σ) (i : Nat) : Option (Scene σ) :=
  match scene.parties[i]? with
  | some (.waiting request) =>
      match workOf request with
      | .binding task =>
          if scene.guard.isSome then none
          else some { scene with
            parties := scene.parties.set i (.binding task.run)
            guard := some i
            entered := scene.entered ++ [i] }
      | .pass topology =>
          let (answer, node) := pass settings topology scene.node
          some { scene with
            node
            parties := scene.parties.set i (.ended answer)
            passed := scene.passed ++ [i] }
  | some (.binding (.step first next)) =>
      match perform settings first scene.node with
      | (.done b, node) =>
          some { scene with node, parties := scene.parties.set i (.binding (next b)) }
      | _ => none
  | some (.binding (.done answer)) =>
      some { scene with
        parties := scene.parties.set i (.ended (.ofExcept answer))
        guard := none }
  | _ => none

/-- The steps of a schedule. -/
def play (settings : MeshSettings) : List Nat → Scene σ → Option (Scene σ)
  | [], scene => some scene
  | i :: rest, scene => (move settings scene i).bind (play settings rest)

/-! ## §2. What a step can be. -/

/-- **What a step of a party can be.** -/
inductive Moved (settings : MeshSettings) (scene : Scene σ) (i : Nat) : Scene σ → Prop
  /-- It gets the guard, which is free. -/
  | entered {request : Request} {task : Task Reply}
      (hparty : scene.parties[i]? = some (.waiting request))
      (hwork : workOf request = .binding task) (hfree : scene.guard = none) :
      Moved settings scene i { scene with
        parties := scene.parties.set i (.binding task.run)
        guard := some i
        entered := scene.entered ++ [i] }
  /-- It takes a step of its task. -/
  | stepped {β : Type} {first : Step β} {next : β → Procedure Step (Except OverlayError Reply)}
      {b : β} {node : Node σ}
      (hparty : scene.parties[i]? = some (.binding (.step first next)))
      (hperform : perform settings first scene.node = (.done b, node)) :
      Moved settings scene i
        { scene with node, parties := scene.parties.set i (.binding (next b)) }
  /-- Its task has ended, and it gives the guard back. -/
  | left {answer : Except OverlayError Reply}
      (hparty : scene.parties[i]? = some (.binding (.done answer))) :
      Moved settings scene i { scene with
        parties := scene.parties.set i (.ended (.ofExcept answer))
        guard := none }
  /-- It goes through its snapshot. -/
  | passed {request : Request} {topology : Topology} {answer : Outcome Reply} {node : Node σ}
      (hparty : scene.parties[i]? = some (.waiting request))
      (hwork : workOf request = .pass topology)
      (hpass : pass settings topology scene.node = (answer, node)) :
      Moved settings scene i { scene with
        node
        parties := scene.parties.set i (.ended answer)
        passed := scene.passed ++ [i] }

/-- **Every step of a party is one of these.** -/
theorem moved_of_move {settings : MeshSettings} {scene later : Scene σ} {i : Nat}
    (h : move settings scene i = some later) : Moved settings scene i later := by
  unfold move at h
  split at h
  · rename_i request hparty
    split at h
    · rename_i task hwork
      split at h
      · cases h
      · rename_i hguard
        cases h
        exact .entered hparty hwork (by simpa using hguard)
    · rename_i topology hwork
      cases h
      exact .passed hparty hwork rfl
  · rename_i hparty
    split at h
    · rename_i hperform
      cases h
      exact .stepped hparty hperform
    · cases h
  · rename_i hparty
    cases h
    exact .left hparty
  · cases h

/-! ## §3. Who got the guard, and who went through a snapshot. -/

/-- The request needs the guard. -/
def IsBinding (requests : List Request) (i : Nat) : Prop :=
  ∃ request task, requests[i]? = some request ∧ workOf request = .binding task

/-- The request is a pass over a snapshot. -/
def IsPass (requests : List Request) (i : Nat) : Prop :=
  ∃ request topology, requests[i]? = some request ∧ workOf request = .pass topology

/-- No request is of both kinds. -/
theorem not_isPass_of_isBinding {requests : List Request} {i : Nat} (h : IsBinding requests i) :
    ¬ IsPass requests i := by
  intro hpass
  obtain ⟨request, task, hget, hwork⟩ := h
  obtain ⟨other, topology, hother, hpass⟩ := hpass
  rw [hget] at hother
  cases hother
  rw [hwork] at hpass
  cases hpass

/-- Every party is where the orders say that it is. -/
structure Ordered (requests : List Request) (scene : Scene σ) : Prop where
  length : scene.parties.length = requests.length
  waiting : ∀ {i request}, scene.parties[i]? = some (.waiting request) →
    requests[i]? = some request ∧ i ∉ scene.entered ∧ i ∉ scene.passed
  /-- Only the holder of the guard is at its task. -/
  binding : ∀ {i rest}, scene.parties[i]? = some (.binding rest) →
    scene.guard = some i ∧ i ∈ scene.entered
  ended : ∀ {i answer}, scene.parties[i]? = some (.ended answer) →
    i ∈ scene.entered ∨ i ∈ scene.passed
  bindings : ∀ i ∈ scene.entered, IsBinding requests i
  passes : ∀ i ∈ scene.passed, IsPass requests i
  enteredOnce : scene.entered.Nodup
  passedOnce : scene.passed.Nodup

omit [CommandRunner σ] in
/-- When the requests arrive, all parties wait and both orders are empty. -/
theorem ordered_start (node : Node σ) (requests : List Request) :
    Ordered requests (start node requests) := by
  have hwaiting : ∀ {i : Nat} {party : Party}, (requests.map Party.waiting)[i]? = some party →
      ∃ request, requests[i]? = some request ∧ party = Party.waiting request := by
    intro i party h
    rw [List.getElem?_map] at h
    obtain ⟨request, hrequest, hparty⟩ := Option.map_eq_some_iff.1 h
    exact ⟨request, hrequest, hparty.symm⟩
  refine ⟨List.length_map _, fun h => ?_, fun h => ?_, fun h => ?_, nofun, nofun,
    List.nodup_nil, List.nodup_nil⟩
  · obtain ⟨request, hrequest, hparty⟩ := hwaiting h
    cases hparty
    exact ⟨hrequest, List.not_mem_nil, List.not_mem_nil⟩
  · obtain ⟨request, -, hparty⟩ := hwaiting h
    cases hparty
  · obtain ⟨request, -, hparty⟩ := hwaiting h
    cases hparty

theorem nodup_concat {indices : List Nat} {i : Nat} (h : indices.Nodup) (hnew : i ∉ indices) :
    (indices ++ [i]).Nodup := by
  refine List.nodup_append.2 ⟨h, List.nodup_singleton i, ?_⟩
  intro j hj k hk
  rw [List.mem_singleton.1 hk]
  exact fun same => hnew (same ▸ hj)

/-- Where a party that has not moved stands, an order is what it was but for the one that has. -/
theorem not_mem_concat {indices : List Nat} {i j : Nat} (hne : j ≠ i) (hout : j ∉ indices) :
    j ∉ indices ++ [i] := by
  intro hmem
  cases List.mem_append.1 hmem with
  | inl hold => exact hout hold
  | inr hnew => exact hne (List.mem_singleton.1 hnew)

namespace Ordered

variable {requests : List Request} {scene : Scene σ} {i : Nat}

omit [CommandRunner σ] in
theorem length_set (h : Ordered requests scene) (party : Party) :
    (scene.parties.set i party).length = requests.length :=
  List.length_set.trans h.length

omit [CommandRunner σ] in
/-- Who gets the guard is the last of those who got it. -/
theorem enter (h : Ordered requests scene) {request : Request} {task : Task Reply}
    (hparty : scene.parties[i]? = some (.waiting request))
    (hwork : workOf request = .binding task) (hfree : scene.guard = none) :
    Ordered requests { scene with
      parties := scene.parties.set i (.binding task.run)
      guard := some i
      entered := scene.entered ++ [i] } := by
  obtain ⟨hrequest, hnotEntered, hnotPassed⟩ := h.waiting hparty
  refine ⟨h.length_set _, fun hj => ?_, fun hj => ?_, fun hj => ?_, fun j hj => ?_, h.passes,
    nodup_concat h.enteredOnce hnotEntered, h.passedOnce⟩
  · obtain ⟨-, hparty⟩ | ⟨hne, hj⟩ := party_set hj
    · cases hparty
    · obtain ⟨hget, hentered, hpassed⟩ := h.waiting hj
      exact ⟨hget, not_mem_concat hne hentered, hpassed⟩
  · obtain ⟨hi, -⟩ | ⟨hne, hj⟩ := party_set hj
    · rw [hi]
      exact ⟨rfl, List.mem_append_right _ (List.mem_singleton.2 rfl)⟩
    · rw [(h.binding hj).1] at hfree
      cases hfree
  · obtain ⟨-, hparty⟩ | ⟨hne, hj⟩ := party_set hj
    · cases hparty
    · exact (h.ended hj).imp_left (List.mem_append_left _)
  · cases List.mem_append.1 hj with
    | inl hold => exact h.bindings j hold
    | inr hnew =>
        rw [List.mem_singleton.1 hnew]
        exact ⟨request, task, hrequest, hwork⟩

omit [CommandRunner σ] in
/-- A step of a task changes neither order. -/
theorem step (h : Ordered requests scene) {rest : Procedure Step (Except OverlayError Reply)}
    (hparty : scene.parties[i]? = some (.binding rest))
    (rest' : Procedure Step (Except OverlayError Reply)) (node : Node σ) :
    Ordered requests { scene with node, parties := scene.parties.set i (.binding rest') } := by
  refine ⟨h.length_set _, fun hj => ?_, fun hj => ?_, fun hj => ?_, h.bindings, h.passes,
    h.enteredOnce, h.passedOnce⟩
  · obtain ⟨-, hparty⟩ | ⟨-, hj⟩ := party_set hj
    · cases hparty
    · exact h.waiting hj
  · obtain ⟨hi, -⟩ | ⟨-, hj⟩ := party_set hj
    · rw [hi]
      exact h.binding hparty
    · exact h.binding hj
  · obtain ⟨-, hparty⟩ | ⟨-, hj⟩ := party_set hj
    · cases hparty
    · exact h.ended hj

omit [CommandRunner σ] in
/-- Who gives the guard back stays among those who got it. -/
theorem leave (h : Ordered requests scene) {rest : Procedure Step (Except OverlayError Reply)}
    (hparty : scene.parties[i]? = some (.binding rest)) (answer : Outcome Reply) :
    Ordered requests { scene with
      parties := scene.parties.set i (.ended answer)
      guard := none } := by
  obtain ⟨hguard, hentered⟩ := h.binding hparty
  refine ⟨h.length_set _, fun hj => ?_, fun hj => ?_, fun hj => ?_, h.bindings, h.passes,
    h.enteredOnce, h.passedOnce⟩
  · obtain ⟨-, hparty⟩ | ⟨-, hj⟩ := party_set hj
    · cases hparty
    · exact h.waiting hj
  · obtain ⟨-, hparty⟩ | ⟨hne, hj⟩ := party_set hj
    · cases hparty
    · rw [(h.binding hj).1] at hguard
      exact absurd (Option.some.inj hguard) hne
  · obtain ⟨hi, -⟩ | ⟨-, hj⟩ := party_set hj
    · rw [hi]
      exact Or.inl hentered
    · exact h.ended hj

omit [CommandRunner σ] in
/-- Who goes through a snapshot is the last of those who went through one. -/
theorem pass (h : Ordered requests scene) {request : Request} {topology : Topology}
    (hparty : scene.parties[i]? = some (.waiting request))
    (hwork : workOf request = .pass topology) (answer : Outcome Reply) (node : Node σ) :
    Ordered requests { scene with
      node
      parties := scene.parties.set i (.ended answer)
      passed := scene.passed ++ [i] } := by
  obtain ⟨hrequest, -, hnotPassed⟩ := h.waiting hparty
  refine ⟨h.length_set _, fun hj => ?_, fun hj => ?_, fun hj => ?_, h.bindings, fun j hj => ?_,
    h.enteredOnce, nodup_concat h.passedOnce hnotPassed⟩
  · obtain ⟨-, hparty⟩ | ⟨hne, hj⟩ := party_set hj
    · cases hparty
    · obtain ⟨hget, hentered, hpassed⟩ := h.waiting hj
      exact ⟨hget, hentered, not_mem_concat hne hpassed⟩
  · obtain ⟨-, hparty⟩ | ⟨-, hj⟩ := party_set hj
    · cases hparty
    · exact h.binding hj
  · obtain ⟨hi, -⟩ | ⟨-, hj⟩ := party_set hj
    · rw [hi]
      exact Or.inr (List.mem_append_right _ (List.mem_singleton.2 rfl))
    · exact (h.ended hj).imp_right (List.mem_append_left _)
  · cases List.mem_append.1 hj with
    | inl hold => exact h.passes j hold
    | inr hnew =>
        rw [List.mem_singleton.1 hnew]
        exact ⟨request, topology, hrequest, hwork⟩

/-- **Every step keeps the orders.** -/
theorem moved (h : Ordered requests scene) {settings : MeshSettings} {later : Scene σ}
    (hmoved : Moved settings scene i later) : Ordered requests later := by
  cases hmoved with
  | entered hparty hwork hfree => exact h.enter hparty hwork hfree
  | stepped hparty hperform => exact h.step hparty _ _
  | left hparty => exact h.leave hparty _
  | passed hparty hwork hpass => exact h.pass hparty hwork _ _

end Ordered

end Scene

/-! ## §4. What binding can tell apart. -/

variable {σ : Type} [CommandRunner σ]

/-- The nodes differ at most in their tunnels, the switch and the clock. -/
structure Alike (a b : Node σ) : Prop where
  registry : a.registry = b.registry
  networks : a.mesh.networks = b.mesh.networks
  vlans : a.vlans = b.vlans

omit [CommandRunner σ] in
theorem Alike.refl (node : Node σ) : Alike node node := ⟨rfl, rfl, rfl⟩

/-- The operation is answered the same on nodes that binding cannot tell apart, and binding
cannot tell them apart afterwards. -/
def Blind {α : Type} (op : Operation (Node σ) α) : Prop :=
  ∀ a b, Alike a b → (op a).1 = (op b).1 ∧ Alike (op a).2 (op b).2

omit [CommandRunner σ] in
theorem attempt_onRegistry {α : Type} (op : Operation Registry α) (node : Node σ) :
    Operation.attempt (onRegistry op) node = ((Operation.attempt op node.registry).1,
      { node with registry := (Operation.attempt op node.registry).2 }) := by
  cases h : op node.registry with
  | mk outcome registry =>
      have hnode : onRegistry op node = (outcome, { node with registry }) := by
        rw [onRegistry, Operation.within, h]
      cases outcome with
      | done a => rw [Operation.attempt_done h, Operation.attempt_done hnode]
      | failed e => rw [Operation.attempt_failed h, Operation.attempt_failed hnode]
      | abandoned => rw [Operation.attempt_abandoned h, Operation.attempt_abandoned hnode]

omit [CommandRunner σ] in
/-- Binding sees all that a step on the registry depends on. -/
theorem blind_onRegistry {α : Type} (op : Operation Registry α) :
    Blind (σ := σ) (Operation.attempt (onRegistry op)) := by
  intro a b h
  rw [attempt_onRegistry, attempt_onRegistry, h.registry]
  exact ⟨rfl, rfl, h.networks, h.vlans⟩

omit [CommandRunner σ] in
theorem blind_onVlans {α : Type} (f : IdSpace → α × IdSpace) : Blind (σ := σ) (onVlans f) := by
  intro a b h
  show Outcome.done (f a.vlans).1 = .done (f b.vlans).1 ∧
    Alike { a with vlans := (f a.vlans).2 } { b with vlans := (f b.vlans).2 }
  rw [h.vlans]
  exact ⟨rfl, h.registry, h.networks, rfl⟩

/-- Whether a network is activated depends on those that are active. -/
theorem blind_addNetwork (settings : MeshSettings) (net : Network) :
    Blind (σ := σ) (Operation.attempt (onMesh (Mesh.addNetwork settings net))) := by
  intro a b h
  cases hany : b.mesh.networks.any (·.collidesWith net) with
  | true =>
      have hanyA : a.mesh.networks.any (·.collidesWith net) = true := h.networks ▸ hany
      rw [attempt_mesh (.error _) (Mesh.addNetwork_collides hanyA),
        attempt_mesh (.error _) (Mesh.addNetwork_collides hany)]
      exact ⟨rfl, h⟩
  | false =>
      have hanyA : a.mesh.networks.any (·.collidesWith net) = false := h.networks ▸ hany
      obtain ⟨switchA, haddA⟩ := Mesh.addNetwork_apart settings hanyA
      obtain ⟨switchB, haddB⟩ := Mesh.addNetwork_apart settings hany
      rw [attempt_mesh (.ok ()) haddA, attempt_mesh (.ok ()) haddB]
      exact ⟨rfl, h.registry, congrArg (· ++ [net]) h.networks, h.vlans⟩

/-- So does whether one is deactivated. -/
theorem blind_removeNetwork (settings : MeshSettings) (id : String) :
    Blind (σ := σ) (Operation.attempt (onMesh (Mesh.removeNetwork settings id))) := by
  intro a b h
  cases hany : b.mesh.networks.any (·.id == id) with
  | false =>
      have hanyA : a.mesh.networks.any (·.id == id) = false := h.networks ▸ hany
      rw [attempt_mesh (.error _) (Mesh.removeNetwork_absent hanyA),
        attempt_mesh (.error _) (Mesh.removeNetwork_absent hany)]
      exact ⟨rfl, h⟩
  | true =>
      have hanyA : a.mesh.networks.any (·.id == id) = true := h.networks ▸ hany
      obtain ⟨switchA, hremoveA⟩ := Mesh.removeNetwork_present settings hanyA
      obtain ⟨switchB, hremoveB⟩ := Mesh.removeNetwork_present settings hany
      rw [attempt_mesh (.ok ()) hremoveA, attempt_mesh (.ok ()) hremoveB]
      exact ⟨rfl, h.registry, congrArg (·.eraseP (·.id == id)) h.networks, h.vlans⟩

/-- **No step of binding sees more.**  One case for each step. -/
theorem blind_perform (settings : MeshSettings) {β : Type} (s : Step β) :
    Blind (σ := σ) (perform settings s) := by
  cases s with
  | lookUp id =>
      intro a b h
      show Outcome.done (a.registry.records.get? id) = .done (b.registry.records.get? id) ∧ _
      rw [h.registry]
      exact ⟨rfl, h⟩
  | allRecords =>
      intro a b h
      show Outcome.done a.registry.records = .done b.registry.records ∧ _
      rw [h.registry]
      exact ⟨rfl, h⟩
  | needsDelete id =>
      intro a b h
      show Outcome.done (a.registry.needsDelete id) = .done (b.registry.needsDelete id) ∧ _
      rw [h.registry]
      exact ⟨rfl, h⟩
  | reserveVlans vlans => exact blind_onVlans _
  | takeVlan => exact blind_onVlans _
  | releaseVlan vlan => exact blind_onVlans _
  | activate net => exact blind_addNetwork settings net
  | deactivate id => exact blind_removeNetwork settings id
  | insertRecord net => exact blind_onRegistry _
  | addPod id pod => exact blind_onRegistry _
  | removePod id pod => exact blind_onRegistry _
  | deleteRecord id => exact blind_onRegistry _

/-- A pass is answered its summary, and changes the overlay alone. -/
theorem pass_eq (settings : MeshSettings) (topology : Topology) (node : Node σ) :
    Scene.pass settings topology node
      = ((Mesh.sync settings topology node.mesh).1.map .summary,
          { node with mesh := (Mesh.sync settings topology node.mesh).2 }) := by
  unfold Scene.pass
  rw [Operation.map_apply]
  rfl

/-- **A pass is nothing that binding could tell.** -/
theorem Alike.pass {a b : Node σ} (h : Alike a b) (settings : MeshSettings)
    (topology : Topology) : Alike (Scene.pass settings topology a).2 b := by
  rw [pass_eq]
  exact ⟨h.registry, (Mesh.networks_sync settings topology a.mesh).trans h.networks, h.vlans⟩

/-! ## §5. One request after the other. -/

/-- A request with nobody else about. -/
def answerAlone (settings : MeshSettings) (request : Request) : Operation (Node σ) Reply :=
  match workOf request with
  | .binding task => runTask settings task
  | .pass topology => Scene.pass settings topology

theorem answerAlone_binding {settings : MeshSettings} {request : Request} {task : Task Reply}
    (h : workOf request = .binding task) (node : Node σ) :
    answerAlone settings request node = runTask settings task node := by
  unfold answerAlone
  rw [h]

/-- Alone, a snapshot is answered the summary of its pass. -/
theorem answerAlone_pass {settings : MeshSettings} {request : Request} {topology : Topology}
    (h : workOf request = .pass topology) (node : Node σ) :
    answerAlone settings request node
      = ((Mesh.sync settings topology node.mesh).1.map .summary,
          { node with mesh := (Mesh.sync settings topology node.mesh).2 }) := by
  unfold answerAlone
  rw [h]
  exact pass_eq settings topology node

/-- Requests one after the other: the answers and the node then. -/
def alone (settings : MeshSettings) (requests : List Request) (node : Node σ) :
    List (Outcome Reply) × Node σ :=
  requests.foldl (fun (answers, node) request =>
    let (answer, node) := answerAlone settings request node
    (answers ++ [answer], node)) ([], node)

/-- One request more is served after the others. -/
theorem alone_concat (settings : MeshSettings) (requests : List Request) (request : Request)
    (node : Node σ) : alone settings (requests ++ [request]) node
      = ((alone settings requests node).1
            ++ [(answerAlone settings request (alone settings requests node).2).1],
          (answerAlone settings request (alone settings requests node).2).2) := by
  unfold alone
  rw [List.foldl_append]
  rfl

/-- The requests with some numbers. -/
def asked (requests : List Request) (indices : List Nat) : List Request :=
  indices.filterMap fun i => requests[i]?

theorem asked_concat {requests : List Request} {i : Nat} {request : Request}
    (h : requests[i]? = some request) (indices : List Nat) :
    asked requests (indices ++ [i]) = asked requests indices ++ [request] := by
  unfold asked
  rw [List.filterMap_append, List.filterMap_cons, h]
  rfl

/-- A task whose answer is put differently. -/
theorem runTask_map {α β : Type} (settings : MeshSettings) (f : α → β) (task : Task α)
    (node : Node σ) : runTask settings (f <$> task) node
      = ((runTask settings task node).1.map f, (runTask settings task node).2) := by
  have htask : (f <$> task).run = task.run.andThen fun result => .done (result.map f) := by
    show task.run.andThen _ = _
    congr 1
    funext result
    cases result <;> rfl
  unfold runTask
  rw [htask, Procedure.run_andThen, Operation.bind_assoc]
  cases hrun : Procedure.run (perform settings) task.run node with
  | mk outcome node' =>
      cases outcome with
      | done result =>
          rw [Operation.bind_done hrun, Operation.bind_done hrun]
          cases result <;> rfl
      | failed e => rw [Operation.bind_failed hrun, Operation.bind_failed hrun]; rfl
      | abandoned => rw [Operation.bind_abandoned hrun, Operation.bind_abandoned hrun]; rfl

/-- Alone, attaching a pod is answered what its task is. -/
theorem answerAlone_attach (settings : MeshSettings) (id : String) (vni : UInt32)
    (ns name : String) (node : Node σ) :
    answerAlone settings (.attach id vni ns name) node
      = ((runTask settings (attach id vni (podKey ns name)) node).1.map .vlan,
          serve settings node (.attach id vni ns name)) :=
  runTask_map settings Reply.vlan (attach id vni (podKey ns name)) node

/-- Alone, detaching a pod is answered what its task is. -/
theorem answerAlone_detach (settings : MeshSettings) (id ns name : String) (node : Node σ) :
    answerAlone settings (.detach id ns name) node
      = ((runTask settings (detach id (podKey ns name)) node).1.map .tornDown,
          serve settings node (.detach id ns name)) :=
  runTask_map settings Reply.tornDown (detach id (podKey ns name)) node

/-! ## §6. Binding, as if one request came after the other. -/

/-- Those who have left the guard were answered as if they had been alone, one after the
other; and whoever holds it has come as far as it would have come alone. -/
inductive Serial (settings : MeshSettings) (requests : List Request) (start : Node σ)
    (scene : Scene σ) : Prop
  | free (hguard : scene.guard = none)
      (hreplies : scene.entered.map scene.reply?
        = (alone settings (asked requests scene.entered) start).1.map some)
      (halike : Alike scene.node (alone settings (asked requests scene.entered) start).2)
  | held {i : Nat} {served : List Nat} {request : Request} {task : Task Reply}
      {rest : Procedure Step (Except OverlayError Reply)} {node : Node σ}
      (hguard : scene.guard = some i) (hentered : scene.entered = served ++ [i])
      (hrequest : requests[i]? = some request) (hwork : workOf request = .binding task)
      (hparty : scene.parties[i]? = some (.binding rest))
      (hreplies : served.map scene.reply?
        = (alone settings (asked requests served) start).1.map some)
      (halike : Alike scene.node node)
      (hrun : Procedure.run (perform settings) task.run
          (alone settings (asked requests served) start).2
        = Procedure.run (perform settings) rest node)

open Scene (Moved Ordered)

theorem serial_start (settings : MeshSettings) (requests : List Request) (node : Node σ) :
    Serial settings requests node (Scene.start node requests) :=
  .free rfl rfl (.refl node)

theorem mem_of_concat {served : List Nat} {i j : Nat} (h : (served ++ [i]).Nodup)
    (hmem : j ∈ served) : j ≠ i := by
  obtain ⟨-, -, hapart⟩ := List.nodup_append.1 h
  exact hapart j hmem i (List.mem_singleton.2 rfl)

namespace Serial

variable {settings : MeshSettings} {requests : List Request} {start : Node σ} {scene : Scene σ}
  {i : Nat}

/-- Who is at its task holds the guard and has come as far as it would have come alone. -/
theorem holder (h : Serial settings requests start scene) (hordered : Ordered requests scene)
    {rest : Procedure Step (Except OverlayError Reply)}
    (hparty : scene.parties[i]? = some (.binding rest)) :
    ∃ served request task node, scene.guard = some i ∧ scene.entered = served ++ [i] ∧
      i ∉ served ∧ requests[i]? = some request ∧ workOf request = .binding task ∧
      served.map scene.reply? = (alone settings (asked requests served) start).1.map some ∧
      Alike scene.node node ∧
      Procedure.run (perform settings) task.run (alone settings (asked requests served) start).2
        = Procedure.run (perform settings) rest node := by
  obtain ⟨hguard', -⟩ := hordered.binding hparty
  cases h with
  | free hguard =>
      rw [hguard] at hguard'
      cases hguard'
  | @held j served request task rest' node hguard hentered hrequest hwork hparty' hreplies halike
      hrun =>
      rw [hguard] at hguard'
      cases hguard'
      rw [hparty] at hparty'
      cases hparty'
      have hnew : i ∉ served := fun hmem =>
        mem_of_concat (hentered ▸ hordered.enteredOnce) hmem rfl
      exact ⟨served, request, task, node, hguard, hentered, hnew, hrequest, hwork, hreplies, halike,
        hrun⟩

/-- Who gets the guard starts where the last one has left. -/
theorem enter (h : Serial settings requests start scene) (hordered : Ordered requests scene)
    {request : Request} {task : Task Reply}
    (hparty : scene.parties[i]? = some (.waiting request))
    (hwork : workOf request = .binding task) (hfree : scene.guard = none) :
    Serial settings requests start { scene with
      parties := scene.parties.set i (.binding task.run)
      guard := some i
      entered := scene.entered ++ [i] } := by
  obtain ⟨hrequest, hnew, -⟩ := hordered.waiting hparty
  cases h with
  | held hguard =>
      rw [hfree] at hguard
      cases hguard
  | free hguard hreplies halike =>
      exact .held rfl rfl hrequest hwork (party_set_self hparty _)
        ((map_replyIn_set hnew _).trans hreplies) halike rfl

/-- A step under the guard is the step that would be taken alone. -/
theorem step (h : Serial settings requests start scene) (hordered : Ordered requests scene)
    {β : Type} {first : Step β} {next : β → Procedure Step (Except OverlayError Reply)} {b : β}
    {node : Node σ} (hparty : scene.parties[i]? = some (.binding (.step first next)))
    (hperform : perform settings first scene.node = (.done b, node)) :
    Serial settings requests start
      { scene with node, parties := scene.parties.set i (.binding (next b)) } := by
  obtain ⟨served, request, task, other, hguard, hentered, hnew, hrequest, hwork, hreplies, halike,
    hrun⟩ := h.holder hordered hparty
  -- The step is answered the same in the run that is alone.
  obtain ⟨hanswer, hafter⟩ := blind_perform settings first _ _ halike
  rw [hperform] at hanswer hafter
  have hstep : perform settings first other = (.done b, (perform settings first other).2) :=
    Prod.ext hanswer.symm rfl
  refine .held hguard hentered hrequest hwork (party_set_self hparty _)
    ((map_replyIn_set hnew _).trans hreplies) hafter ?_
  rw [hrun, Procedure.run, Operation.bind_done hstep]

/-- Who gives the guard back has the answer that it would have got alone. -/
theorem leave (h : Serial settings requests start scene) (hordered : Ordered requests scene)
    {answer : Except OverlayError Reply}
    (hparty : scene.parties[i]? = some (.binding (.done answer))) :
    Serial settings requests start { scene with
      parties := scene.parties.set i (.ended (.ofExcept answer))
      guard := none } := by
  obtain ⟨served, request, task, other, hguard, hentered, hnew, hrequest, hwork, hreplies, halike,
    hrun⟩ := h.holder hordered hparty
  have halone : answerAlone settings request (alone settings (asked requests served) start).2
      = (.ofExcept answer, other) := by
    rw [answerAlone_binding hwork]
    unfold runTask
    rw [Operation.bind_done hrun]
    cases answer <;> rfl
  refine .free rfl ?_ ?_
  · show scene.entered.map _ = _
    rw [hentered, asked_concat hrequest, alone_concat, halone, List.map_append, List.map_append]
    show served.map (replyIn _) ++ [replyIn _ i] = _
    rw [map_replyIn_set hnew, replyIn_set_ended hparty]
    show served.map scene.reply? ++ _ = _
    rw [hreplies]
    rfl
  · show Alike scene.node (alone settings (asked requests scene.entered) start).2
    rw [hentered, asked_concat hrequest, alone_concat, halone]
    exact halike

/-- A pass is nothing to those who bind, whether one of them holds the guard or not. -/
theorem pass (h : Serial settings requests start scene) (hordered : Ordered requests scene)
    {request : Request} {topology : Topology} {answer : Outcome Reply} {node : Node σ}
    (hparty : scene.parties[i]? = some (.waiting request))
    (hpass : Scene.pass settings topology scene.node = (answer, node)) :
    Serial settings requests start { scene with
      node
      parties := scene.parties.set i (.ended answer)
      passed := scene.passed ++ [i] } := by
  obtain ⟨-, hnotEntered, -⟩ := hordered.waiting hparty
  have hnode : ∀ {other : Node σ}, Alike scene.node other → Alike node other := by
    intro other halike
    have hpassed := halike.pass settings topology
    rw [hpass] at hpassed
    exact hpassed
  cases h with
  | free hguard hreplies halike =>
      exact .free hguard ((map_replyIn_set hnotEntered _).trans hreplies) (hnode halike)
  | @held j served request' task rest alike hguard hentered hrequest hwork' hparty' hreplies halike
      hrun =>
      rw [hentered] at hnotEntered
      have hnew : i ∉ served := fun hmem => hnotEntered (List.mem_append_left _ hmem)
      have hne : i ≠ j := fun same => hnotEntered (by simp [same])
      have hplace : (scene.parties.set i (.ended answer))[j]? = some (.binding rest) := by
        rw [List.getElem?_set_ne hne]
        exact hparty'
      exact .held hguard hentered hrequest hwork' hplace
        ((map_replyIn_set hnew _).trans hreplies) (hnode halike) hrun

/-- **Every step keeps the order of binding.** -/
theorem moved (h : Serial settings requests start scene) (hordered : Ordered requests scene)
    {later : Scene σ} (hmoved : Moved settings scene i later) :
    Serial settings requests start later := by
  cases hmoved with
  | entered hparty hwork hfree => exact h.enter hordered hparty hwork hfree
  | stepped hparty hperform => exact h.step hordered hparty hperform
  | left hparty => exact h.leave hordered hparty
  | passed hparty hwork hpass => exact h.pass hordered hparty hpass

end Serial

/-! ## §7. Tunnels, as if there were only passes. -/

section
variable {settings : MeshSettings}

/-- From one overlay to the other: the tunnels stay, networks stay apart, and what was issued
ends with a rebuild. -/
def Bound (settings : MeshSettings) (before after : Mesh (FlowSwitch σ)) : Prop :=
  ∃ log, Heard before.host.switch log after.host.switch ∧ after.tunnels = before.tunnels ∧
    Mesh.Concluded settings before after log ∧
    (Network.Apart before.networks → Network.Apart after.networks)

omit [CommandRunner σ] in
theorem Bound.refl (mesh : Mesh (FlowSwitch σ)) : Bound settings mesh mesh :=
  ⟨[], .nil _, rfl, .idle rfl rfl, fun h => h⟩

omit [CommandRunner σ] in
/-- A step on the registry issues nothing. -/
theorem bound_onRegistry {α : Type} (op : Operation Registry α) (node : Node (FlowSwitch σ)) :
    Bound settings node.mesh (Operation.attempt (onRegistry op) node).2.mesh := by
  rw [attempt_onRegistry]
  exact .refl _

omit [CommandRunner σ] in
/-- A change of the networks leaves the tunnels, and ends with a rebuild. -/
theorem bound_onMesh {op : Operation (Mesh (FlowSwitch σ)) Unit}
    (hleaves : Mesh.LeavesTunnels settings op)
    (hapart : ∀ mesh, Network.Apart mesh.networks → Network.Apart (op mesh).2.networks)
    (node : Node (FlowSwitch σ)) :
    Bound settings node.mesh (Operation.attempt (onMesh op) node).2.mesh := by
  rw [Operation.snd_attempt]
  obtain ⟨log, hheard, htunnels, hconcluded⟩ := hleaves node.mesh
  exact ⟨log, hheard, htunnels, hconcluded, hapart node.mesh⟩

/-- **What a step of binding does to the overlay.**  One case for each step. -/
theorem bound_perform {β : Type} (s : Step β) (node : Node (FlowSwitch σ)) :
    Bound settings node.mesh (perform settings s node).2.mesh := by
  cases s with
  | lookUp id => exact .refl _
  | allRecords => exact .refl _
  | needsDelete id => exact .refl _
  | reserveVlans vlans => exact .refl _
  | takeVlan => exact .refl _
  | releaseVlan vlan => exact .refl _
  | activate net =>
      exact bound_onMesh (Mesh.leavesTunnels_addNetwork settings net)
        (fun mesh h => Mesh.apart_run h (.add net)) node
  | deactivate id =>
      exact bound_onMesh (Mesh.leavesTunnels_removeNetwork settings id)
        (fun mesh h => Mesh.apart_run h (.remove id)) node
  | insertRecord net => exact bound_onRegistry _ node
  | addPod id pod => exact bound_onRegistry _ node
  | removePod id pod => exact bound_onRegistry _ node
  | deleteRecord id => exact bound_onRegistry _ node

end

/-- As long as every command succeeds, what was issued ends with a rebuild; and if every
command succeeds as well when there are only the passes, these were answered as then and have
led to the same tunnels. -/
def Followed (settings : MeshSettings) (requests : List Request) (start : Node (FlowSwitch σ))
    (scene : Scene (FlowSwitch σ)) : Prop :=
  let passes := alone settings (asked requests scene.passed) start
  Network.Apart scene.node.mesh.networks ∧ ∃ log logAlone,
    Heard start.mesh.host.switch log scene.node.mesh.host.switch ∧
    Heard start.mesh.host.switch logAlone passes.2.mesh.host.switch ∧
    (AllSucceeded log → Mesh.Concluded settings start.mesh scene.node.mesh log ∧
      (AllSucceeded logAlone → scene.passed.map scene.reply? = passes.1.map some ∧
        scene.node.mesh.tunnels = passes.2.mesh.tunnels))

theorem followed_start (settings : MeshSettings) (requests : List Request)
    {node : Node (FlowSwitch σ)} (hapart : Network.Apart node.mesh.networks) :
    Followed settings requests node (Scene.start node requests) :=
  ⟨hapart, [], [], .nil _, .nil _, fun _ => ⟨.idle rfl rfl, fun _ => ⟨rfl, rfl⟩⟩⟩

namespace Followed

variable {requests : List Request} {start : Node (FlowSwitch σ)} {scene : Scene (FlowSwitch σ)}
  {i : Nat}

/-- A party moves on that does not go through a snapshot. -/
theorem bind (h : Followed settings requests start scene) (hnew : i ∉ scene.passed)
    {node : Node (FlowSwitch σ)} (hbound : Bound settings scene.node.mesh node.mesh)
    (party : Party) (guard : Option Nat) (entered : List Nat) :
    Followed settings requests start
      { scene with node, parties := scene.parties.set i party, guard, entered } := by
  obtain ⟨hapart, log, logAlone, hheard, hheardAlone, hsofar⟩ := h
  obtain ⟨logStep, hheardStep, htunnels, hconcludedStep, hapartStep⟩ := hbound
  refine ⟨hapartStep hapart, log ++ logStep, logAlone, hheard.append hheardStep, hheardAlone,
    fun hall => ?_⟩
  obtain ⟨hconcluded, hpasses⟩ := hsofar (allSucceeded_append.1 hall).1
  refine ⟨hconcluded.append hconcludedStep, fun hallAlone => ?_⟩
  obtain ⟨hreplies, hsame⟩ := hpasses hallAlone
  exact ⟨(map_replyIn_set hnew _).trans hreplies, htunnels.trans hsame⟩

/-- **A pass at any time** does to the tunnels what it does when there are only passes. -/
theorem pass (h : Followed settings requests start scene) (hordered : Ordered requests scene)
    {request : Request} {topology : Topology} {answer : Outcome Reply} {node : Node (FlowSwitch σ)}
    (hparty : scene.parties[i]? = some (.waiting request))
    (hwork : workOf request = .pass topology)
    (hpass : Scene.pass settings topology scene.node = (answer, node)) :
    Followed settings requests start { scene with
      node
      parties := scene.parties.set i (.ended answer)
      passed := scene.passed ++ [i] } := by
  obtain ⟨hapart, log, logAlone, hheard, hheardAlone, hsofar⟩ := h
  obtain ⟨hrequest, -, hnew⟩ := hordered.waiting hparty
  rw [pass_eq] at hpass
  obtain ⟨rfl, rfl⟩ := Prod.mk.inj hpass
  generalize hpasses : alone settings (asked requests scene.passed) start = passes
    at hheardAlone hsofar
  have halone : alone settings (asked requests (scene.passed ++ [i])) start
      = (passes.1 ++ [(Mesh.sync settings topology passes.2.mesh).1.map .summary],
          { passes.2 with mesh := (Mesh.sync settings topology passes.2.mesh).2 }) := by
    rw [asked_concat hrequest, alone_concat, hpasses, answerAlone_pass hwork]
  obtain ⟨log₁, hheard₁, hdoes₁⟩ := Mesh.does_sync settings topology scene.node.mesh
  obtain ⟨log₂, hheard₂, hdoes₂⟩ := Mesh.does_sync settings topology passes.2.mesh
  unfold Followed
  rw [halone]
  refine ⟨?_, log ++ log₁, logAlone ++ log₂, hheard.append hheard₁,
    hheardAlone.append hheard₂, fun hall => ?_⟩
  · show Network.Apart (Mesh.sync settings topology scene.node.mesh).2.networks
    rw [Mesh.networks_sync]
    exact hapart
  · obtain ⟨hall, hall₁⟩ := allSucceeded_append.1 hall
    obtain ⟨heffect₁, hconcluded₁⟩ := hdoes₁ hall₁
    obtain ⟨hconcluded, hpasses⟩ := hsofar hall
    refine ⟨hconcluded.append hconcluded₁, fun hallAlone => ?_⟩
    obtain ⟨hallAlone, hall₂⟩ := allSucceeded_append.1 hallAlone
    obtain ⟨heffect₂, -⟩ := hdoes₂ hall₂
    obtain ⟨hreplies, htunnels⟩ := hpasses hallAlone
    -- Both passes are what can be said of the same tunnels.
    rw [htunnels, heffect₂] at heffect₁
    obtain ⟨hanswer, hafter⟩ := Prod.mk.inj heffect₁
    refine ⟨?_, hafter.symm⟩
    show (scene.passed ++ [i]).map (replyIn _) = _
    rw [List.map_append, List.map_append, map_replyIn_set hnew]
    show scene.passed.map scene.reply? ++ [replyIn _ i] = _
    rw [hreplies, replyIn_set_ended hparty, hanswer]
    rfl

/-- **Every step keeps the order of passes.** -/
theorem moved (h : Followed settings requests start scene) (hordered : Ordered requests scene)
    {later : Scene (FlowSwitch σ)} (hmoved : Moved settings scene i later) :
    Followed settings requests start later := by
  -- Who is at its task has not gone through a snapshot.
  have hbinding : ∀ {rest}, scene.parties[i]? = some (.binding rest) → i ∉ scene.passed :=
    fun hparty hmem => Scene.not_isPass_of_isBinding
      (hordered.bindings i (hordered.binding hparty).2) (hordered.passes i hmem)
  cases hmoved with
  | entered hparty hwork hfree =>
      exact h.bind (hordered.waiting hparty).2.2 (.refl _) _ _ _
  | left hparty => exact h.bind (hbinding hparty) (.refl _) _ _ _
  | @stepped β first next b node hparty hperform =>
      have hbound : Bound settings scene.node.mesh (perform settings first scene.node).2.mesh :=
        bound_perform first scene.node
      rw [hperform] at hbound
      exact h.bind (hbinding hparty) hbound _ _ _
  | passed hparty hwork hpass => exact h.pass hordered hparty hwork hpass

end Followed

/-! ## §8. Whole runs. -/

/-- **A whole schedule.** -/
theorem play_keeps {settings : MeshSettings} {requests : List Request}
    {start : Node (FlowSwitch σ)} (schedule : List Nat) :
    ∀ {scene last : Scene (FlowSwitch σ)}, Ordered requests scene →
      Serial settings requests start scene → Followed settings requests start scene →
      Scene.play settings schedule scene = some last →
      Ordered requests last ∧ Serial settings requests start last ∧
        Followed settings requests start last := by
  induction schedule with
  | nil =>
      intro scene last hordered hserial hfollowed hplay
      cases hplay
      exact ⟨hordered, hserial, hfollowed⟩
  | cons i rest ih =>
      intro scene last hordered hserial hfollowed hplay
      obtain ⟨next, hmove, hrest⟩ := Option.bind_eq_some_iff.1 hplay
      have hmoved := Scene.moved_of_move hmove
      exact ih (hordered.moved hmoved) (hserial.moved hordered hmoved)
        (hfollowed.moved hordered hmoved) hrest

omit [CommandRunner σ] in
/-- When everybody was answered, everybody stands in one of the two orders. -/
theorem orders_of_isOver {requests : List Request} {last : Scene σ}
    (h : Ordered requests last) (hover : last.isOver = true) {i : Nat}
    (hi : i < requests.length) : i ∈ last.entered ∨ i ∈ last.passed := by
  have hreply := List.all_eq_true.1 hover i (List.mem_range.2 (h.length ▸ hi))
  unfold Scene.reply? replyIn at hreply
  split at hreply
  · rename_i answer hparty
    exact h.ended hparty
  · cases hreply

/-- Both orders name everybody that they should, and each once. -/
structure Complete (requests : List Request) (entered passed : List Nat) : Prop where
  enteredOnce : entered.Nodup
  passedOnce : passed.Nodup
  mem_entered : ∀ i, i ∈ entered ↔ Scene.IsBinding requests i
  mem_passed : ∀ i, i ∈ passed ↔ Scene.IsPass requests i

omit [CommandRunner σ] in
/-- When everybody was answered, both orders are complete. -/
theorem complete_of_isOver {requests : List Request} {last : Scene σ}
    (h : Ordered requests last) (hover : last.isOver = true) :
    Complete requests last.entered last.passed where
  enteredOnce := h.enteredOnce
  passedOnce := h.passedOnce
  mem_entered i := by
    refine ⟨h.bindings i, fun hbinding => ?_⟩
    obtain ⟨request, task, hget, -⟩ := id hbinding
    refine (orders_of_isOver h hover (List.getElem?_eq_some_iff.1 hget).1).resolve_right ?_
    exact fun hmem => Scene.not_isPass_of_isBinding hbinding (h.passes i hmem)
  mem_passed i := by
    refine ⟨h.passes i, fun hpass => ?_⟩
    obtain ⟨request, topology, hget, -⟩ := id hpass
    refine (orders_of_isOver h hover (List.getElem?_eq_some_iff.1 hget).1).resolve_left ?_
    exact fun hmem => Scene.not_isPass_of_isBinding (h.bindings i hmem) hpass

/-- When everybody was answered, nobody holds the guard. -/
theorem Serial.of_isOver {settings : MeshSettings} {requests : List Request} {start : Node σ}
    {last : Scene σ} (h : Serial settings requests start last) (hover : last.isOver = true) :
    last.entered.map last.reply?
        = (alone settings (asked requests last.entered) start).1.map some ∧
      Alike last.node (alone settings (asked requests last.entered) start).2 := by
  cases h with
  | free hguard hreplies halike => exact ⟨hreplies, halike⟩
  | @held i served request task rest node hguard hentered hrequest hwork hparty =>
      have hi : i < last.parties.length := (List.getElem?_eq_some_iff.1 hparty).1
      have hreply := List.all_eq_true.1 hover i (List.mem_range.2 hi)
      unfold Scene.reply? replyIn at hreply
      rw [hparty] at hreply
      cases hreply

/-- What was issued ends with a rebuild for the networks and tunnels of a node, whose rules
are in force; or nothing was issued at all. -/
def LastRebuilt (settings : MeshSettings) (start last : Node (FlowSwitch σ)) : Prop :=
  let issued := since start.mesh.host.switch last.mesh.host.switch
  (issued = [] ∧ last.mesh.networks = start.mesh.networks ∧ last.mesh.ports = start.mesh.ports) ∨
    ∃ earlier final, issued = earlier ++ final ∧
      final.map Prod.fst
        = settings.switch.rebuildCommands last.mesh.networks last.mesh.ports ∧
      RulesInForce settings.switch last.mesh.networks last.mesh.ports
        last.mesh.host.switch.tables

omit [CommandRunner σ] in
/-- The commands of a last rebuild put its rules in force. -/
theorem lastRebuilt_of_concluded {settings : MeshSettings} {start last : Node (FlowSwitch σ)}
    {log : List (SwitchCommand × Bool)} (hapart : Network.Apart last.mesh.networks)
    (hheard : Heard start.mesh.host.switch log last.mesh.host.switch)
    (hconcluded : Mesh.Concluded settings start.mesh last.mesh log) (hall : AllSucceeded log) :
    LastRebuilt settings start last := by
  unfold LastRebuilt
  rw [hheard.since_eq]
  cases hconcluded with
  | inl hidle => exact Or.inl hidle
  | inr hrebuilt =>
      obtain ⟨earlier, final, hlog, hcommands⟩ := hrebuilt
      refine Or.inr ⟨earlier, final, hlog, hcommands, ?_⟩
      rw [hlog] at hall
      rw [hheard.2, hlog, FlowTables.replay_append]
      exact rulesInForce_of_succeeded hapart hcommands (allSucceeded_append.1 hall).2 _

/-- **Requests at the same time are answered as if they came one after the other.**  The node
is any whose networks are apart, the requests are any, and so are the schedule that answers
them all and the writes that fail.  Binding ends as if there were only the attaches and
detaches, in the order in which they got the guard.  If every command succeeds, here and when
there are only the snapshots, tunnels end as if there were only these, in the order in which
they were gone through; and the last commands are those of a rebuild for the networks and
tunnels at the end. -/
theorem interleaved_runs_serialize (settings : MeshSettings) {start : Node (FlowSwitch σ)}
    {requests : List Request} {schedule : List Nat} {last : Scene (FlowSwitch σ)}
    (hplay : Scene.play settings schedule (Scene.start start requests) = some last)
    (hover : last.isOver = true) (hapart : Network.Apart start.mesh.networks)
    (hsucceeded : AllSucceeded (since start.mesh.host.switch last.node.mesh.host.switch)) :
    let bindings := alone settings (asked requests last.entered) start
    let passes := alone settings (asked requests last.passed) start
    Complete requests last.entered last.passed ∧
      (last.entered.map last.reply? = bindings.1.map some ∧
        last.node.registry = bindings.2.registry ∧
        last.node.mesh.networks = bindings.2.mesh.networks ∧
        last.node.vlans = bindings.2.vlans) ∧
      (AllSucceeded (since start.mesh.host.switch passes.2.mesh.host.switch) →
        last.passed.map last.reply? = passes.1.map some ∧
        last.node.mesh.ports = passes.2.mesh.ports ∧
        last.node.mesh.ofports = passes.2.mesh.ofports) ∧
      LastRebuilt settings start last.node := by
  intro bindings passes
  obtain ⟨hordered, hserial, hfollowed⟩ := play_keeps schedule
    (Scene.ordered_start start requests) (serial_start settings requests start)
    (followed_start settings requests hapart) hplay
  obtain ⟨hreplies, halike⟩ := hserial.of_isOver hover
  obtain ⟨hapartLast, log, logAlone, hheard, hheardAlone, hlast⟩ := hfollowed
  rw [hheard.since_eq] at hsucceeded
  obtain ⟨hconcluded, hpasses⟩ := hlast hsucceeded
  refine ⟨complete_of_isOver hordered hover,
    ⟨hreplies, halike.registry, halike.networks, halike.vlans⟩, fun hall => ?_,
    lastRebuilt_of_concluded hapartLast hheard hconcluded hsucceeded⟩
  rw [hheardAlone.since_eq] at hall
  obtain ⟨hanswers, htunnels⟩ := hpasses hall
  exact ⟨hanswers, congrArg Tunnels.ports htunnels, congrArg Tunnels.ofports htunnels⟩

/-- A node without networks, whose switch does what it is told. -/
def quietNode : Node (FlowSwitch Mesh.Faltering) where
  mesh := {
    host := { switch := { control := { answers := [] }, tables := fun _ _ => [] } }
    ofports := IdSpace.seed { name := "tunnel-ofport" } [0, 1] }
  registry := { store := ⟨"state"⟩ }
  vlans := IdSpace.seed { name := "vlan", limit := some 4095 } [0]

/-- A pod comes and leaves, and a peer does. -/
def comingAndGoing : List Request :=
  [.attach "net-A" 100 "ns" "p", .sync { agents := [Mesh.farAgent] }, .detach "net-A" "ns" "p",
    .sync { agents := [{ Mesh.farAgent with status := .down }] }]

/-- The peer comes before the network is active, and leaves before it is deactivated. -/
theorem interleaved_runs_serialize_between : ∃ last,
    Scene.play Mesh.nearHost [0, 0, 0, 1, 0, 0, 0, 0, 2, 2, 2, 3, 2, 2, 2, 2, 2]
        (Scene.start quietNode comingAndGoing) = some last ∧
      last.entered = [0, 2] ∧ last.passed = [1, 3] ∧
      last.node.registry
        = (alone Mesh.nearHost (asked comingAndGoing [0, 2]) quietNode).2.registry ∧
      last.node.mesh.ports
        = (alone Mesh.nearHost (asked comingAndGoing [1, 3]) quietNode).2.mesh.ports ∧
      LastRebuilt Mesh.nearHost quietNode last.node := by
  generalize hrun : Scene.play Mesh.nearHost [0, 0, 0, 1, 0, 0, 0, 0, 2, 2, 2, 3, 2, 2, 2, 2, 2]
    (Scene.start quietNode comingAndGoing) = run
  have hsome : run.any (fun last => last.isOver && last.entered == [0, 2]
      && last.passed == [1, 3] && (since quietNode.mesh.host.switch
        last.node.mesh.host.switch).all (·.2)) = true := by
    rw [← hrun]
    decide +kernel
  have halone : (since quietNode.mesh.host.switch (alone Mesh.nearHost
      (asked comingAndGoing [1, 3]) quietNode).2.mesh.host.switch).all (·.2) = true := by
    decide +kernel
  cases run with
  | none => cases hsome
  | some last =>
      simp only [Option.any_some, Bool.and_eq_true, beq_iff_eq] at hsome
      obtain ⟨⟨⟨hover, hentered⟩, hpassed⟩, hall⟩ := hsome
      obtain ⟨-, hbindings, hpasses, hrebuilt⟩ := interleaved_runs_serialize Mesh.nearHost hrun
        hover List.Pairwise.nil (List.all_eq_true.1 hall)
      rw [hentered] at hbindings
      rw [hpassed] at hpasses
      exact ⟨last, rfl, hentered, hpassed, hbindings.2.1,
        (hpasses (List.all_eq_true.1 halone)).2.1, hrebuilt⟩

end VxlanMesh.Node
