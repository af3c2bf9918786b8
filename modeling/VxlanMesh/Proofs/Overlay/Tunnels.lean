/-
  VxlanMesh.Proofs.Overlay.Tunnels
  ────────────────────────────────
  **TUNNEL RECORDS AND THE NUMBERS IN USE KEEP IN STEP.**

  A number is taken before the switch is asked for a port and given back
  when the switch refuses; it is given back as well when a port is
  deleted.  So between operations the numbers in use are the two reserved
  ones and those of the linked records, whatever the switch answered.

  Only a deadline could end an operation between taking a number and
  recording it, so `Tallied` includes that none is set.

      filterMap_putPort     what a put record changes in what is read off
                            the records
      Tallied               the invariant
      tallied_after         the main result
-/
import VxlanMesh.Proofs.Overlay.Linking
import VxlanMesh.Station

namespace VxlanMesh.Mesh

/-! ## §1. The list of records. -/

theorem mem_putPort {port p : TunnelPort} {ports : List TunnelPort} (h : p ∈ putPort port ports) :
    p = port ∨ p ∈ ports := by
  induction ports with
  | nil => exact Or.inl (List.mem_singleton.1 h)
  | cons q rest ih =>
      rw [putPort] at h
      split at h
      · exact (List.mem_cons.1 h).imp id (List.mem_cons_of_mem q)
      · rcases List.mem_cons.1 h with rfl | hrest
        · exact Or.inr List.mem_cons_self
        · exact (ih hrest).imp id (List.mem_cons_of_mem q)

/-- A record of a peer that has one takes its place; any other comes last. -/
theorem peers_putPort (port : TunnelPort) (ports : List TunnelPort) :
    (putPort port ports).map TunnelPort.peerId
      = ports.map TunnelPort.peerId
        ++ if port.peerId ∈ ports.map TunnelPort.peerId then [] else [port.peerId] := by
  induction ports with
  | nil => rfl
  | cons p rest ih =>
      rw [putPort]
      by_cases h : p.peerId = port.peerId
      · rw [if_pos (beq_iff_eq.2 h), if_pos (List.mem_map.2 ⟨p, List.mem_cons_self, h⟩),
          List.append_nil, List.map_cons, List.map_cons, h]
      · rw [if_neg (by simpa using h), List.map_cons, ih, List.map_cons, List.cons_append]
        simp only [List.mem_cons, Ne.symm h, false_or]

/-- What is read off the records: the entry of the peer's old record goes, that of the new one
comes. -/
theorem filterMap_putPort {α : Type} (f : TunnelPort → Option α) (port : TunnelPort)
    (ports : List TunnelPort) :
    ((putPort port ports).filterMap f ++ ((portOf ports port.peerId).bind f).toList).Perm
      ((f port).toList ++ ports.filterMap f) := by
  have hcons : ∀ (p : TunnelPort) (rest : List TunnelPort),
      (p :: rest).filterMap f = (f p).toList ++ rest.filterMap f := by
    intro p rest
    cases h : f p with
    | none => rw [List.filterMap_cons_none h]; rfl
    | some a => rw [List.filterMap_cons_some h]; rfl
  induction ports with
  | nil =>
      rw [putPort, hcons]
      exact .of_eq (List.append_nil _)
  | cons p rest ih =>
      rw [putPort, portOf_cons]
      split
      · rw [hcons, hcons, List.append_assoc]
        exact List.perm_append_comm.append_left _
      · rw [hcons, hcons, List.append_assoc]
        exact (ih.append_left _).trans (by
          rw [← List.append_assoc, ← List.append_assoc]
          exact List.perm_append_comm.append_right _)

/-- Putting the linked record of a peer that was not linked adds what it says. -/
theorem filterMap_link {α : Type} {f : TunnelPort → Option α}
    (hf : ∀ agent, f (.unlinked agent) = none) {ports : List TunnelPort} {ofport : Nat}
    {agent : Agent} (h : Unlinked ports agent.id) :
    ((putPort (.linked ofport agent) ports).filterMap f).Perm
      ((f (.linked ofport agent)).toList ++ ports.filterMap f) := by
  have hold : (portOf ports agent.id).bind f = none := by
    cases hport : portOf ports agent.id with
    | none => rfl
    | some port =>
        cases port with
        | linked n known => exact absurd hport (h n known)
        | unlinked known => exact hf known
  have hput := filterMap_putPort f (.linked ofport agent) ports
  rw [show (TunnelPort.linked ofport agent).peerId = agent.id from rfl, hold,
    Option.toList_none, List.append_nil] at hput
  exact hput

/-- Putting an unlinked record takes away what the linked one said. -/
theorem filterMap_unlink {α : Type} {f : TunnelPort → Option α} {later known : Agent}
    (hf : f (.unlinked later) = none) {ports : List TunnelPort} {ofport : Nat}
    (h : portOf ports later.id = some (.linked ofport known)) :
    ((putPort (.unlinked later) ports).filterMap f ++ (f (.linked ofport known)).toList).Perm
      (ports.filterMap f) := by
  have hput := filterMap_putPort f (.unlinked later) ports
  rw [show (TunnelPort.unlinked later).peerId = later.id from rfl, h, hf] at hput
  exact hput

/-! ## §2. The invariant. -/

/-- The records and the numbers in use are in step. -/
structure Tallied (selfIp : String) (ports : List TunnelPort) (ofports : IdSpace) : Prop where
  /-- Each peer has one record, -/
  peers : (ports.map TunnelPort.peerId).Nodup
  /-- and each linked one a number of its own, -/
  distinct : (linkedOfports ports).Nodup
  /-- beyond the reserved numbers and below the limit. -/
  range : ∀ n ∈ linkedOfports ports, 2 ≤ n ∧ n < ofportLimit
  /-- These are all numbers in use, apart from the reserved ones. -/
  inUse : ∀ n, ofports.isAllocated n = true ↔ n = 0 ∨ n = patchOfport ∨ n ∈ linkedOfports ports
  /-- There is no tunnel from the host to itself, -/
  elsewhere : ∀ port ∈ ports, port.agent.ip ≠ selfIp
  /-- and none to a peer that was not ready when it was made. -/
  ready : ∀ ofport agent, .linked ofport agent ∈ ports → agent.status = .ready
  /-- The limit stays. -/
  limit : ofports.limit = some ofportLimit

namespace Tallied

variable {selfIp : String} {ports : List TunnelPort} {ofports later : IdSpace}

/-- At the start there are no records. -/
theorem fresh : Tallied selfIp [] Station.freshOfports where
  peers := List.nodup_nil
  distinct := List.nodup_nil
  range := nofun
  inUse n := by
    rw [Station.freshOfports, IdSpace.isAllocated_seed, List.mem_cons, List.mem_singleton, or_assoc]
    simp [IdSpace.isAllocated, linkedOfports]
  elsewhere := nofun
  ready := nofun
  limit := rfl

theorem peers_put (h : Tallied selfIp ports ofports) (port : TunnelPort) :
    ((putPort port ports).map TunnelPort.peerId).Nodup := by
  rw [peers_putPort]
  split
  · rw [List.append_nil]
    exact h.peers
  · rename_i hnew
    exact List.nodup_append.2 ⟨h.peers, List.pairwise_singleton _ _, fun a ha b hb heq =>
      hnew ((List.mem_singleton.1 hb).symm ▸ heq ▸ ha)⟩

theorem untaken (h : Tallied selfIp ports ofports) {n : Nat}
    (htake : ofports.allocate = (.ok n, later)) :
    ¬ (n = 0 ∨ n = patchOfport ∨ n ∈ linkedOfports ports) := by
  rw [← h.inUse, IdSpace.isAllocated_of_allocate htake]
  exact Bool.false_ne_true

/-- A number that is taken and given back changes nothing. -/
theorem refused (h : Tallied selfIp ports ofports) {n : Nat}
    (htake : ofports.allocate = (.ok n, later)) : Tallied selfIp ports (later.release n) where
  peers := h.peers
  distinct := h.distinct
  range := h.range
  inUse other := by rw [IdSpace.isAllocated_release_of_allocate htake, h.inUse]
  elsewhere := h.elsewhere
  ready := h.ready
  limit := (IdSpace.allocate_ok htake).2.2.1.trans h.limit

/-- **A new tunnel** gets a number that no other one has. -/
theorem link (h : Tallied selfIp ports ofports) {n : Nat} {agent : Agent}
    (htake : ofports.allocate = (.ok n, later)) (hunlinked : Unlinked ports agent.id)
    (hip : agent.ip ≠ selfIp) (hready : agent.status = .ready) :
    Tallied selfIp (putPort (.linked n agent) ports) later := by
  obtain ⟨-, hbelow, hlimit, hlater⟩ := IdSpace.allocate_ok htake
  have hperm : (linkedOfports (putPort (.linked n agent) ports)).Perm (n :: linkedOfports ports) :=
    filterMap_link (fun _ => rfl) hunlinked
  have hfree := h.untaken htake
  have hlt : n < ofportLimit := by
    rw [IdSpace.isBelowLimit, h.limit] at hbelow
    exact of_decide_eq_true hbelow
  exact {
    peers := h.peers_put _
    distinct := hperm.nodup_iff.2 (List.nodup_cons.2 ⟨fun hn => hfree (.inr (.inr hn)), h.distinct⟩)
    range := fun m hm => by
      rcases List.mem_cons.1 (hperm.mem_iff.1 hm) with rfl | hold
      · have hpatch : patchOfport = 1 := rfl
        omega
      · exact h.range m hold
    inUse := fun m => by
      rw [hlater, Bool.or_eq_true, h.inUse, hperm.mem_iff, List.mem_cons, beq_iff_eq,
        or_left_comm, or_left_comm (a := m = n)]
    elsewhere := fun port hport => by
      rcases mem_putPort hport with rfl | hold
      · exact hip
      · exact h.elsewhere port hold
    ready := fun m a ha => by
      rcases mem_putPort ha with heq | hold
      · cases heq
        exact hready
      · exact h.ready m a hold
    limit := hlimit.trans h.limit }

/-- Once the record of a tunnel is unlinked, no record has its number. -/
theorem freed (h : Tallied selfIp ports ofports) {n : Nat} {gone known : Agent}
    (hport : portOf ports gone.id = some (.linked n known)) :
    n ∉ linkedOfports (putPort (.unlinked gone) ports) := by
  have hperm : (linkedOfports (putPort (.unlinked gone) ports) ++ [n]).Perm
      (linkedOfports ports) := filterMap_unlink rfl hport
  have hapart := (List.nodup_append.1 (hperm.nodup_iff.2 h.distinct)).2.2
  exact fun hn => hapart n hn n (List.mem_singleton_self n) rfl

/-- **A tunnel that is gone** gives its number back. -/
theorem unlink (h : Tallied selfIp ports ofports) {n : Nat} {gone known : Agent}
    (hport : portOf ports gone.id = some (.linked n known)) (hip : gone.ip ≠ selfIp) :
    Tallied selfIp (putPort (.unlinked gone) ports) (ofports.release n) := by
  have hperm : (linkedOfports (putPort (.unlinked gone) ports) ++ [n]).Perm
      (linkedOfports ports) := filterMap_unlink rfl hport
  have hmem : ∀ m, m ∈ linkedOfports ports
      ↔ m ∈ linkedOfports (putPort (.unlinked gone) ports) ∨ m = n := fun m => by
    rw [← hperm.mem_iff, List.mem_append, List.mem_singleton]
  exact {
    peers := h.peers_put _
    distinct := (List.nodup_append.1 (hperm.nodup_iff.2 h.distinct)).1
    range := fun m hm => h.range m ((hmem m).2 (.inl hm))
    inUse := fun m => by
      have hrange := h.range n ((hmem n).2 (.inr rfl))
      have hfreed := h.freed hport
      have hpatch : patchOfport = 1 := rfl
      rw [IdSpace.isAllocated_release, Bool.and_eq_true, h.inUse, hmem, bne_iff_ne]
      grind
    elsewhere := fun port hmem => by
      rcases mem_putPort hmem with rfl | hold
      · exact hip
      · exact h.elsewhere port hold
    ready := fun m a ha => by
      rcases mem_putPort ha with heq | hold
      · cases heq
      · exact h.ready m a hold
    limit := h.limit }

end Tallied

/-! ## §3. Without a deadline nothing is abandoned. -/

variable {σ : Type} [CommandRunner σ]

omit [CommandRunner σ] in
theorem completes_sleep (ms : Nat) : Operation.Completes
    (fun host : Host σ => host.clock.deadline = none) (Operation.sleep ms) := by
  intro host h
  rw [Operation.sleep_unhurried h]
  exact ⟨nofun, rfl⟩

theorem completes_issue (command : SwitchCommand) : Operation.Completes
    (fun host : Host σ => host.clock.deadline = none) (Host.issue command) := by
  intro host h
  rw [Host.issue_eq]
  refine ⟨?_, h⟩
  cases (CommandRunner.run command host.switch).1 <;> exact nofun

/-- **A command that is tried again ends**, and sets no deadline. -/
theorem issueWithRetry_ends {settings : MeshSettings} {command : SwitchCommand} {mesh : Mesh σ}
    {outcome : Outcome String} {host : Host σ}
    (hissue : issueWithRetry settings command mesh = (outcome, { mesh with host }))
    (h : mesh.host.clock.deadline = none) : outcome ≠ .abandoned ∧ host.clock.deadline = none := by
  have hends : (issueWithRetry settings command mesh).1 ≠ .abandoned ∧
      (issueWithRetry settings command mesh).2.host.clock.deadline = none :=
    Operation.completes_retryMore (completes_sleep settings.switch.commandRetryMs)
      (completes_issue command) (settings.switch.commandAttempts - 1) mesh.host h
  rw [hissue] at hends
  exact hends

/-! ## §4. Operations. -/

/-- The records and the numbers of an overlay are in step, no deadline is set, and the peers
that had a record earlier come first. -/
structure InStep (settings : MeshSettings) (earlier mesh : Mesh σ) : Prop where
  tallied : Tallied settings.selfIp mesh.ports mesh.ofports
  unhurried : mesh.host.clock.deadline = none
  peers : earlier.ports.map TunnelPort.peerId <+: mesh.ports.map TunnelPort.peerId

variable {settings : MeshSettings} {earlier mesh : Mesh σ}

/-- A put record does not move the others. -/
theorem peers_prefix_putPort {peers : List String} {ports : List TunnelPort}
    (h : peers <+: ports.map TunnelPort.peerId) (port : TunnelPort) :
    peers <+: (putPort port ports).map TunnelPort.peerId := by
  rw [peers_putPort]
  exact h.trans (List.prefix_append _ _)

/-- Rebuilding the rules touches neither records nor numbers. -/
theorem InStep.rebuilt (h : InStep settings earlier mesh) :
    InStep settings earlier (rebuild settings mesh).2 := by
  rw [rebuild_eq]
  exact ⟨h.tallied, h.unhurried, h.peers⟩

/-- **Creating a tunnel keeps records and numbers in step**, however it ends. -/
theorem InStep.created (h : InStep settings earlier mesh) {agent : Agent}
    (hip : agent.ip ≠ settings.selfIp) (hready : agent.status = .ready)
    (hunlinked : Unlinked mesh.ports agent.id) :
    InStep settings earlier (createLink settings agent mesh).2 := by
  generalize hmade : createLink settings agent mesh = made
  have hends := createLink_ends settings agent mesh
  rw [hmade] at hends
  cases hends with
  | exhausted => exact h
  | @refused ofport ofports e host htake hissue =>
      have hhost := (issueWithRetry_ends hissue h.unhurried).2
      exact ⟨h.tallied.refused htake, hhost, h.peers⟩
  | @abandoned ofport ofports host htake hissue =>
      exact absurd rfl (issueWithRetry_ends hissue h.unhurried).1
  | @linked ofport ofports text host summary mesh' htake hissue hrebuild =>
      have hhost := (issueWithRetry_ends hissue h.unhurried).2
      have hlinked : InStep settings earlier
          { mesh with ofports, host, ports := putPort (.linked ofport agent) mesh.ports } :=
        ⟨h.tallied.link htake hunlinked hip hready, hhost, peers_prefix_putPort h.peers _⟩
      exact congrArg Prod.snd hrebuild ▸ hlinked.rebuilt

/-- **Deleting a tunnel keeps records and numbers in step**, however it ends. -/
theorem InStep.deleted (h : InStep settings earlier mesh) (agent : Agent) :
    InStep settings earlier (deleteLink settings agent mesh).2 := by
  generalize hunmade : deleteLink settings agent mesh = unmade
  have hends := deleteLink_ends settings agent mesh
  rw [hunmade] at hends
  cases hends with
  | idle => exact h
  | @refused ofport known e host hport hissue =>
      have hhost := (issueWithRetry_ends hissue h.unhurried).2
      exact ⟨h.tallied, hhost, h.peers⟩
  | @abandoned ofport known host hport hissue =>
      exact absurd rfl (issueWithRetry_ends hissue h.unhurried).1
  | @unlinked ofport known text host summary mesh' hport hissue hrebuild =>
      have hhost := (issueWithRetry_ends hissue h.unhurried).2
      have hid : known.id = agent.id := peerId_of_portOf hport
      have hgone : portOf mesh.ports { known with status := agent.status }.id
          = some (.linked ofport known) := by rw [hid, hport]
      have hmem : TunnelPort.linked ofport known ∈ mesh.ports := List.mem_of_find?_eq_some hport
      have hunlinked : InStep settings earlier { mesh with
          host
          ofports := mesh.ofports.release ofport
          ports := putPort (.unlinked { known with status := agent.status }) mesh.ports } :=
        ⟨h.tallied.unlink hgone (h.tallied.elsewhere _ hmem), hhost,
          peers_prefix_putPort h.peers _⟩
      exact congrArg Prod.snd hrebuild ▸ hunlinked.rebuilt

/-- What an overlay is asked, once it runs. -/
inductive Request where
  | sync (topology : Topology)
  | addNetwork (net : Network)
  | removeNetwork (id : String)

/-- The overlay after a request, however it ends. -/
def serve (settings : MeshSettings) (mesh : Mesh σ) : Request → Mesh σ
  | .sync topology => (sync settings topology mesh).2
  | .addNetwork net => (addNetwork settings net mesh).2
  | .removeNetwork id => (removeNetwork settings id mesh).2

/-- The agents that a request speaks of. -/
def Request.agents : Request → List Agent
  | .sync topology => topology.agents
  | .addNetwork _ | .removeNetwork _ => []

/-- **A request consists of creating and deleting tunnels and of rebuilding the rules** for
other networks. -/
theorem serve_keeps {P : Mesh σ → Prop} {request : Request}
    (hrebuild : ∀ mesh networks, P mesh → P (rebuild settings { mesh with networks }).2)
    (hcreate : ∀ agent ∈ request.agents, agent.ip ≠ settings.selfIp → agent.status = .ready →
      ∀ mesh : Mesh σ, P mesh → Unlinked mesh.ports agent.id → P (createLink settings agent mesh).2)
    (hdelete : ∀ agent ∈ request.agents, agent.ip ≠ settings.selfIp →
      Operation.Preserves P (deleteLink settings agent)) :
    ∀ mesh, P mesh → P (serve settings mesh request) := by
  intro mesh h
  cases request with
  | sync topology => exact sync_keeps hcreate hdelete mesh h
  | addNetwork net =>
      rw [serve]
      cases hany : mesh.networks.any (·.collidesWith net) with
      | true =>
          rw [addNetwork_collides hany]
          exact h
      | false =>
          obtain ⟨summary, mesh', hdone, hadd⟩ := addNetwork_rebuilds settings hany
          rw [hadd]
          exact congrArg Prod.snd hdone ▸ hrebuild mesh _ h
  | removeNetwork id =>
      rw [serve]
      cases hany : mesh.networks.any (·.id == id) with
      | false =>
          rw [removeNetwork_absent hany]
          exact h
      | true =>
          obtain ⟨summary, mesh', hdone, hremove⟩ := removeNetwork_rebuilds settings hany
          rw [hremove]
          exact congrArg Prod.snd hdone ▸ hrebuild mesh _ h

/-- **A request keeps records and numbers in step**, however it ends. -/
theorem InStep.served (h : InStep settings earlier mesh) (request : Request) :
    InStep settings earlier (serve settings mesh request) := by
  refine serve_keeps (P := InStep settings earlier) (fun mesh networks hmesh => ?_)
    (fun agent _ hip hready mesh hmesh hunlinked => hmesh.created hip hready hunlinked)
    (fun agent _ _ mesh hmesh => hmesh.deleted agent) mesh h
  have hnetworks : InStep settings earlier { mesh with networks } :=
    ⟨hmesh.tallied, hmesh.unhurried, hmesh.peers⟩
  exact hnetworks.rebuilt

/-- An overlay without tunnels, on a host that is in no hurry. -/
def untunneled (networks : List Network) (switch : σ) (now : Nat) : Mesh σ where
  host := { switch, clock := { now } }
  networks := networks
  ofports := Station.freshOfports

/-- **Through any requests** records and numbers stay in step. -/
theorem inStep_untunneled (settings : MeshSettings) (networks : List Network) (switch : σ)
    (now : Nat) (requests : List Request) :
    let mesh := requests.foldl (serve settings) (untunneled networks switch now)
    InStep settings mesh mesh := by
  have hrun : ∀ mesh : Mesh σ, InStep settings mesh mesh →
      let mesh' := requests.foldl (serve settings) mesh
      InStep settings mesh' mesh' := by
    induction requests with
    | nil => exact fun mesh h => h
    | cons request rest ih =>
        intro mesh h
        have hserved := h.served request
        exact ih _ ⟨hserved.tallied, hserved.unhurried, List.prefix_rfl⟩
  exact hrun _ ⟨Tallied.fresh, rfl, List.prefix_rfl⟩

/-- **Records and numbers after a request.**  After any requests to an overlay that began
without tunnels, whatever the switch answered to any command: the records and the numbers in
use are in step, and the peers that had a record before the last request come first, in
their order. -/
theorem tallied_after (settings : MeshSettings) (networks : List Network) (switch : σ)
    (now : Nat) (requests : List Request) (request : Request) :
    let before := requests.foldl (serve settings) (untunneled networks switch now)
    let after := serve settings before request
    Tallied settings.selfIp after.ports after.ofports ∧
      before.ports.map TunnelPort.peerId <+: after.ports.map TunnelPort.peerId := by
  intro before after
  have hafter := (inStep_untunneled settings networks switch now requests).served request
  exact ⟨hafter.tallied, hafter.peers⟩

end VxlanMesh.Mesh
