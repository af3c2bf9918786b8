/-
  VxlanMesh.Proofs.Overlay.Linking
  ────────────────────────────────
  **HOW THE CREATION AND THE DELETION OF A TUNNEL END.**

  A tunnel is made in three moves: a number is taken, the switch makes the
  port, the record is put.  It is unmade in the opposite order.  Each move
  but the last can end it, and each ending leaves its own state behind:

      Creation    exhausted, refused, abandoned or linked
      Deletion    idle, refused, abandoned or unlinked

  Where a record has changed the rules are rebuilt.  A pass over a
  snapshot of the manager consists of such changes: a tunnel is created
  only to a ready agent elsewhere whose record is not linked.
-/
import VxlanMesh.Proofs.IdSpace
import VxlanMesh.Proofs.Overlay.Networks

namespace VxlanMesh.Mesh

variable {σ : Type} [CommandRunner σ]

/-! ## §1. Parts. -/

theorem issueWithRetry_eq (settings : MeshSettings) (command : SwitchCommand) (mesh : Mesh σ) :
    ∃ outcome host, issueWithRetry settings command mesh = (outcome, { mesh with host }) :=
  ⟨_, _, rfl⟩

omit [CommandRunner σ] in
theorem takeOfport_eq (mesh : Mesh σ) :
    takeOfport mesh
      = (.ofExcept mesh.ofports.allocate.1, { mesh with ofports := mesh.ofports.allocate.2 }) :=
  Operation.tryStep_eq _ mesh

/-! ## §2. Creating a tunnel. -/

/-- How the creation of a tunnel ends: its outcome and the overlay then. -/
inductive Creation (settings : MeshSettings) (agent : Agent) (mesh : Mesh σ) :
    Outcome Unit × Mesh σ → Prop
  /-- All numbers are taken. -/
  | exhausted {e : OverlayError} (htake : mesh.ofports.allocate = (.error e, mesh.ofports)) :
      Creation settings agent mesh (.failed e, mesh)
  /-- The switch does not make the port, and its number is free again. -/
  | refused {ofport : Nat} {ofports : IdSpace} {e : OverlayError} {host : Host σ}
      (htake : mesh.ofports.allocate = (.ok ofport, ofports))
      (hissue : issueWithRetry settings (.addVxlanPort settings.switch.tunnelBridge
        (vxlanPort settings ofport agent)) { mesh with ofports }
          = (.failed e, { mesh with ofports, host })) :
      Creation settings agent mesh
        (.failed e, { mesh with ofports := ofports.release ofport, host })
  /-- The deadline passes while the switch is asked again; the number stays taken. -/
  | abandoned {ofport : Nat} {ofports : IdSpace} {host : Host σ}
      (htake : mesh.ofports.allocate = (.ok ofport, ofports))
      (hissue : issueWithRetry settings (.addVxlanPort settings.switch.tunnelBridge
        (vxlanPort settings ofport agent)) { mesh with ofports }
          = (.abandoned, { mesh with ofports, host })) :
      Creation settings agent mesh (.abandoned, { mesh with ofports, host })
  /-- The port is made and recorded, and the rules are rebuilt. -/
  | linked {ofport : Nat} {ofports : IdSpace} {text : String} {host : Host σ}
      {summary : RebuildSummary} {mesh' : Mesh σ}
      (htake : mesh.ofports.allocate = (.ok ofport, ofports))
      (hissue : issueWithRetry settings (.addVxlanPort settings.switch.tunnelBridge
        (vxlanPort settings ofport agent)) { mesh with ofports }
          = (.done text, { mesh with ofports, host }))
      (hrebuild : rebuild settings
        { mesh with ofports, host, ports := putPort (.linked ofport agent) mesh.ports }
          = (.done summary, mesh')) :
      Creation settings agent mesh (.done (), mesh')

/-- **Creating a tunnel ends in one of four ways.** -/
theorem createLink_ends (settings : MeshSettings) (agent : Agent) (mesh : Mesh σ) :
    Creation settings agent mesh (createLink settings agent mesh) := by
  cases htake : mesh.ofports.allocate with
  | mk number ofports =>
      have htaken := takeOfport_eq mesh
      rw [htake] at htaken
      cases number with
      | error e =>
          cases (IdSpace.allocate_error htake).1
          rw [createLink, Operation.bind_failed htaken]
          exact .exhausted htake
      -- A number is taken; what becomes of it depends on the switch.
      | ok ofport =>
          obtain ⟨answer, host, hissue⟩ := issueWithRetry_eq settings
            (.addVxlanPort settings.switch.tunnelBridge (vxlanPort settings ofport agent))
            { mesh with ofports }
          rw [createLink, Operation.bind_done htaken]
          cases answer with
          | abandoned =>
              rw [Operation.bind_abandoned (Operation.attempt_abandoned hissue)]
              exact .abandoned htake hissue
          | failed e =>
              rw [Operation.bind_done (Operation.attempt_failed hissue)]
              exact .refused htake hissue
          | done text =>
              obtain ⟨summary, switch, hrebuild⟩ := rebuild_done settings
                { mesh with ofports, host, ports := putPort (.linked ofport agent) mesh.ports }
              have hput : Operation.modify (fun mesh : Mesh σ =>
                  { mesh with ports := putPort (.linked ofport agent) mesh.ports })
                  { mesh with ofports, host } = (.done (), { mesh with
                    ofports, host, ports := putPort (.linked ofport agent) mesh.ports }) := rfl
              rw [Operation.bind_done (Operation.attempt_done hissue)]
              dsimp only
              rw [Operation.bind_done hput, Operation.bind_done hrebuild]
              exact .linked htake hissue hrebuild

/-! ## §3. Deleting a tunnel. -/

/-- The record of a peer, if there is one, is not linked. -/
def Unlinked (ports : List TunnelPort) (peer : String) : Prop :=
  ∀ ofport known, portOf ports peer ≠ some (.linked ofport known)

/-- How the deletion of a tunnel ends: its outcome and the overlay then. -/
inductive Deletion (settings : MeshSettings) (agent : Agent) (mesh : Mesh σ) :
    Outcome Unit × Mesh σ → Prop
  /-- There is no tunnel. -/
  | idle (hport : Unlinked mesh.ports agent.id) : Deletion settings agent mesh (.done (), mesh)
  /-- The switch does not delete the port; the record stays linked and keeps its number. -/
  | refused {ofport : Nat} {known : Agent} {e : OverlayError} {host : Host σ}
      (hport : portOf mesh.ports agent.id = some (.linked ofport known))
      (hissue : issueWithRetry settings (.deletePort settings.switch.tunnelBridge
        (tunnelPortName ofport)) mesh = (.failed e, { mesh with host })) :
      Deletion settings agent mesh (.failed e, { mesh with host })
  /-- The deadline passes while the switch is asked again. -/
  | abandoned {ofport : Nat} {known : Agent} {host : Host σ}
      (hport : portOf mesh.ports agent.id = some (.linked ofport known))
      (hissue : issueWithRetry settings (.deletePort settings.switch.tunnelBridge
        (tunnelPortName ofport)) mesh = (.abandoned, { mesh with host })) :
      Deletion settings agent mesh (.abandoned, { mesh with host })
  /-- The port is deleted, its number is free, the record is put, and the rules are
  rebuilt. -/
  | unlinked {ofport : Nat} {known : Agent} {text : String} {host : Host σ}
      {summary : RebuildSummary} {mesh' : Mesh σ}
      (hport : portOf mesh.ports agent.id = some (.linked ofport known))
      (hissue : issueWithRetry settings (.deletePort settings.switch.tunnelBridge
        (tunnelPortName ofport)) mesh = (.done text, { mesh with host }))
      (hrebuild : rebuild settings { mesh with
        host
        ofports := mesh.ofports.release ofport
        ports := putPort (.unlinked { known with status := agent.status }) mesh.ports }
          = (.done summary, mesh')) :
      Deletion settings agent mesh (.done (), mesh')

/-- **Deleting a tunnel ends in one of four ways.** -/
theorem deleteLink_ends (settings : MeshSettings) (agent : Agent) (mesh : Mesh σ) :
    Deletion settings agent mesh (deleteLink settings agent mesh) := by
  have hget : Operation.get mesh = (.done mesh, mesh) := rfl
  rw [deleteLink, Operation.bind_done hget]
  cases hport : portOf mesh.ports agent.id with
  | none => exact .idle fun ofport known h => by rw [hport] at h; cases h
  | some port =>
      cases port with
      | unlinked known => exact .idle fun ofport known h => by rw [hport] at h; cases h
      | linked ofport known =>
          obtain ⟨answer, host, hissue⟩ := issueWithRetry_eq settings
            (.deletePort settings.switch.tunnelBridge (tunnelPortName ofport)) mesh
          dsimp only
          cases answer with
          | abandoned =>
              rw [Operation.bind_abandoned hissue]
              exact .abandoned hport hissue
          | failed e =>
              rw [Operation.bind_failed hissue]
              exact .refused hport hissue
          | done text =>
              obtain ⟨summary, switch, hrebuild⟩ := rebuild_done settings { mesh with
                host
                ofports := mesh.ofports.release ofport
                ports := putPort (.unlinked { known with status := agent.status }) mesh.ports }
              have hrelease : releaseOfport ofport { mesh with host } = (.done (),
                  { mesh with host, ofports := mesh.ofports.release ofport }) := rfl
              have hput : Operation.modify (fun mesh : Mesh σ => { mesh with
                  ports := putPort (.unlinked { known with status := agent.status }) mesh.ports })
                  { mesh with host, ofports := mesh.ofports.release ofport } = (.done (),
                    { mesh with
                      host
                      ofports := mesh.ofports.release ofport
                      ports := putPort (.unlinked { known with status := agent.status })
                        mesh.ports }) := rfl
              rw [Operation.bind_done hissue, Operation.bind_done hrelease,
                Operation.bind_done hput, Operation.bind_done hrebuild]
              exact .unlinked hport hissue hrebuild

/-! ## §4. A record that has changed is followed by a rebuild. -/

/-- How the creation or the deletion of a tunnel leaves the overlay behind. -/
inductive Retunneled (settings : MeshSettings) (mesh mesh' : Mesh σ) : Prop
  /-- No record has changed. -/
  | unchanged (hnetworks : mesh'.networks = mesh.networks) (hports : mesh'.ports = mesh.ports)
  /-- After a command, the rules were rebuilt for the records there are now. -/
  | rebuilt (command : SwitchCommand) (mesh₁ : Mesh σ) (summary : RebuildSummary)
      (hrebuild : rebuild settings mesh₁ = (.done summary, mesh'))
      (hnetworks : mesh₁.networks = mesh.networks)
      (hhost : mesh₁.host = (issueWithRetry settings command mesh).2.host)

theorem Retunneled.networks_eq {settings : MeshSettings} {mesh mesh' : Mesh σ}
    (h : Retunneled settings mesh mesh') : mesh'.networks = mesh.networks := by
  cases h with
  | unchanged hnetworks _ => exact hnetworks
  | rebuilt command mesh₁ summary hrebuild hnetworks _ =>
      rw [networks_of_rebuild hrebuild, hnetworks]

/-- **Creating a tunnel**: no record changes, or what follows the change is a rebuild. -/
theorem createLink_cases (settings : MeshSettings) (agent : Agent) (mesh : Mesh σ) :
    Retunneled settings mesh (createLink settings agent mesh).2 := by
  generalize hmade : createLink settings agent mesh = made
  have hends := createLink_ends settings agent mesh
  rw [hmade] at hends
  cases hends with
  | exhausted | refused | abandoned => exact .unchanged rfl rfl
  | linked htake hissue hrebuild =>
      exact .rebuilt _ _ _ hrebuild rfl (congrArg (·.2.host) hissue).symm

/-- **Deleting a tunnel**: no record changes, or what follows the change is a rebuild. -/
theorem deleteLink_cases (settings : MeshSettings) (agent : Agent) (mesh : Mesh σ) :
    Retunneled settings mesh (deleteLink settings agent mesh).2 := by
  generalize hunmade : deleteLink settings agent mesh = unmade
  have hends := deleteLink_ends settings agent mesh
  rw [hunmade] at hends
  cases hends with
  | idle | refused | abandoned => exact .unchanged rfl rfl
  | unlinked hport hissue hrebuild =>
      exact .rebuilt _ _ _ hrebuild rfl (congrArg (·.2.host) hissue).symm

/-! ## §5. Passes over a snapshot. -/

theorem portOf_cons (p : TunnelPort) (rest : List TunnelPort) (peer : String) :
    portOf (p :: rest) peer = if p.peerId == peer then some p else portOf rest peer := by
  rw [portOf, List.find?_cons]
  cases p.peerId == peer <;> rfl

theorem portOf_putPort (port : TunnelPort) (ports : List TunnelPort) :
    portOf (putPort port ports) port.peerId = some port := by
  induction ports with
  | nil => rw [putPort, portOf_cons, if_pos (beq_self_eq_true _)]
  | cons p rest ih =>
      rw [putPort]
      split
      · rw [portOf_cons, if_pos (beq_self_eq_true _)]
      · rename_i hother
        rw [portOf_cons, if_neg hother, ih]

theorem peerId_of_portOf {ports : List TunnelPort} {peer : String} {port : TunnelPort}
    (h : portOf ports peer = some port) : port.peerId = peer :=
  beq_iff_eq.1 (List.find?_some (p := fun p : TunnelPort => p.peerId == peer) h)

/-- **After a deletion that is done** the record is not linked. -/
theorem unlinked_of_done {settings : MeshSettings} {agent : Agent} {mesh mesh' : Mesh σ}
    (h : deleteLink settings agent mesh = (.done (), mesh')) : Unlinked mesh'.ports agent.id := by
  have hends := deleteLink_ends settings agent mesh
  rw [h] at hends
  cases hends with
  | idle hport => exact hport
  | @unlinked ofport known text host summary _ hport hissue hrebuild =>
      obtain ⟨_, switch, hdone⟩ := rebuild_done settings { mesh with
        host
        ofports := mesh.ofports.release ofport
        ports := putPort (.unlinked { known with status := agent.status }) mesh.ports }
      rw [hrebuild] at hdone
      cases hdone
      have hid : agent.id = known.id := (peerId_of_portOf hport).symm
      have hrecord := portOf_putPort (.unlinked { known with status := agent.status }) mesh.ports
      intro n a hlinked
      rw [hid] at hlinked
      exact nomatch hrecord.symm.trans hlinked

/-- A tunnel is wanted only to a ready agent, and made anew only where one is linked. -/
theorem changeFor_cases (record : Option TunnelPort) (agent : Agent) :
    changeFor record agent = .keep ∨ changeFor record agent = .unlink ∨
      agent.status = .ready ∧ (changeFor record agent = .relink ∨
        changeFor record agent = .link ∧ ∀ ofport known, record ≠ some (.linked ofport known)) := by
  rcases record with _ | ⟨ofport, known⟩ | known <;> cases hstatus : agent.status <;>
    simp [changeFor, hstatus]
  by_cases hip : known.ip = agent.ip <;> simp [hip]

/-- What is done for one agent of a snapshot keeps a property that creations and deletions
keep. -/
theorem reconcile_keeps {P : Mesh σ → Prop} {settings : MeshSettings} {agent : Agent}
    (hcreate : agent.ip ≠ settings.selfIp → agent.status = .ready → ∀ mesh : Mesh σ,
      P mesh → Unlinked mesh.ports agent.id → P (createLink settings agent mesh).2)
    (hdelete : agent.ip ≠ settings.selfIp → Operation.Preserves P (deleteLink settings agent))
    (summary : SyncSummary) : Operation.Preserves P (reconcile settings agent summary) := by
  intro mesh hmesh
  have hget : Operation.get mesh = (.done mesh, mesh) := rfl
  rw [reconcile]
  split
  · exact hmesh
  · rename_i hother
    rw [Operation.bind_done hget]
    -- The failure of one peer is turned into a count, with the state that it left.
    refine Operation.snd_bind (P := P) ?_ fun answer mesh' _ hmesh' => ?_
    · rw [Operation.snd_attempt]
      rcases changeFor_cases (portOf mesh.ports agent.id) agent with
        hkeep | hunlink | ⟨hready, hrelink | ⟨hlink, hport⟩⟩
      · rw [hkeep]
        exact hmesh
      · rw [hunlink]
        exact Operation.snd_bind (hdelete hother mesh hmesh) fun _ _ _ h => h
      -- The new tunnel is made only after the old one is gone.
      · rw [hrelink]
        refine Operation.snd_bind (hdelete hother mesh hmesh) fun _ mesh' hdone hmesh' => ?_
        exact Operation.snd_bind (hcreate hother hready mesh' hmesh' (unlinked_of_done hdone))
          fun _ _ _ h => h
      · rw [hlink]
        exact Operation.snd_bind (hcreate hother hready mesh hmesh hport) fun _ _ _ h => h
    · cases answer <;> exact hmesh'

/-- **A pass over a snapshot consists of creating and deleting tunnels**; one is created only
to a ready agent elsewhere whose record is not linked. -/
theorem sync_keeps {P : Mesh σ → Prop} {settings : MeshSettings} {topology : Topology}
    (hcreate : ∀ agent ∈ topology.agents, agent.ip ≠ settings.selfIp → agent.status = .ready →
      ∀ mesh : Mesh σ, P mesh → Unlinked mesh.ports agent.id → P (createLink settings agent mesh).2)
    (hdelete : ∀ agent ∈ topology.agents, agent.ip ≠ settings.selfIp →
      Operation.Preserves P (deleteLink settings agent)) :
    Operation.Preserves P (sync settings topology) := by
  have hall : ∀ agents : List Agent, (∀ agent ∈ agents, agent ∈ topology.agents) → ∀ summary,
      Operation.Preserves P (reconcileAll settings agents summary) := by
    intro agents hagents
    induction agents with
    | nil => intro summary; exact Operation.preserves_pure _
    | cons agent rest ih =>
        intro summary
        have hagent := hagents agent List.mem_cons_self
        exact Operation.preserves_bind
          (reconcile_keeps (hcreate agent hagent) (hdelete agent hagent) summary)
          fun _ => ih (fun other h => hagents other (List.mem_cons_of_mem agent h)) _
  exact hall topology.agents (fun _ h => h) {}

/-- A pass keeps what all creations and deletions keep. -/
theorem preserves_sync {P : Mesh σ → Prop} {settings : MeshSettings}
    (hcreate : ∀ agent, Operation.Preserves P (createLink settings agent))
    (hdelete : ∀ agent, Operation.Preserves P (deleteLink settings agent))
    (topology : Topology) : Operation.Preserves P (sync settings topology) :=
  sync_keeps (fun agent _ _ _ mesh hmesh _ => hcreate agent mesh hmesh)
    fun agent _ _ => hdelete agent

/-- **It leaves the networks alone**, however it ends. -/
theorem networks_sync (settings : MeshSettings) (topology : Topology) (mesh : Mesh σ) :
    (sync settings topology mesh).2.networks = mesh.networks := by
  refine preserves_sync (P := fun mesh' => mesh'.networks = mesh.networks)
    (fun agent mesh' h => ?_) (fun agent mesh' h => ?_) topology mesh rfl
  · exact (createLink_cases settings agent mesh').networks_eq.trans h
  · exact (deleteLink_cases settings agent mesh').networks_eq.trans h

end VxlanMesh.Mesh
