/-
  VxlanMesh.Proofs.Overlay.Unhindered
  ────────────────────────────────
  **WHAT A PASS DOES WHEN EVERY COMMAND SUCCEEDS.**

  `Tunnels` is the part of the overlay that passes over snapshots read and
  change.  A pass whose commands all succeed is a function of it, in which
  neither the networks nor the switch nor the clock occur.  Whatever is
  done to tunnels and networks ends with a rebuild for those there are
  then, or nothing is issued at all.

      Tunnels.sync      a pass with the switch left out
      does_sync         a pass is that, if every command succeeds
      Concluded         what was issued ends with a rebuild
-/
import VxlanMesh.Proofs.Overlay.Converging

namespace VxlanMesh

open FlowSwitch (Heard)

/-! ## §1. Logs without a failure. -/

/-- Every command of the log succeeded. -/
def AllSucceeded (log : List (SwitchCommand × Bool)) : Prop := ∀ entry ∈ log, entry.2 = true

theorem allSucceeded_append {before after : List (SwitchCommand × Bool)} :
    AllSucceeded (before ++ after) ↔ AllSucceeded before ∧ AllSucceeded after :=
  List.forall_mem_append

variable {σ : Type} [CommandRunner σ]

namespace FlowSwitch

/-- What the switch has answered from one state to another. -/
def since (before after : FlowSwitch σ) : List (SwitchCommand × Bool) :=
  after.answered.drop before.answered.length

omit [CommandRunner σ] in
/-- What was heard between two states is what the later one has in addition. -/
theorem Heard.since_eq {before after : FlowSwitch σ} {log : List (SwitchCommand × Bool)}
    (h : Heard before log after) : since before after = log := by
  unfold since
  rw [h.1, List.drop_left]

end FlowSwitch

namespace Mesh

/-- Whatever is tried after a failure, the failure is remembered. -/
theorem heard_retryMore_again {command : SwitchCommand} {host host' : Host (FlowSwitch σ)}
    {e : OverlayError} (hissue : Host.issue command host = (.failed e, host'))
    (hheard : Heard host.switch [(command, false)] host'.switch) (delay more : Nat) :
    ∃ log, (command, false) ∈ log ∧ Heard host.switch log
      (Operation.retryMore delay (Host.issue command) more host).2.switch := by
  let P : Host (FlowSwitch σ) → Prop := fun later =>
    ∃ log, (command, false) ∈ log ∧ Heard host.switch log later.switch
  have hfirst : P host' := ⟨_, List.mem_singleton.2 rfl, hheard⟩
  have hclock : ∀ (clock : Clock) (later : Host (FlowSwitch σ)), P later →
      P (Timed.setClock clock later) := fun _ _ h => h
  have hmore : Operation.Preserves P (Host.issue command) := by
    intro later h
    obtain ⟨log, hmem, hlog⟩ := h
    rw [Host.issue_eq]
    exact ⟨_, List.mem_append_left _ hmem,
      hlog.append (FlowSwitch.heard_run command later.switch)⟩
  cases more with
  | zero =>
      rw [Operation.retryMore, hissue]
      exact hfirst
  | succ more =>
      rw [Operation.retryMore_failed hissue]
      exact Operation.snd_bind (Operation.preserves_sleep hclock delay _ hfirst)
        fun _ later _ h => Operation.preserves_retryMore hclock delay hmore more later h

/-- Of a command that did not succeed at once, the failure is remembered. -/
theorem heard_retryMore (command : SwitchCommand) (delay more : Nat)
    (host : Host (FlowSwitch σ)) : ∃ log,
    Heard host.switch log
        (Operation.retryMore delay (Host.issue command) more host).2.switch ∧
      (AllSucceeded log → ∃ text,
        (Operation.retryMore delay (Host.issue command) more host).1 = .done text) := by
  have hissue := Host.issue_eq command host
  have hrun := FlowSwitch.heard_run command host.switch
  cases hanswer : (CommandRunner.run command host.switch).1 with
  | ok text =>
      rw [hanswer] at hissue hrun
      rw [Operation.retryMore_done hissue]
      exact ⟨[(command, true)], hrun, fun _ => ⟨text, rfl⟩⟩
  | error e =>
      rw [hanswer] at hissue hrun
      obtain ⟨log, hmem, hlog⟩ := heard_retryMore_again hissue hrun delay more
      exact ⟨log, hlog, fun hall => nomatch hall _ hmem⟩

/-- **A command whose every attempt succeeded is done.** -/
theorem issueWithRetry_succeeds {settings : MeshSettings} {command : SwitchCommand}
    {mesh mesh' : Mesh (FlowSwitch σ)} {outcome : Outcome String}
    (h : issueWithRetry settings command mesh = (outcome, mesh')) : ∃ log,
    Heard mesh.host.switch log mesh'.host.switch ∧
      (AllSucceeded log → ∃ text, outcome = .done text) := by
  have hissued := heard_retryMore command settings.switch.commandRetryMs
    (settings.switch.commandAttempts - 1) mesh.host
  obtain ⟨houtcome, hmesh⟩ := Prod.mk.inj h
  rw [← houtcome, ← hmesh]
  exact hissued

/-! ## §2. Networks and tunnels that the rules are in step with. -/

/-- What was issued ends with a rebuild for the networks and tunnels there are now; or nothing
was issued, and they are what they were. -/
def Concluded (settings : MeshSettings) (before after : Mesh (FlowSwitch σ))
    (log : List (SwitchCommand × Bool)) : Prop :=
  (log = [] ∧ after.networks = before.networks ∧ after.ports = before.ports) ∨
    ∃ earlier final, log = earlier ++ final ∧
      final.map Prod.fst = settings.switch.rebuildCommands after.networks after.ports

section
variable {settings : MeshSettings} {m₁ m₂ m₃ : Mesh (FlowSwitch σ)}
  {log₁ log₂ : List (SwitchCommand × Bool)}

omit [CommandRunner σ] in
theorem Concluded.idle (hnetworks : m₂.networks = m₁.networks) (hports : m₂.ports = m₁.ports) :
    Concluded settings m₁ m₂ [] :=
  Or.inl ⟨rfl, hnetworks, hports⟩

omit [CommandRunner σ] in
/-- What is issued in two parts ends with a rebuild if they do. -/
theorem Concluded.append (h₁ : Concluded settings m₁ m₂ log₁)
    (h₂ : Concluded settings m₂ m₃ log₂) : Concluded settings m₁ m₃ (log₁ ++ log₂) := by
  cases h₂ with
  | inl hidle =>
      obtain ⟨hnone, hnetworks, hports⟩ := hidle
      subst hnone
      rw [List.append_nil]
      cases h₁ with
      | inl hidle₁ =>
          exact Or.inl ⟨hidle₁.1, hnetworks.trans hidle₁.2.1, hports.trans hidle₁.2.2⟩
      | inr hrebuilt =>
          obtain ⟨earlier, final, hlog, hfinal⟩ := hrebuilt
          rw [← hnetworks, ← hports] at hfinal
          exact Or.inr ⟨earlier, final, hlog, hfinal⟩
  | inr hrebuilt =>
      obtain ⟨earlier, final, hlog, hfinal⟩ := hrebuilt
      refine Or.inr ⟨log₁ ++ earlier, final, ?_, hfinal⟩
      rw [hlog, List.append_assoc]

/-- What comes before a rebuild does not matter. -/
theorem concluded_rebuild (m₁ : Mesh (FlowSwitch σ)) {summary : RebuildSummary}
    (hrebuild : rebuild settings m₂ = (.done summary, m₃))
    (hearlier : Heard m₁.host.switch log₁ m₂.host.switch) : ∃ log,
    Heard m₁.host.switch log m₃.host.switch ∧ Concluded settings m₁ m₃ log := by
  obtain ⟨final, hheard, hcommands⟩ := rebuild_heard settings hrebuild
  exact ⟨log₁ ++ final, hearlier.append hheard, Or.inr ⟨log₁, final, rfl, hcommands⟩⟩

end

/-! ## §3. Tunnels. -/

end Mesh

/-- The part of the overlay that passes over snapshots read and change. -/
structure Tunnels where
  ports : List TunnelPort
  ofports : IdSpace

/-- The tunnels of an overlay. -/
def Mesh.tunnels {σ : Type} (mesh : Mesh σ) : Tunnels := ⟨mesh.ports, mesh.ofports⟩

namespace Tunnels

/-- Take a number for a tunnel and record it. -/
def create (agent : Agent) : Operation Tunnels Unit := fun tunnels =>
  match tunnels.ofports.allocate with
  | (.ok ofport, ofports) =>
      (.done (), ⟨Mesh.putPort (.linked ofport agent) tunnels.ports, ofports⟩)
  | (.error e, _) => (.failed e, tunnels)

/-- Record that there is no tunnel any more, and give its number back. -/
def delete (agent : Agent) : Operation Tunnels Unit := fun tunnels =>
  match Mesh.portOf tunnels.ports agent.id with
  | some (.linked ofport known) =>
      (.done (), ⟨Mesh.putPort (.unlinked { known with status := agent.status }) tunnels.ports,
        tunnels.ofports.release ofport⟩)
  | _ => (.done (), tunnels)

/-- Carry out a change and count it. -/
def applyChange (agent : Agent) (summary : SyncSummary) :
    Mesh.PeerChange → Operation Tunnels SyncSummary
  | .keep => pure summary
  | .link => do
      create agent
      pure { summary with linked := summary.linked + 1 }
  | .relink => do
      delete agent
      create agent
      pure { summary with linked := summary.linked + 1 }
  | .unlink => do
      delete agent
      pure { summary with unlinked := summary.unlinked + 1 }

/-- The turn of one agent. -/
def reconcile (settings : MeshSettings) (agent : Agent) (summary : SyncSummary) :
    Operation Tunnels SyncSummary := do
  if agent.ip = settings.selfIp then pure summary
  else
    let tunnels ← Operation.get
    let change := Mesh.changeFor (Mesh.portOf tunnels.ports agent.id) agent
    match ← Operation.attempt (applyChange agent summary change) with
    | .ok summary => pure summary
    | .error _ => pure { summary with failed := summary.failed + 1 }

/-- The turns of some agents. -/
def reconcileAll (settings : MeshSettings) :
    List Agent → SyncSummary → Operation Tunnels SyncSummary
  | [], summary => pure summary
  | agent :: rest, summary => do
      reconcileAll settings rest (← reconcile settings agent summary)

/-- A pass over a snapshot. -/
def sync (settings : MeshSettings) (topology : Topology) : Operation Tunnels SyncSummary :=
  reconcileAll settings topology.agents {}

end Tunnels

namespace Mesh

/-- What is issued is remembered; and if all of it succeeds, the operation ends as said, does
to the tunnels what is said, and what was issued ends with a rebuild. -/
def Does {α : Type} (settings : MeshSettings) (op : Operation (Mesh (FlowSwitch σ)) α)
    (effect : Operation Tunnels α) : Prop :=
  ∀ mesh, ∃ log, Heard mesh.host.switch log (op mesh).2.host.switch ∧
    (AllSucceeded log → effect mesh.tunnels = ((op mesh).1, (op mesh).2.tunnels) ∧
      Concluded settings mesh (op mesh).2 log)

section
variable {α β : Type} {settings : MeshSettings}

omit [CommandRunner σ] in
theorem does_pure (a : α) :
    Does settings (pure a : Operation (Mesh (FlowSwitch σ)) α) (pure a) :=
  fun _ => ⟨[], .nil _, fun _ => ⟨rfl, .idle rfl rfl⟩⟩

omit [CommandRunner σ] in
/-- Operations in sequence do one after the other what is said of them. -/
theorem does_bind {op : Operation (Mesh (FlowSwitch σ)) α}
    {next : α → Operation (Mesh (FlowSwitch σ)) β} {effect : Operation Tunnels α}
    {effects : α → Operation Tunnels β} (hop : Does settings op effect)
    (hnext : ∀ a, Does settings (next a) (effects a)) :
    Does settings (op >>= next) (effect >>= effects) := by
  intro mesh
  obtain ⟨log₁, hheard₁, hdoes₁⟩ := hop mesh
  cases hrun : op mesh with
  | mk outcome mesh₁ =>
      rw [hrun] at hheard₁ hdoes₁
      cases outcome with
      | done a =>
          obtain ⟨log₂, hheard₂, hdoes₂⟩ := hnext a mesh₁
          rw [Operation.bind_done hrun]
          refine ⟨log₁ ++ log₂, hheard₁.append hheard₂, fun hall => ?_⟩
          obtain ⟨hall₁, hall₂⟩ := allSucceeded_append.1 hall
          obtain ⟨heffect, hconcluded⟩ := hdoes₁ hall₁
          obtain ⟨heffects, hconcluded₂⟩ := hdoes₂ hall₂
          rw [Operation.bind_done heffect]
          exact ⟨heffects, hconcluded.append hconcluded₂⟩
      | failed e =>
          rw [Operation.bind_failed hrun]
          refine ⟨log₁, hheard₁, fun hall => ?_⟩
          obtain ⟨heffect, hconcluded⟩ := hdoes₁ hall
          rw [Operation.bind_failed heffect]
          exact ⟨rfl, hconcluded⟩
      | abandoned =>
          rw [Operation.bind_abandoned hrun]
          refine ⟨log₁, hheard₁, fun hall => ?_⟩
          obtain ⟨heffect, hconcluded⟩ := hdoes₁ hall
          rw [Operation.bind_abandoned heffect]
          exact ⟨rfl, hconcluded⟩

omit [CommandRunner σ] in
theorem does_attempt {op : Operation (Mesh (FlowSwitch σ)) α} {effect : Operation Tunnels α}
    (hop : Does settings op effect) :
    Does settings (Operation.attempt op) (Operation.attempt effect) := by
  intro mesh
  obtain ⟨log, hheard, hdoes⟩ := hop mesh
  rw [← Operation.snd_attempt op mesh] at hheard hdoes
  refine ⟨log, hheard, fun hall => ?_⟩
  obtain ⟨heffect, hconcluded⟩ := hdoes hall
  refine ⟨?_, hconcluded⟩
  rw [Operation.snd_attempt]
  cases hrun : op mesh with
  | mk outcome mesh₁ =>
      rw [Operation.snd_attempt, hrun] at heffect
      cases outcome with
      | done a => rw [Operation.attempt_done hrun, Operation.attempt_done heffect]
      | failed e => rw [Operation.attempt_failed hrun, Operation.attempt_failed heffect]
      | abandoned =>
          rw [Operation.attempt_abandoned hrun, Operation.attempt_abandoned heffect]

end

/-! ## §4. Passes. -/

/-- **Creating a tunnel.** -/
theorem does_createLink (settings : MeshSettings) (agent : Agent) :
    Does (σ := σ) settings (createLink settings agent) (Tunnels.create agent) := by
  intro mesh
  generalize hmade : createLink settings agent mesh = made
  have hends := createLink_ends settings agent mesh
  rw [hmade] at hends
  cases hends with
  | exhausted htake =>
      refine ⟨[], .nil _, fun _ => ⟨?_, .idle rfl rfl⟩⟩
      show Tunnels.create agent ⟨mesh.ports, mesh.ofports⟩ = _
      unfold Tunnels.create
      rw [htake]
      rfl
  | refused htake hissue | abandoned htake hissue =>
      obtain ⟨log, hheard, hdone⟩ := issueWithRetry_succeeds hissue
      exact ⟨log, hheard, fun hall => nomatch hdone hall⟩
  | @linked ofport ofports text host summary mesh' htake hissue hrebuild =>
      obtain ⟨earlier, hheard, -⟩ := issueWithRetry_succeeds hissue
      obtain ⟨log, hlog, hconcluded⟩ := concluded_rebuild mesh hrebuild hheard
      obtain ⟨hports, hofports, -⟩ := ports_of_rebuild hrebuild
      refine ⟨log, hlog, fun _ => ⟨?_, hconcluded⟩⟩
      show Tunnels.create agent ⟨mesh.ports, mesh.ofports⟩ = (_, ⟨mesh'.ports, mesh'.ofports⟩)
      unfold Tunnels.create
      rw [hports, hofports, htake]

/-- **Deleting a tunnel.** -/
theorem does_deleteLink (settings : MeshSettings) (agent : Agent) :
    Does (σ := σ) settings (deleteLink settings agent) (Tunnels.delete agent) := by
  intro mesh
  generalize hunmade : deleteLink settings agent mesh = unmade
  have hends := deleteLink_ends settings agent mesh
  rw [hunmade] at hends
  cases hends with
  | idle hport =>
      refine ⟨[], .nil _, fun _ => ⟨?_, .idle rfl rfl⟩⟩
      show Tunnels.delete agent ⟨mesh.ports, mesh.ofports⟩ = _
      unfold Tunnels.delete
      split
      · rename_i ofport known h
        exact absurd h (hport ofport known)
      · rfl
  | refused hport hissue | abandoned hport hissue =>
      obtain ⟨log, hheard, hdone⟩ := issueWithRetry_succeeds hissue
      exact ⟨log, hheard, fun hall => nomatch hdone hall⟩
  | @unlinked ofport known text host summary mesh' hport hissue hrebuild =>
      obtain ⟨earlier, hheard, -⟩ := issueWithRetry_succeeds hissue
      obtain ⟨log, hlog, hconcluded⟩ := concluded_rebuild mesh hrebuild hheard
      obtain ⟨hports, hofports, -⟩ := ports_of_rebuild hrebuild
      refine ⟨log, hlog, fun _ => ⟨?_, hconcluded⟩⟩
      show Tunnels.delete agent ⟨mesh.ports, mesh.ofports⟩ = (_, ⟨mesh'.ports, mesh'.ofports⟩)
      unfold Tunnels.delete
      rw [hports, hofports]
      simp only [hport]

theorem does_applyChange (settings : MeshSettings) (agent : Agent) (summary : SyncSummary)
    (change : PeerChange) : Does (σ := σ) settings (applyChange settings agent summary change)
      (Tunnels.applyChange agent summary change) := by
  cases change with
  | keep => exact does_pure summary
  | link => exact does_bind (does_createLink settings agent) fun _ => does_pure _
  | relink =>
      exact does_bind (does_deleteLink settings agent) fun _ =>
        does_bind (does_createLink settings agent) fun _ => does_pure _
  | unlink => exact does_bind (does_deleteLink settings agent) fun _ => does_pure _

/-- **The turn of one agent** does to the tunnels what is said of it. -/
theorem does_reconcile (settings : MeshSettings) (agent : Agent) (summary : SyncSummary) :
    Does (σ := σ) settings (reconcile settings agent summary)
      (Tunnels.reconcile settings agent summary) := by
  unfold reconcile Tunnels.reconcile
  by_cases hself : agent.ip = settings.selfIp
  · rw [if_pos hself, if_pos hself]
    exact does_pure summary
  · rw [if_neg hself, if_neg hself]
    intro mesh
    -- Both look at the same records, so what they find out is wanted is the same.
    have hget : Operation.get mesh = (.done mesh, mesh) := rfl
    have hgetTunnels : Operation.get mesh.tunnels = (.done mesh.tunnels, mesh.tunnels) := rfl
    rw [Operation.bind_done hget, Operation.bind_done hgetTunnels]
    refine does_bind (does_attempt (does_applyChange settings agent summary _))
      (fun answer => ?_) mesh
    cases answer with
    | ok counted => exact does_pure counted
    | error e => exact does_pure _

/-- **A pass whose commands all succeed** does to the tunnels what can be said without the
switch, and what it issues ends with a rebuild. -/
theorem does_sync (settings : MeshSettings) (topology : Topology) :
    Does (σ := σ) settings (sync settings topology) (Tunnels.sync settings topology) := by
  have hall : ∀ (agents : List Agent) (summary : SyncSummary),
      Does (σ := σ) settings (reconcileAll settings agents summary)
        (Tunnels.reconcileAll settings agents summary) := by
    intro agents
    induction agents with
    | nil => intro summary; exact does_pure summary
    | cons agent rest ih =>
        intro summary
        exact does_bind (does_reconcile settings agent summary) fun counted => ih counted
  exact hall topology.agents {}

/-! ## §5. Networks. -/

/-- What is issued is remembered and ends with a rebuild, and the tunnels stay. -/
def LeavesTunnels {α : Type} (settings : MeshSettings) (op : Operation (Mesh (FlowSwitch σ)) α) :
    Prop :=
  ∀ mesh, ∃ log, Heard mesh.host.switch log (op mesh).2.host.switch ∧
    (op mesh).2.tunnels = mesh.tunnels ∧ Concluded settings mesh (op mesh).2 log

/-- **Activating a network.** -/
theorem leavesTunnels_addNetwork (settings : MeshSettings) (net : Network) :
    LeavesTunnels (σ := σ) settings (addNetwork settings net) := by
  intro mesh
  cases hany : mesh.networks.any (·.collidesWith net) with
  | true =>
      rw [addNetwork_collides hany]
      exact ⟨[], .nil _, rfl, .idle rfl rfl⟩
  | false =>
      obtain ⟨summary, mesh', hrebuild, hadd⟩ := addNetwork_rebuilds settings hany
      obtain ⟨log, hheard, hconcluded⟩ := concluded_rebuild mesh hrebuild (.nil _)
      obtain ⟨hports, hofports, -⟩ := ports_of_rebuild hrebuild
      rw [hadd]
      refine ⟨log, hheard, ?_, hconcluded⟩
      show (⟨mesh'.ports, mesh'.ofports⟩ : Tunnels) = _
      rw [hports, hofports]
      rfl

/-- **Deactivating a network.** -/
theorem leavesTunnels_removeNetwork (settings : MeshSettings) (id : String) :
    LeavesTunnels (σ := σ) settings (removeNetwork settings id) := by
  intro mesh
  cases hany : mesh.networks.any (·.id == id) with
  | false =>
      rw [removeNetwork_absent hany]
      exact ⟨[], .nil _, rfl, .idle rfl rfl⟩
  | true =>
      obtain ⟨summary, mesh', hrebuild, hremove⟩ := removeNetwork_rebuilds settings hany
      obtain ⟨log, hheard, hconcluded⟩ := concluded_rebuild mesh hrebuild (.nil _)
      obtain ⟨hports, hofports, -⟩ := ports_of_rebuild hrebuild
      rw [hremove]
      refine ⟨log, hheard, ?_, hconcluded⟩
      show (⟨mesh'.ports, mesh'.ofports⟩ : Tunnels) = _
      rw [hports, hofports]
      rfl

end Mesh

end VxlanMesh
