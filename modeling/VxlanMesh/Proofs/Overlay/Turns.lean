/-
  VxlanMesh.Proofs.Overlay.Turns
  ────────────────────────────────
  **IN A PASS THE FAILURE OF ONE PEER STAYS WITH THAT PEER.**

  A `Turn` is what one agent of a snapshot finds when it is dealt with, and
  what the switch answers meanwhile.  Which record the agent has after the
  pass, and how it is counted, is read off its own turn (`Turn.decision`),
  whatever becomes of the agents before and after it.  In particular a
  tunnel that could be deleted but not made anew is left unlinked, which
  the next pass takes for one that is still to be made.

      Tried            what is remembered of a command with its attempts
      Turn.decision    what the commands of a turn decide
      decides_attend   a turn leaves what it decides
      sync_isolates    the main result
-/
import VxlanMesh.Proofs.Overlay.Unhindered

namespace VxlanMesh

open FlowSwitch (Heard)

/-! ## §1. A command and its attempts. -/

/-- **What is remembered of a command about a port**: attempts that all failed, or one that
succeeded after some that failed, and what was issued then, which is about no port. -/
inductive SwitchSettings.Tried (settings : SwitchSettings) (command : SwitchCommand) :
    List (SwitchCommand × Bool) → Bool → Prop
  | gaveUp : Tried settings command
      (List.replicate (max settings.commandAttempts 1) (command, false)) false
  | succeeded (failures : Nat) {final : List (SwitchCommand × Bool)}
      (hfinal : ∀ entry ∈ final, entry.1.changesPort = false) : Tried settings command
      (List.replicate failures (command, false) ++ (command, true) :: final) true

namespace SwitchSettings.Tried

variable {settings : SwitchSettings} {command : SwitchCommand} {log : List (SwitchCommand × Bool)}
  {ok : Bool}

theorem succeeds_iff (h : settings.Tried command log ok) : (command, true) ∈ log ↔ ok = true := by
  cases h with
  | gaveUp => simp
  | succeeded failures hfinal => simp

theorem command_eq (h : settings.Tried command log ok) {entry : SwitchCommand × Bool}
    (hentry : entry ∈ log) (hport : entry.1.changesPort = true) : entry.1 = command := by
  cases h with
  | gaveUp => rw [List.eq_of_mem_replicate hentry]
  | succeeded failures hfinal =>
      rcases List.mem_append.1 hentry with hfailed | hlater
      · rw [List.eq_of_mem_replicate hfailed]
      · rcases List.mem_cons.1 hlater with rfl | hmem
        · rfl
        · rw [hfinal entry hmem] at hport
          exact nomatch hport

theorem gaveUp_of_failed (h : settings.Tried command log false) : settings.GaveUp log command := by
  cases h
  exact List.infix_rfl

end SwitchSettings.Tried

/-- A rebuild is about no port. -/
theorem SwitchSettings.changesPort_of_mem_rebuildCommands {settings : SwitchSettings}
    {networks : List Network} {ports : List TunnelPort} {command : SwitchCommand}
    (h : command ∈ settings.rebuildCommands networks ports) : command.changesPort = false := by
  rcases List.mem_cons.1 h with rfl | h
  · rfl
  · rcases List.mem_cons.1 h with rfl | h
    · rfl
    · obtain ⟨flow, -, rfl⟩ := List.mem_map.1 h
      rfl

variable {σ : Type} [CommandRunner σ]

namespace Mesh

variable {settings : MeshSettings}

/-- A command that is given up. -/
theorem tried_issue_failed {command : SwitchCommand} (mesh : Mesh (FlowSwitch σ))
    {mesh' : Mesh (FlowSwitch σ)} {e : OverlayError} (h : mesh.host.clock.deadline = none)
    (hissue : issueWithRetry settings command mesh = (.failed e, mesh')) :
    ∃ log, Heard mesh.host.switch log mesh'.host.switch ∧
      settings.switch.Tried command log false := by
  rcases issueWithRetry_answers mesh h hissue with ⟨-, hheard⟩ | ⟨⟨text, hdone⟩, -⟩
  · exact ⟨_, hheard, .gaveUp⟩
  · exact nomatch hdone

/-- A command that is done, and the rebuild after it. -/
theorem tried_issue_rebuild {command : SwitchCommand} (mesh : Mesh (FlowSwitch σ))
    {mesh₁ mesh₂ mesh' : Mesh (FlowSwitch σ)} {text : String} {summary : RebuildSummary}
    (h : mesh.host.clock.deadline = none)
    (hissue : issueWithRetry settings command mesh = (.done text, mesh₁))
    (hrebuild : rebuild settings mesh₂ = (.done summary, mesh'))
    (hhost : mesh₂.host = mesh₁.host) :
    ∃ log, Heard mesh.host.switch log mesh'.host.switch ∧
      settings.switch.Tried command log true := by
  rcases issueWithRetry_answers mesh h hissue with ⟨⟨e, hfailed⟩, -⟩ | ⟨-, failures, hissued⟩
  · exact nomatch hfailed
  · obtain ⟨final, hfinal, hcommands⟩ := rebuild_heard settings hrebuild
    rw [hhost] at hfinal
    have hheard := hissued.append hfinal
    rw [List.append_assoc] at hheard
    refine ⟨_, hheard, .succeeded failures fun entry hentry => ?_⟩
    have hmem : entry.1 ∈ settings.switch.rebuildCommands mesh'.networks mesh'.ports := by
      rw [← hcommands]
      exact List.mem_map_of_mem hentry
    exact SwitchSettings.changesPort_of_mem_rebuildCommands hmem

/-! ## §2. Turns. -/

/-- The command that makes a tunnel port to an agent. -/
def addition (settings : MeshSettings) (agent : Agent) (ofport : Nat) : SwitchCommand :=
  .addVxlanPort settings.switch.tunnelBridge (vxlanPort settings ofport agent)

/-- The command that deletes the tunnel port with a number. -/
def deletion (settings : MeshSettings) (ofport : Nat) : SwitchCommand :=
  .deletePort settings.switch.tunnelBridge (tunnelPortName ofport)

/-- How a turn is counted. -/
inductive TurnEnding where
  | idle
  | linked
  | unlinked
  | failed
  deriving Repr, DecidableEq

/-- One agent's turn: the record of the agent and the numbers in use when it comes, and what
the switch answers in it. -/
structure Turn where
  agent : Agent
  record : Option TunnelPort
  ofports : IdSpace
  log : List (SwitchCommand × Bool)

namespace Turn

/-- A tunnel is to be made where these numbers are in use; otherwise this record stays. -/
def making (settings : MeshSettings) (turn : Turn) (ofports : IdSpace)
    (otherwise : Option TunnelPort) : Option TunnelPort × TurnEnding :=
  match ofports.allocate.1 with
  | .error _ => (otherwise, .failed)
  | .ok ofport =>
      if (addition settings turn.agent ofport, true) ∈ turn.log then
        (some (.linked ofport turn.agent), .linked)
      else (otherwise, .failed)

/-- A tunnel is to be deleted first. -/
def unmaking (settings : MeshSettings) (turn : Turn) (ofport : Nat)
    (next : Option TunnelPort × TurnEnding) : Option TunnelPort × TurnEnding :=
  if (deletion settings ofport, true) ∈ turn.log then next else (turn.record, .failed)

/-- **What the commands of a turn decide**: the agent's record then, and how the turn is
counted. -/
def decision (settings : MeshSettings) (turn : Turn) : Option TunnelPort × TurnEnding :=
  if turn.agent.ip = settings.selfIp then (turn.record, .idle)
  else
    match turn.agent.status, turn.record with
    | .ready, some (.linked ofport known) =>
        if known.ip = turn.agent.ip then (turn.record, .idle)
        -- The record keeps the old address until there is a tunnel to the new one.
        else turn.unmaking settings ofport <| turn.making settings (turn.ofports.release ofport)
          (some (.unlinked { known with status := .ready }))
    | .ready, _ => turn.making settings turn.ofports turn.record
    | .down, some (.linked ofport known) =>
        turn.unmaking settings ofport (some (.unlinked { known with status := .down }), .unlinked)
    | _, _ => (turn.record, .idle)

/-- The commands about ports that are a turn's own. -/
def Asks (settings : MeshSettings) (turn : Turn) (command : SwitchCommand) : Prop :=
  (∃ ofport known, turn.record = some (.linked ofport known) ∧ command = deletion settings ofport) ∨
    ∃ ofport, command = addition settings turn.agent ofport

/-- **What stands behind the end of a turn.**  Where nothing is wanted nothing is issued; a new
tunnel has a number that was free, or that of the tunnel before; and a failure is that of one of
the turn's own commands, which is given up, unless no number is left. -/
def Warrants (settings : MeshSettings) (turn : Turn) : Option TunnelPort × TurnEnding → Prop
  | (_, .idle) => turn.log = []
  | (record, .linked) => ∃ ofport, record = some (.linked ofport turn.agent) ∧
      (turn.ofports.isAllocated ofport = false ∨
        ∃ known, turn.record = some (.linked ofport known))
  | (record, .unlinked) => ∃ ofport known, turn.record = some (.linked ofport known) ∧
      record = some (.unlinked { known with status := turn.agent.status })
  | (_, .failed) =>
      (∃ command, turn.Asks settings command ∧ settings.switch.GaveUp turn.log command) ∨
        (∃ e, turn.ofports.allocate.1 = .error e) ∧ turn.log = []

/-- A pass with this turn in it leaves what the turn decides. -/
structure Settled (settings : MeshSettings) (before after : List TunnelPort) (turn : Turn) :
    Prop where
  /-- The turn finds the record that the agent had before the pass, -/
  found : turn.record = portOf before turn.agent.id
  /-- and after the pass the agent has the record that is decided in it. -/
  left : portOf after turn.agent.id = (turn.decision settings).1
  /-- Its commands about ports are its own. -/
  own : ∀ entry ∈ turn.log, entry.1.changesPort = true → turn.Asks settings entry.1
  warranted : turn.Warrants settings (turn.decision settings)

end Turn

/-- Count a turn. -/
def TurnEnding.countedIn (summary : SyncSummary) : TurnEnding → SyncSummary
  | .idle => summary
  | .linked => { summary with linked := summary.linked + 1 }
  | .unlinked => { summary with unlinked := summary.unlinked + 1 }
  | .failed => { summary with failed := summary.failed + 1 }

/-- An agent's turn in which the switch answers this. -/
def turnIn (mesh : Mesh σ) (agent : Agent) (log : List (SwitchCommand × Bool)) : Turn where
  agent := agent
  record := portOf mesh.ports agent.id
  ofports := mesh.ofports
  log := log

/-- The turns of some agents, one after the other. -/
def turnsOf (settings : MeshSettings) : List Agent → Mesh (FlowSwitch σ) → List Turn
  | [], _ => []
  | agent :: rest, mesh =>
      let mesh' := (reconcile settings agent {} mesh).2
      turnIn mesh agent (FlowSwitch.since mesh.host.switch mesh'.host.switch) ::
        turnsOf settings rest mesh'

/-! ## §3. What a tunnel's commands do. -/

section
variable (settings) (agent : Agent) (mesh : Mesh (FlowSwitch σ))

/-- **A tunnel that is to be made under a number**: the command that makes the port decides. -/
structure Creates (ofport : Nat) (log : List (SwitchCommand × Bool)) (ok : Bool) : Prop where
  tried : settings.switch.Tried (addition settings agent ofport) log ok
  heard : Heard mesh.host.switch log (createLink settings agent mesh).2.host.switch
  done : ok = true → (createLink settings agent mesh).1 = .done () ∧
    portOf (createLink settings agent mesh).2.ports agent.id = some (.linked ofport agent)
  failed : ok = false → (∃ e, (createLink settings agent mesh).1 = .failed e) ∧
    (createLink settings agent mesh).2.ports = mesh.ports

/-- **A tunnel that is to be deleted**: the command that deletes the port decides. -/
structure Deletes (ofport : Nat) (known : Agent) (log : List (SwitchCommand × Bool)) (ok : Bool) :
    Prop where
  tried : settings.switch.Tried (deletion settings ofport) log ok
  heard : Heard mesh.host.switch log (deleteLink settings agent mesh).2.host.switch
  done : ok = true → (deleteLink settings agent mesh).1 = .done () ∧
    portOf (deleteLink settings agent mesh).2.ports agent.id
        = some (.unlinked { known with status := agent.status }) ∧
      (deleteLink settings agent mesh).2.ofports = mesh.ofports.release ofport
  failed : ok = false → (∃ e, (deleteLink settings agent mesh).1 = .failed e) ∧
    (deleteLink settings agent mesh).2.ports = mesh.ports

variable {mesh}

theorem createLink_creates (h : Steady mesh) :
    (∃ e, mesh.ofports.allocate.1 = .error e ∧
      createLink settings agent mesh = (.failed e, mesh)) ∨
    ∃ ofport later log ok, mesh.ofports.allocate = (.ok ofport, later) ∧
      Creates settings agent mesh ofport log ok := by
  have hends := createLink_ends settings agent mesh
  generalize hmade : createLink settings agent mesh = made at hends
  cases hends with
  | exhausted htake => exact .inl ⟨_, congrArg Prod.fst htake, rfl⟩
  | abandoned htake hissue => exact absurd rfl (issueWithRetry_ends hissue h.unhurried).1
  | @refused ofport ofports e host htake hissue =>
      obtain ⟨log, hheard, htried⟩ := tried_issue_failed { mesh with ofports } h.unhurried hissue
      refine .inr ⟨ofport, ofports, log, false, htake, htried, ?_, nofun, fun _ => ?_⟩
      · rw [hmade]
        exact hheard
      · rw [hmade]
        exact ⟨⟨e, rfl⟩, rfl⟩
  | @linked ofport ofports text host summary mesh' htake hissue hrebuild =>
      obtain ⟨log, hheard, htried⟩ := tried_issue_rebuild { mesh with ofports } h.unhurried hissue
        hrebuild rfl
      refine .inr ⟨ofport, ofports, log, true, htake, htried, ?_, fun _ => ?_, nofun⟩
      · rw [hmade]
        exact hheard
      · rw [hmade, (ports_of_rebuild hrebuild).1]
        exact ⟨rfl, portOf_putPort (.linked ofport agent) mesh.ports⟩

theorem deleteLink_deletes (h : Steady mesh) {ofport : Nat} {known : Agent}
    (hport : portOf mesh.ports agent.id = some (.linked ofport known)) :
    ∃ log ok, Deletes settings agent mesh ofport known log ok := by
  have hends := deleteLink_ends settings agent mesh
  generalize hunmade : deleteLink settings agent mesh = unmade at hends
  cases hends with
  | idle hidle => exact absurd hport (hidle ofport known)
  | abandoned hport' hissue => exact absurd rfl (issueWithRetry_ends hissue h.unhurried).1
  | @refused ofport' known' e host hport' hissue =>
      cases hport.symm.trans hport'
      obtain ⟨log, hheard, htried⟩ := tried_issue_failed mesh h.unhurried hissue
      refine ⟨log, false, htried, ?_, nofun, fun _ => ?_⟩
      · rw [hunmade]
        exact hheard
      · rw [hunmade]
        exact ⟨⟨e, rfl⟩, rfl⟩
  | @unlinked ofport' known' text host summary mesh' hport' hissue hrebuild =>
      cases hport.symm.trans hport'
      obtain ⟨log, hheard, htried⟩ := tried_issue_rebuild mesh h.unhurried hissue hrebuild rfl
      obtain ⟨hports, hofports, -⟩ := ports_of_rebuild hrebuild
      have hid : agent.id = known.id := (peerId_of_portOf hport).symm
      refine ⟨log, true, htried, ?_, fun _ => ?_, nofun⟩
      · rw [hunmade]
        exact hheard
      · rw [hunmade, hports, hid]
        exact ⟨rfl, portOf_putPort (.unlinked { known with status := agent.status }) mesh.ports,
          hofports⟩

end

/-! ## §4. What a turn decides. -/

namespace Turn

section
variable {settings : MeshSettings} (turn : Turn)

theorem unmaking_eq {ofport : Nat} {ok : Bool}
    (h : (deletion settings ofport, true) ∈ turn.log ↔ ok = true)
    (next : Option TunnelPort × TurnEnding) :
    turn.unmaking settings ofport next = if ok then next else (turn.record, .failed) :=
  if_congr h rfl rfl

theorem making_exhausted {ofports : IdSpace} {e : OverlayError}
    (h : ofports.allocate.1 = .error e) (otherwise : Option TunnelPort) :
    turn.making settings ofports otherwise = (otherwise, .failed) := by
  rw [making, h]

theorem making_eq {ofports later : IdSpace} {ofport : Nat} {ok : Bool}
    (htake : ofports.allocate = (.ok ofport, later))
    (h : (addition settings turn.agent ofport, true) ∈ turn.log ↔ ok = true)
    (otherwise : Option TunnelPort) : turn.making settings ofports otherwise
      = if ok then (some (.linked ofport turn.agent), .linked) else (otherwise, .failed) := by
  rw [making, htake]
  exact if_congr h rfl rfl

end

end Turn

omit [CommandRunner σ] in
/-- **What is wanted in a turn, and what decides it.** -/
theorem decision_cases (settings : MeshSettings) (mesh : Mesh σ) (agent : Agent) :
    (changeWanted settings mesh.ports agent = .keep ∧ ∀ log,
        (turnIn mesh agent log).decision settings = (portOf mesh.ports agent.id, .idle)) ∨
      (changeWanted settings mesh.ports agent = .link ∧ ∀ log,
        (turnIn mesh agent log).decision settings
          = (turnIn mesh agent log).making settings mesh.ofports (portOf mesh.ports agent.id)) ∨
      ∃ ofport known, portOf mesh.ports agent.id = some (.linked ofport known) ∧
        ((changeWanted settings mesh.ports agent = .relink ∧ agent.status = .ready ∧ ∀ log,
            (turnIn mesh agent log).decision settings
              = (turnIn mesh agent log).unmaking settings ofport
                ((turnIn mesh agent log).making settings (mesh.ofports.release ofport)
                  (some (.unlinked { known with status := .ready })))) ∨
          changeWanted settings mesh.ports agent = .unlink ∧ agent.status = .down ∧ ∀ log,
            (turnIn mesh agent log).decision settings
              = (turnIn mesh agent log).unmaking settings ofport
                (some (.unlinked { known with status := .down }), .unlinked)) := by
  by_cases hself : agent.ip = settings.selfIp
  · exact .inl ⟨if_pos hself, fun log => if_pos hself⟩
  · simp only [Turn.decision, changeWanted, turnIn]
    rcases portOf mesh.ports agent.id with _ | ⟨ofport, known⟩ | known <;>
      cases hstatus : agent.status <;> simp [changeFor, hstatus, hself]
    by_cases hip : known.ip = agent.ip <;> simp [hip]

/-- **An agent's turn leaves what its own log decides**, and is counted so. -/
structure Decides (settings : MeshSettings) (mesh : Mesh (FlowSwitch σ)) (agent : Agent)
    (log : List (SwitchCommand × Bool)) : Prop where
  heard : Heard mesh.host.switch log (attend settings mesh agent).host.switch
  /-- All commands about ports are the turn's own. -/
  own : ∀ entry ∈ log, entry.1.changesPort = true → (turnIn mesh agent log).Asks settings entry.1
  record : portOf (attend settings mesh agent).ports agent.id
    = ((turnIn mesh agent log).decision settings).1
  counted : ∀ summary, countTurn summary (changeWanted settings mesh.ports agent)
      ((changeWanted settings mesh.ports agent).run settings agent mesh).1
    = ((turnIn mesh agent log).decision settings).2.countedIn summary
  warranted : (turnIn mesh agent log).Warrants settings ((turnIn mesh agent log).decision settings)

section
variable {agent : Agent} {mesh : Mesh (FlowSwitch σ)}

/-- Where a turn's decision is known. -/
theorem decides_of_eq {change : PeerChange} {outcome : Outcome Unit}
    {mesh' : Mesh (FlowSwitch σ)} {log : List (SwitchCommand × Bool)}
    {decision : Option TunnelPort × TurnEnding}
    (hwanted : changeWanted settings mesh.ports agent = change)
    (hrun : change.run settings agent mesh = (outcome, mesh'))
    (hheard : Heard mesh.host.switch log mesh'.host.switch)
    (hown : ∀ entry ∈ log, entry.1.changesPort = true →
      (turnIn mesh agent log).Asks settings entry.1)
    (hdecision : (turnIn mesh agent log).decision settings = decision)
    (hrecord : portOf mesh'.ports agent.id = decision.1)
    (hcounted : ∀ summary, countTurn summary change outcome = decision.2.countedIn summary)
    (hwarranted : (turnIn mesh agent log).Warrants settings decision) :
    Decides settings mesh agent log := by
  subst hwanted
  have hattend : attend settings mesh agent = mesh' := congrArg Prod.snd hrun
  refine ⟨?_, hown, ?_, fun summary => ?_, ?_⟩
  · rw [hattend]
    exact hheard
  · rw [hattend, hdecision]
    exact hrecord
  · rw [hrun, hdecision]
    exact hcounted summary
  · rw [hdecision]
    exact hwarranted

/-- A new tunnel. -/
theorem decides_link (h : Steady mesh) (hwanted : changeWanted settings mesh.ports agent = .link)
    (hdecision : ∀ log, (turnIn mesh agent log).decision settings
      = (turnIn mesh agent log).making settings mesh.ofports (portOf mesh.ports agent.id)) :
    ∃ log, Decides settings mesh agent log := by
  rcases createLink_creates settings agent h with
    ⟨e, htake, hcreate⟩ | ⟨ofport, later, log, ok, htake, hcreates⟩
  · exact ⟨[], decides_of_eq hwanted hcreate (.nil _) nofun
      ((hdecision []).trans (Turn.making_exhausted _ htake _)) rfl (fun _ => rfl)
      (.inr ⟨⟨e, htake⟩, rfl⟩)⟩
  · have hown : ∀ entry ∈ log, entry.1.changesPort = true →
        (turnIn mesh agent log).Asks settings entry.1 := fun entry hentry hport =>
      .inr ⟨ofport, hcreates.tried.command_eq hentry hport⟩
    have hmaking := (hdecision log).trans
      (Turn.making_eq (turnIn mesh agent log) htake hcreates.tried.succeeds_iff _)
    refine ⟨log, ?_⟩
    cases ok with
    | true =>
        obtain ⟨hdone, hport⟩ := hcreates.done rfl
        exact decides_of_eq hwanted (Prod.ext hdone rfl) hcreates.heard hown hmaking hport
          (fun _ => rfl) ⟨ofport, rfl, .inl (IdSpace.isAllocated_of_allocate htake)⟩
    | false =>
        obtain ⟨⟨e, hends⟩, hports⟩ := hcreates.failed rfl
        exact decides_of_eq hwanted (Prod.ext hends rfl) hcreates.heard hown hmaking
          (congrArg (portOf · agent.id) hports) (fun _ => rfl)
          (.inl ⟨_, .inr ⟨ofport, rfl⟩, hcreates.tried.gaveUp_of_failed⟩)

/-- A tunnel that is to go, or to be made anew, and cannot be deleted. -/
theorem decides_undeleted {change : PeerChange} {e : OverlayError} {ofport : Nat} {known : Agent}
    {log : List (SwitchCommand × Bool)}
    (hport : portOf mesh.ports agent.id = some (.linked ofport known))
    (hwanted : changeWanted settings mesh.ports agent = change)
    (hrun : change.run settings agent mesh = (.failed e, (deleteLink settings agent mesh).2))
    (hdeletes : Deletes settings agent mesh ofport known log false)
    (hdecision : ∃ next, (turnIn mesh agent log).decision settings
      = (turnIn mesh agent log).unmaking settings ofport next) :
    Decides settings mesh agent log := by
  obtain ⟨next, hdecision⟩ := hdecision
  have hkept := Turn.unmaking_eq (turnIn mesh agent log) hdeletes.tried.succeeds_iff next
  refine decides_of_eq hwanted hrun hdeletes.heard (fun entry hentry hchanges => ?_)
    (hdecision.trans hkept) (congrArg (portOf · agent.id) (hdeletes.failed rfl).2) (fun _ => rfl)
    (.inl ⟨_, .inl ⟨ofport, known, hport, rfl⟩, hdeletes.tried.gaveUp_of_failed⟩)
  exact .inl ⟨ofport, known, hport, hdeletes.tried.command_eq hentry hchanges⟩

/-- A tunnel to an agent that is down. -/
theorem decides_unlink (h : Steady mesh) {ofport : Nat} {known : Agent}
    (hport : portOf mesh.ports agent.id = some (.linked ofport known))
    (hwanted : changeWanted settings mesh.ports agent = .unlink) (hdown : agent.status = .down)
    (hdecision : ∀ log, (turnIn mesh agent log).decision settings
      = (turnIn mesh agent log).unmaking settings ofport
          (some (.unlinked { known with status := .down }), .unlinked)) :
    ∃ log, Decides settings mesh agent log := by
  obtain ⟨log, ok, hdeletes⟩ := deleteLink_deletes settings agent h hport
  refine ⟨log, ?_⟩
  cases ok with
  | false =>
      obtain ⟨e, hends⟩ := (hdeletes.failed rfl).1
      exact decides_undeleted hport hwanted (Prod.ext hends rfl) hdeletes ⟨_, hdecision log⟩
  | true =>
      obtain ⟨hdone, hrecord, -⟩ := hdeletes.done rfl
      rw [hdown] at hrecord
      have hunmade := Turn.unmaking_eq (turnIn mesh agent log) hdeletes.tried.succeeds_iff
        (some (.unlinked { known with status := .down }), .unlinked)
      refine decides_of_eq hwanted (Prod.ext hdone rfl) hdeletes.heard
        (fun entry hentry hchanges => ?_) ((hdecision log).trans hunmade) hrecord (fun _ => rfl)
        ⟨ofport, known, hport, ?_⟩
      · exact .inl ⟨ofport, known, hport, hdeletes.tried.command_eq hentry hchanges⟩
      · rw [show (turnIn mesh agent log).agent.status = .down from hdown]

/-- A tunnel that was deleted and is to be made anew. -/
theorem decides_remade {ofport newOfport : Nat} {known : Agent} {later : IdSpace}
    {mesh₁ : Mesh (FlowSwitch σ)} {log₁ log₂ : List (SwitchCommand × Bool)} {ok : Bool}
    (hport : portOf mesh.ports agent.id = some (.linked ofport known))
    (hwanted : changeWanted settings mesh.ports agent = .relink)
    (hrun : PeerChange.relink.run settings agent mesh = createLink settings agent mesh₁)
    (hdeleted : settings.switch.Tried (deletion settings ofport) log₁ true)
    (hheard : Heard mesh.host.switch log₁ mesh₁.host.switch)
    (hrecord : portOf mesh₁.ports agent.id = some (.unlinked { known with status := .ready }))
    (htake : (mesh.ofports.release ofport).allocate = (.ok newOfport, later))
    (hcreates : Creates settings agent mesh₁ newOfport log₂ ok)
    (hdecision : ∀ log, (turnIn mesh agent log).decision settings
      = (turnIn mesh agent log).unmaking settings ofport
          ((turnIn mesh agent log).making settings (mesh.ofports.release ofport)
            (some (.unlinked { known with status := .ready })))) :
    Decides settings mesh agent (log₁ ++ log₂) := by
  have hdeletion : (deletion settings ofport, true) ∈ log₁ ++ log₂ :=
    List.mem_append_left log₂ (hdeleted.succeeds_iff.2 rfl)
  -- What deletes the old port makes no new one.
  have haddition : (addition settings agent newOfport, true) ∈ log₁ ++ log₂ ↔ ok = true := by
    rw [List.mem_append, hcreates.tried.succeeds_iff]
    exact or_iff_right fun hmem => nomatch hdeleted.command_eq hmem rfl
  have hown : ∀ entry ∈ log₁ ++ log₂, entry.1.changesPort = true →
      (turnIn mesh agent (log₁ ++ log₂)).Asks settings entry.1 := by
    intro entry hentry hchanges
    rcases List.mem_append.1 hentry with hmem | hmem
    · exact .inl ⟨ofport, known, hport, hdeleted.command_eq hmem hchanges⟩
    · exact .inr ⟨newOfport, hcreates.tried.command_eq hmem hchanges⟩
  have hunmade := Turn.unmaking_eq (turnIn mesh agent (log₁ ++ log₂)) (iff_of_true hdeletion rfl)
    ((turnIn mesh agent (log₁ ++ log₂)).making settings (mesh.ofports.release ofport)
      (some (.unlinked { known with status := .ready })))
  have hmaking := ((hdecision (log₁ ++ log₂)).trans hunmade).trans
    (Turn.making_eq (turnIn mesh agent (log₁ ++ log₂)) htake haddition _)
  have hlog := hheard.append hcreates.heard
  cases ok with
  | true =>
      obtain ⟨hdone, hlinked⟩ := hcreates.done rfl
      refine decides_of_eq hwanted (hrun.trans (Prod.ext hdone rfl)) hlog hown hmaking hlinked
        (fun _ => rfl) ⟨newOfport, rfl, ?_⟩
      have hfree := IdSpace.isAllocated_of_allocate htake
      rw [IdSpace.isAllocated_release, Bool.and_eq_false_iff, bne_eq_false_iff_eq] at hfree
      rcases hfree with rfl | hfree
      · exact .inr ⟨known, hport⟩
      · exact .inl hfree
  | false =>
      obtain ⟨⟨e, hends⟩, hports⟩ := hcreates.failed rfl
      rw [← hports] at hrecord
      refine decides_of_eq hwanted (hrun.trans (Prod.ext hends rfl)) hlog hown hmaking hrecord
        (fun _ => rfl) (.inl ⟨_, .inr ⟨newOfport, rfl⟩, ?_⟩)
      exact hcreates.tried.gaveUp_of_failed.trans (List.suffix_append log₁ log₂).isInfix

/-- A tunnel that is to lead to another address.  Once the old port is deleted there is a number
for the new one, at least the old one. -/
theorem decides_relink (h : Steady mesh) {ofport : Nat} {known : Agent}
    (hport : portOf mesh.ports agent.id = some (.linked ofport known))
    (hwanted : changeWanted settings mesh.ports agent = .relink) (hready : agent.status = .ready)
    (hdecision : ∀ log, (turnIn mesh agent log).decision settings
      = (turnIn mesh agent log).unmaking settings ofport
          ((turnIn mesh agent log).making settings (mesh.ofports.release ofport)
            (some (.unlinked { known with status := .ready })))) :
    ∃ log, Decides settings mesh agent log := by
  obtain ⟨log₁, ok₁, hdeletes⟩ := deleteLink_deletes settings agent h hport
  cases ok₁ with
  | false =>
      obtain ⟨e, hends⟩ := (hdeletes.failed rfl).1
      exact ⟨log₁, decides_undeleted hport hwanted (Operation.bind_failed (Prod.ext hends rfl))
        hdeletes ⟨_, hdecision log₁⟩⟩
  | true =>
      obtain ⟨hdone, hrecord, hofports⟩ := hdeletes.done rfl
      rw [hready] at hrecord
      have hsteady : Steady (deleteLink settings agent mesh).2 :=
        (completes_deleteLink settings agent mesh h).2
      have hrun : PeerChange.relink.run settings agent mesh
          = createLink settings agent (deleteLink settings agent mesh).2 :=
        Operation.bind_done (Prod.ext hdone rfl)
      have hnumber : (mesh.ofports.release ofport).allocate.1.isOk = true := by
        refine allocate_isOk_of_free ofport ?_ (h.reusable ofport ?_)
        · rw [IdSpace.isAllocated_release, bne_self_eq_false, Bool.false_and]
        · exact List.mem_filterMap.2 ⟨_, List.mem_of_find?_eq_some hport, rfl⟩
      have hends := createLink_creates settings agent hsteady
      rw [hofports] at hends
      rcases hends with ⟨e, htake, -⟩ | ⟨newOfport, later, log₂, ok₂, htake, hcreates⟩
      · rw [htake] at hnumber
        exact nomatch hnumber
      · exact ⟨_, decides_remade hport hwanted hrun hdeletes.tried hdeletes.heard hrecord htake
          hcreates hdecision⟩

/-- **A turn leaves what its own commands decide.** -/
theorem decides_attend (settings : MeshSettings) (agent : Agent) (h : Steady mesh) :
    ∃ log, Decides settings mesh agent log := by
  rcases decision_cases settings mesh agent with ⟨hwanted, hdecision⟩ | ⟨hwanted, hdecision⟩ |
    ⟨ofport, known, hport, ⟨hwanted, hready, hdecision⟩ | ⟨hwanted, hdown, hdecision⟩⟩
  · exact ⟨[], decides_of_eq hwanted rfl (.nil _) nofun (hdecision []) rfl (fun _ => rfl) rfl⟩
  · exact decides_link h hwanted hdecision
  · exact decides_relink h hport hwanted hready hdecision
  · exact decides_unlink h hport hwanted hdown hdecision

end

/-! ## §5. A pass. -/

/-- Counting turns. -/
theorem foldl_countedIn (endings : List TurnEnding) (summary : SyncSummary) :
    endings.foldl TurnEnding.countedIn summary = {
      linked := summary.linked + endings.count .linked
      unlinked := summary.unlinked + endings.count .unlinked
      failed := summary.failed + endings.count .failed } := by
  induction endings generalizing summary with
  | nil => rfl
  | cons ending rest ih =>
      rw [List.foldl_cons, ih]
      cases ending <;> simp [TurnEnding.countedIn] <;> omega

theorem agents_turnsOf (settings : MeshSettings) (agents : List Agent) :
    ∀ mesh : Mesh (FlowSwitch σ), (turnsOf settings agents mesh).map Turn.agent = agents := by
  induction agents with
  | nil => exact fun mesh => rfl
  | cons agent rest ih => exact fun mesh => congrArg (agent :: ·) (ih _)

/-- **A pass is one turn after the other**, each of which decides its own agent's record and
no other. -/
theorem reconcileAll_turns (settings : MeshSettings) {agents : List Agent} :
    ∀ {mesh : Mesh (FlowSwitch σ)} (summary : SyncSummary), Steady mesh →
      (agents.map Agent.id).Nodup →
      let turns := turnsOf settings agents mesh
      let mesh' := agents.foldl (attend settings) mesh
      reconcileAll settings agents summary mesh = (.done (((turns.map fun turn =>
          (turn.decision settings).2).foldl TurnEnding.countedIn summary)), mesh') ∧
        Heard mesh.host.switch (turns.flatMap Turn.log) mesh'.host.switch ∧
        ∀ turn ∈ turns, turn.Settled settings mesh.ports mesh'.ports := by
  induction agents with
  | nil => exact fun summary _ _ => ⟨rfl, .nil _, nofun⟩
  | cons agent rest ih =>
      intro mesh summary hsteady hids
      obtain ⟨hnew, hrest⟩ := List.nodup_cons.1 hids
      obtain ⟨log, hdecides⟩ := decides_attend settings agent hsteady
      have hturn := reconcile_eq settings agent {} hsteady
      have hlog : FlowSwitch.since mesh.host.switch (attend settings mesh agent).host.switch
          = log := hdecides.heard.since_eq
      have hturns : turnsOf settings (agent :: rest) mesh
          = turnIn mesh agent log :: turnsOf settings rest (attend settings mesh agent) := by
        rw [turnsOf, hturn]
        dsimp only
        rw [hlog]
      obtain ⟨hpass, hheard, hall⟩ := ih (TurnEnding.countedIn summary
        ((turnIn mesh agent log).decision settings).2) (hsteady.attended agent) hrest
      dsimp only
      rw [hturns]
      refine ⟨?pass, hdecides.heard.append hheard, fun turn hmem => ?turn⟩
      case pass =>
        rw [reconcileAll, Operation.bind_done (reconcile_eq settings agent summary hsteady),
          hdecides.counted]
        exact hpass
      case turn =>
        rcases List.mem_cons.1 hmem with rfl | hlater
        -- The later turns are those of agents with other ids,
        · have hkept : portOf (rest.foldl (attend settings) (attend settings mesh agent)).ports
              agent.id = portOf (attend settings mesh agent).ports agent.id :=
            portOf_foldl_attend _ fun later hlater hid =>
              absurd (List.mem_map.2 ⟨later, hlater, hid⟩) hnew
          exact ⟨rfl, hkept.trans hdecides.record, hdecides.own, hdecides.warranted⟩
        -- and find the records of their agents as this one did.
        · have hagent : turn.agent ∈ rest := by
            rw [← agents_turnsOf settings rest (attend settings mesh agent)]
            exact List.mem_map_of_mem hlater
          have hother : turn.agent.id ≠ agent.id := fun hid =>
            hnew (hid ▸ List.mem_map_of_mem hagent)
          have hsettled := hall turn hlater
          exact { hsettled with
            found := hsettled.found.trans (portOf_attend settings agent mesh hother) }

/-- **In a pass the failure of one peer stays with that peer.**  An overlay began without
tunnels and has served any requests, and the switch answers each command as it likes.  A pass
over a snapshot that lists each agent once is always done.  Every agent has its turn, in the
order of the list, and in it the agent's own record is found as it was before the pass.  The
record that the agent has after the pass is the one that the turn's own commands decide; the
summary counts the turns by how they end; and no other record has changed. -/
theorem sync_isolates {settings : MeshSettings} {start : Mesh (FlowSwitch σ)}
    {requests : List Request} {topology : Topology} (hports : start.ports = [])
    (hclock : start.host.clock.deadline = none) (hids : (topology.agents.map Agent.id).Nodup) :
    let mesh := requests.foldl (serve settings) start
    let turns := turnsOf settings topology.agents mesh
    let endings := turns.map fun turn => (turn.decision settings).2
    turns.map Turn.agent = topology.agents ∧ ∃ mesh',
      sync settings topology mesh = (.done {
        linked := endings.count .linked
        unlinked := endings.count .unlinked
        failed := endings.count .failed }, mesh') ∧
      Heard mesh.host.switch (turns.flatMap Turn.log) mesh'.host.switch ∧
      (∀ turn ∈ turns, turn.Settled settings mesh.ports mesh'.ports) ∧
      ∀ peer, (∀ agent ∈ topology.agents, agent.id = peer → agent.ip = settings.selfIp) →
        portOf mesh'.ports peer = portOf mesh.ports peer := by
  intro mesh turns endings
  have hsteady : Steady mesh := Steady.served ⟨hclock, by rw [hports]; exact nofun⟩
  obtain ⟨hpass, hheard, hsettled⟩ := reconcileAll_turns settings {} hsteady hids
  have hcounts := foldl_countedIn endings {}
  simp only [Nat.zero_add] at hcounts
  refine ⟨agents_turnsOf settings topology.agents mesh, _, ?_, hheard, hsettled,
    fun peer hpeer => portOf_foldl_attend mesh fun agent hagent hid =>
      .inl (hpeer agent hagent hid)⟩
  rw [← hcounts]
  exact hpass

/-- A switch that does three changes of tunnels and then refuses three commands. -/
def stubborn : FlowSwitch Faltering where
  control := { answers := List.replicate 36 true ++ [false, false, false] }
  tables := fun _ _ => []

/-- The far host has moved, another one is down, and one is new. -/
def scattered : Topology where
  agents := [{ farAgent with ip := "10.0.0.3" }, ⟨"other", "10.0.0.4", .down⟩,
    ⟨"new", "10.0.0.5", .ready⟩]

/-- The old port to the far host is deleted and none to its new address is made; the other two
turns do what they are to do. -/
theorem sync_isolates_scattered :
    let mesh := [Request.sync { agents := [farAgent, ⟨"other", "10.0.0.4", .ready⟩] }].foldl
      (serve nearHost) (untunneled [] stubborn 0)
    ∃ mesh', sync nearHost scattered mesh
        = (.done { linked := 1, unlinked := 1, failed := 1 }, mesh') ∧
      portOf mesh'.ports "far" = some (.unlinked farAgent) ∧
      portOf mesh'.ports "other" = some (.unlinked ⟨"other", "10.0.0.4", .down⟩) ∧
      portOf mesh'.ports "new" = some (.linked 2 ⟨"new", "10.0.0.5", .ready⟩) := by
  intro mesh
  have hdecisions : (turnsOf nearHost scattered.agents mesh).map
      (fun turn => (turn.agent.id, turn.decision nearHost))
        = [("far", some (.unlinked farAgent), .failed),
          ("other", some (.unlinked ⟨"other", "10.0.0.4", .down⟩), .unlinked),
          ("new", some (.linked 2 ⟨"new", "10.0.0.5", .ready⟩), .linked)] := by
    decide +kernel
  obtain ⟨-, mesh', hsync, -, hsettled, -⟩ := @sync_isolates Faltering _ nearHost
    (untunneled [] stubborn 0) [.sync { agents := [farAgent, ⟨"other", "10.0.0.4", .ready⟩] }]
    scattered rfl rfl (by decide)
  have hendings : ((turnsOf nearHost scattered.agents mesh).map
      fun turn => (turn.decision nearHost).2) = [.failed, .unlinked, .linked] := by
    have hmap := congrArg (List.map fun entry => entry.2.2) hdecisions
    rwa [List.map_map] at hmap
  have hrecord : ∀ entry ∈ (turnsOf nearHost scattered.agents mesh).map
      (fun turn => (turn.agent.id, turn.decision nearHost)),
        portOf mesh'.ports entry.1 = entry.2.1 := by
    intro entry hentry
    obtain ⟨turn, hturn, rfl⟩ := List.mem_map.1 hentry
    exact (hsettled turn hturn).left
  rw [hdecisions, List.forall_mem_cons, List.forall_mem_cons, List.forall_mem_singleton] at hrecord
  rw [hendings] at hsync
  exact ⟨mesh', hsync, hrecord⟩

end Mesh

end VxlanMesh
