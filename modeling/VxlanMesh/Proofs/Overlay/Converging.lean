/-
  VxlanMesh.Proofs.Overlay.Converging
  ────────────────────────────────
  **A PASS WHOSE PORT COMMANDS SUCCEED LEAVES NOTHING TO DO.**

  In a pass every agent has its turn.  What is wanted in it is read off
  the agent's own record, and what is done shows in no other record; so
  what a turn has settled, the turns after it leave settled.

  A command is given up after its last attempt.  That is seen in what the
  switch remembers: as many failures of the one command in a row.

      changeWanted        what a turn has to do
      reconcile_eq        a turn, and how it is counted
      run_settles         after a turn that succeeds nothing is wanted
      portOf_foldl_attend the records that a pass leaves alone
      sync_converges      the main result
-/
import Mathlib.Data.List.Nodup
import VxlanMesh.Proofs.Overlay.Rebuilding
import VxlanMesh.Proofs.Overlay.Tunnels

namespace VxlanMesh

open FlowSwitch (Heard)

/-! ## §1. Commands that are given up. -/

/-- The command makes or deletes a port. -/
def SwitchCommand.changesPort : SwitchCommand → Bool
  | .addVxlanPort _ _ | .deletePort _ _ => true
  | _ => false

namespace SwitchSettings

/-- All attempts at a command failed, one right after the other. -/
def GaveUp (settings : SwitchSettings) (log : List (SwitchCommand × Bool))
    (command : SwitchCommand) : Prop :=
  List.replicate (max settings.commandAttempts 1) (command, false) <:+: log

/-- No command that makes or deletes a port was given up. -/
def PortsHeeded (settings : SwitchSettings) (log : List (SwitchCommand × Bool)) : Prop :=
  ∀ command, command.changesPort = true → ¬ settings.GaveUp log command

variable {settings : SwitchSettings} {before after : List (SwitchCommand × Bool)}

theorem PortsHeeded.left (h : settings.PortsHeeded (before ++ after)) :
    settings.PortsHeeded before := fun command hport hgave =>
  h command hport (hgave.trans (List.prefix_append before after).isInfix)

theorem PortsHeeded.right (h : settings.PortsHeeded (before ++ after)) :
    settings.PortsHeeded after := fun command hport hgave =>
  h command hport (hgave.trans (List.suffix_append before after).isInfix)

/-- Where no failure is repeated as often as there are attempts, nothing was given up. -/
theorem portsHeeded_of_count {log : List (SwitchCommand × Bool)}
    (h : ∀ entry ∈ log, entry.2 = false → log.count entry < max settings.commandAttempts 1) :
    settings.PortsHeeded log := by
  intro command _ hgave
  have hcount := hgave.sublist.count_le (command, false)
  rw [List.count_replicate_self] at hcount
  have hmem : (command, false) ∈ log := List.count_pos_iff.1 (by omega)
  exact absurd hcount (Nat.not_le.2 (h _ hmem rfl))

end SwitchSettings

variable {σ : Type} [CommandRunner σ]

/-- **What the switch remembers of a command**: its attempts and nothing else.  All of them
failed and it is given up, or one succeeded after some that failed.  Induction on the attempts
that are left. -/
theorem heard_retryMore_ends (command : SwitchCommand) (delay more : Nat) :
    ∀ host : Host (FlowSwitch σ), host.clock.deadline = none →
      let result := Operation.retryMore delay (Host.issue command) more host
      (∃ e, result.1 = .failed e) ∧
          Heard host.switch (List.replicate (more + 1) (command, false)) result.2.switch ∨
        (∃ text, result.1 = .done text) ∧ ∃ failures, Heard host.switch
          (List.replicate failures (command, false) ++ [(command, true)]) result.2.switch := by
  induction more with
  | zero =>
      intro host _ result
      have hissue : result = _ := Host.issue_eq command host
      have hheard := FlowSwitch.heard_run command host.switch
      rw [hissue]
      cases hanswer : (CommandRunner.run command host.switch).1 with
      | ok text =>
          rw [hanswer] at hheard
          exact .inr ⟨⟨text, rfl⟩, 0, hheard⟩
      | error e =>
          rw [hanswer] at hheard
          exact .inl ⟨⟨e, rfl⟩, hheard⟩
  | succ more ih =>
      intro host hclock result
      have hissue := Host.issue_eq command host
      have hheard := FlowSwitch.heard_run command host.switch
      cases hanswer : (CommandRunner.run command host.switch).1 with
      | ok text =>
          rw [hanswer] at hissue hheard
          rw [show result = _ from Operation.retryMore_done hissue delay (more + 1)]
          exact .inr ⟨⟨text, rfl⟩, 0, hheard⟩
      | error e =>
          rw [hanswer] at hissue hheard
          let rested : Host (FlowSwitch σ) := {
            switch := (CommandRunner.run command host.switch).2
            clock := { now := host.clock.now + delay } }
          have hsleep : Operation.sleep delay
              { host with switch := (CommandRunner.run command host.switch).2 }
                = (.done (), rested) := Operation.sleep_unhurried hclock delay
          have hagain := Operation.retryMore_failed hissue delay more
          rw [Operation.bind_done hsleep] at hagain
          rw [show result = _ from hagain]
          rcases ih rested rfl with ⟨hfailed, hlater⟩ | ⟨hdone, failures, hlater⟩
          · exact .inl ⟨hfailed, hheard.append hlater⟩
          · exact .inr ⟨hdone, failures + 1, hheard.append hlater⟩

namespace Mesh

theorem issueWithRetry_answers {settings : MeshSettings} {command : SwitchCommand}
    (mesh : Mesh (FlowSwitch σ)) {outcome : Outcome String} {mesh' : Mesh (FlowSwitch σ)}
    (h : mesh.host.clock.deadline = none)
    (hissue : issueWithRetry settings command mesh = (outcome, mesh')) :
    (∃ e, outcome = .failed e) ∧ Heard mesh.host.switch
        (List.replicate (max settings.switch.commandAttempts 1) (command, false))
        mesh'.host.switch ∨
      (∃ text, outcome = .done text) ∧ ∃ failures, Heard mesh.host.switch
        (List.replicate failures (command, false) ++ [(command, true)]) mesh'.host.switch := by
  obtain ⟨houtcome, hmesh⟩ := Prod.mk.inj hissue
  have hattempts : max settings.switch.commandAttempts 1
      = settings.switch.commandAttempts - 1 + 1 := by omega
  rw [← houtcome, ← hmesh, hattempts]
  exact heard_retryMore_ends command settings.switch.commandRetryMs
    (settings.switch.commandAttempts - 1) mesh.host h

theorem issueWithRetry_gaveUp {settings : MeshSettings} {command : SwitchCommand}
    (mesh : Mesh (FlowSwitch σ)) {mesh' : Mesh (FlowSwitch σ)} {e : OverlayError}
    (h : mesh.host.clock.deadline = none)
    (hissue : issueWithRetry settings command mesh = (.failed e, mesh')) :
    ∃ log, Heard mesh.host.switch log mesh'.host.switch ∧ settings.switch.GaveUp log command := by
  rcases issueWithRetry_answers mesh h hissue with ⟨-, hheard⟩ | ⟨⟨text, hdone⟩, -⟩
  · exact ⟨_, hheard, List.infix_rfl⟩
  · exact nomatch hdone

/-! ## §2. Records of other peers. -/

theorem portOf_putPort_of_ne (port : TunnelPort) {peer : String} (h : peer ≠ port.peerId)
    (ports : List TunnelPort) : portOf (putPort port ports) peer = portOf ports peer := by
  have hport : (port.peerId == peer) = false := beq_false_of_ne (Ne.symm h)
  induction ports with
  | nil => rw [putPort, portOf_cons, hport]; rfl
  | cons p rest ih =>
      rw [putPort]
      split
      · rename_i hsame
        rw [portOf_cons, portOf_cons, beq_iff_eq.1 hsame, hport]
        rfl
      · rw [portOf_cons, portOf_cons, ih]

theorem ports_of_rebuild {settings : MeshSettings} {mesh mesh' : Mesh σ}
    {summary : RebuildSummary} (h : rebuild settings mesh = (.done summary, mesh')) :
    mesh'.ports = mesh.ports ∧ mesh'.ofports = mesh.ofports ∧
      mesh'.host.clock = mesh.host.clock := by
  rw [rebuild_eq] at h
  cases h
  exact ⟨rfl, rfl, rfl⟩

/-! ## §3. Creating and deleting a tunnel. -/

/-- No deadline is set, and what a deleted tunnel gives back can be handed out again. -/
structure Steady (mesh : Mesh σ) : Prop where
  unhurried : mesh.host.clock.deadline = none
  reusable : ∀ ofport ∈ linkedOfports mesh.ports, mesh.ofports.isBelowLimit ofport = true

theorem Steady.rebuilt {settings : MeshSettings} {mesh mesh' : Mesh σ} {summary : RebuildSummary}
    (h : Steady mesh) (hrebuild : rebuild settings mesh = (.done summary, mesh')) :
    Steady mesh' := by
  obtain ⟨hports, hofports, hclock⟩ := ports_of_rebuild hrebuild
  exact ⟨hclock ▸ h.unhurried, by rw [hports, hofports]; exact h.reusable⟩

omit [CommandRunner σ] in
/-- The number of a record that is put is the only new one. -/
theorem mem_linkedOfports_putPort {port : TunnelPort} {ports : List TunnelPort} {ofport : Nat}
    (h : ofport ∈ linkedOfports (putPort port ports)) :
    port.ofport = some ofport ∨ ofport ∈ linkedOfports ports := by
  obtain ⟨p, hp, hofport⟩ := List.mem_filterMap.1 h
  rcases mem_putPort hp with rfl | hold
  · exact .inl hofport
  · exact .inr (List.mem_filterMap.2 ⟨p, hold, hofport⟩)

/-- **Creating a tunnel ends**, whatever the switch answers. -/
theorem completes_createLink (settings : MeshSettings) (agent : Agent) :
    Operation.Completes (Steady (σ := σ)) (createLink settings agent) := by
  intro mesh h
  generalize hmade : createLink settings agent mesh = made
  have hends := createLink_ends settings agent mesh
  rw [hmade] at hends
  cases hends with
  | exhausted => exact ⟨nofun, h⟩
  | @refused ofport ofports e host htake hissue =>
      have hlimit : (ofports.release ofport).limit = mesh.ofports.limit :=
        (IdSpace.allocate_ok htake).2.2.1
      refine ⟨nofun, (issueWithRetry_ends hissue h.unhurried).2, fun n hn => ?_⟩
      exact (IdSpace.isBelowLimit_congr hlimit n).trans (h.reusable n hn)
  | @abandoned ofport ofports host htake hissue =>
      exact absurd rfl (issueWithRetry_ends hissue h.unhurried).1
  | @linked ofport ofports text host summary mesh' htake hissue hrebuild =>
      obtain ⟨-, hbelow, hlimit, -⟩ := IdSpace.allocate_ok htake
      have hput : Steady
          { mesh with ofports, host, ports := putPort (.linked ofport agent) mesh.ports } := by
        refine ⟨(issueWithRetry_ends hissue h.unhurried).2, fun n hn => ?_⟩
        rw [IdSpace.isBelowLimit_congr hlimit]
        rcases mem_linkedOfports_putPort hn with hnew | hold
        · cases hnew
          exact hbelow
        · exact h.reusable n hold
      exact ⟨nofun, hput.rebuilt hrebuild⟩

/-- **Deleting a tunnel ends**, whatever the switch answers. -/
theorem completes_deleteLink (settings : MeshSettings) (agent : Agent) :
    Operation.Completes (Steady (σ := σ)) (deleteLink settings agent) := by
  intro mesh h
  generalize hunmade : deleteLink settings agent mesh = unmade
  have hends := deleteLink_ends settings agent mesh
  rw [hunmade] at hends
  cases hends with
  | idle => exact ⟨nofun, h⟩
  | @refused ofport known e host hport hissue =>
      exact ⟨nofun, (issueWithRetry_ends hissue h.unhurried).2, h.reusable⟩
  | @abandoned ofport known host hport hissue =>
      exact absurd rfl (issueWithRetry_ends hissue h.unhurried).1
  | @unlinked ofport known text host summary mesh' hport hissue hrebuild =>
      have hput : Steady { mesh with
          host
          ofports := mesh.ofports.release ofport
          ports := putPort (.unlinked { known with status := agent.status }) mesh.ports } := by
        refine ⟨(issueWithRetry_ends hissue h.unhurried).2, fun n hn => ?_⟩
        exact h.reusable n ((mem_linkedOfports_putPort hn).resolve_left nofun)
      exact ⟨nofun, hput.rebuilt hrebuild⟩

/-- **Creating a tunnel touches no other record.** -/
theorem portOf_createLink (settings : MeshSettings) (agent : Agent) (mesh : Mesh σ) {peer : String}
    (hpeer : peer ≠ agent.id) :
    portOf (createLink settings agent mesh).2.ports peer = portOf mesh.ports peer := by
  generalize hmade : createLink settings agent mesh = made
  have hends := createLink_ends settings agent mesh
  rw [hmade] at hends
  cases hends with
  | exhausted | refused | abandoned => rfl
  | linked htake hissue hrebuild =>
      rw [(ports_of_rebuild hrebuild).1]
      exact portOf_putPort_of_ne (.linked _ agent) hpeer mesh.ports

/-- **Deleting a tunnel touches no other record.** -/
theorem portOf_deleteLink (settings : MeshSettings) (agent : Agent) (mesh : Mesh σ) {peer : String}
    (hpeer : peer ≠ agent.id) :
    portOf (deleteLink settings agent mesh).2.ports peer = portOf mesh.ports peer := by
  generalize hunmade : deleteLink settings agent mesh = unmade
  have hends := deleteLink_ends settings agent mesh
  rw [hunmade] at hends
  cases hends with
  | idle | refused | abandoned => rfl
  | @unlinked ofport known text host summary mesh' hport hissue hrebuild =>
      have hid : known.id = agent.id := peerId_of_portOf hport
      rw [(ports_of_rebuild hrebuild).1]
      exact portOf_putPort_of_ne (.unlinked { known with status := agent.status }) (hid ▸ hpeer)
        mesh.ports

/-- What happens between a command and the rebuild after it is no command. -/
theorem heard_issue_rebuild {settings : MeshSettings} {command : SwitchCommand}
    (mesh : Mesh (FlowSwitch σ)) {mesh₁ mesh' : Mesh (FlowSwitch σ)} {summary : RebuildSummary}
    (hhost : mesh₁.host = (issueWithRetry settings command mesh).2.host)
    (hrebuild : rebuild settings mesh₁ = (.done summary, mesh')) :
    ∃ log, Heard mesh.host.switch log mesh'.host.switch := by
  obtain ⟨earlier, hearlier⟩ := issueWithRetry_heard settings command mesh
  obtain ⟨final, hfinal, -⟩ := rebuild_heard settings hrebuild
  rw [← hhost] at hearlier
  exact ⟨_, hearlier.append hfinal⟩

/-- **Creating a tunnel succeeds** if there is a number and the command is not given up. -/
theorem createLink_heeded (settings : MeshSettings) (agent : Agent) {mesh : Mesh (FlowSwitch σ)}
    (h : Steady mesh) : ∃ log,
    Heard mesh.host.switch log (createLink settings agent mesh).2.host.switch ∧
      (mesh.ofports.allocate.1.isOk = true → settings.switch.PortsHeeded log →
        (createLink settings agent mesh).1 = .done () ∧
          ∃ ofport, portOf (createLink settings agent mesh).2.ports agent.id
            = some (.linked ofport agent)) := by
  generalize hmade : createLink settings agent mesh = made
  have hends := createLink_ends settings agent mesh
  rw [hmade] at hends
  cases hends with
  | exhausted htake =>
      refine ⟨[], .nil _, fun hnumber _ => ?_⟩
      rw [htake] at hnumber
      exact nomatch hnumber
  | @refused ofport ofports e host htake hissue =>
      obtain ⟨log, hheard, hgave⟩ := issueWithRetry_gaveUp { mesh with ofports } h.unhurried
        hissue
      exact ⟨log, hheard, fun _ hheeded => absurd hgave (hheeded _ rfl)⟩
  | @abandoned ofport ofports host htake hissue =>
      exact absurd rfl (issueWithRetry_ends hissue h.unhurried).1
  | @linked ofport ofports text host summary mesh' htake hissue hrebuild =>
      obtain ⟨log, hheard⟩ := heard_issue_rebuild { mesh with ofports }
        (congrArg (·.2.host) hissue).symm hrebuild
      refine ⟨log, hheard, fun _ _ => ⟨rfl, ofport, ?_⟩⟩
      rw [(ports_of_rebuild hrebuild).1]
      exact portOf_putPort (.linked ofport agent) mesh.ports

/-- A number below the limit that is free can be handed out. -/
theorem allocate_isOk_of_free {space : IdSpace} (id : Nat) (hfree : space.isAllocated id = false)
    (hbelow : space.isBelowLimit id = true) : space.allocate.1.isOk = true := by
  have hfirst : space.firstFree ≤ id := by
    refine Nat.le_of_not_lt fun hlt => ?_
    rw [IdSpace.isAllocated_of_lt_firstFree hlt] at hfree
    exact nomatch hfree
  have hlimit : space.isBelowLimit space.firstFree = true := by
    rw [IdSpace.isBelowLimit] at hbelow ⊢
    cases hlimit : space.limit with
    | none => rfl
    | some limit =>
        rw [hlimit] at hbelow
        exact decide_eq_true (Nat.lt_of_le_of_lt hfirst (of_decide_eq_true hbelow))
  rw [IdSpace.allocate, if_pos hlimit]
  rfl

/-- **Deleting a tunnel succeeds** if the command is not given up; a tunnel that was linked
then leaves a number that can be handed out. -/
theorem deleteLink_heeded (settings : MeshSettings) (agent : Agent) {mesh : Mesh (FlowSwitch σ)}
    (h : Steady mesh) : ∃ log,
    Heard mesh.host.switch log (deleteLink settings agent mesh).2.host.switch ∧
      (settings.switch.PortsHeeded log → (deleteLink settings agent mesh).1 = .done () ∧
        (¬ Unlinked mesh.ports agent.id →
          (deleteLink settings agent mesh).2.ofports.allocate.1.isOk = true)) := by
  generalize hunmade : deleteLink settings agent mesh = unmade
  have hends := deleteLink_ends settings agent mesh
  rw [hunmade] at hends
  cases hends with
  | idle hport => exact ⟨[], .nil _, fun _ => ⟨rfl, absurd hport⟩⟩
  | @refused ofport known e host hport hissue =>
      obtain ⟨log, hheard, hgave⟩ := issueWithRetry_gaveUp mesh h.unhurried hissue
      exact ⟨log, hheard, fun hheeded => absurd hgave (hheeded _ rfl)⟩
  | @abandoned ofport known host hport hissue =>
      exact absurd rfl (issueWithRetry_ends hissue h.unhurried).1
  | @unlinked ofport known text host summary mesh' hport hissue hrebuild =>
      obtain ⟨log, hheard⟩ := heard_issue_rebuild mesh
        (congrArg (·.2.host) hissue).symm hrebuild
      have hlinked : ofport ∈ linkedOfports mesh.ports :=
        List.mem_filterMap.2 ⟨_, List.mem_of_find?_eq_some hport, rfl⟩
      refine ⟨log, hheard, fun _ => ⟨rfl, fun _ => ?_⟩⟩
      rw [(ports_of_rebuild hrebuild).2.1]
      refine allocate_isOk_of_free ofport ?_ (h.reusable ofport hlinked)
      rw [IdSpace.isAllocated_release, bne_self_eq_false, Bool.false_and]

/-! ## §4. One turn. -/

/-- Nothing is asked where a tunnel to a ready agent leads to its address, and where there is
none to one that is down. -/
theorem changeFor_eq_keep {record : Option TunnelPort} {agent : Agent} :
    changeFor record agent = .keep ↔
      (agent.status = .ready →
        ∃ ofport known, record = some (.linked ofport known) ∧ known.ip = agent.ip) ∧
      (agent.status = .down → ∀ ofport known, record ≠ some (.linked ofport known)) := by
  rcases record with _ | ⟨ofport, known⟩ | known <;> cases hstatus : agent.status <;>
    simp [changeFor, hstatus]

/-- What an agent's turn has to do; the agent of this host is left out. -/
def changeWanted (settings : MeshSettings) (ports : List TunnelPort) (agent : Agent) :
    PeerChange :=
  if agent.ip = settings.selfIp then .keep else changeFor (portOf ports agent.id) agent

/-- Do it, without counting. -/
def PeerChange.run (settings : MeshSettings) (agent : Agent) :
    PeerChange → Operation (Mesh σ) Unit
  | .keep => pure ()
  | .link => createLink settings agent
  | .relink => do
      deleteLink settings agent
      createLink settings agent
  | .unlink => deleteLink settings agent

/-- The overlay after an agent's turn. -/
def attend (settings : MeshSettings) (mesh : Mesh σ) (agent : Agent) : Mesh σ :=
  ((changeWanted settings mesh.ports agent).run settings agent mesh).2

/-- Count what a turn did, or that it failed. -/
def countTurn (summary : SyncSummary) (change : PeerChange) : Outcome Unit → SyncSummary
  | .done _ =>
      match change with
      | .keep => summary
      | .link | .relink => { summary with linked := summary.linked + 1 }
      | .unlink => { summary with unlinked := summary.unlinked + 1 }
  | .failed _ | .abandoned => { summary with failed := summary.failed + 1 }

theorem completes_run (settings : MeshSettings) (agent : Agent) (change : PeerChange) :
    Operation.Completes (Steady (σ := σ)) (change.run settings agent) := by
  cases change with
  | keep => exact Operation.completes_pure ()
  | link => exact completes_createLink settings agent
  | relink =>
      exact Operation.completes_bind (completes_deleteLink settings agent)
        fun _ => completes_createLink settings agent
  | unlink => exact completes_deleteLink settings agent

/-- Carrying out a change and counting it. -/
theorem applyChange_eq (settings : MeshSettings) (agent : Agent) (summary : SyncSummary)
    (change : PeerChange) : (applyChange settings agent summary change : Operation (Mesh σ) _)
      = change.run settings agent >>= fun _ => pure (countTurn summary change (.done ())) := by
  funext mesh
  cases change with
  | keep | link | unlink => rfl
  | relink =>
      rw [applyChange, PeerChange.run, Operation.bind_apply, Operation.bind_apply,
        Operation.andThen, Operation.andThen, Operation.bind_apply, Operation.andThen]
      cases deleteLink settings agent mesh with
      | mk outcome mesh' => cases outcome <;> rfl

/-- **A turn always ends**; it carries out what is wanted and counts how that ended. -/
theorem reconcile_eq (settings : MeshSettings) (agent : Agent) (summary : SyncSummary)
    {mesh : Mesh σ} (h : Steady mesh) :
    let change := changeWanted settings mesh.ports agent
    reconcile settings agent summary mesh
      = (.done (countTurn summary change (change.run settings agent mesh).1),
          attend settings mesh agent) := by
  intro change
  have hget : Operation.get mesh = (.done mesh, mesh) := rfl
  rw [reconcile, show attend settings mesh agent = (change.run settings agent mesh).2 from rfl]
  split
  · rename_i hself
    rw [show change = .keep from if_pos hself]
    rfl
  · rename_i hother
    have hchange : changeFor (portOf mesh.ports agent.id) agent = change :=
      (if_neg hother).symm
    rw [Operation.bind_done hget]
    show (Operation.attempt (applyChange settings agent summary
      (changeFor (portOf mesh.ports agent.id) agent)) >>= _) mesh = _
    rw [hchange]
    have happly := congrFun (applyChange_eq settings agent summary change) mesh
    cases hrun : change.run settings agent mesh with
    | mk outcome mesh' =>
        cases outcome with
        | done _ =>
            rw [Operation.bind_done hrun] at happly
            rw [Operation.bind_done (Operation.attempt_done happly)]
            rfl
        | failed e =>
            rw [Operation.bind_failed hrun] at happly
            rw [Operation.bind_done (Operation.attempt_failed happly)]
            rfl
        | abandoned =>
            have hends := (completes_run settings agent change mesh h).1
            rw [hrun] at hends
            exact absurd rfl hends

/-- **A turn touches no other record.** -/
theorem portOf_attend (settings : MeshSettings) (agent : Agent) (mesh : Mesh σ) {peer : String}
    (hpeer : peer ≠ agent.id) :
    portOf (attend settings mesh agent).ports peer = portOf mesh.ports peer := by
  rw [attend]
  cases changeWanted settings mesh.ports agent with
  | keep => rfl
  | link => exact portOf_createLink settings agent mesh hpeer
  | unlink => exact portOf_deleteLink settings agent mesh hpeer
  | relink =>
      refine Operation.snd_bind
        (P := fun mesh' : Mesh σ => portOf mesh'.ports peer = portOf mesh.ports peer)
        (portOf_deleteLink settings agent mesh hpeer) fun _ mesh' _ hdeleted => ?_
      exact (portOf_createLink settings agent mesh' hpeer).trans hdeleted

/-- The host has nothing to do with the agent, or does not know how it is. -/
def LeftAlone (settings : MeshSettings) (agent : Agent) : Prop :=
  agent.ip = settings.selfIp ∨ agent.status = .unknown

theorem changeWanted_of_leftAlone {settings : MeshSettings} {agent : Agent}
    (h : LeftAlone settings agent) (ports : List TunnelPort) :
    changeWanted settings ports agent = .keep := by
  rcases h with hself | hunknown
  · exact if_pos hself
  · rw [changeWanted, changeFor_eq_keep.2 ⟨by simp [hunknown], by simp [hunknown]⟩]
    exact ite_self _

theorem attend_of_keep {settings : MeshSettings} {agent : Agent} {mesh : Mesh σ}
    (h : changeWanted settings mesh.ports agent = .keep) : attend settings mesh agent = mesh := by
  rw [attend, h]
  rfl

/-- What a wanted change says of the record. -/
theorem changeWanted_cases (settings : MeshSettings) (ports : List TunnelPort) (agent : Agent) :
    changeWanted settings ports agent = .keep ∨
      agent.ip ≠ settings.selfIp ∧
        (changeWanted settings ports agent = .link ∧ agent.status = .ready ∨
          changeWanted settings ports agent = .relink ∧ agent.status = .ready ∧
            ¬ Unlinked ports agent.id ∨
          changeWanted settings ports agent = .unlink ∧ agent.status = .down) := by
  rw [changeWanted]
  by_cases hself : agent.ip = settings.selfIp
  · exact .inl (if_pos hself)
  · rw [if_neg hself, Unlinked]
    rcases hport : portOf ports agent.id with _ | ⟨ofport, known⟩ | known <;>
      cases hstatus : agent.status <;> simp [changeFor, hstatus, hself]
    by_cases hip : known.ip = agent.ip <;> simp [hip]

/-- **After a turn whose commands are not given up nothing is wanted any more.** -/
theorem run_settles (settings : MeshSettings) (agent : Agent) {mesh : Mesh (FlowSwitch σ)}
    (h : Steady mesh) :
    let change := changeWanted settings mesh.ports agent
    ∃ log, Heard mesh.host.switch log (attend settings mesh agent).host.switch ∧
      ((change = .link → mesh.ofports.allocate.1.isOk = true) →
        settings.switch.PortsHeeded log →
        (change.run settings agent mesh).1 = .done () ∧
          changeWanted settings (attend settings mesh agent).ports agent = .keep) := by
  intro change
  have hready : ∀ {ports : List TunnelPort} {ofport : Nat}, agent.ip ≠ settings.selfIp →
      portOf ports agent.id = some (.linked ofport agent) → agent.status = .ready →
        changeWanted settings ports agent = .keep := by
    intro ports ofport hother hport hstatus
    rw [changeWanted, if_neg hother, changeFor_eq_keep]
    exact ⟨fun _ => ⟨ofport, agent, hport, rfl⟩, fun hdown => nomatch hstatus.symm.trans hdown⟩
  rcases changeWanted_cases settings mesh.ports agent with
    hkeep | ⟨hother, ⟨hlink, hstatus⟩ | ⟨hrelink, hstatus, hlinked⟩ | ⟨hunlink, hstatus⟩⟩
  · rw [attend_of_keep hkeep, show change = .keep from hkeep]
    exact ⟨[], .nil _, fun _ _ => ⟨rfl, hkeep⟩⟩
  · obtain ⟨log, hheard, hdone⟩ := createLink_heeded settings agent h
    rw [attend, hlink, show change = .link from hlink]
    refine ⟨log, hheard, fun hnumber hheeded => ?_⟩
    obtain ⟨hends, ofport, hport⟩ := hdone (hnumber rfl) hheeded
    exact ⟨hends, hready hother hport hstatus⟩
  -- The number of the old tunnel is free when the new one is made.
  · obtain ⟨log₁, hheard₁, hdeleted⟩ := deleteLink_heeded settings agent h
    have hsteady := (completes_deleteLink settings agent mesh h).2
    rw [attend, hrelink, show change = .relink from hrelink]
    cases hdelete : deleteLink settings agent mesh with
    | mk outcome mesh₁ =>
        rw [hdelete] at hheard₁ hdeleted hsteady
        obtain ⟨log₂, hheard₂, hcreated⟩ := createLink_heeded settings agent hsteady
        cases outcome with
        | done _ =>
            rw [PeerChange.run, Operation.bind_done hdelete]
            refine ⟨log₁ ++ log₂, hheard₁.append hheard₂, fun _ hheeded => ?_⟩
            have hnumber := (hdeleted hheeded.left).2 hlinked
            obtain ⟨hends, ofport, hport⟩ := hcreated hnumber hheeded.right
            exact ⟨hends, hready hother hport hstatus⟩
        | failed e =>
            rw [PeerChange.run, Operation.bind_failed hdelete]
            exact ⟨log₁, hheard₁, fun _ hheeded => nomatch (hdeleted hheeded).1⟩
        | abandoned =>
            rw [PeerChange.run, Operation.bind_abandoned hdelete]
            exact ⟨log₁, hheard₁, fun _ hheeded => nomatch (hdeleted hheeded).1⟩
  · obtain ⟨log, hheard, hdone⟩ := deleteLink_heeded settings agent h
    rw [attend, hunlink, show change = .unlink from hunlink]
    refine ⟨log, hheard, fun _ hheeded => ?_⟩
    have hends := (hdone hheeded).1
    refine ⟨hends, ?_⟩
    have hdeleted : deleteLink settings agent mesh
        = (.done (), (deleteLink settings agent mesh).2) := Prod.ext hends rfl
    rw [changeWanted, if_neg hother, changeFor_eq_keep]
    exact ⟨fun hup => absurd (hstatus.symm.trans hup) nofun, fun _ => unlinked_of_done hdeleted⟩

/-! ## §5. A pass. -/

/-- In each turn that needs a further number there is one. -/
def NumbersSuffice (settings : MeshSettings) : List Agent → Mesh σ → Prop
  | [], _ => True
  | agent :: rest, mesh =>
      (changeWanted settings mesh.ports agent = .link → mesh.ofports.allocate.1.isOk = true) ∧
        NumbersSuffice settings rest (attend settings mesh agent)

theorem Steady.attended {settings : MeshSettings} {mesh : Mesh σ} (h : Steady mesh)
    (agent : Agent) : Steady (attend settings mesh agent) :=
  (completes_run settings agent _ mesh h).2

/-- **A pass leaves a record alone** unless it is that of an agent elsewhere whose status is
known. -/
theorem portOf_foldl_attend {settings : MeshSettings} {peer : String} {agents : List Agent} :
    ∀ mesh : Mesh σ, (∀ agent ∈ agents, agent.id = peer → LeftAlone settings agent) →
      portOf (agents.foldl (attend settings) mesh).ports peer = portOf mesh.ports peer := by
  induction agents with
  | nil => exact fun mesh _ => rfl
  | cons agent rest ih =>
      intro mesh hpeer
      rw [List.foldl_cons, ih _ fun other hother => hpeer other (List.mem_cons_of_mem agent hother)]
      by_cases hid : agent.id = peer
      · rw [attend_of_keep
          (changeWanted_of_leftAlone (hpeer agent List.mem_cons_self hid) mesh.ports)]
      · exact portOf_attend settings agent mesh (Ne.symm hid)

/-- **A pass is one turn after the other**; if no command about ports is given up and there
are numbers enough, no turn fails and nothing is wanted any more. -/
theorem reconcileAll_settles (settings : MeshSettings) {agents : List Agent} :
    ∀ {mesh : Mesh (FlowSwitch σ)} (summary : SyncSummary), Steady mesh →
      (agents.map Agent.id).Nodup → NumbersSuffice settings agents mesh →
      ∃ summary' log,
        reconcileAll settings agents summary mesh
          = (.done summary', agents.foldl (attend settings) mesh) ∧
        Heard mesh.host.switch log (agents.foldl (attend settings) mesh).host.switch ∧
        (settings.switch.PortsHeeded log → summary'.failed = summary.failed ∧
          ∀ agent ∈ agents, changeWanted settings (agents.foldl (attend settings) mesh).ports agent
            = .keep) := by
  induction agents with
  | nil => exact fun summary _ _ _ => ⟨summary, [], rfl, .nil _, fun _ => ⟨rfl, nofun⟩⟩
  | cons agent rest ih =>
      intro mesh summary hsteady hids hnumbers
      obtain ⟨hnew, hrest⟩ := List.nodup_cons.1 hids
      obtain ⟨log₁, hheard₁, hsettles⟩ := run_settles settings agent hsteady
      obtain ⟨summary', log₂, hpass, hheard₂, hall⟩ := ih (countTurn summary _
          ((changeWanted settings mesh.ports agent).run settings agent mesh).1)
        (hsteady.attended agent) hrest hnumbers.2
      refine ⟨summary', log₁ ++ log₂, ?_, hheard₁.append hheard₂, fun hheeded => ?_⟩
      · rw [reconcileAll, Operation.bind_done (reconcile_eq settings agent summary hsteady)]
        exact hpass
      · obtain ⟨hends, hkeep⟩ := hsettles hnumbers.1 hheeded.left
        obtain ⟨hfailed, hothers⟩ := hall hheeded.right
        refine ⟨?_, fun other hother => ?_⟩
        · rw [hfailed, hends]
          cases changeWanted settings mesh.ports agent <;> rfl
        · rcases List.mem_cons.1 hother with rfl | hmem
          -- The later turns are those of agents with other ids.
          · have hkept : portOf (rest.foldl (attend settings) (attend settings mesh other)).ports
                other.id = portOf (attend settings mesh other).ports other.id :=
              portOf_foldl_attend _ fun later hlater hid =>
                absurd (List.mem_map.2 ⟨later, hlater, hid⟩) hnew
            rw [changeWanted] at hkeep ⊢
            rw [List.foldl_cons, hkept]
            exact hkeep
          · exact hothers other hmem

/-- **Where nothing is wanted, a pass does nothing.** -/
theorem reconcileAll_idle {settings : MeshSettings} {agents : List Agent} (summary : SyncSummary)
    {mesh : Mesh σ} (h : ∀ agent ∈ agents, changeWanted settings mesh.ports agent = .keep) :
    reconcileAll settings agents summary mesh = (.done summary, mesh) := by
  induction agents with
  | nil => rfl
  | cons agent rest ih =>
      have hkeep := h agent List.mem_cons_self
      have hturn : reconcile settings agent summary mesh = (.done summary, mesh) := by
        have hget : Operation.get mesh = (.done mesh, mesh) := rfl
        rw [reconcile]
        split
        · rfl
        · rename_i hother
          have hnone : changeFor (portOf mesh.ports agent.id) agent = .keep :=
            (if_neg hother).symm.trans hkeep
          rw [Operation.bind_done hget]
          show (Operation.attempt (applyChange settings agent summary
            (changeFor (portOf mesh.ports agent.id) agent)) >>= _) mesh = _
          rw [hnone]
          rfl
      rw [reconcileAll, Operation.bind_done hturn]
      exact ih fun other hother => h other (List.mem_cons_of_mem agent hother)

/-! ## §6. Convergence. -/

/-- **Through any requests** an overlay that began without tunnels stays steady. -/
theorem Steady.served {settings : MeshSettings} {requests : List Request} :
    ∀ {mesh : Mesh σ}, Steady mesh → Steady (requests.foldl (serve settings) mesh) := by
  induction requests with
  | nil => exact fun h => h
  | cons request rest ih =>
      intro mesh h
      refine ih (serve_keeps (P := Steady) (fun mesh networks hmesh => ?_)
        (fun agent _ _ _ mesh hmesh _ => (completes_createLink settings agent mesh hmesh).2)
        (fun agent _ _ mesh hmesh => (completes_deleteLink settings agent mesh hmesh).2) mesh h)
      obtain ⟨summary, switch, hdone⟩ := rebuild_done settings { mesh with networks }
      have hnetworks : Steady { mesh with networks } := ⟨hmesh.unhurried, hmesh.reusable⟩
      rw [hdone]
      exact ⟨hnetworks.unhurried, hnetworks.reusable⟩

/-- The records are what a snapshot asks, and the others are what they were. -/
structure Converged (settings : MeshSettings) (topology : Topology)
    (before after : List TunnelPort) : Prop where
  /-- To an agent that is ready there is a tunnel at the address that it has now, -/
  ready : ∀ agent ∈ topology.agents, agent.ip ≠ settings.selfIp → agent.status = .ready →
    ∃ ofport known, portOf after agent.id = some (.linked ofport known) ∧
      known.id = agent.id ∧ known.ip = agent.ip
  /-- to one that is down there is none, -/
  down : ∀ agent ∈ topology.agents, agent.ip ≠ settings.selfIp → agent.status = .down →
    Unlinked after agent.id
  /-- one of which nothing is known keeps its record, -/
  unknown : ∀ agent ∈ topology.agents, agent.status = .unknown →
    portOf after agent.id = portOf before agent.id
  /-- and so does any other peer. -/
  unlisted : ∀ peer, (∀ agent ∈ topology.agents, agent.id = peer → agent.ip = settings.selfIp) →
    portOf after peer = portOf before peer

/-- The record of an agent for which nothing is wanted. -/
theorem portOf_of_keep {settings : MeshSettings} {ports : List TunnelPort} {agent : Agent}
    (h : changeWanted settings ports agent = .keep) (hother : agent.ip ≠ settings.selfIp) :
    (agent.status = .ready → ∃ ofport known, portOf ports agent.id = some (.linked ofport known) ∧
      known.id = agent.id ∧ known.ip = agent.ip) ∧
    (agent.status = .down → Unlinked ports agent.id) := by
  rw [changeWanted, if_neg hother, changeFor_eq_keep] at h
  refine ⟨fun hstatus => ?_, h.2⟩
  obtain ⟨ofport, known, hport, hip⟩ := h.1 hstatus
  exact ⟨ofport, known, hport, peerId_of_portOf hport, hip⟩

/-- **A pass converges, and the next one has nothing to do.**  An overlay began without
tunnels and has served any requests, whatever commands failed.  If in a pass over a snapshot
that lists each agent once no command about ports is given up and there are numbers enough,
then no turn fails and the records are what the snapshot asks; and on any switch whatever
the same pass then issues no command and changes nothing. -/
theorem sync_converges {settings : MeshSettings} {start : Mesh (FlowSwitch σ)}
    {requests : List Request} {topology : Topology} {log : List (SwitchCommand × Bool)}
    (hports : start.ports = []) (hclock : start.host.clock.deadline = none)
    (hids : (topology.agents.map Agent.id).Nodup) :
    let mesh := requests.foldl (serve settings) start
    (sync settings topology mesh).2.host.switch.answered = mesh.host.switch.answered ++ log →
    settings.switch.PortsHeeded log → NumbersSuffice settings topology.agents mesh →
    ∃ summary mesh', sync settings topology mesh = (.done summary, mesh') ∧
      summary.failed = 0 ∧ Converged settings topology mesh.ports mesh'.ports ∧
      ∀ host : Host (FlowSwitch σ),
        sync settings topology { mesh' with host } = (.done {}, { mesh' with host }) := by
  intro mesh hlog hheeded hnumbers
  have hsteady : Steady mesh := Steady.served ⟨hclock, by rw [hports]; exact nofun⟩
  obtain ⟨summary, heard, hpass, hheard, hsettled⟩ :=
    reconcileAll_settles settings {} hsteady hids hnumbers
  have hsync : sync settings topology mesh
      = (.done summary, topology.agents.foldl (attend settings) mesh) := hpass
  -- What the switch remembers of the pass is the log.
  have hsame : heard = log := by
    rw [hsync, hheard.1] at hlog
    exact List.append_cancel_left hlog
  obtain ⟨hfailed, hkeep⟩ := hsettled (hsame ▸ hheeded)
  refine ⟨summary, _, hsync, hfailed, ?_, fun host => reconcileAll_idle {} hkeep⟩
  exact {
    ready := fun agent hagent hother => (portOf_of_keep (hkeep agent hagent) hother).1
    down := fun agent hagent hother => (portOf_of_keep (hkeep agent hagent) hother).2
    unknown := fun agent hagent hunknown => portOf_foldl_attend mesh fun other hother hid =>
      .inr (List.inj_on_of_nodup_map hids hother hagent hid ▸ hunknown)
    unlisted := fun peer hpeer => portOf_foldl_attend mesh fun agent hagent hid =>
      .inl (hpeer agent hagent hid) }

/-- A switch that does not make the first tunnel port, and later refuses once to delete it. -/
def hesitant : FlowSwitch Faltering where
  control := { answers := [false, false, false] ++ List.replicate 12 true ++ [false] }
  tables := fun _ _ => []

/-- The far host has moved, another one is down, and this host is listed as well. -/
def moved : Topology where
  agents := [{ farAgent with ip := "10.0.0.3" }, ⟨"other", "10.0.0.4", .down⟩,
    ⟨"near", nearHost.selfIp, .ready⟩]

/-- The tunnel that was made in the second pass follows the far host in the third. -/
theorem sync_converges_moved :
    let mesh := [Request.sync { agents := [farAgent] }, .sync { agents := [farAgent] }].foldl
      (serve nearHost) (untunneled [] hesitant 0)
    mesh.ports = [.linked 2 farAgent] ∧
      ∃ summary mesh', sync nearHost moved mesh = (.done summary, mesh') ∧ summary.failed = 0 ∧
        Converged nearHost moved mesh.ports mesh'.ports ∧
        ∀ host : Host (FlowSwitch Faltering),
          sync nearHost moved { mesh' with host } = (.done {}, { mesh' with host }) := by
  intro mesh
  have hports : mesh.ports = [.linked 2 farAgent] := by decide +kernel
  have hlog : (sync nearHost moved mesh).2.host.switch.answered = mesh.host.switch.answered
      ++ (sync nearHost moved mesh).2.host.switch.answered.drop
        mesh.host.switch.answered.length := by decide +kernel
  have hheeded : nearHost.switch.PortsHeeded ((sync nearHost moved mesh).2.host.switch.answered.drop
      mesh.host.switch.answered.length) :=
    SwitchSettings.portsHeeded_of_count (by decide +kernel)
  have hnumbers : NumbersSuffice nearHost moved.agents mesh :=
    ⟨by decide +kernel, by decide +kernel, by decide +kernel, trivial⟩
  exact ⟨hports, sync_converges rfl rfl (by decide) hlog hheeded hnumbers⟩

end Mesh

end VxlanMesh
