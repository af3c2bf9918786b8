/-
  VxlanMesh.Proofs.Overlay.Retiming
  ────────────────────────────────
  **A PASS OVER A SNAPSHOT DOES NOT DEPEND ON THE TIME.**

  While commands are tried again time goes by, and nothing else of a pass
  has to do with it.  Two overlays that differ in the time alone, neither
  with a deadline, differ in the time alone after the same pass; and the
  pass ends in both.

      EndAlike         operations that end, and end alike
      endAlike_sync    a pass at two times
      syncAll          passes one after the other
-/
import VxlanMesh.Proofs.Overlay.Linking

namespace VxlanMesh

namespace Operation

variable {S α β : Type}

/-! ## §1. Operations that end alike. -/

/-- From related states neither operation is abandoned; they end in the same way, and in
related states. -/
def EndAlike (R : S → S → Prop) (op op' : Operation S α) : Prop :=
  ∀ s s', R s s' → (op s).1 ≠ .abandoned ∧ (op' s').1 = (op s).1 ∧ R (op s).2 (op' s').2

variable {R : S → S → Prop}

theorem endAlike_pure (a : α) : EndAlike R (pure a) (pure a) :=
  fun _ _ h => ⟨nofun, rfl, h⟩

theorem endAlike_fail (e : OverlayError) : EndAlike R (fail e : Operation S α) (fail e) :=
  fun _ _ h => ⟨nofun, rfl, h⟩

/-- A change ends alike if it keeps related states related. -/
theorem endAlike_modify {f : S → S} (hf : ∀ s s', R s s' → R (f s) (f s')) :
    EndAlike R (modify f) (modify f) :=
  fun s s' h => ⟨nofun, rfl, hf s s' h⟩

/-- Operations in sequence end alike if their parts do, for each value in between. -/
theorem endAlike_bind {op op' : Operation S α} {next next' : α → Operation S β}
    (hop : EndAlike R op op') (hnext : ∀ a, EndAlike R (next a) (next' a)) :
    EndAlike R (op >>= next) (op' >>= next') := by
  intro s s' h
  obtain ⟨hends, hsame, hafter⟩ := hop s s' h
  cases hrun : op s with
  | mk outcome t =>
      cases hrun' : op' s' with
      | mk outcome' t' =>
          rw [hrun] at hends hsame hafter
          rw [hrun'] at hsame hafter
          obtain rfl : outcome' = outcome := hsame
          cases outcome' with
          | done a =>
              rw [bind_done hrun, bind_done hrun']
              exact hnext a t t' hafter
          | failed e =>
              rw [bind_failed hrun, bind_failed hrun']
              exact ⟨nofun, rfl, hafter⟩
          | abandoned => exact absurd rfl hends

/-- The state may be read, as far as what follows does not tell related states apart. -/
theorem endAlike_get_bind {next next' : S → Operation S β}
    (hnext : ∀ s s', R s s' → EndAlike R (next s) (next' s')) :
    EndAlike R (get >>= next) (get >>= next') :=
  fun s s' h => hnext s s' h s s' h

/-- Attempts at what ends alike end alike. -/
theorem endAlike_attempt {op op' : Operation S α} (hop : EndAlike R op op') :
    EndAlike R (attempt op) (attempt op') := by
  intro s s' h
  obtain ⟨hends, hsame, hafter⟩ := hop s s' h
  cases hrun : op s with
  | mk outcome t =>
      cases hrun' : op' s' with
      | mk outcome' t' =>
          rw [hrun] at hends hsame hafter
          rw [hrun'] at hsame hafter
          obtain rfl : outcome' = outcome := hsame
          cases outcome' with
          | done a =>
              rw [attempt_done hrun, attempt_done hrun']
              exact ⟨nofun, rfl, hafter⟩
          | failed e =>
              rw [attempt_failed hrun, attempt_failed hrun']
              exact ⟨nofun, rfl, hafter⟩
          | abandoned => exact absurd rfl hends

/-- Retrying ends alike if one attempt and one pause do. -/
theorem endAlike_retryMore [Timed S] {delay : Nat} {action : Operation S α}
    (hsleep : EndAlike R (sleep delay) (sleep delay)) (haction : EndAlike R action action)
    (more : Nat) : EndAlike R (retryMore delay action more) (retryMore delay action more) := by
  induction more with
  | zero => exact haction
  | succ more ih =>
      refine endAlike_bind (endAlike_attempt haction) fun answer => ?_
      cases answer with
      | ok a => exact endAlike_pure a
      | error e => exact endAlike_bind hsleep fun _ => ih

end Operation

/-! ## §2. The same at another time. -/

/-- The second state is the first at another time, and neither has a deadline. -/
def Retimed {S : Type} [Timed S] (s s' : S) : Prop :=
  (Timed.clock s).deadline = none ∧
    ∃ clock : Clock, clock.deadline = none ∧ s' = Timed.setClock clock s

open Operation (EndAlike)

variable {σ : Type}

namespace Host

/-- Without a deadline a pause is never cut short, so it ends alike at any time. -/
theorem endAlike_sleep (ms : Nat) : EndAlike (Retimed (S := Host σ))
    (Operation.sleep ms) (Operation.sleep ms) := by
  intro host host' h
  obtain ⟨hdeadline, clock, hclock, rfl⟩ := h
  have hclock' : (Timed.clock (Timed.setClock clock host)).deadline = none := hclock
  rw [Operation.sleep_unhurried hdeadline, Operation.sleep_unhurried hclock']
  exact ⟨nofun, rfl, rfl, _, rfl, rfl⟩

variable [CommandRunner σ]

/-- The answer to a command does not depend on the time. -/
theorem endAlike_issue (command : SwitchCommand) :
    EndAlike (Retimed (S := Host σ)) (issue command) (issue command) := by
  intro host host' h
  obtain ⟨hdeadline, clock, hclock, rfl⟩ := h
  rw [issue_eq, issue_eq]
  refine ⟨?_, rfl, hdeadline, clock, hclock, rfl⟩
  cases (CommandRunner.run command host.switch).1 <;> exact nofun

end Host

namespace Mesh

/-- What ends alike on the host ends alike on the overlay. -/
theorem endAlike_onHost {α : Type} {op op' : Operation (Host σ) α}
    (hop : EndAlike Retimed op op') :
    EndAlike (Retimed (S := Mesh σ)) (onHost op) (onHost op') := by
  intro mesh mesh' h
  obtain ⟨hdeadline, clock, hclock, rfl⟩ := h
  obtain ⟨hends, hsame, hafter, clock', hclock', hhost⟩ :=
    hop mesh.host (Timed.setClock clock mesh.host) ⟨hdeadline, clock, hclock, rfl⟩
  refine ⟨hends, hsame, hafter, clock', hclock', ?_⟩
  show ({ mesh with host := (op' (Timed.setClock clock mesh.host)).2 } : Mesh σ) = _
  rw [hhost]
  rfl

theorem endAlike_takeOfport :
    EndAlike (Retimed (S := Mesh σ)) takeOfport takeOfport := by
  intro mesh mesh' h
  obtain ⟨hdeadline, clock, hclock, rfl⟩ := h
  rw [takeOfport_eq, takeOfport_eq]
  refine ⟨?_, rfl, hdeadline, clock, hclock, rfl⟩
  cases mesh.ofports.allocate.1 <;> exact nofun

theorem endAlike_releaseOfport (ofport : Nat) :
    EndAlike (Retimed (S := Mesh σ)) (releaseOfport ofport) (releaseOfport ofport) := by
  refine Operation.endAlike_modify fun mesh mesh' h => ?_
  obtain ⟨hdeadline, clock, hclock, rfl⟩ := h
  exact ⟨hdeadline, clock, hclock, rfl⟩

theorem endAlike_putPort (port : TunnelPort) : EndAlike (Retimed (S := Mesh σ))
    (Operation.modify fun mesh => { mesh with ports := putPort port mesh.ports })
    (Operation.modify fun mesh => { mesh with ports := putPort port mesh.ports }) := by
  refine Operation.endAlike_modify fun mesh mesh' h => ?_
  obtain ⟨hdeadline, clock, hclock, rfl⟩ := h
  exact ⟨hdeadline, clock, hclock, rfl⟩

variable [CommandRunner σ] (settings : MeshSettings)

/-- Trying a command again ends alike, with the pauses in between. -/
theorem endAlike_issueWithRetry (command : SwitchCommand) : EndAlike (Retimed (S := Mesh σ))
    (issueWithRetry settings command) (issueWithRetry settings command) :=
  endAlike_onHost (Operation.endAlike_retryMore (Host.endAlike_sleep _)
    (Host.endAlike_issue command) _)

/-- A rebuild ends alike at any time; it reports no failure at all. -/
theorem endAlike_rebuild :
    EndAlike (Retimed (S := Mesh σ)) (rebuild settings) (rebuild settings) := by
  intro mesh mesh' h
  obtain ⟨hdeadline, clock, hclock, rfl⟩ := h
  rw [rebuild_eq settings mesh, rebuild_eq settings (Timed.setClock clock mesh)]
  exact ⟨nofun, rfl, hdeadline, clock, hclock, rfl⟩

/-! ## §3. Passes. -/

/-- Linking a peer ends alike, whether the switch takes the port or not. -/
theorem endAlike_createLink (agent : Agent) : EndAlike (Retimed (S := Mesh σ))
    (createLink settings agent) (createLink settings agent) := by
  refine Operation.endAlike_bind endAlike_takeOfport fun ofport => ?_
  refine Operation.endAlike_bind
    (Operation.endAlike_attempt (endAlike_issueWithRetry settings _)) fun answer => ?_
  cases answer with
  | error e =>
      exact Operation.endAlike_bind (endAlike_releaseOfport ofport)
        fun _ => Operation.endAlike_fail e
  | ok text =>
      refine Operation.endAlike_bind (endAlike_putPort (.linked ofport agent)) fun _ => ?_
      exact Operation.endAlike_bind (endAlike_rebuild settings) fun _ => Operation.endAlike_pure ()

/-- Unlinking a peer ends alike. -/
theorem endAlike_deleteLink (agent : Agent) : EndAlike (Retimed (S := Mesh σ))
    (deleteLink settings agent) (deleteLink settings agent) := by
  refine Operation.endAlike_get_bind fun mesh mesh' h => ?_
  obtain ⟨-, clock, -, rfl⟩ := h
  -- Of the overlay that is read only the records count.
  cases portOf mesh.ports agent.id with
  | none => exact Operation.endAlike_pure ()
  | some port =>
      cases port with
      | unlinked known => exact Operation.endAlike_pure ()
      | linked ofport known =>
          refine Operation.endAlike_bind (endAlike_issueWithRetry settings _) fun _ => ?_
          refine Operation.endAlike_bind (endAlike_releaseOfport ofport) fun _ => ?_
          refine Operation.endAlike_bind (endAlike_putPort _) fun _ => ?_
          exact Operation.endAlike_bind (endAlike_rebuild settings)
            fun _ => Operation.endAlike_pure ()

theorem endAlike_applyChange (agent : Agent) (summary : SyncSummary) (change : PeerChange) :
    EndAlike (Retimed (S := Mesh σ)) (applyChange settings agent summary change)
      (applyChange settings agent summary change) := by
  have hcreate := endAlike_createLink (σ := σ) settings agent
  have hdelete := endAlike_deleteLink (σ := σ) settings agent
  cases change with
  | keep => exact Operation.endAlike_pure summary
  | link => exact Operation.endAlike_bind hcreate fun _ => Operation.endAlike_pure _
  | relink =>
      exact Operation.endAlike_bind hdelete fun _ =>
        Operation.endAlike_bind hcreate fun _ => Operation.endAlike_pure _
  | unlink => exact Operation.endAlike_bind hdelete fun _ => Operation.endAlike_pure _

/-- The turn of one agent ends alike. -/
theorem endAlike_reconcile (agent : Agent) (summary : SyncSummary) :
    EndAlike (Retimed (S := Mesh σ)) (reconcile settings agent summary)
      (reconcile settings agent summary) := by
  unfold reconcile
  by_cases hself : agent.ip = settings.selfIp
  · rw [if_pos hself]
    exact Operation.endAlike_pure summary
  · rw [if_neg hself]
    refine Operation.endAlike_get_bind fun mesh mesh' h => ?_
    obtain ⟨-, clock, -, rfl⟩ := h
    refine Operation.endAlike_bind
      (Operation.endAlike_attempt (endAlike_applyChange settings agent summary _)) fun answer => ?_
    cases answer <;> exact Operation.endAlike_pure _

/-- So do the turns of all agents. Induction on the agents. -/
theorem endAlike_reconcileAll (agents : List Agent) :
    ∀ summary : SyncSummary, EndAlike (Retimed (S := Mesh σ))
      (reconcileAll settings agents summary) (reconcileAll settings agents summary) := by
  induction agents with
  | nil => intro summary; exact Operation.endAlike_pure summary
  | cons agent rest ih =>
      intro summary
      exact Operation.endAlike_bind (endAlike_reconcile settings agent summary) ih

/-- **A pass does not depend on the time.** -/
theorem endAlike_sync (topology : Topology) : EndAlike (Retimed (S := Mesh σ))
    (sync settings topology) (sync settings topology) :=
  endAlike_reconcileAll settings topology.agents {}

/-! ## §4. Passes one after the other. -/

/-- **A pass has an answer**, whatever the switch answers. -/
theorem sync_done (topology : Topology) {mesh : Mesh σ} (h : mesh.host.clock.deadline = none) :
    ∃ summary, (sync settings topology mesh).1 = .done summary := by
  have hturn : ∀ agent summary (mesh : Mesh σ), mesh.host.clock.deadline = none →
      ∃ later mesh', reconcile settings agent summary mesh = (.done later, mesh') ∧
        mesh'.host.clock.deadline = none := by
    intro agent summary mesh h
    by_cases hself : agent.ip = settings.selfIp
    · refine ⟨summary, mesh, ?_, h⟩
      rw [reconcile, if_pos hself]
      rfl
    · have hget : Operation.get mesh = (.done mesh, mesh) := rfl
      obtain ⟨hends, -, hafter, -⟩ := endAlike_applyChange settings agent summary
        (changeFor (portOf mesh.ports agent.id) agent) mesh mesh ⟨h, mesh.host.clock, h, rfl⟩
      obtain ⟨answer, hattempt⟩ := Operation.attempt_ends hends
      rw [reconcile, if_neg hself, Operation.bind_done hget, Operation.bind_done hattempt]
      cases answer with
      | ok later => exact ⟨later, _, rfl, hafter⟩
      | error e => exact ⟨_, _, rfl, hafter⟩
  have hall : ∀ (agents : List Agent) summary (mesh : Mesh σ), mesh.host.clock.deadline = none →
      ∃ later, (reconcileAll settings agents summary mesh).1 = .done later := by
    intro agents
    induction agents with
    | nil => intro summary mesh _; exact ⟨summary, rfl⟩
    | cons agent rest ih =>
        intro summary mesh h
        obtain ⟨later, mesh', hreconcile, hmesh'⟩ := hturn agent summary mesh h
        rw [reconcileAll, Operation.bind_done hreconcile]
        exact ih later mesh' hmesh'
  exact hall topology.agents {} mesh h

/-- The overlay after passes over some snapshots, one after the other. -/
def syncAll (topologies : List Topology) (mesh : Mesh σ) : Mesh σ :=
  topologies.foldl (fun mesh topology => (sync settings topology mesh).2) mesh

@[simp] theorem syncAll_concat (topologies : List Topology) (topology : Topology) (mesh : Mesh σ) :
    syncAll settings (topologies ++ [topology]) mesh
      = (sync settings topology (syncAll settings topologies mesh)).2 := by
  rw [syncAll, List.foldl_append]
  rfl

end Mesh

end VxlanMesh
