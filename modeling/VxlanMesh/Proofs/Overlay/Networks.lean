/-
  VxlanMesh.Proofs.Overlay.Networks
  ────────────────────────────────
  **WHAT ACTIVATING AND DEACTIVATING DO TO THE NETWORKS.**

  A rebuild of the flow rules only talks to the switch, and it always
  ends; so a network is active as soon as it collides with no other one,
  whatever the switch answers.
-/
import VxlanMesh.Overlay.Mesh
import VxlanMesh.Proofs.Switch.Programming

namespace VxlanMesh

/-! ## §1. Networks that share nothing. -/

namespace Network

theorem collidesWith_eq_false {a b : Network} :
    a.collidesWith b = false ↔ a.id ≠ b.id ∧ a.vni ≠ b.vni ∧ a.vlan ≠ b.vlan := by
  simp [collidesWith, and_assoc]

/-- No two of the networks share an identifier. -/
def Apart (networks : List Network) : Prop :=
  networks.Pairwise fun a b => a.collidesWith b = false

variable {networks : List Network}

/-- Networks that are apart collide only with themselves. -/
theorem Apart.of_ne (h : Apart networks) {a b : Network} (ha : a ∈ networks) (hb : b ∈ networks)
    (hne : a ≠ b) : a.collidesWith b = false := by
  induction networks with
  | nil => cases ha
  | cons net rest ih =>
      obtain ⟨hnet, hrest⟩ := List.pairwise_cons.1 h
      rcases List.mem_cons.1 ha with rfl | ha'
      · rcases List.mem_cons.1 hb with rfl | hb'
        · exact absurd rfl hne
        · exact hnet b hb'
      · rcases List.mem_cons.1 hb with rfl | hb'
        · rw [collidesWith_comm]
          exact hnet a ha'
        · exact ih hrest ha' hb'

theorem Apart.nodup (h : Apart networks) : networks.Nodup :=
  h.imp fun happart hsame => (collidesWith_eq_false.1 happart).1 (congrArg Network.id hsame)

/-- Networks with different ids share nothing. -/
theorem Apart.ne (h : Apart networks) {a b : Network} (ha : a ∈ networks) (hb : b ∈ networks)
    (hid : a.id ≠ b.id) : a.vni ≠ b.vni ∧ a.vlan ≠ b.vlan :=
  (collidesWith_eq_false.1 (h.of_ne ha hb fun hsame => hid (congrArg Network.id hsame))).2

/-- A network that collides with none can be added. -/
theorem Apart.concat (h : Apart networks) {net : Network}
    (hnet : networks.any (·.collidesWith net) = false) : Apart (networks ++ [net]) := by
  refine List.pairwise_append.2 ⟨h, List.pairwise_singleton _ _, fun a ha b hb => ?_⟩
  rw [List.mem_singleton.1 hb]
  exact Bool.eq_false_iff.2 (List.any_eq_false.1 hnet a ha)

/-- Without the network of an id, all others remain. -/
theorem Apart.mem_eraseP (h : Apart networks) {id : String} {net : Network} :
    net ∈ networks.eraseP (·.id == id) ↔ net ∈ networks ∧ net.id ≠ id := by
  by_cases hid : net.id = id
  · refine ⟨fun hmem => ?_, fun hmem => absurd hid hmem.2⟩
    -- The network that was erased is another one with the same id.
    obtain ⟨a, before, after, -, ha, hsplit, herase⟩ :=
      List.exists_of_eraseP (p := (·.id == id)) (List.mem_of_mem_eraseP hmem) (by simpa using hid)
    rw [hsplit] at h
    rw [herase] at hmem
    have hsame : net.id = a.id := hid.trans (eq_of_beq ha).symm
    obtain ⟨-, hafter, hbefore⟩ := List.pairwise_append.1 h
    rcases List.mem_append.1 hmem with hmem | hmem
    · exact absurd hsame
        (collidesWith_eq_false.1 (hbefore net hmem a List.mem_cons_self)).1
    · exact absurd hsame.symm
        (collidesWith_eq_false.1 ((List.pairwise_cons.1 hafter).1 net hmem)).1
  · rw [List.mem_eraseP_of_neg (by simpa using hid)]
    exact ⟨fun hmem => ⟨hmem, hid⟩, And.left⟩

theorem Apart.eraseP (h : Apart networks) (id : String) :
    Apart (networks.eraseP (·.id == id)) :=
  List.Pairwise.eraseP _ h

/-- Activating and deactivating a network that collides with none changes nothing. -/
theorem eraseP_concat {net : Network} (hnet : networks.any (·.collidesWith net) = false) :
    (networks ++ [net]).eraseP (·.id == net.id) = networks := by
  have hall : ∀ a ∈ networks, ¬ (a.id == net.id) = true := by
    intro a ha hid
    have hfalse := Bool.eq_false_iff.2 (List.any_eq_false.1 hnet a ha)
    exact (collidesWith_eq_false.1 hfalse).1 (beq_iff_eq.1 hid)
  rw [List.eraseP_append_right _ hall, List.eraseP_cons_of_pos (by simp), List.append_nil]

end Network

variable {σ : Type} [CommandRunner σ]

/-! ## §2. Rebuilding ends. -/

namespace Mesh

omit [CommandRunner σ] in
theorem onHost_done {α : Type} {op : Operation (Host σ) α} {mesh : Mesh σ} {a : α} {host : Host σ}
    (h : op mesh.host = (.done a, host)) : onHost op mesh = (.done a, { mesh with host }) := by
  rw [onHost, Operation.within, h]

/-- **A rebuild is its commands**, whatever the switch answers to them. -/
theorem rebuild_eq (settings : MeshSettings) (mesh : Mesh σ) :
    let (answers, switch) := CommandRunner.runAll
      (settings.switch.rebuildCommands mesh.networks mesh.ports) mesh.host.switch
    rebuild settings mesh = (.done ((answers.drop 2).foldl RebuildSummary.count {}),
      { mesh with host := { mesh.host with switch } }) := by
  have hget : Operation.get mesh = (.done mesh, mesh) := rfl
  rw [rebuild, Operation.bind_done hget, onHost_done (settings.switch.rebuild_eq _ _ mesh.host)]
  rfl

/-- **A rebuild ends, and only the switch changes.** -/
theorem rebuild_done (settings : MeshSettings) (mesh : Mesh σ) : ∃ summary switch,
    rebuild settings mesh = (.done summary, { mesh with host := { mesh.host with switch } }) := by
  exact ⟨_, _, rebuild_eq settings mesh⟩

/-- A rebuild leaves the networks alone. -/
theorem networks_of_rebuild {settings : MeshSettings} {mesh mesh' : Mesh σ}
    {outcome : Outcome RebuildSummary} (h : rebuild settings mesh = (outcome, mesh')) :
    mesh'.networks = mesh.networks := by
  obtain ⟨summary, switch, hrebuild⟩ := rebuild_done settings mesh
  rw [h] at hrebuild
  rw [(Prod.mk.inj hrebuild).2]

/-! ## §3. Networks. -/

/-- **A network that collides is refused**, and nothing happens. -/
theorem addNetwork_collides {settings : MeshSettings} {net : Network} {mesh : Mesh σ}
    (h : mesh.networks.any (·.collidesWith net) = true) :
    addNetwork settings net mesh = (.failed (.networkExists net.id net.vni net.vlan), mesh) := by
  have hget : Operation.get mesh = (.done mesh, mesh) := rfl
  rw [addNetwork, Operation.bind_done hget, if_pos h]
  rfl

/-- **After any other network the rules are rebuilt.** -/
theorem addNetwork_rebuilds (settings : MeshSettings) {net : Network} {mesh : Mesh σ}
    (h : mesh.networks.any (·.collidesWith net) = false) : ∃ summary mesh',
    rebuild settings { mesh with networks := mesh.networks ++ [net] } = (.done summary, mesh') ∧
      addNetwork settings net mesh = (.done (), mesh') := by
  have hget : Operation.get mesh = (.done mesh, mesh) := rfl
  have hmodify : Operation.modify (fun mesh => { mesh with networks := mesh.networks ++ [net] })
      mesh = (.done (), { mesh with networks := mesh.networks ++ [net] }) := rfl
  obtain ⟨summary, switch, hrebuild⟩ :=
    rebuild_done settings { mesh with networks := mesh.networks ++ [net] }
  refine ⟨summary, _, hrebuild, ?_⟩
  rw [addNetwork, Operation.bind_done hget, if_neg (by rw [h]; simp),
    Operation.bind_done hmodify, Operation.bind_done hrebuild]
  rfl

/-- **It is active afterwards**, whatever the switch answers. -/
theorem addNetwork_apart (settings : MeshSettings) {net : Network} {mesh : Mesh σ}
    (h : mesh.networks.any (·.collidesWith net) = false) : ∃ switch,
    addNetwork settings net mesh = (.done (), { mesh with
      networks := mesh.networks ++ [net], host := { mesh.host with switch } }) := by
  obtain ⟨summary, mesh', hrebuild, hadd⟩ := addNetwork_rebuilds settings h
  obtain ⟨_, switch, hswitch⟩ :=
    rebuild_done settings { mesh with networks := mesh.networks ++ [net] }
  rw [hrebuild] at hswitch
  exact ⟨switch, by rw [hadd, (Prod.mk.inj hswitch).2]⟩

/-- **A network that is not active cannot be removed**, and nothing happens. -/
theorem removeNetwork_absent {settings : MeshSettings} {id : String} {mesh : Mesh σ}
    (h : mesh.networks.any (·.id == id) = false) :
    removeNetwork settings id mesh = (.failed (.networkNotFound id), mesh) := by
  have hget : Operation.get mesh = (.done mesh, mesh) := rfl
  rw [removeNetwork, Operation.bind_done hget, if_neg (by rw [h]; simp)]
  rfl

/-- **After a network that is active the rules are rebuilt.** -/
theorem removeNetwork_rebuilds (settings : MeshSettings) {id : String} {mesh : Mesh σ}
    (h : mesh.networks.any (·.id == id) = true) : ∃ summary mesh',
    rebuild settings { mesh with networks := mesh.networks.eraseP (·.id == id) }
        = (.done summary, mesh') ∧ removeNetwork settings id mesh = (.done (), mesh') := by
  have hget : Operation.get mesh = (.done mesh, mesh) := rfl
  have hmodify : Operation.modify
      (fun mesh => { mesh with networks := mesh.networks.eraseP (·.id == id) }) mesh
      = (.done (), { mesh with networks := mesh.networks.eraseP (·.id == id) }) := rfl
  obtain ⟨summary, switch, hrebuild⟩ :=
    rebuild_done settings { mesh with networks := mesh.networks.eraseP (·.id == id) }
  refine ⟨summary, _, hrebuild, ?_⟩
  rw [removeNetwork, Operation.bind_done hget, if_pos h, Operation.bind_done hmodify,
    Operation.bind_done hrebuild]
  rfl

/-- **It is not active afterwards**, whatever the switch answers. -/
theorem removeNetwork_present (settings : MeshSettings) {id : String} {mesh : Mesh σ}
    (h : mesh.networks.any (·.id == id) = true) : ∃ switch,
    removeNetwork settings id mesh = (.done (), { mesh with
      networks := mesh.networks.eraseP (·.id == id), host := { mesh.host with switch } }) := by
  obtain ⟨summary, mesh', hrebuild, hremove⟩ := removeNetwork_rebuilds settings h
  obtain ⟨_, switch, hswitch⟩ :=
    rebuild_done settings { mesh with networks := mesh.networks.eraseP (·.id == id) }
  rw [hrebuild] at hswitch
  exact ⟨switch, by rw [hremove, (Prod.mk.inj hswitch).2]⟩

end Mesh

end VxlanMesh
