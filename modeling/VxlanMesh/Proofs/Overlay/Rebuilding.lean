/-
  VxlanMesh.Proofs.Overlay.Rebuilding
  ────────────────────────────────
  **AFTER A CHANGE THE RULES ARE REBUILT, AND A REBUILD HEALS.**

  Whatever the tables held before and whatever failed before, a change of
  the networks or of a tunnel record ends with a rebuild for the networks
  and records there are now.  If every command of that rebuild succeeds,
  the two tables that depend on networks and peers hold the desired rules
  and nothing else.

      desiredRules_decap, desiredRules_flood    what is desired there
      slots_nodup                               no rule overwrites another
      Reachable.apart                           the invariant behind it
      rules_after_change                        the main result
-/
import VxlanMesh.Proofs.Numeral.ReadBack
import VxlanMesh.Proofs.Overlay.Linking
import VxlanMesh.Proofs.Switch.FlowTables

namespace VxlanMesh

open VxlanMesh.Numeral (decimal_injective hexadecimal_injective)

/-! ## §1. The rules of the two tables. -/

/-- The table depends on networks and peers. -/
def PipelineTable.IsVariable (table : PipelineTable) : Prop := table = .decap ∨ table = .flood

/-- What no other rule of a table fits is dropped. -/
def dropRule (table : PipelineTable) : PipelineRule := ⟨table, 0, .always, [.drop]⟩

/-- One ingress rule for each network. -/
theorem desiredRules_decap (networks : List Network) (ports : List TunnelPort) :
    (desiredRules networks ports).filter (·.table == .decap)
      = dropRule .decap :: networks.map ingressRule := by
  have hbase : baseRules.filter (·.table == .decap) = [dropRule .decap] := by decide
  have hnetworks : (networks.flatMap fun net =>
      [ingressRule net, egressRule net (linkedOfports ports)]).filter (·.table == .decap)
        = networks.map ingressRule := by
    induction networks with
    | nil => rfl
    | cons net rest ih =>
        rw [List.flatMap_cons, List.filter_append, ih]
        rfl
  rw [desiredRules, List.filter_append, hbase, hnetworks, List.singleton_append]

/-- One egress rule for each network, to every linked port. -/
theorem desiredRules_flood (networks : List Network) (ports : List TunnelPort) :
    (desiredRules networks ports).filter (·.table == .flood)
      = dropRule .flood :: networks.map (egressRule · (linkedOfports ports)) := by
  have hbase : baseRules.filter (·.table == .flood) = [dropRule .flood] := by decide
  have hnetworks : (networks.flatMap fun net =>
      [ingressRule net, egressRule net (linkedOfports ports)]).filter (·.table == .flood)
        = networks.map (egressRule · (linkedOfports ports)) := by
    induction networks with
    | nil => rfl
    | cons net rest ih =>
        rw [List.flatMap_cons, List.filter_append, ih]
        rfl
  rw [desiredRules, List.filter_append, hbase, hnetworks, List.singleton_append]

theorem PipelineTable.number_beq (a b : PipelineTable) : (a.number == b.number) = (a == b) := by
  cases a <;> cases b <;> rfl

theorem filter_toFlow (rules : List PipelineRule) (table : PipelineTable) :
    (rules.map PipelineRule.toFlow).filter (·.table == table.number)
      = (rules.filter (·.table == table)).map PipelineRule.toFlow := by
  rw [List.filter_map]
  congr 2
  funext rule
  exact PipelineTable.number_beq rule.table table

/-! ## §2. Slots of their own. -/

theorem tunnelKey_text_injective {a b : UInt32}
    (h : (Criterion.tunnelKey a).text = (Criterion.tunnelKey b).text) : a = b :=
  UInt32.toNat_inj.1 (hexadecimal_injective (String.append_right_inj _ |>.1 h))

theorem vlanTag_text_injective {a b : UInt16}
    (h : (Criterion.vlanTag a).text = (Criterion.vlanTag b).text) : a = b :=
  UInt16.toNat_inj.1 (decimal_injective (String.append_right_inj _ |>.1 h))

/-- A rule for each network stands in a slot of its own, if its match tells networks apart. -/
theorem slots_nodup {networks : List Network} (h : Network.Apart networks) (table : PipelineTable)
    {ruleOf : Network → PipelineRule}
    (hpriority : ∀ net, (ruleOf net).priority = 1)
    (hmatch : ∀ {a b : Network}, a.collidesWith b = false →
      (ruleOf a).criterion.text ≠ (ruleOf b).criterion.text) :
    (((dropRule table :: networks.map ruleOf).map PipelineRule.toFlow).map
      FlowRule.slot).Nodup := by
  rw [List.map_cons, List.map_cons, List.map_map, List.map_map]
  refine List.nodup_cons.2 ⟨fun hmem => ?_, ?_⟩
  -- The rule that drops has a lower priority than those of networks.
  · obtain ⟨net, -, hnet⟩ := List.mem_map.1 hmem
    have hzero : (ruleOf net).priority = 0 := congrArg (·.2.1) hnet
    rw [hpriority net] at hzero
    exact absurd hzero (by decide)
  · refine List.pairwise_map.2 (h.imp fun hapart hslot => ?_)
    exact hmatch hapart (congrArg (·.2.2) hslot)

/-- The two tables that depend on networks and peers hold what is desired there. -/
structure RulesInForce (settings : SwitchSettings) (networks : List Network)
    (ports : List TunnelPort) (tables : FlowTables) : Prop where
  /-- They hold the desired rules and no others. -/
  desired : ∀ table : PipelineTable, table.IsVariable →
    tables settings.tunnelBridge table.number
      = ((desiredRules networks ports).map PipelineRule.toFlow).filter
          (·.table == table.number)
  /-- In the one that is one rule for each network, -/
  ingress : tables settings.tunnelBridge PipelineTable.decap.number
    = (dropRule .decap :: networks.map ingressRule).map PipelineRule.toFlow
  /-- in the other one as well, to every linked port. -/
  egress : tables settings.tunnelBridge PipelineTable.flood.number
    = (dropRule .flood :: networks.map (egressRule · (linkedOfports ports))).map
        PipelineRule.toFlow
  /-- No rule has the slot of another. -/
  slots : ∀ table : PipelineTable, table.IsVariable →
    ((tables settings.tunnelBridge table.number).map FlowRule.slot).Nodup

/-- **Networks that share nothing need rules that do not overwrite each other.** -/
theorem desired_slots_nodup {networks : List Network} (h : Network.Apart networks)
    (ports : List TunnelPort) {table : PipelineTable} (htable : table.IsVariable) :
    ((((desiredRules networks ports).map PipelineRule.toFlow).filter
      (·.table == table.number)).map FlowRule.slot).Nodup := by
  rw [filter_toFlow]
  rcases htable with rfl | rfl
  · rw [desiredRules_decap]
    exact slots_nodup h .decap (fun _ => rfl) fun hapart htext =>
      (Network.collidesWith_eq_false.1 hapart).2.1 (tunnelKey_text_injective htext)
  · rw [desiredRules_flood]
    exact slots_nodup h .flood (fun _ => rfl) fun hapart htext =>
      (Network.collidesWith_eq_false.1 hapart).2.2 (vlanTag_text_injective htext)

/-- **A rebuild that succeeds puts the rules into force**, whatever was in the tables. -/
theorem rulesInForce_of_succeeded {settings : SwitchSettings} {networks : List Network}
    (h : Network.Apart networks) {ports : List TunnelPort} {log : List (SwitchCommand × Bool)}
    (hlog : log.map Prod.fst = settings.rebuildCommands networks ports)
    (hall : ∀ entry ∈ log, entry.2 = true) (tables : FlowTables) :
    RulesInForce settings networks ports (tables.replay log) := by
  have hdesired : ∀ table : PipelineTable, table.IsVariable →
      tables.replay log settings.tunnelBridge table.number
        = ((desiredRules networks ports).map PipelineRule.toFlow).filter
            (·.table == table.number) := by
    intro table htable
    rw [FlowTables.replay_of_succeeded hall, hlog]
    exact settings.tables_rebuilt tables (htable.imp (congrArg _) (congrArg _))
      (desired_slots_nodup h ports htable)
  refine ⟨hdesired, ?_, ?_, fun table htable => ?_⟩
  · rw [hdesired .decap (Or.inl rfl), filter_toFlow, desiredRules_decap]
  · rw [hdesired .flood (Or.inr rfl), filter_toFlow, desiredRules_flood]
  · rw [hdesired table htable]
    exact desired_slots_nodup h ports htable

/-! ## §3. Changes and reachable states. -/

namespace Mesh

variable {σ : Type} [CommandRunner σ]

/-- What changes networks or tunnel records. -/
inductive Change where
  | add (net : Network)
  | remove (id : String)
  | link (agent : Agent)
  | unlink (agent : Agent)
  deriving Repr, DecidableEq

/-- Make a change. -/
def Change.run (settings : MeshSettings) : Change → Operation (Mesh σ) Unit
  | .add net => addNetwork settings net
  | .remove id => removeNetwork settings id
  | .link agent => createLink settings agent
  | .unlink agent => deleteLink settings agent

/-- The change was not refused (networks), or a record is not what it was (tunnels). -/
def Change.TookEffect (change : Change) (mesh : Mesh σ) (outcome : Outcome Unit)
    (mesh' : Mesh σ) : Prop :=
  match change with
  | .add _ | .remove _ => outcome = .done ()
  | .link _ | .unlink _ => mesh'.ports ≠ mesh.ports

/-- The states of the overlay that some history leads to. -/
inductive Reachable (settings : MeshSettings) : Mesh σ → Prop
  /-- At first there are no networks and no records; the tables may hold anything. -/
  | start (host : Host σ) (ofports : IdSpace) : Reachable settings { host, ofports }
  /-- Commands may fail in a change, and the change may fail. -/
  | change {mesh : Mesh σ} (change : Change) (h : Reachable settings mesh) :
      Reachable settings (change.run settings mesh).2
  /-- Anyone may do anything to the switch. -/
  | disturbed {mesh : Mesh σ} (host : Host σ) (h : Reachable settings mesh) :
      Reachable settings { mesh with host }

/-- **A pass over a snapshot is a history of changes.** -/
theorem Reachable.sync {settings : MeshSettings} {mesh : Mesh σ} (h : Reachable settings mesh)
    (topology : Topology) : Reachable settings (sync settings topology mesh).2 :=
  preserves_sync (fun agent _ h => .change (.link agent) h)
    (fun agent _ h => .change (.unlink agent) h) topology mesh h

theorem apart_run {settings : MeshSettings} {mesh : Mesh σ} (h : Network.Apart mesh.networks)
    (change : Change) : Network.Apart (change.run settings mesh).2.networks := by
  cases change with
  | add net =>
      cases hany : mesh.networks.any (·.collidesWith net) with
      | true =>
          rw [Change.run, addNetwork_collides hany]
          exact h
      | false =>
          obtain ⟨switch, hadd⟩ := addNetwork_apart settings hany
          rw [Change.run, hadd]
          exact h.concat hany
  | remove id =>
      cases hany : mesh.networks.any (·.id == id) with
      | false =>
          rw [Change.run, removeNetwork_absent hany]
          exact h
      | true =>
          obtain ⟨switch, hremove⟩ := removeNetwork_present settings hany
          rw [Change.run, hremove]
          exact h.eraseP id
  | link agent =>
      rw [Change.run, (createLink_cases settings agent mesh).networks_eq]
      exact h
  | unlink agent =>
      rw [Change.run, (deleteLink_cases settings agent mesh).networks_eq]
      exact h

/-- **The active networks never share an identifier.** -/
theorem Reachable.apart {settings : MeshSettings} {mesh : Mesh σ} (h : Reachable settings mesh) :
    Network.Apart mesh.networks := by
  induction h with
  | start host ofports => exact List.Pairwise.nil
  | change change _ ih => exact apart_run ih change
  | disturbed host _ ih => exact ih

/-! ## §4. Every change is followed by a rebuild. -/

open FlowSwitch (Heard)

theorem rebuild_heard (settings : MeshSettings) {mesh mesh' : Mesh (FlowSwitch σ)}
    {summary : RebuildSummary} (h : rebuild settings mesh = (.done summary, mesh')) :
    ∃ log, Heard mesh.host.switch log mesh'.host.switch ∧
      log.map Prod.fst = settings.switch.rebuildCommands mesh'.networks mesh'.ports := by
  obtain ⟨log, hcommands, hheard⟩ := FlowSwitch.heard_runAll
    (settings.switch.rebuildCommands mesh.networks mesh.ports) mesh.host.switch
  have hmesh := rebuild_eq settings mesh
  rw [h] at hmesh
  rw [(Prod.mk.inj hmesh).2]
  exact ⟨log, hheard, hcommands⟩

/-- Commands that are tried again are remembered as well. -/
theorem issueWithRetry_heard (settings : MeshSettings) (command : SwitchCommand)
    (mesh : Mesh (FlowSwitch σ)) : ∃ log, Heard mesh.host.switch log
      (issueWithRetry settings command mesh).2.host.switch :=
  Operation.preserves_retryMore (P := fun host : Host (FlowSwitch σ) =>
      ∃ log, Heard mesh.host.switch log host.switch) (fun _ _ h => h) _
    (Host.preserves_issue mesh.host.switch command) _ mesh.host ⟨[], .nil _⟩

theorem Retunneled.heard {settings : MeshSettings} {mesh mesh' : Mesh (FlowSwitch σ)}
    (h : Retunneled settings mesh mesh') (hports : mesh'.ports ≠ mesh.ports) :
    ∃ mesh₁ summary, rebuild settings mesh₁ = (.done summary, mesh') ∧
      ∃ earlier, Heard mesh.host.switch earlier mesh₁.host.switch := by
  cases h with
  | unchanged _ hsame => exact absurd hsame hports
  | rebuilt command mesh₁ summary hrebuild _ hhost =>
      obtain ⟨earlier, hearlier⟩ := issueWithRetry_heard settings command mesh
      rw [← hhost] at hearlier
      exact ⟨mesh₁, summary, hrebuild, earlier, hearlier⟩

/-- **The last thing that a change does is a rebuild.** -/
theorem rebuild_after {settings : MeshSettings} {mesh mesh' : Mesh (FlowSwitch σ)}
    {change : Change} {outcome : Outcome Unit} (hrun : change.run settings mesh = (outcome, mesh'))
    (heffect : change.TookEffect mesh outcome mesh') :
    ∃ mesh₁ summary, rebuild settings mesh₁ = (.done summary, mesh') ∧
      ∃ earlier, Heard mesh.host.switch earlier mesh₁.host.switch := by
  cases change with
  | add net =>
      rw [show outcome = .done () from heffect, Change.run] at hrun
      cases hany : mesh.networks.any (·.collidesWith net) with
      | true => rw [addNetwork_collides hany] at hrun; cases hrun
      | false =>
          obtain ⟨summary, _, hrebuild, hadd⟩ := addNetwork_rebuilds settings hany
          rw [hadd] at hrun
          cases hrun
          exact ⟨_, summary, hrebuild, [], .nil _⟩
  | remove id =>
      rw [show outcome = .done () from heffect, Change.run] at hrun
      cases hany : mesh.networks.any (·.id == id) with
      | false => rw [removeNetwork_absent hany] at hrun; cases hrun
      | true =>
          obtain ⟨summary, _, hrebuild, hremove⟩ :=
            removeNetwork_rebuilds settings hany
          rw [hremove] at hrun
          cases hrun
          exact ⟨_, summary, hrebuild, [], .nil _⟩
  | link agent =>
      have hcases := createLink_cases settings agent mesh
      rw [show createLink settings agent mesh = (outcome, mesh') from hrun] at hcases
      exact hcases.heard heffect
  | unlink agent =>
      have hcases := deleteLink_cases settings agent mesh
      rw [show deleteLink settings agent mesh = (outcome, mesh') from hrun] at hcases
      exact hcases.heard heffect

/-- **The rules after a change.**  In a reachable state, whatever the tables hold: the last
commands of a change that takes effect are those of a rebuild for the networks and records
there are now, and if each of them succeeds, the rules for these are in force. -/
theorem rules_after_change {settings : MeshSettings} {mesh mesh' : Mesh (FlowSwitch σ)}
    {change : Change} {outcome : Outcome Unit} (hreach : Reachable settings mesh)
    (hrun : change.run settings mesh = (outcome, mesh'))
    (heffect : change.TookEffect mesh outcome mesh') :
    ∃ earlier final,
      mesh'.host.switch.answered = mesh.host.switch.answered ++ earlier ++ final ∧
      final.map Prod.fst = settings.switch.rebuildCommands mesh'.networks mesh'.ports ∧
      ((∀ entry ∈ final, entry.2 = true) →
        RulesInForce settings.switch mesh'.networks mesh'.ports mesh'.host.switch.tables) := by
  have hapart : Network.Apart mesh'.networks := by
    have hafter := (Reachable.change change hreach).apart
    rwa [hrun] at hafter
  -- The rebuild is for the networks and records of `mesh'`, since it changes neither.
  obtain ⟨mesh₁, summary, hrebuild, earlier, hearlier⟩ := rebuild_after hrun heffect
  obtain ⟨final, hfinal, hcommands⟩ := rebuild_heard settings hrebuild
  refine ⟨earlier, final, ?_, hcommands, fun hall => ?_⟩
  · rw [hfinal.1, hearlier.1]
  · rw [hfinal.2]
    exact rulesInForce_of_succeeded hapart hcommands hall _

/-- A switch that refuses some of its next commands and takes all commands after these. -/
structure Faltering where
  /-- Which of the next commands it takes. -/
  answers : List Bool
  deriving Repr, DecidableEq

instance : CommandRunner Faltering where
  run command switch :=
    match switch.answers with
    | [] | true :: _ => (.ok "", { answers := switch.answers.tail })
    | false :: rest => (.error (.commandFailed command.commandLine 1 ""), { answers := rest })

/-- One of two hosts. -/
def nearHost : MeshSettings := { selfIp := "10.0.0.1", localIp := "10.0.0.1" }

/-- The other one. -/
def farAgent : Agent := { id := "far", ip := "10.0.0.2", status := .ready }

/-- A network was added while the switch did not empty its tables, which hold rules of nobody. -/
def cluttered : Mesh (FlowSwitch Faltering) :=
  ((Change.add ⟨"blue", 5000, 1⟩).run nearHost {
    host := { switch := {
      control := { answers := [false, false] }
      tables := fun _ table => [⟨table, 1, "tun_id=0x1", "drop"⟩] } }
    ofports := IdSpace.seed { name := "tunnel-ofport", limit := some 65280 } [0, 1] }).2

/-- The next tunnel heals it. -/
theorem rules_after_change_heal : ∃ mesh',
    (Change.link farAgent).run nearHost cluttered = (.done (), mesh') ∧
      mesh'.networks = [⟨"blue", 5000, 1⟩] ∧ mesh'.ports = [.linked 2 farAgent] ∧
      RulesInForce nearHost.switch mesh'.networks mesh'.ports mesh'.host.switch.tables := by
  have hreach : Reachable nearHost cluttered := .change _ (.start _ _)
  have hbefore : cluttered.ports = [] := by decide +kernel
  have hdone : ((Change.link farAgent).run nearHost cluttered).1 = .done () := by decide +kernel
  have hnetworks : ((Change.link farAgent).run nearHost cluttered).2.networks
      = [⟨"blue", 5000, 1⟩] := by decide +kernel
  have hports : ((Change.link farAgent).run nearHost cluttered).2.ports
      = [.linked 2 farAgent] := by decide +kernel
  have hanswers : (((Change.link farAgent).run nearHost cluttered).2.host.switch.answered.drop
      cluttered.host.switch.answered.length).all (·.2) = true := by decide +kernel
  cases hrun : (Change.link farAgent).run nearHost cluttered with
  | mk outcome mesh' =>
      rw [hrun] at hdone hnetworks hports hanswers
      cases hdone
      have heffect : (Change.link farAgent).TookEffect cluttered (.done ()) mesh' := by
        rw [Change.TookEffect, hports, hbefore]
        exact List.cons_ne_nil _ _
      obtain ⟨earlier, final, hanswered, -, hinForce⟩ := rules_after_change hreach hrun heffect
      refine ⟨mesh', rfl, hnetworks, hports, hinForce fun entry hentry => ?_⟩
      refine List.all_eq_true.1 hanswers entry ?_
      rw [hanswered, List.append_assoc, List.drop_left]
      exact List.mem_append_right _ hentry

end Mesh

end VxlanMesh
