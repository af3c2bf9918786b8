/-
  VxlanMesh.Proofs.Overlay.Isolation
  ────────────────────────────────
  **THE PIPELINE KEEPS TENANTS APART.**

  The desired rules, read as the switch reads them, turn the tunnel key of
  a network into its VLAN and its VLAN into its tunnel key, and let
  nothing else through.  That two rules never fit one packet with the same
  priority is due to the networks, which share no identifier; that a
  flooded packet goes to each tunnel once, and not back, is due to the
  numbers of the tunnel ports.

      decapsulated   what becomes of a packet from a tunnel
      encapsulated   what becomes of a packet from the patch port
      Isolated       what that means for tenants
      isolated_after the main result
-/
import Mathlib.Data.Nat.Bitwise
import VxlanMesh.Proofs.Overlay.Rebuilding
import VxlanMesh.Proofs.Overlay.Tunnels
import VxlanMesh.Proofs.Switch.Forwarding

namespace VxlanMesh

open SwitchRule (meet? best?_singleton best?_pair act forward enter enter_resubmit enter_drop
  enter_succ foldlM_act foldlM_output)

/-! ## §1. The rules of each table. -/

/-- Tables that do not depend on networks and peers hold the fixed rules. -/
theorem desiredRules_fixed (networks : List Network) (ports : List TunnelPort)
    {table : PipelineTable} (h : ¬ table.IsVariable) :
    (desiredRules networks ports).filter (·.table == table)
      = baseRules.filter (·.table == table) := by
  have hnetworks : (networks.flatMap fun net =>
      [ingressRule net, egressRule net (linkedOfports ports)]).filter (·.table == table) = [] := by
    refine List.filter_eq_nil_iff.2 fun rule hrule htable => h ?_
    obtain ⟨net, -, hnet⟩ := List.mem_flatMap.1 hrule
    rw [← beq_iff_eq.1 htable]
    rcases List.mem_cons.1 hnet with rfl | hegress
    · exact .inl rfl
    · rw [List.mem_singleton.1 hegress]
      exact .inr rfl
  rw [desiredRules, List.filter_append, hnetworks, List.append_nil]

theorem PipelineTable.number_toNat_beq (a b : PipelineTable) :
    (a.number.toNat == b.number.toNat) = (a == b) := by
  cases a <;> cases b <;> rfl

/-- The rules of the pipeline as the switch has them, and those that it has learned. -/
def switchRules (networks : List Network) (ports : List TunnelPort) (learned : List SwitchRule) :
    List SwitchRule :=
  (desiredRules networks ports).map PipelineRule.meaning ++ learned

/-- Learned rules are in the table for unicast packets. -/
def AreLearned (learned : List SwitchRule) : Prop :=
  ∀ rule ∈ learned, rule.table = PipelineTable.unicast.number.toNat

section

variable {networks : List Network} {ports : List TunnelPort} {learned : List SwitchRule}

theorem filter_switchRules (table : PipelineTable) :
    (switchRules networks ports learned).filter (·.table == table.number.toNat)
      = ((desiredRules networks ports).filter (·.table == table)).map PipelineRule.meaning
        ++ learned.filter (·.table == table.number.toNat) := by
  rw [switchRules, List.filter_append, List.filter_map]
  congr 3
  funext rule
  exact PipelineTable.number_toNat_beq rule.table table

/-- Nothing is learned in the other tables. -/
theorem filter_switchRules_of_ne (hlearned : AreLearned learned) {table : PipelineTable}
    (htable : table ≠ .unicast) :
    (switchRules networks ports learned).filter (·.table == table.number.toNat)
      = ((desiredRules networks ports).filter (·.table == table)).map PipelineRule.meaning := by
  have hnone : learned.filter (·.table == table.number.toNat) = [] := by
    refine List.filter_eq_nil_iff.2 fun rule hrule hsame => htable ?_
    rw [hlearned rule hrule, PipelineTable.number_toNat_beq] at hsame
    exact (beq_iff_eq.1 hsame).symm
  rw [filter_switchRules, hnone, List.append_nil]

/-! ## §2. What a packet meets. -/

variable {packet : Packet}

/-- Where nothing is learned and nothing depends on networks and peers, the fixed rules are
met. -/
theorem meet?_fixed (hlearned : AreLearned learned) (table : PipelineTable)
    (hunicast : table ≠ .unicast) (hfixed : ¬ table.IsVariable) :
    meet? (switchRules networks ports learned) table.number.toNat packet
      = SwitchRule.best? (((baseRules.filter (·.table == table)).map PipelineRule.meaning).filter
          (·.fits packet)) := by
  rw [meet?, filter_switchRules_of_ne hlearned hunicast, desiredRules_fixed networks ports hfixed]

/-- A packet from the patch port goes one way, any other the other way. -/
theorem meet?_classify (networks : List Network) (ports : List TunnelPort)
    (hlearned : AreLearned learned) (packet : Packet) :
    meet? (switchRules networks ports learned) PipelineTable.classify.number.toNat packet
      = some [.resubmit (if packet.inPort = patchOfport then PipelineTable.fromPatch.number.toNat
          else PipelineTable.decap.number.toNat)] := by
  have hrules : (baseRules.filter (·.table == .classify)).map PipelineRule.meaning
      = [⟨0, 2, [.inPort patchOfport], [.resubmit 1]⟩, ⟨0, 1, [], [.resubmit 4]⟩] := by decide
  rw [meet?_fixed hlearned .classify (by decide) (by rintro (h | h) <;> cases h), hrules]
  simp only [List.filter_cons, List.filter_nil, SwitchRule.fits, List.all_cons, List.all_nil,
    MatchField.fits, Bool.and_true, if_true]
  by_cases hport : packet.inPort = patchOfport
  · rw [if_pos (beq_iff_eq.2 hport), if_pos hport]
    exact (best?_pair (by decide)).2
  · rw [if_neg (fun hsame => hport (beq_iff_eq.1 hsame)), if_neg hport]
    exact best?_singleton _

/-- From the patch port, packets for groups and packets for one host part. -/
theorem meet?_fromPatch (hlearned : AreLearned learned) :
    meet? (switchRules networks ports learned) PipelineTable.fromPatch.number.toNat packet
      = some [.resubmit (if packet.isGroup then PipelineTable.flood.number.toNat
          else PipelineTable.unicast.number.toNat)] := by
  have hrules : (baseRules.filter (·.table == .fromPatch)).map PipelineRule.meaning
      = [⟨1, 1, [.target 0 groupMask], [.resubmit 20]⟩,
        ⟨1, 1, [.target groupMask groupMask], [.resubmit 21]⟩,
        ⟨1, 0, [], [.drop]⟩] := by decide
  rw [meet?_fixed hlearned .fromPatch (by decide) (by rintro (h | h) <;> cases h), hrules]
  simp only [List.filter_cons, List.filter_nil, SwitchRule.fits, List.all_cons, List.all_nil,
    (fits_target packet).1, (fits_target packet).2]
  cases packet.isGroup with
  | true => exact (best?_pair (by decide)).2
  | false => exact (best?_pair (by decide)).2

/-- A packet that got its VLAN is delivered, and the way back is learned. -/
theorem meet?_learning (hlearned : AreLearned learned) :
    meet? (switchRules networks ports learned) PipelineTable.learning.number.toNat packet
      = some [.learn, .output patchOfport] := by
  have hrules : (baseRules.filter (·.table == .learning)).map PipelineRule.meaning
      = [⟨10, 1, [], [.learn, .output patchOfport]⟩] := by decide
  rw [meet?_fixed hlearned .learning (by decide) (by rintro (h | h) <;> cases h), hrules]
  exact best?_singleton _

/-- A packet to which no way was learned is flooded. -/
theorem meet?_unicast (hnone : ∀ rule ∈ learned, rule.fits packet = false) :
    meet? (switchRules networks ports learned) PipelineTable.unicast.number.toNat packet
      = some [.resubmit PipelineTable.flood.number.toNat] := by
  have hrules : (baseRules.filter (·.table == .unicast)).map PipelineRule.meaning
      = [⟨20, 0, [], [.resubmit 21]⟩] := by decide
  have hlearned : (learned.filter (·.table == PipelineTable.unicast.number.toNat)).filter
      (·.fits packet) = [] := by
    refine List.filter_eq_nil_iff.2 fun rule hrule => ?_
    rw [hnone rule (List.mem_filter.1 hrule).1]
    exact Bool.false_ne_true
  rw [meet?, filter_switchRules,
    desiredRules_fixed networks ports (by rintro (h | h) <;> cases h), hrules, List.filter_append,
    hlearned, List.append_nil]
  exact best?_singleton _

/-- Of networks that share nothing, at most one has a property that tells them apart. -/
theorem Network.Apart.filter_cases (h : Network.Apart networks) (p : Network → Bool)
    (hp : ∀ a ∈ networks, ∀ b ∈ networks, p a = true → p b = true → a.collidesWith b = true) :
    (∃ net ∈ networks, p net = true ∧ networks.filter p = [net]) ∨
      (∀ net ∈ networks, p net = false) ∧ networks.filter p = [] := by
  induction networks with
  | nil => exact .inr ⟨nofun, rfl⟩
  | cons net rest ih =>
      obtain ⟨hnet, hrest⟩ := List.pairwise_cons.1 h
      have htail := ih hrest fun a ha b hb =>
        hp a (List.mem_cons_of_mem net ha) b (List.mem_cons_of_mem net hb)
      cases hpnet : p net with
      | false =>
          rw [List.filter_cons, hpnet, if_neg Bool.false_ne_true]
          refine htail.imp (fun ⟨other, hother, htrue, hfilter⟩ =>
            ⟨other, List.mem_cons_of_mem net hother, htrue, hfilter⟩) fun ⟨hnone, hfilter⟩ =>
              ⟨fun other hother => ?_, hfilter⟩
          rcases List.mem_cons.1 hother with rfl | hmem
          · exact hpnet
          · exact hnone other hmem
      -- A second one would collide with the first.
      | true =>
          refine .inl ⟨net, List.mem_cons_self, hpnet, ?_⟩
          have hnone : rest.filter p = [] := by
            refine List.filter_eq_nil_iff.2 fun other hother hpother => ?_
            have hcollide := hp net List.mem_cons_self other (List.mem_cons_of_mem net hother)
              hpnet hpother
            exact Bool.false_ne_true ((hnet other hother).symm.trans hcollide)
          rw [List.filter_cons, hpnet, if_pos rfl, hnone]

/-- In a table with one rule for each network, of which one fits at most, that one is met, or
the packet is dropped. -/
theorem best?_network (happart : Network.Apart networks) (table : PipelineTable)
    (ruleOf : Network → PipelineRule) (hpriority : ∀ net, (ruleOf net).priority = 1)
    (hp : ∀ a ∈ networks, ∀ b ∈ networks, (ruleOf a).meaning.fits packet = true →
      (ruleOf b).meaning.fits packet = true → a.collidesWith b = true) :
    let met := SwitchRule.best? (((dropRule table :: networks.map ruleOf).map
      PipelineRule.meaning).filter (·.fits packet))
    (∃ net ∈ networks, (ruleOf net).meaning.fits packet = true ∧
        met = some (ruleOf net).meaning.actions) ∨
      (∀ net ∈ networks, (ruleOf net).meaning.fits packet = false) ∧ met = some [.drop] := by
  intro met
  have hfilter : ((dropRule table :: networks.map ruleOf).map PipelineRule.meaning).filter
      (·.fits packet) = (dropRule table).meaning :: (networks.filter fun net =>
        (ruleOf net).meaning.fits packet).map fun net => (ruleOf net).meaning := by
    have hdrop : (dropRule table).meaning.fits packet = true := rfl
    rw [List.map_cons, List.filter_cons, if_pos hdrop, List.map_map, List.filter_map]
    rfl
  rcases happart.filter_cases (fun net => (ruleOf net).meaning.fits packet) hp with
    ⟨net, hnet, hfits, hone⟩ | ⟨hnone, hempty⟩
  · refine .inl ⟨net, hnet, hfits, ?_⟩
    show SwitchRule.best? _ = _
    rw [hfilter, hone]
    refine (best?_pair ?_).1
    show 0 < (ruleOf net).priority.toNat
    rw [hpriority]
    decide
  · refine .inr ⟨hnone, ?_⟩
    show SwitchRule.best? _ = _
    rw [hfilter, hempty]
    exact best?_singleton _

/-- Networks with one tunnel key or one VLAN collide. -/
theorem Network.collidesWith_of_number {a b : Network}
    (h : a.vni.toNat = b.vni.toNat ∨ a.vlan.toNat = b.vlan.toNat) : a.collidesWith b = true := by
  refine Bool.eq_true_of_not_eq_false fun hapart => ?_
  obtain ⟨-, hvni, hvlan⟩ := Network.collidesWith_eq_false.1 hapart
  exact h.elim (fun hsame => hvni (UInt32.toNat_inj.1 hsame))
    fun hsame => hvlan (UInt16.toNat_inj.1 hsame)

theorem fits_ingressRule (net : Network) (packet : Packet) :
    (ingressRule net).meaning.fits packet = true ↔ packet.tunnelKey = net.vni.toNat := by
  simp [SwitchRule.fits, PipelineRule.meaning, ingressRule, Criterion.fields, MatchField.fits]

theorem fits_egressRule (net : Network) (ofports : List Nat) (packet : Packet) :
    (egressRule net ofports).meaning.fits packet = true ↔ packet.vlan = some net.vlan.toNat := by
  simp [SwitchRule.fits, PipelineRule.meaning, egressRule, Criterion.fields, MatchField.fits]

/-- **A packet from a tunnel meets the rule of the network with its tunnel key.** -/
theorem meet?_decap (ports : List TunnelPort) (happart : Network.Apart networks)
    (hlearned : AreLearned learned) (packet : Packet) :
    let met := meet? (switchRules networks ports learned) PipelineTable.decap.number.toNat packet
    (∃ net ∈ networks, net.vni.toNat = packet.tunnelKey ∧
        met = some [.setVlan net.vlan.toNat, .resubmit PipelineTable.learning.number.toNat]) ∨
      (∀ net ∈ networks, net.vni.toNat ≠ packet.tunnelKey) ∧ met = some [.drop] := by
  have hone : ∀ a ∈ networks, ∀ b ∈ networks, (ingressRule a).meaning.fits packet = true →
      (ingressRule b).meaning.fits packet = true → a.collidesWith b = true := by
    intro a _ b _ hfirst hsecond
    rw [fits_ingressRule] at hfirst hsecond
    exact Network.collidesWith_of_number (.inl (hfirst.symm.trans hsecond))
  rw [meet?, filter_switchRules_of_ne hlearned (by decide), desiredRules_decap]
  rcases best?_network happart .decap ingressRule (fun _ => rfl) hone with
    ⟨net, hnet, hfits, hmet⟩ | ⟨hnone, hmet⟩
  · exact .inl ⟨net, hnet, ((fits_ingressRule net packet).1 hfits).symm, hmet⟩
  · refine .inr ⟨fun net hnet hkey => ?_, hmet⟩
    have hfits := (fits_ingressRule net packet).2 hkey.symm
    rw [hnone net hnet] at hfits
    exact Bool.false_ne_true hfits

/-- **A packet with a tag that is flooded meets the rule of the network with its VLAN.** -/
theorem meet?_flood (ports : List TunnelPort) (happart : Network.Apart networks)
    (hlearned : AreLearned learned) {packet : Packet} {vlan : Nat}
    (hvlan : packet.vlan = some vlan) :
    let met := meet? (switchRules networks ports learned) PipelineTable.flood.number.toNat packet
    (∃ net ∈ networks, net.vlan.toNat = vlan ∧ met = some (.stripVlan ::
        .setTunnel net.vni.toNat :: (linkedOfports ports).map .output)) ∨
      (∀ net ∈ networks, net.vlan.toNat ≠ vlan) ∧ met = some [.drop] := by
  have hfits : ∀ net, (egressRule net (linkedOfports ports)).meaning.fits packet = true ↔
      net.vlan.toNat = vlan := by
    intro net
    rw [fits_egressRule, hvlan, Option.some.injEq, eq_comm]
  have hone : ∀ a ∈ networks, ∀ b ∈ networks,
      (egressRule a (linkedOfports ports)).meaning.fits packet = true →
      (egressRule b (linkedOfports ports)).meaning.fits packet = true →
        a.collidesWith b = true := by
    intro a _ b _ hfirst hsecond
    rw [hfits] at hfirst hsecond
    exact Network.collidesWith_of_number (.inr (hfirst.trans hsecond.symm))
  rw [meet?, filter_switchRules_of_ne hlearned (by decide), desiredRules_flood]
  rcases best?_network happart .flood (egressRule · (linkedOfports ports)) (fun _ => rfl) hone with
    ⟨net, hnet, hmeets, hmet⟩ | ⟨hnone, hmet⟩
  · refine .inl ⟨net, hnet, (hfits net).1 hmeets, hmet.trans ?_⟩
    rw [PipelineRule.meaning, egressRule, List.map_cons, List.map_cons, List.map_map]
    rfl
  · refine .inr ⟨fun net hnet hsame => ?_, hmet⟩
    have hmeets := (hfits net).2 hsame
    rw [hnone net hnet] at hmeets
    exact Bool.false_ne_true hmeets

/-! ## §3. Journeys. -/

/-- **A packet from a tunnel** gets the VLAN of the network with its tunnel key and is
delivered, or it is dropped. -/
theorem decapsulated (ports : List TunnelPort) (happart : Network.Apart networks)
    (hlearned : AreLearned learned) (hport : packet.inPort ≠ patchOfport) :
    (∃ net ∈ networks, net.vni.toNat = packet.tunnelKey ∧
        let tagged : Packet := { packet with vlan := some net.vlan.toNat }
        forward (switchRules networks ports learned) packet = some {
          packet := tagged
          visited := [(0, packet), (4, packet), (10, tagged)]
          sent := [(patchOfport, tagged)] }) ∨
      (∀ net ∈ networks, net.vni.toNat ≠ packet.tunnelKey) ∧
        forward (switchRules networks ports learned) packet
          = some { packet, visited := [(0, packet), (4, packet)] } := by
  have hclassify : forward (switchRules networks ports learned) packet
      = enter (switchRules networks ports learned) 63 PipelineTable.decap.number.toNat
        { packet, visited := [(0, packet)] } := by
    have hmet := meet?_classify networks ports hlearned packet
    rw [if_neg hport] at hmet
    exact enter_resubmit hmet
  rw [hclassify]
  rcases meet?_decap ports happart hlearned packet with
    ⟨net, hnet, hkey, hmet⟩ | ⟨hnone, hmet⟩
  · refine .inl ⟨net, hnet, hkey, ?_⟩
    intro tagged
    have hdelivered : act (enter (switchRules networks ports learned) 62)
        { packet := tagged, visited := [(0, packet), (4, packet)] }
        (.resubmit PipelineTable.learning.number.toNat) = some {
          packet := tagged
          visited := [(0, packet), (4, packet), (10, tagged)]
          sent := [(patchOfport, tagged)] } := by
      have hnotback : tagged.inPort ∉ [patchOfport] := fun h => hport (List.mem_singleton.1 h)
      rw [act, enter_succ (meet?_learning hlearned), foldlM_act rfl]
      show ([patchOfport].map SwitchAction.output).foldlM _ _ = _
      exact foldlM_output _ _ hnotback
    rw [enter_succ hmet, foldlM_act rfl]
    exact foldlM_act hdelivered []
  · exact .inr ⟨hnone, enter_drop hmet⟩

/-- **A packet with a tag that is flooded** loses the tag, gets the tunnel key of the network
with its VLAN and goes out on every tunnel, or it is dropped. -/
theorem flooded (happart : Network.Apart networks) (hlearned : AreLearned learned) {vlan : Nat}
    {journey : Journey} (hvlan : journey.packet.vlan = some vlan)
    (hport : journey.packet.inPort ∉ linkedOfports ports) (depth : Nat) :
    let ends := enter (switchRules networks ports learned) (depth + 1)
      PipelineTable.flood.number.toNat journey
    (∃ net ∈ networks, net.vlan.toNat = vlan ∧
        let bare : Packet := { journey.packet with vlan := none, tunnelKey := net.vni.toNat }
        ends = some {
          packet := bare
          visited := journey.visited ++ [(21, journey.packet)]
          sent := journey.sent ++ (linkedOfports ports).map fun ofport => (ofport, bare) }) ∨
      (∀ net ∈ networks, net.vlan.toNat ≠ vlan) ∧ ends = some (journey.visit 21) := by
  rcases meet?_flood ports happart hlearned hvlan with
    ⟨net, hnet, hsame, hmet⟩ | ⟨hnone, hmet⟩
  · refine .inl ⟨net, hnet, hsame, ?_⟩
    intro bare
    rw [enter_succ hmet, foldlM_act rfl, foldlM_act rfl]
    exact foldlM_output _ _ hport
  · exact .inr ⟨hnone, enter_drop hmet⟩

/-- **A tagged packet from the patch port** to which no way was learned is flooded. -/
theorem encapsulated (happart : Network.Apart networks) (hlearned : AreLearned learned)
    {vlan : Nat} (hport : packet.inPort = patchOfport) (hvlan : packet.vlan = some vlan)
    (hway : packet.isGroup = true ∨ ∀ rule ∈ learned, rule.fits packet = false)
    (hofports : patchOfport ∉ linkedOfports ports) :
    ∃ visited, (∃ net ∈ networks, net.vlan.toNat = vlan ∧
        let bare : Packet := { packet with vlan := none, tunnelKey := net.vni.toNat }
        forward (switchRules networks ports learned) packet = some {
          packet := bare, visited
          sent := (linkedOfports ports).map fun ofport => (ofport, bare) }) ∨
      (∀ net ∈ networks, net.vlan.toNat ≠ vlan) ∧
        forward (switchRules networks ports learned) packet = some { packet, visited } := by
  have hnotback : packet.inPort ∉ linkedOfports ports := hport ▸ hofports
  have hclassify : forward (switchRules networks ports learned) packet
      = enter (switchRules networks ports learned) 62
        (if packet.isGroup then PipelineTable.flood.number.toNat
          else PipelineTable.unicast.number.toNat)
        { packet, visited := [(0, packet), (1, packet)] } := by
    have hmet := meet?_classify networks ports hlearned packet
    rw [if_pos hport] at hmet
    exact (enter_resubmit hmet).trans (enter_resubmit (meet?_fromPatch hlearned))
  rw [hclassify]
  cases hgroup : packet.isGroup with
  | true =>
      exact ⟨_, flooded happart hlearned hvlan hnotback 61⟩
  | false =>
      have hunlearned := hway.resolve_left (by rw [hgroup]; exact Bool.false_ne_true)
      have hunicast : enter (switchRules networks ports learned) 62
          PipelineTable.unicast.number.toNat { packet, visited := [(0, packet), (1, packet)] }
            = enter (switchRules networks ports learned) 61 PipelineTable.flood.number.toNat
              { packet, visited := [(0, packet), (1, packet), (20, packet)] } :=
        enter_resubmit (meet?_unicast hunlearned)
      rw [if_neg Bool.false_ne_true, hunicast]
      exact ⟨_, flooded happart hlearned hvlan hnotback 60⟩

/-! ## §4. What the rules say is what is meant. -/

theorem fits_baseRules : ∀ rule ∈ baseRules, rule.Fits := by
  have hall : ∀ rule ∈ baseRules, rule.criterion.Fits ∧
      (∀ action ∈ rule.actions, action.Fits) ∧ rule.actions ≠ [] := by decide
  exact fun rule hrule => ⟨(hall rule hrule).1, (hall rule hrule).2.1, (hall rule hrule).2.2⟩

/-- **The switch reads all desired rules as they are meant**, if their numbers fit. -/
theorem rules?_desired (hvlans : ∀ net ∈ networks, net.vlan.toNat < FlowText.vlanBound)
    (hofports : ∀ ofport ∈ linkedOfports ports, ofport < FlowText.portLimit) :
    ((desiredRules networks ports).map PipelineRule.toFlow).mapM FlowText.rule?
      = some ((desiredRules networks ports).map PipelineRule.meaning) := by
  refine FlowText.mapM_read fun rule hrule => FlowText.rule?_toFlow ?_
  rcases List.mem_append.1 hrule with hbase | hnetworks
  · exact fits_baseRules rule hbase
  · obtain ⟨net, hnet, hrules⟩ := List.mem_flatMap.1 hnetworks
    rcases List.mem_cons.1 hrules with rfl | hegress
    · refine ⟨trivial, fun action haction => ?_, List.cons_ne_nil _ _⟩
      rcases List.mem_cons.1 haction with rfl | hresubmit
      · exact hvlans net hnet
      · rw [List.mem_singleton.1 hresubmit]
        trivial
    · rw [List.mem_singleton.1 hegress]
      refine ⟨hvlans net hnet, fun action haction => ?_, List.cons_ne_nil _ _⟩
      rcases List.mem_cons.1 haction with rfl | hmore
      · trivial
      rcases List.mem_cons.1 hmore with rfl | houtput
      · trivial
      · obtain ⟨ofport, hofport, rfl⟩ := List.mem_map.1 houtput
        exact hofports ofport hofport

end

/-! ## §5. Isolation. -/

/-- The packet came to a table with the tag of a VLAN. -/
def Journey.Reached (journey : Journey) (table : PipelineTable) (vlan : Nat) : Prop :=
  ∃ packet, (table.number.toNat, packet) ∈ journey.visited ∧ packet.vlan = some vlan

/-- Without its tag and with a tunnel key the packet went out on each of the ports once, and
on no other. -/
def Journey.Flooded (journey : Journey) (packet : Packet) (key : Nat) (ofports : List Nat) :
    Prop :=
  journey.packet = { packet with vlan := none, tunnelKey := key } ∧
    journey.sent = ofports.map fun ofport => (ofport, journey.packet)

/-- Packets from tunnels with a key get the tag of a VLAN. -/
def Decapsulates (rules : List SwitchRule) (key vlan : Nat) : Prop :=
  ∀ packet : Packet, packet.inPort ≠ patchOfport → packet.tunnelKey = key →
    ∃ journey, forward rules packet = some journey ∧ journey.Reached .learning vlan

/-- Packets for groups with the tag of a VLAN are flooded with a tunnel key. -/
def Encapsulates (rules : List SwitchRule) (ofports : List Nat) (vlan key : Nat) : Prop :=
  ∀ packet : Packet, packet.inPort = patchOfport → packet.isGroup = true →
    packet.vlan = some vlan →
      ∃ journey, forward rules packet = some journey ∧ journey.Flooded packet key ofports

/-- The rules of a pipeline keep the networks apart, whatever it has learned. -/
structure Isolated (rules learned : List SwitchRule) (networks : List Network)
    (ofports : List Nat) : Prop where
  /-- A packet from a tunnel gets exactly the VLAN of the network with its tunnel key, and is
  dropped where there is none. -/
  decap : ∀ packet : Packet, packet.inPort ≠ patchOfport →
    ∃ journey, forward (rules ++ learned) packet = some journey ∧
      (∀ vlan, journey.Reached .learning vlan ↔
        ∃ net ∈ networks, net.vni.toNat = packet.tunnelKey ∧ net.vlan.toNat = vlan) ∧
      ((∀ net ∈ networks, net.vni.toNat ≠ packet.tunnelKey) → journey.sent = [] ∧
        ∀ at_learning, (PipelineTable.learning.number.toNat, at_learning) ∉ journey.visited)
  /-- A tagged packet from the patch port, for a group or with no learned way, is flooded with
  exactly the tunnel key of the network with its VLAN, and dropped where there is none. -/
  encap : ∀ (packet : Packet) (vlan : Nat), packet.inPort = patchOfport →
    packet.vlan = some vlan →
    (packet.isGroup = true ∨ ∀ rule ∈ learned, rule.fits packet = false) →
    ∃ journey, forward (rules ++ learned) packet = some journey ∧
      (∀ key, journey.Flooded packet key ofports ↔
        ∃ net ∈ networks, net.vni.toNat = key ∧ net.vlan.toNat = vlan) ∧
      ((∀ net ∈ networks, net.vlan.toNat ≠ vlan) → journey.sent = [])
  /-- No port is flooded twice, -/
  once : ofports.Nodup
  /-- and none back. -/
  forth : patchOfport ∉ ofports
  /-- A tunnel key has one VLAN, -/
  one_vlan : ∀ key vlan other, Decapsulates (rules ++ learned) key vlan →
    Decapsulates (rules ++ learned) key other → vlan = other
  /-- a VLAN has one tunnel key, -/
  one_key : ∀ vlan key other, Encapsulates (rules ++ learned) ofports vlan key →
    Encapsulates (rules ++ learned) ofports vlan other → key = other
  /-- and the one leads back to the other. -/
  inverse : ∀ key vlan, Decapsulates (rules ++ learned) key vlan ↔
    Encapsulates (rules ++ learned) ofports vlan key

section

variable {networks : List Network} {ports : List TunnelPort} {learned : List SwitchRule}

/-- Of networks that share nothing, those with one number are the same. -/
theorem Network.Apart.eq_of_number (h : Network.Apart networks) {a b : Network} (ha : a ∈ networks)
    (hb : b ∈ networks) (hsame : a.vni.toNat = b.vni.toNat ∨ a.vlan.toNat = b.vlan.toNat) :
    a = b := by
  by_contra hne
  have hcollide := Network.collidesWith_of_number hsame
  rw [h.of_ne ha hb hne] at hcollide
  exact Bool.false_ne_true hcollide

/-- **Packets from tunnels** reach the hosts of their own network only. -/
theorem decap_exact (ports : List TunnelPort) (happart : Network.Apart networks)
    (hlearned : AreLearned learned) {packet : Packet} (hport : packet.inPort ≠ patchOfport) :
    ∃ journey, forward (switchRules networks ports learned) packet = some journey ∧
      (∀ vlan, journey.Reached .learning vlan ↔
        ∃ net ∈ networks, net.vni.toNat = packet.tunnelKey ∧ net.vlan.toNat = vlan) ∧
      ((∀ net ∈ networks, net.vni.toNat ≠ packet.tunnelKey) → journey.sent = [] ∧
        ∀ at_learning, (PipelineTable.learning.number.toNat, at_learning) ∉ journey.visited) := by
  rcases decapsulated ports happart hlearned hport with
    ⟨net, hnet, hkey, hends⟩ | ⟨hnone, hends⟩
  · have hreached : ∀ at_learning, (PipelineTable.learning.number.toNat, at_learning) ∈
        [(0, packet), (4, packet), (10, { packet with vlan := some net.vlan.toNat })] ↔
          at_learning = { packet with vlan := some net.vlan.toNat } := by
      intro at_learning
      simp [PipelineTable.number]
    refine ⟨_, hends, fun vlan => ⟨?_, ?_⟩, fun hnone => absurd hkey (hnone net hnet)⟩
    · rintro ⟨at_learning, hvisited, hvlan⟩
      rw [(hreached at_learning).1 hvisited] at hvlan
      exact ⟨net, hnet, hkey, Option.some.inj hvlan⟩
    · rintro ⟨other, hother, hsame, rfl⟩
      rw [happart.eq_of_number hother hnet (.inl (hsame.trans hkey.symm))]
      exact ⟨_, (hreached _).2 rfl, rfl⟩
  · have hnever : ∀ at_learning, (PipelineTable.learning.number.toNat, at_learning) ∉
        [(0, packet), (4, packet)] := by
      intro at_learning
      simp [PipelineTable.number]
    refine ⟨_, hends, fun vlan => ⟨?_, ?_⟩, fun _ => ⟨rfl, hnever⟩⟩
    · rintro ⟨at_learning, hvisited, -⟩
      exact absurd hvisited (hnever at_learning)
    · rintro ⟨net, hnet, hkey, -⟩
      exact absurd hkey (hnone net hnet)

/-- **Packets from the patch port** reach the tunnels with the key of their own network only. -/
theorem encap_exact (happart : Network.Apart networks) (hlearned : AreLearned learned)
    (hofports : patchOfport ∉ linkedOfports ports) (packet : Packet) {vlan : Nat}
    (hport : packet.inPort = patchOfport) (hvlan : packet.vlan = some vlan)
    (hway : packet.isGroup = true ∨ ∀ rule ∈ learned, rule.fits packet = false) :
    ∃ journey, forward (switchRules networks ports learned) packet = some journey ∧
      (∀ key, journey.Flooded packet key (linkedOfports ports) ↔
        ∃ net ∈ networks, net.vni.toNat = key ∧ net.vlan.toNat = vlan) ∧
      ((∀ net ∈ networks, net.vlan.toNat ≠ vlan) → journey.sent = []) := by
  obtain ⟨visited, ⟨net, hnet, hsame, hends⟩ | ⟨hnone, hends⟩⟩ :=
    encapsulated happart hlearned hport hvlan hway hofports
  · refine ⟨_, hends, fun key => ⟨?_, ?_⟩, fun hnone => absurd hsame (hnone net hnet)⟩
    · rintro ⟨hpacket, -⟩
      exact ⟨net, hnet, congrArg Packet.tunnelKey hpacket, hsame⟩
    · rintro ⟨other, hother, rfl, hvlans⟩
      rw [happart.eq_of_number hother hnet (.inr (hvlans.trans hsame.symm))]
      exact ⟨rfl, rfl⟩
  · refine ⟨_, hends, fun key => ⟨?_, ?_⟩, fun _ => rfl⟩
    · rintro ⟨hpacket, -⟩
      exact nomatch hvlan.symm.trans (congrArg Packet.vlan hpacket)
    · rintro ⟨net, hnet, -, hvlans⟩
      exact absurd hvlans (hnone net hnet)

/-- **Networks that share nothing are kept apart**, if the ports have numbers of their own. -/
theorem isolated_of_apart (happart : Network.Apart networks) (hlearned : AreLearned learned)
    (honce : (linkedOfports ports).Nodup) (hforth : patchOfport ∉ linkedOfports ports) :
    Isolated ((desiredRules networks ports).map PipelineRule.meaning) learned networks
      (linkedOfports ports) := by
  have hdecap : ∀ key vlan, Decapsulates (switchRules networks ports learned) key vlan ↔
      ∃ net ∈ networks, net.vni.toNat = key ∧ net.vlan.toNat = vlan := by
    refine fun key vlan => ⟨fun h => ?_, fun hnet packet hport hkey => ?_⟩
    · let packet : Packet := ⟨0, 0, none, key⟩
      have hport : packet.inPort ≠ patchOfport := show 0 ≠ patchOfport by decide
      obtain ⟨journey, hends, hreached⟩ := h packet hport rfl
      obtain ⟨_, hsame, hiff, -⟩ := decap_exact ports happart hlearned hport
      cases Option.some.inj (hends.symm.trans hsame)
      exact (hiff vlan).1 hreached
    · obtain ⟨journey, hends, hiff, -⟩ := decap_exact ports happart hlearned hport
      exact ⟨journey, hends, (hiff vlan).2 (hkey.symm ▸ hnet)⟩
  have hencap : ∀ vlan key, Encapsulates (switchRules networks ports learned)
      (linkedOfports ports) vlan key ↔
        ∃ net ∈ networks, net.vni.toNat = key ∧ net.vlan.toNat = vlan := by
    refine fun vlan key => ⟨fun h => ?_, fun hnet packet hport hgroup hvlan => ?_⟩
    · let packet : Packet := ⟨patchOfport, groupMask, some vlan, 0⟩
      have hgroup : packet.isGroup = true := show groupMask.testBit groupBit = true by decide
      obtain ⟨journey, hends, hflooded⟩ := h packet rfl hgroup rfl
      obtain ⟨_, hsame, hiff, -⟩ := encap_exact happart hlearned hforth packet rfl rfl
        (.inl hgroup)
      cases Option.some.inj (hends.symm.trans hsame)
      exact (hiff key).1 hflooded
    · obtain ⟨journey, hends, hiff, -⟩ :=
        encap_exact happart hlearned hforth packet hport hvlan (.inl hgroup)
      exact ⟨journey, hends, (hiff key).2 hnet⟩
  exact {
    decap := fun packet hport => decap_exact ports happart hlearned hport
    encap := fun packet vlan hport hvlan hway =>
      encap_exact happart hlearned hforth packet hport hvlan hway
    once := honce
    forth := hforth
    one_vlan := fun key vlan other hvlan hother => by
      obtain ⟨a, ha, hakey, rfl⟩ := (hdecap key vlan).1 hvlan
      obtain ⟨b, hb, hbkey, rfl⟩ := (hdecap key other).1 hother
      rw [happart.eq_of_number ha hb (.inl (hakey.trans hbkey.symm))]
    one_key := fun vlan key other hkey hother => by
      obtain ⟨a, ha, rfl, havlan⟩ := (hencap vlan key).1 hkey
      obtain ⟨b, hb, rfl, hbvlan⟩ := (hencap vlan other).1 hother
      rw [happart.eq_of_number ha hb (.inr (havlan.trans hbvlan.symm))]
    inverse := fun key vlan => (hdecap key vlan).trans (hencap vlan key).symm }

end

/-! ## §6. Through any requests. -/

namespace Mesh

variable {σ : Type} [CommandRunner σ] {settings : MeshSettings}

/-- The networks share nothing, and a tag can say their VLANs. -/
structure Tagged (networks : List Network) : Prop where
  apart : Network.Apart networks
  range : ∀ net ∈ networks, 1 ≤ net.vlan.toNat ∧ net.vlan.toNat ≤ 4094

/-- A network that a request brings has a VLAN that a tag can say. -/
def Request.Tagged : Request → Prop
  | .addNetwork net => 1 ≤ net.vlan.toNat ∧ net.vlan.toNat ≤ 4094
  | .sync _ | .removeNetwork _ => True

instance : (request : Request) → Decidable request.Tagged
  | .addNetwork net => inferInstanceAs (Decidable (1 ≤ net.vlan.toNat ∧ net.vlan.toNat ≤ 4094))
  | .sync _ | .removeNetwork _ => inferInstanceAs (Decidable True)

/-- **A request keeps the networks apart**, however it ends. -/
theorem Tagged.served {mesh : Mesh σ} (h : Tagged mesh.networks) {request : Request}
    (hrequest : request.Tagged) : Tagged (serve settings mesh request).networks := by
  cases request with
  | sync topology =>
      rw [serve, networks_sync]
      exact h
  | addNetwork net =>
      rw [serve]
      refine ⟨apart_run h.apart (.add net), ?_⟩
      cases hany : mesh.networks.any (·.collidesWith net) with
      | true =>
          rw [addNetwork_collides hany]
          exact h.range
      | false =>
          obtain ⟨switch, hadd⟩ := addNetwork_apart settings hany
          rw [hadd]
          intro other hother
          rcases List.mem_append.1 hother with hold | hnew
          · exact h.range other hold
          · rw [List.mem_singleton.1 hnew]
            exact hrequest
  | removeNetwork id =>
      rw [serve]
      refine ⟨apart_run h.apart (.remove id), ?_⟩
      cases hany : mesh.networks.any (·.id == id) with
      | false =>
          rw [removeNetwork_absent hany]
          exact h.range
      | true =>
          obtain ⟨switch, hremove⟩ := removeNetwork_present settings hany
          rw [hremove]
          exact fun other hother => h.range other (List.mem_of_mem_eraseP hother)

theorem Tagged.serves {requests : List Request} (hrequests : ∀ request ∈ requests, request.Tagged) :
    ∀ {mesh : Mesh σ}, Tagged mesh.networks →
      Tagged (requests.foldl (serve settings) mesh).networks := by
  induction requests with
  | nil => exact fun h => h
  | cons request rest ih =>
      intro mesh h
      exact ih (fun other hother => hrequests other (List.mem_cons_of_mem request hother))
        (h.served (hrequests request List.mem_cons_self))

/-- **Tenants are isolated.**  After any requests to an overlay that began with neither
networks nor tunnels, where each network that was asked for has a VLAN from 1 to 4094: the
switch can read all desired rules, and by these, whatever it has learned, it keeps the active
networks apart and floods to the linked ports. -/
theorem isolated_after (settings : MeshSettings) {requests : List Request} (switch : σ) (now : Nat)
    (hrequests : ∀ request ∈ requests, request.Tagged) :
    let mesh := requests.foldl (serve settings) (untunneled [] switch now)
    ∃ rules, ((desiredRules mesh.networks mesh.ports).map PipelineRule.toFlow).mapM FlowText.rule?
        = some rules ∧
      ∀ learned, AreLearned learned →
        Isolated rules learned mesh.networks (linkedOfports mesh.ports) := by
  intro mesh
  have htagged : Tagged mesh.networks :=
    Tagged.serves hrequests ⟨List.Pairwise.nil, nofun⟩
  have htallied := (inStep_untunneled settings [] switch now requests).tallied
  have hforth : patchOfport ∉ linkedOfports mesh.ports := fun hpatch =>
    absurd (htallied.range patchOfport hpatch).1 (by decide)
  refine ⟨_, rules?_desired (fun net hnet => ?_) (fun ofport hofport => ?_),
    fun learned hlearned => isolated_of_apart htagged.apart hlearned htallied.distinct hforth⟩
  · exact Nat.lt_of_le_of_lt (htagged.range net hnet).2 (by decide)
  · exact (htallied.range ofport hofport).2

/-- Two networks, and tunnels to two hosts, on a switch that does all it is told. -/
theorem isolated_after_two :
    let requests : List Request := [.addNetwork ⟨"blue", 5000, 1⟩, .sync { agents :=
        [farAgent, ⟨"third", "10.0.0.3", .ready⟩] }, .addNetwork ⟨"red", 6000, 4094⟩]
    let mesh := requests.foldl (serve nearHost) (untunneled [] (⟨[]⟩ : Faltering) 0)
    mesh.networks = [⟨"blue", 5000, 1⟩, ⟨"red", 6000, 4094⟩] ∧
      linkedOfports mesh.ports = [2, 3] ∧
      ∃ rules, ((desiredRules mesh.networks mesh.ports).map PipelineRule.toFlow).mapM
          FlowText.rule? = some rules ∧
        ∀ learned, AreLearned learned →
          Isolated rules learned mesh.networks (linkedOfports mesh.ports) := by
  intro requests mesh
  have hnetworks : mesh.networks = [⟨"blue", 5000, 1⟩, ⟨"red", 6000, 4094⟩] := by decide +kernel
  have hofports : linkedOfports mesh.ports = [2, 3] := by decide +kernel
  have hrequests : ∀ request ∈ requests, request.Tagged := by decide
  exact ⟨hnetworks, hofports, isolated_after nearHost (⟨[]⟩ : Faltering) 0 hrequests⟩

end Mesh

end VxlanMesh
