/-
  VxlanMesh.Overlay.Pipeline
  ────────────────────────────────
  **THE PIPELINE OF THE TUNNEL BRIDGE.**

      classify   from the patch port to `fromPatch`, else to `decap`
      fromPatch  unicast to `unicast`, multicast to `flood`, else dropped
      decap      tunnel key V gets VLAN L, on to `learning`   (per network)
      learning   learn the way back into `unicast`, out to the patch port
      unicast    learned ways; whatever misses goes to `flood`
      flood      VLAN L loses its tag, gets tunnel key V and goes out on
                 every linked tunnel                            (per network)

  The rules that depend on nothing are fixed; each network adds one rule
  to `decap` and one to `flood`.  `desiredRules` lists them all.
-/
import VxlanMesh.Numeral.Decimal
import VxlanMesh.Overlay.Network
import VxlanMesh.Overlay.Peer
import VxlanMesh.Switch.Flow

namespace VxlanMesh

open VxlanMesh.Numeral (decimal hexadecimal)

/-! ## §1. Tables. -/

/-- The tables of the tunnel bridge. -/
inductive PipelineTable where
  | classify
  | fromPatch
  | decap
  | learning
  | unicast
  | flood
  deriving Repr, DecidableEq

/-- The number of a table. -/
def PipelineTable.number : PipelineTable → UInt8
  | classify => 0
  | fromPatch => 1
  | decap => 4
  | learning => 10
  | unicast => 20
  | flood => 21

/-- The OpenFlow number of the patch port on the tunnel bridge. -/
def patchOfport : Nat := 1

/-- Seconds after which a learned way is forgotten. -/
def learnedSeconds : Nat := 300

/-! ## §2. Matches and actions. -/

/-- What a rule of the pipeline asks of a packet. -/
inductive Criterion where
  | always
  | inPort (ofport : Nat)
  | unicastTarget
  | multicastTarget
  | tunnelKey (vni : UInt32)
  | vlanTag (vlan : UInt16)
  deriving Repr, DecidableEq

/-- The match of a rule as the switch reads it. -/
def Criterion.text : Criterion → String
  | always => ""
  | inPort n => "in_port=" ++ decimal n
  | unicastTarget => "dl_dst=00:00:00:00:00:00/01:00:00:00:00:00"
  | multicastTarget => "dl_dst=01:00:00:00:00:00/01:00:00:00:00:00"
  | tunnelKey vni => "tun_id=" ++ hexadecimal vni.toNat
  | vlanTag vlan => "dl_vlan=" ++ decimal vlan.toNat

/-- What a rule of the pipeline does with a packet. -/
inductive FlowAction where
  | drop
  | resubmit (table : PipelineTable)
  | learnWayBack
  | setVlan (vlan : UInt16)
  | stripVlan
  | setTunnel (vni : UInt32)
  | output (ofport : Nat)
  deriving Repr, DecidableEq

/-- An action as the switch reads it. -/
def FlowAction.text : FlowAction → String
  | drop => "drop"
  | resubmit table => "resubmit(," ++ decimal table.number.toNat ++ ")"
  | learnWayBack =>
      "learn(table=" ++ decimal PipelineTable.unicast.number.toNat ++ ",hard_timeout="
        ++ decimal learnedSeconds ++ ",priority=1,NXM_OF_VLAN_TCI[0..11],"
        ++ "NXM_OF_ETH_DST[]=NXM_OF_ETH_SRC[],load:0->NXM_OF_VLAN_TCI[],"
        ++ "load:NXM_NX_TUN_ID[]->NXM_NX_TUN_ID[],output:NXM_OF_IN_PORT[])"
  | setVlan vlan => "mod_vlan_vid:" ++ decimal vlan.toNat
  | stripVlan => "strip_vlan"
  | setTunnel vni => "set_tunnel:" ++ hexadecimal vni.toNat
  | output n => "output:" ++ decimal n

/-! ## §3. Rules. -/

/-- A rule of the pipeline. -/
structure PipelineRule where
  table : PipelineTable
  priority : UInt16
  criterion : Criterion
  actions : List FlowAction
  deriving Repr, DecidableEq

/-- A rule as the switch reads it. -/
def PipelineRule.toFlow (rule : PipelineRule) : FlowRule where
  table := rule.table.number
  priority := rule.priority
  criteria := rule.criterion.text
  actions := ",".intercalate (rule.actions.map FlowAction.text)

/-- The rules that are there whatever the networks and peers. -/
def baseRules : List PipelineRule :=
  [ ⟨.classify, 2, .inPort patchOfport, [.resubmit .fromPatch]⟩,
    ⟨.classify, 1, .always, [.resubmit .decap]⟩,
    ⟨.fromPatch, 1, .unicastTarget, [.resubmit .unicast]⟩,
    ⟨.fromPatch, 1, .multicastTarget, [.resubmit .flood]⟩,
    ⟨.fromPatch, 0, .always, [.drop]⟩,
    ⟨.decap, 0, .always, [.drop]⟩,
    ⟨.learning, 1, .always, [.learnWayBack, .output patchOfport]⟩,
    ⟨.unicast, 0, .always, [.resubmit .flood]⟩,
    ⟨.flood, 0, .always, [.drop]⟩ ]

/-- The tunnel key of a network becomes its VLAN. -/
def ingressRule (net : Network) : PipelineRule :=
  ⟨.decap, 1, .tunnelKey net.vni, [.setVlan net.vlan, .resubmit .learning]⟩

/-- The VLAN of a network becomes its tunnel key, flooded to every given port. -/
def egressRule (net : Network) (ofports : List Nat) : PipelineRule :=
  ⟨.flood, 1, .vlanTag net.vlan,
    .stripVlan :: .setTunnel net.vni :: ofports.map FlowAction.output⟩

/-- All rules for some networks and tunnel ports. -/
def desiredRules (networks : List Network) (ports : List TunnelPort) : List PipelineRule :=
  baseRules ++ networks.flatMap fun net =>
    [ingressRule net, egressRule net (linkedOfports ports)]

end VxlanMesh
