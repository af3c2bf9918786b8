/-
  VxlanMesh.Proofs.Switch.Forwarding
  ────────────────────────────────
  **HOW A SWITCH FORWARDS A PACKET BY ITS RULES.**

  A packet begins in table zero.  In a table it meets, of the rules there
  that fit it, the one with the highest priority, whose actions are taken
  in order; `resubmit` goes on in another table, to a bounded depth.  A
  packet is not sent back to the port it came from.

  Where two rules of the highest priority fit, or the depth is exceeded,
  it is not determined what happens, and `forward` has no answer.

      meet?            the actions that a packet meets in a table
      forward          a packet's journey through the tables
      enter_resubmit   a table that only sends the packet on
      foldlM_output    a packet that is flooded
-/
import Mathlib.Data.Nat.Bitwise
import VxlanMesh.Proofs.Switch.FlowTexts

namespace VxlanMesh

/-! ## §1. Packets. -/

/-- What the rules can see of a packet. -/
structure Packet where
  /-- The port it came in on. -/
  inPort : Nat
  /-- The destination address. -/
  target : Nat
  /-- The VLAN of its tag, if it has one. -/
  vlan : Option Nat
  /-- The key of the tunnel it came from, or is to be sent with; zero where there is none. -/
  tunnelKey : Nat
  deriving Repr, DecidableEq

/-- The packet is for a group of hosts, or for all. -/
def Packet.isGroup (packet : Packet) : Bool := packet.target.testBit groupBit

/-- The field of the packet is as a match asks. -/
def MatchField.fits (packet : Packet) : MatchField → Bool
  | inPort n => packet.inPort == n
  | tunnelKey key => packet.tunnelKey == key
  | vlanTag vlan => packet.vlan == some vlan
  | target address mask => packet.target &&& mask == address &&& mask

/-- A mask of the group bit tells packets for groups from others. -/
theorem fits_target (packet : Packet) :
    (MatchField.target 0 groupMask).fits packet = !packet.isGroup ∧
      (MatchField.target groupMask groupMask).fits packet = packet.isGroup := by
  have hmask : packet.target &&& groupMask = packet.isGroup.toNat * groupMask :=
    Nat.and_two_pow packet.target groupBit
  simp only [MatchField.fits, hmask, Nat.zero_and, Nat.and_self]
  cases packet.isGroup <;> decide

/-- The rule is for such packets. -/
def SwitchRule.fits (rule : SwitchRule) (packet : Packet) : Bool :=
  rule.fields.all (·.fits packet)

/-- A packet on its way: what it is now, the tables it came through and what it was there,
and the ports it was sent out on and what it was then. -/
structure Journey where
  packet : Packet
  visited : List (Nat × Packet) := []
  sent : List (Nat × Packet) := []
  deriving Repr, DecidableEq

/-- The packet comes to a table. -/
def Journey.visit (journey : Journey) (table : Nat) : Journey :=
  { journey with visited := journey.visited ++ [(table, journey.packet)] }

namespace SwitchRule

/-! ## §2. Tables. -/

/-- Of the rules that fit a packet, the actions of the one with the highest priority; a
packet that no rule fits is dropped. -/
def best? (fitting : List SwitchRule) : Option (List SwitchAction) :=
  match fitting.filter fun rule => fitting.all (·.priority ≤ rule.priority) with
  | [] => some []
  | [rule] => some rule.actions
  | _ :: _ :: _ => none

/-- The actions that a packet meets in a table. -/
def meet? (rules : List SwitchRule) (table : Nat) (packet : Packet) :
    Option (List SwitchAction) :=
  best? ((rules.filter (·.table == table)).filter (·.fits packet))

theorem best?_singleton (rule : SwitchRule) : best? [rule] = some rule.actions := by
  simp [best?]

/-- The order of the rules does not matter, only their priorities. -/
theorem best?_pair {low high : SwitchRule} (h : low.priority < high.priority) :
    best? [low, high] = some high.actions ∧ best? [high, low] = some high.actions := by
  have hle : low.priority ≤ high.priority := Nat.le_of_lt h
  have hlow : ¬ high.priority ≤ low.priority := Nat.not_le.2 h
  constructor <;> simp [best?, hle, hlow]

/-! ## §3. Actions. -/

/-- Take an action; `enter` goes on in another table. -/
def act (enter : Nat → Journey → Option Journey) (journey : Journey) :
    SwitchAction → Option Journey
  | .drop | .learn => some journey
  | .resubmit table => enter table journey
  | .setVlan vlan => some { journey with packet := { journey.packet with vlan := some vlan } }
  | .stripVlan => some { journey with packet := { journey.packet with vlan := none } }
  | .setTunnel key => some { journey with packet := { journey.packet with tunnelKey := key } }
  | .output ofport =>
      if ofport = journey.packet.inPort then some journey
      else some { journey with sent := journey.sent ++ [(ofport, journey.packet)] }

/-- Take the actions that the packet meets in a table, with at most `depth` tables deep. -/
def enter (rules : List SwitchRule) : Nat → Nat → Journey → Option Journey
  | 0, _, _ => none
  | depth + 1, table, journey =>
      (meet? rules table journey.packet).bind fun actions =>
        actions.foldlM (act (enter rules depth)) (journey.visit table)

/-- How deep a packet can be resubmitted. -/
def resubmitDepth : Nat := 64

/-- A packet's journey through the tables. -/
def forward (rules : List SwitchRule) (packet : Packet) : Option Journey :=
  enter rules resubmitDepth 0 { packet }

variable {rules : List SwitchRule} {depth table : Nat} {journey : Journey}

theorem enter_succ {actions : List SwitchAction}
    (h : meet? rules table journey.packet = some actions) :
    enter rules (depth + 1) table journey
      = actions.foldlM (act (enter rules depth)) (journey.visit table) := by
  rw [enter, h]
  rfl

/-- **A table that only sends the packet on.** -/
theorem enter_resubmit {next : Nat}
    (h : meet? rules table journey.packet = some [.resubmit next]) :
    enter rules (depth + 1) table journey = enter rules depth next (journey.visit table) := by
  rw [enter_succ h, List.foldlM_cons]
  exact bind_pure _

/-- **A table that drops the packet.** -/
theorem enter_drop (h : meet? rules table journey.packet = some [.drop]) :
    enter rules (depth + 1) table journey = some (journey.visit table) := by
  rw [enter_succ h]
  rfl

theorem foldlM_act {enter : Nat → Journey → Option Journey} {action : SwitchAction}
    {next : Journey} (h : act enter journey action = some next) (rest : List SwitchAction) :
    (action :: rest).foldlM (act enter) journey = rest.foldlM (act enter) next := by
  rw [List.foldlM_cons, h]
  rfl

/-- **A packet that is sent out on ports it did not come from** goes out on each. -/
theorem foldlM_output (enter : Nat → Journey → Option Journey) {ofports : List Nat} :
    ∀ journey : Journey, journey.packet.inPort ∉ ofports →
      (ofports.map .output).foldlM (act enter) journey = some { journey with
        sent := journey.sent ++ ofports.map fun ofport => (ofport, journey.packet) } := by
  induction ofports with
  | nil => intro journey _; rw [List.map_nil, List.map_nil, List.append_nil]; rfl
  | cons ofport rest ih =>
      intro journey hport
      have hfirst : journey.packet.inPort ≠ ofport := fun h => hport (h ▸ List.mem_cons_self)
      have hrest : journey.packet.inPort ∉ rest := fun h => hport (List.mem_cons_of_mem ofport h)
      have hout : act enter journey (.output ofport) = some { journey with
          sent := journey.sent ++ [(ofport, journey.packet)] } := if_neg (Ne.symm hfirst)
      have hnext := ih { journey with sent := journey.sent ++ [(ofport, journey.packet)] } hrest
      rw [List.map_cons, foldlM_act hout, hnext, List.map_cons, List.append_assoc,
        List.singleton_append]

end SwitchRule

end VxlanMesh
