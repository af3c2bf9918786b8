/-
  VxlanMesh.Switch.Flow
  ────────────────────────────────
  **FLOW RULES AS THE SWITCH READS THEM.**

  A rule stands in a numbered table with a priority; its match and its
  actions are texts here.  Rules are ordered by table, priority, match
  and actions, texts code point by code point.
-/

namespace VxlanMesh

/-- A match-action rule of a switch table; an empty match fits every packet. -/
structure FlowRule where
  table : UInt8
  priority : UInt16
  criteria : String
  actions : String
  deriving Repr, DecidableEq

namespace FlowRule

/-- The rule as one argument. -/
def spec (rule : FlowRule) : String :=
  "table=" ++ toString rule.table.toNat ++ ",priority=" ++ toString rule.priority.toNat
    ++ (if rule.criteria.isEmpty then "" else "," ++ rule.criteria)
    ++ ",actions=" ++ rule.actions

/-- The order of rules. -/
def order (a b : FlowRule) : Ordering :=
  (compare a.table b.table).then <| (compare a.priority b.priority).then <|
    (compare a.criteria b.criteria).then (compare a.actions b.actions)

/-- Rules in their order, each once. -/
def sortDistinct (rules : List FlowRule) : List FlowRule :=
  (rules.mergeSort fun a b => a.order b != .gt).foldr
    (fun rule rest => if rest.head? == some rule then rest else rule :: rest) []

end FlowRule

end VxlanMesh
