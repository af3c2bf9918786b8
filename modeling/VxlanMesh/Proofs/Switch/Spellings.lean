/-
  VxlanMesh.Proofs.Switch.Spellings
  ────────────────────────────────
  **A RULE IS TOLD BY ITS SPEC.**

  The spec of a rule is its `pieces` between commas, and no piece has a
  comma outside parentheses, so the spec gives the pieces.  From these the
  rule is read back whatever its numbers, also those that no switch would
  take:

      criterion?_text, ruleAction?_text   a criterion, an action
      spec_injective                      the main result

  Nothing in a spec gets a backslash between double quotes (`bare_spec`),
  so on a command line the spec stands as it is.
-/
import VxlanMesh.Proofs.Switch.FlowTexts

namespace VxlanMesh

open VxlanMesh.Numeral (decimal hexadecimal)

/-! ## §1. Criteria and actions are told by their texts. -/

namespace FlowText

/-- The table with a number. -/
def tableOf? (n : Nat) : Option PipelineTable :=
  [.classify, .fromPatch, .decap, .learning, .unicast, .flood].find? (·.number.toNat == n)

/-- The criterion with a name and what follows it. -/
def criterionOf? : String → List Char → Option Criterion
  | "", [] => some .always
  | "in_port", '=' :: value => (number? value).map .inPort
  | "dl_dst", '=' :: '0' :: '0' :: _ => some .unicastTarget
  | "dl_dst", '=' :: '0' :: '1' :: _ => some .multicastTarget
  | "tun_id", '=' :: value => (number? value).map fun n => .tunnelKey n.toUInt32
  | "dl_vlan", '=' :: value => (number? value).map fun n => .vlanTag n.toUInt16
  | _, _ => none

/-- The action of the pipeline with a name and what follows it. -/
def ruleActionOf? : String → List Char → Option FlowAction
  | "drop", [] => some .drop
  | "resubmit", '(' :: ',' :: value =>
      (((enclosed? value).bind number?).bind tableOf?).map .resubmit
  | "learn", _ => some .learnWayBack
  | "mod_vlan_vid", ':' :: value => (number? value).map fun n => .setVlan n.toUInt16
  | "strip_vlan", [] => some .stripVlan
  | "set_tunnel", ':' :: value => (number? value).map fun n => .setTunnel n.toUInt32
  | "output", ':' :: value => (number? value).map .output
  | _, _ => none

/-- **A criterion is read back from its text.** One case for each constructor. -/
theorem criterion?_text (criterion : Criterion) :
    named? criterionOf? criterion.text.toList = some criterion := by
  cases criterion with
  | always | unicastTarget | multicastTarget => decide +kernel
  | inPort n =>
      exact named?_value "in_port".toList '=' rfl (by decide) (by decide) Criterion.inPort
        (fun _ => rfl) (number?_decimal n)
  | tunnelKey vni =>
      have hread : named? criterionOf? (Criterion.tunnelKey vni).text.toList
          = some (.tunnelKey vni.toNat.toUInt32) :=
        named?_value "tun_id".toList '=' rfl (by decide) (by decide)
          (fun n => Criterion.tunnelKey n.toUInt32) (fun _ => rfl) (number?_hexadecimal vni.toNat)
      rw [hread, Nat.toUInt32_eq, UInt32.ofNat_toNat]
  | vlanTag vlan =>
      have hread : named? criterionOf? (Criterion.vlanTag vlan).text.toList
          = some (.vlanTag vlan.toNat.toUInt16) :=
        named?_value "dl_vlan".toList '=' rfl (by decide) (by decide)
          (fun n => Criterion.vlanTag n.toUInt16) (fun _ => rfl) (number?_decimal vlan.toNat)
      rw [hread, Nat.toUInt16_eq, UInt16.ofNat_toNat]

/-- **An action is read back from its text.** One case for each constructor. -/
theorem ruleAction?_text (action : FlowAction) :
    named? ruleActionOf? action.text.toList = some action := by
  cases action with
  | drop | stripVlan | learnWayBack => decide +kernel
  | resubmit table => cases table <;> decide +kernel
  | setVlan vlan =>
      have hread : named? ruleActionOf? (FlowAction.setVlan vlan).text.toList
          = some (.setVlan vlan.toNat.toUInt16) :=
        named?_value "mod_vlan_vid".toList ':' rfl (by decide) (by decide)
          (fun n => FlowAction.setVlan n.toUInt16) (fun _ => rfl) (number?_decimal vlan.toNat)
      rw [hread, Nat.toUInt16_eq, UInt16.ofNat_toNat]
  | setTunnel vni =>
      have hread : named? ruleActionOf? (FlowAction.setTunnel vni).text.toList
          = some (.setTunnel vni.toNat.toUInt32) :=
        named?_value "set_tunnel".toList ':' rfl (by decide) (by decide)
          (fun n => FlowAction.setTunnel n.toUInt32) (fun _ => rfl)
          (number?_hexadecimal vni.toNat)
      rw [hread, Nat.toUInt32_eq, UInt32.ofNat_toNat]
  | output n =>
      exact named?_value "output".toList ':' rfl (by decide) (by decide) FlowAction.output
        (fun _ => rfl) (number?_decimal n)

end FlowText

theorem PipelineTable.number_injective : Function.Injective PipelineTable.number := by
  intro a b h
  cases a <;> cases b <;> first | rfl | exact absurd h (by decide)

/-- No two criteria have one text. -/
theorem Criterion.text_injective : Function.Injective Criterion.text := by
  intro a b h
  have hread := FlowText.criterion?_text a
  rw [h, FlowText.criterion?_text b] at hread
  exact (Option.some.inj hread).symm

/-- No two actions have one text. -/
theorem FlowAction.text_injective : Function.Injective FlowAction.text := by
  intro a b h
  have hread := FlowText.ruleAction?_text a
  rw [h, FlowText.ruleAction?_text b] at hread
  exact (Option.some.inj hread).symm

/-! ## §2. Rules are told by their specs. -/

/-- What the last part of a spec begins with. -/
def actionsLabel : String := "actions="

/-- Actions between commas, after what marks them as actions. -/
def actionPieces : List FlowAction → List String
  | [] => [actionsLabel]
  | first :: rest => (actionsLabel ++ first.text) :: rest.map FlowAction.text

/-- An empty criterion is no piece. -/
def Criterion.pieces (criterion : Criterion) : List String :=
  if criterion.text.isEmpty then [] else [criterion.text]

/-- What stands between the outer commas of a spec. -/
def PipelineRule.pieces (rule : PipelineRule) : List String :=
  ("table=" ++ decimal rule.table.number.toNat) :: ("priority=" ++ decimal rule.priority.toNat) ::
    (rule.criterion.pieces ++ actionPieces rule.actions)

theorem actionPieces_ne_nil (actions : List FlowAction) : actionPieces actions ≠ [] := by
  cases actions <;> exact List.cons_ne_nil _ _

/-- The pieces of the actions between commas are the label and then the actions between commas. -/
theorem intercalate_actionPieces (actions : List FlowAction) :
    ",".intercalate (actionPieces actions)
      = actionsLabel ++ ",".intercalate (actions.map FlowAction.text) := by
  cases actions with
  | nil => rw [List.map_nil, String.intercalate_nil, String.append_empty]; rfl
  | cons first rest =>
      rw [actionPieces, List.map_cons]
      cases rest with
      | nil => rw [List.map_nil, String.intercalate_singleton, String.intercalate_singleton]
      | cons next more =>
          rw [List.map_cons, String.intercalate_cons_cons, String.intercalate_cons_cons,
            String.append_assoc, String.append_assoc, String.append_assoc]

/-- **A spec is the pieces of the rule between commas.** -/
theorem PipelineRule.spec_eq (rule : PipelineRule) :
    rule.toFlow.spec = ",".intercalate rule.pieces := by
  have hne := actionPieces_ne_nil rule.actions
  have hmark : ",actions=" = "," ++ actionsLabel := by decide
  have hpriority : ",priority=" = "," ++ "priority=" := by decide
  have hspec : rule.toFlow.spec = "table=" ++ decimal rule.table.number.toNat ++ ",priority="
      ++ decimal rule.priority.toNat
      ++ (if rule.criterion.text.isEmpty then "" else "," ++ rule.criterion.text)
      ++ ",actions=" ++ ",".intercalate (rule.actions.map FlowAction.text) := rfl
  rw [hspec, hmark, hpriority, pieces, String.intercalate_cons_cons,
    String.intercalate_cons_of_ne_nil (by simp [hne]), Criterion.pieces]
  split
  · rw [List.nil_append, intercalate_actionPieces]
    simp only [String.append_assoc, String.empty_append]
  · rw [List.singleton_append, String.intercalate_cons_of_ne_nil hne, intercalate_actionPieces]
    simp only [String.append_assoc]

namespace FlowText

/-- No piece of a rule has a comma outside parentheses. -/
theorem isClosed_pieces (rule : PipelineRule) :
    ∀ piece ∈ rule.pieces, isClosed 0 piece.toList = true := by
  have hactions : ∀ piece ∈ actionPieces rule.actions, isClosed 0 piece.toList = true := by
    cases rule.actions with
    | nil => exact List.forall_mem_singleton.2 (by decide +kernel)
    | cons first rest =>
        refine List.forall_mem_cons.2 ⟨?_, List.forall_mem_map.2 fun action _ =>
          isClosed_action action⟩
        rw [String.toList_append]
        exact isClosed_append (List.all_eq_true.1 (by decide)) (isClosed_action first)
  refine List.forall_mem_cons.2 ⟨isClosed_decimal (by decide) _, List.forall_mem_cons.2
    ⟨isClosed_decimal (by decide) _, List.forall_mem_append.2 ⟨?_, hactions⟩⟩⟩
  rw [Criterion.pieces]
  split
  · exact nofun
  · exact List.forall_mem_singleton.2 (isClosed_criterion rule.criterion)

/-- The pieces can be told from the spec. -/
theorem parts_spec (rule : PipelineRule) :
    parts 0 rule.toFlow.spec.toList = rule.pieces.map String.toList := by
  rw [rule.spec_eq, String.toList_intercalate, show ",".toList = [','] from rfl,
    parts_intercalate (by simp [PipelineRule.pieces])
      (List.forall_mem_map.2 (isClosed_pieces rule))]

/-- What follows table and priority: the criterion, if the first piece is one, and the rest. -/
def splitCriterion : List String → Criterion × List String
  | [] => (.always, [])
  | piece :: rest =>
      match named? criterionOf? piece.toList with
      | some criterion => (criterion, rest)
      | none => (.always, piece :: rest)

/-- The criterion and the actions can be told from the pieces after the priority. -/
theorem splitCriterion_pieces (criterion : Criterion) (actions : List FlowAction) :
    splitCriterion (criterion.pieces ++ actionPieces actions)
      = (criterion, actionPieces actions) := by
  -- What marks the actions begins with the name of no field.
  have hlabel : ∀ value, named? criterionOf? (actionsLabel ++ value).toList = none := by
    intro value
    rw [named?_labelled criterionOf? "actions".toList '=' rfl (by decide) (by decide)]
    rfl
  have hactions : splitCriterion (actionPieces actions) = (.always, actionPieces actions) := by
    cases actions with
    | nil =>
        have hnone := hlabel ""
        rw [String.append_empty] at hnone
        rw [actionPieces, splitCriterion, hnone]
    | cons first rest => rw [actionPieces, splitCriterion, hlabel]
  rw [Criterion.pieces]
  split
  · rename_i hempty
    have halways : criterion = .always :=
      Criterion.text_injective (String.isEmpty_iff.1 hempty)
    rw [List.nil_append, hactions, halways]
  · rw [List.singleton_append, splitCriterion, criterion?_text]

end FlowText

/-- The pieces tell the actions, also where there are none. -/
theorem actionPieces_injective : Function.Injective actionPieces := by
  -- No text of an action is empty, so the label alone means that there is none.
  have hsome : ∀ action : FlowAction, actionsLabel ≠ actionsLabel ++ action.text := by
    intro action h
    have hempty : action.text = "" := by
      rw [← String.append_right_inj actionsLabel, String.append_empty, ← h]
    have hread := FlowText.ruleAction?_text action
    rw [hempty, String.toList_empty] at hread
    have hnone : FlowText.named? FlowText.ruleActionOf? [] = none := by
      show FlowText.ruleActionOf? (String.ofList []) [] = none
      rw [String.ofList_nil]
      rfl
    exact nomatch hnone.symm.trans hread
  intro a b h
  cases a with
  | nil =>
      cases b with
      | nil => rfl
      | cons first rest => exact absurd (List.cons.inj h).1 (hsome first)
  | cons first rest =>
      cases b with
      | nil => exact absurd (List.cons.inj h).1.symm (hsome first)
      | cons first' rest' =>
          obtain ⟨hfirst, hrest⟩ := List.cons.inj h
          rw [String.append_right_inj] at hfirst
          rw [FlowAction.text_injective hfirst,
            (List.map_inj_right fun _ _ => (FlowAction.text_injective ·)).1 hrest]

/-- **Rules with one spec are one rule.** -/
theorem PipelineRule.spec_injective :
    Function.Injective fun rule : PipelineRule => rule.toFlow.spec := by
  intro a b h
  have hparts := FlowText.parts_spec a
  rw [show a.toFlow.spec = b.toFlow.spec from h, FlowText.parts_spec b] at hparts
  have hpieces : a.pieces = b.pieces :=
    ((List.map_inj_right fun _ _ => String.toList_inj.1).1 hparts).symm
  obtain ⟨htable, hmore⟩ := List.cons.inj hpieces
  obtain ⟨hpriority, hrest⟩ := List.cons.inj hmore
  rw [String.append_right_inj] at htable hpriority
  have htable := PipelineTable.number_injective
    (UInt8.toNat_inj.1 (Numeral.decimal_injective htable))
  have hpriority := UInt16.toNat_inj.1 (Numeral.decimal_injective hpriority)
  have hsplit := congrArg FlowText.splitCriterion hrest
  rw [FlowText.splitCriterion_pieces, FlowText.splitCriterion_pieces, Prod.mk.injEq] at hsplit
  have hactions := actionPieces_injective hsplit.2
  cases a
  cases b
  rw [PipelineRule.mk.injEq]
  exact ⟨htable, hpriority, hsplit.1, hactions⟩

/-! ## §3. Specs between double quotes. -/

/-- No character of the text gets a backslash between double quotes. -/
def Bare (s : String) : Prop := ∀ c ∈ s.toList, Shell.needsBackslash c = false

theorem bare_iff {s : String} :
    Bare s ↔ (s.toList.all fun c => !Shell.needsBackslash c) = true := by
  simp [Bare]

instance (s : String) : Decidable (Bare s) := decidable_of_iff _ bare_iff.symm

/-- Texts that stand as they are do so one after the other. -/
theorem Bare.append {s t : String} (hs : Bare s) (ht : Bare t) : Bare (s ++ t) := by
  intro c hc
  rw [String.toList_append] at hc
  exact (List.mem_append.1 hc).elim (hs c) (ht c)

/-- So do they between commas. -/
theorem bare_intercalate {texts : List String} (h : ∀ text ∈ texts, Bare text) :
    Bare (",".intercalate texts) := by
  induction texts with
  | nil => exact nofun
  | cons text rest ih =>
      obtain ⟨htext, hrest⟩ := List.forall_mem_cons.1 h
      cases rest with
      | nil => rwa [String.intercalate_singleton]
      | cons next more =>
          rw [String.intercalate_cons_cons]
          exact (htext.append (by decide)).append (ih hrest)

/-- No digit gets a backslash, in any base up to sixteen. -/
theorem bare_of_mem_toDigits {base n : Nat} (h1 : 1 < base) (hb : base ≤ 16) {c : Char}
    (h : c ∈ Nat.toDigits base n) : Shell.needsBackslash c = false := by
  have hvalue := FlowText.digitValue?_of_mem_toDigits h1 hb h
  refine Bool.eq_false_iff.2 fun hneeds => ?_
  simp only [Shell.needsBackslash, Bool.or_eq_true, decide_eq_true_eq] at hneeds
  rcases hneeds with (((rfl | rfl) | rfl) | rfl) | rfl <;> exact hvalue rfl

theorem bare_decimal (n : Nat) : Bare (decimal n) := by
  intro c hc
  rw [Numeral.toList_decimal] at hc
  exact bare_of_mem_toDigits (by decide) (by decide) hc

theorem bare_hexadecimal (n : Nat) : Bare (hexadecimal n) := by
  refine Bare.append (by decide) fun c hc => ?_
  rw [String.toList_ofList] at hc
  exact bare_of_mem_toDigits (by decide) (by decide) hc

/-- A criterion stands between double quotes as it is. -/
theorem bare_criterion (criterion : Criterion) : Bare criterion.text := by
  cases criterion with
  | always | unicastTarget | multicastTarget => decide +kernel
  | inPort n => exact Bare.append (by decide +kernel) (bare_decimal n)
  | tunnelKey vni => exact Bare.append (by decide +kernel) (bare_hexadecimal vni.toNat)
  | vlanTag vlan => exact Bare.append (by decide +kernel) (bare_decimal vlan.toNat)

/-- So does an action. -/
theorem bare_action (action : FlowAction) : Bare action.text := by
  cases action with
  | drop | stripVlan | learnWayBack => decide +kernel
  | resubmit table => cases table <;> decide +kernel
  | setVlan vlan => exact Bare.append (by decide +kernel) (bare_decimal vlan.toNat)
  | setTunnel vni => exact Bare.append (by decide +kernel) (bare_hexadecimal vni.toNat)
  | output n => exact Bare.append (by decide +kernel) (bare_decimal n)

/-- **A spec stands between double quotes as it is.** -/
theorem bare_spec (rule : PipelineRule) : Bare rule.toFlow.spec := by
  have hcriterion : ∀ piece ∈ rule.criterion.pieces, Bare piece := by
    rw [Criterion.pieces]
    split
    · exact nofun
    · exact List.forall_mem_singleton.2 (bare_criterion rule.criterion)
  have hactions : ∀ piece ∈ actionPieces rule.actions, Bare piece := by
    cases rule.actions with
    | nil => exact List.forall_mem_singleton.2 (by decide)
    | cons first rest =>
        exact List.forall_mem_cons.2 ⟨Bare.append (by decide) (bare_action first),
          List.forall_mem_map.2 fun action _ => bare_action action⟩
  rw [rule.spec_eq]
  exact bare_intercalate (List.forall_mem_cons.2
    ⟨Bare.append (by decide) (bare_decimal _), List.forall_mem_cons.2
      ⟨Bare.append (by decide) (bare_decimal _), List.forall_mem_append.2
        ⟨hcriterion, hactions⟩⟩⟩)

end VxlanMesh
