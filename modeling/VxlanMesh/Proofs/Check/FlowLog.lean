/-
  VxlanMesh.Proofs.Check.FlowLog
  ────────────────────────────────
  **A LOG SAYS WHICH RULES A REBUILD INSTALLED.**

  The check on flow rules picks the lines with ` add-flow ` in them and
  takes the last quoted part of each.  A bridge can have any name without
  this pattern:

      flow?_addFlow       of a line that installs a rule it finds the spec
      flow?_deleteFlows   a line that empties a table is not picked
      rebuild_is_read_back   the main result

  A set of specs is a set of rules, since a rule is told by its spec; and
  the rules of a rebuild tell tunnel keys, VLANs and linked ports.
-/
import Mathlib.Data.Bool.Count
import VxlanMesh.Check.CommandLog
import VxlanMesh.Proofs.KeyedTable
import VxlanMesh.Proofs.Switch.Scripts
import VxlanMesh.Proofs.Switch.Spellings

namespace VxlanMesh

/-! ## §1. Patterns in quoted text. -/

namespace Text

/-- A character that a pattern has not ends what the pattern can be the beginning of. -/
theorem prefix_around {pattern : List Char} {c : Char} (hc : c ∉ pattern)
    (before after : List Char) :
    pattern <+: before ++ c :: after ↔ pattern <+: before := by
  refine ⟨?_, fun h => h.trans (List.prefix_append before _)⟩
  rintro ⟨rest, hsplit⟩
  rcases List.append_eq_append_iff.1 hsplit with ⟨more, hbefore, -⟩ | ⟨more, hpattern, hmore⟩
  · exact ⟨more, hbefore.symm⟩
  · cases more with
    | nil => exact ⟨[], by simp [hpattern]⟩
    | cons d more =>
        obtain ⟨rfl, -⟩ := List.cons.inj hmore
        exact absurd (by simp [hpattern]) hc

/-- A pattern does not reach across a character that it has not. -/
theorem occurs_around {pattern : List Char} {c : Char} (hc : c ∉ pattern) (after : List Char) :
    ∀ before, occurs pattern (before ++ c :: after)
      = (occurs pattern before || occurs pattern after) := by
  have hprefix : ∀ before, pattern.isPrefixOf (before ++ c :: after)
      = pattern.isPrefixOf before := by
    intro before
    rw [Bool.eq_iff_iff, List.isPrefixOf_iff_prefix, List.isPrefixOf_iff_prefix,
      prefix_around hc]
  intro before
  induction before with
  | nil =>
      have hempty : pattern.isPrefixOf [] = occurs pattern [] := by cases pattern <;> rfl
      have hstart := hprefix []
      rw [List.nil_append] at hstart ⊢
      rw [← hempty, ← hstart, occurs]
  | cons d before ih =>
      rw [List.cons_append, occurs, ← List.cons_append, hprefix, ih, occurs, Bool.or_assoc]

/-- What begins a quoted text and has no character with a backslash begins the text. -/
theorem prefix_of_prefix_quoted {cs : List Char} : ∀ {pattern : List Char},
    (∀ c ∈ pattern, Shell.needsBackslash c = false) →
      pattern <+: cs.flatMap Shell.quoteChar → pattern <+: cs := by
  induction cs with
  | nil => intro pattern _ h; exact h
  | cons c cs ih =>
      intro pattern hbare h
      cases pattern with
      | nil => exact List.nil_prefix
      | cons d pattern =>
          obtain ⟨hd, hpattern⟩ := List.forall_mem_cons.1 hbare
          rw [List.flatMap_cons, Shell.quoteChar] at h
          split at h
          · obtain ⟨rfl, -⟩ := List.cons_prefix_cons.1 h
            exact absurd hd (by decide)
          · obtain ⟨rfl, hrest⟩ := List.cons_prefix_cons.1 h
            exact List.cons_prefix_cons.2 ⟨rfl, ih hpattern hrest⟩

/-- Quoting a text does not make a pattern occur that has no character with a backslash. -/
theorem occurs_of_occurs_quoted {first : Char} {pattern : List Char}
    (hbare : ∀ c ∈ first :: pattern, Shell.needsBackslash c = false) {cs : List Char}
    (h : occurs (first :: pattern) (cs.flatMap Shell.quoteChar) = true) :
    occurs (first :: pattern) cs = true := by
  -- The pattern does not begin with a backslash, nor with a character after one.
  have hother : ∀ {c : Char} {rest : List Char}, Shell.needsBackslash c = true →
      (first :: pattern).isPrefixOf (c :: rest) = false := by
    intro c rest hc
    refine Bool.eq_false_iff.2 fun hprefix => ?_
    obtain ⟨rfl, -⟩ := List.cons_prefix_cons.1 (List.isPrefixOf_iff_prefix.1 hprefix)
    exact absurd hc (Bool.eq_false_iff.1 (hbare _ List.mem_cons_self))
  induction cs with
  | nil => exact h
  | cons c cs ih =>
      rw [occurs, Bool.or_eq_true]
      by_cases hc : Shell.needsBackslash c = true
      · rw [List.flatMap_cons, Shell.quoteChar, if_pos hc, List.cons_append, List.singleton_append,
          occurs, occurs, hother (by decide), hother hc, Bool.false_or, Bool.false_or] at h
        exact .inr (ih h)
      · have hquoted : (c :: cs).flatMap Shell.quoteChar = c :: cs.flatMap Shell.quoteChar := by
          rw [List.flatMap_cons, Shell.quoteChar, if_neg hc, List.singleton_append]
        rw [hquoted, occurs, Bool.or_eq_true, ← hquoted] at h
        refine h.imp (fun hprefix => ?_) ih
        exact List.isPrefixOf_iff_prefix.2
          (prefix_of_prefix_quoted hbare (List.isPrefixOf_iff_prefix.1 hprefix))

end Text

/-! ## §2. One line. -/

namespace Check

/-- The rule that a line installs, if it does. -/
def flow? (line : String) : Option String :=
  if Text.contains line " add-flow " then lastQuoted line else none

theorem flows_eq (log : List String) : flows log = log.filterMap flow? :=
  List.filterMap_filter

/-- The last quoted part is what stands between the last two quotes. -/
theorem lastQuotedChars_append {cs : List Char} (hcs : '"' ∉ cs) (before : List Char) :
    lastQuotedChars (before ++ '"' :: cs ++ ['"']) = some cs := by
  have hreverse : (before ++ '"' :: cs ++ ['"']).reverse
      = '"' :: (cs.reverse ++ '"' :: before.reverse) := by simp
  have hplain : ∀ c ∈ cs.reverse, decide (c ≠ '"') = true := by
    intro c hc
    exact decide_eq_true fun hquote => hcs (hquote ▸ List.mem_reverse.1 hc)
  have hopens : (cs.reverse ++ '"' :: before.reverse).contains '"' = true := by simp
  rw [lastQuotedChars, hreverse, List.dropWhile_cons_of_neg (by decide)]
  simp only
  rw [if_pos hopens, List.takeWhile_append_of_pos hplain, List.takeWhile_cons_of_neg (by decide),
    List.append_nil, List.reverse_reverse]

end Check

/-- A bare text is quoted as it stands. -/
theorem Shell.quoteChars_bare {cs : List Char} (h : ∀ c ∈ cs, needsBackslash c = false) :
    quoteChars cs = '"' :: cs ++ ['"'] := by
  have hself : cs.flatMap quoteChar = cs := by
    induction cs with
    | nil => rfl
    | cons c cs ih =>
        obtain ⟨hc, hcs⟩ := List.forall_mem_cons.1 h
        rw [List.flatMap_cons, ih hcs, quoteChar, if_neg (Bool.eq_false_iff.1 hc),
          List.singleton_append]
  rw [quoteChars, hself, List.cons_append]

/-- A line for the tool that keeps flow rules, with two words in quotes. -/
theorem SwitchCommand.control_line (verb bridge last : String) :
    (Shell.commandLine (control ++ Shell.plainWords [verb]
        ++ [.inQuotes bridge, .inQuotes last])).toList
      = ("/usr/bin/ovs-ofctl".toList ++ ' ' :: verb.toList ++ [' '])
        ++ Shell.quoteChars bridge.toList ++ [' '] ++ Shell.quoteChars last.toList := by
  have hwords : Shell.commandLine (control ++ Shell.plainWords [verb]
      ++ [.inQuotes bridge, .inQuotes last]) = " ".intercalate ["/usr/bin/ovs-ofctl" ++ "",
        verb ++ "", "" ++ Shell.quote bridge, "" ++ Shell.quote last] := rfl
  rw [hwords, String.toList_intercalate]
  simp [Shell.quote, List.intercalate_cons_cons]

namespace Check

/-- **Of a line that installs a rule the check finds the spec**, whatever the bridge. -/
theorem flow?_addFlow (bridge : String) (rule : PipelineRule) :
    flow? (SwitchCommand.addFlow bridge rule.toFlow).commandLine = some rule.toFlow.spec := by
  have hline : (SwitchCommand.addFlow bridge rule.toFlow).commandLine.toList = _ :=
    SwitchCommand.control_line "add-flow" bridge rule.toFlow.spec
  have hpicked : Text.contains (SwitchCommand.addFlow bridge rule.toFlow).commandLine " add-flow "
      = true := by
    rw [Text.contains_iff, Text.Occurs, hline]
    exact ⟨"/usr/bin/ovs-ofctl".toList, _, by rw [List.append_assoc, ← List.append_assoc]; rfl⟩
  have hquote : '"' ∉ rule.toFlow.spec.toList := by
    intro hmem
    exact absurd (bare_spec rule _ hmem) (by decide)
  rw [flow?, if_pos hpicked, lastQuoted, hline, Shell.quoteChars_bare (bare_spec rule),
    ← List.append_assoc, lastQuotedChars_append hquote, Option.map_some, String.ofList_toList]

/-- **A line that empties a table is not taken for another**, unless the bridge has the
pattern in its name. -/
theorem flow?_deleteFlows {bridge : String} (hbridge : Text.contains bridge " add-flow " = false)
    (table : PipelineTable) :
    flow? (SwitchCommand.deleteFlows bridge (some table.number)).commandLine = none := by
  have hline : (SwitchCommand.deleteFlows bridge (some table.number)).commandLine.toList = _ :=
    SwitchCommand.control_line "del-flows" bridge ("table=" ++ Numeral.decimal table.number.toNat)
  have hquote : '"' ∉ " add-flow ".toList := by decide
  have hbefore : Text.occurs " add-flow ".toList
      ("/usr/bin/ovs-ofctl".toList ++ ' ' :: "del-flows".toList ++ [' ']) = false := by
    decide +kernel
  have hbare : Bare " add-flow " := by decide
  have hname : Text.occurs " add-flow ".toList (bridge.toList.flatMap Shell.quoteChar) = false :=
    Bool.eq_false_iff.2 fun h => absurd
      (Text.occurs_of_occurs_quoted hbare h) (Bool.eq_false_iff.1 hbridge)
  have hafter : Text.occurs " add-flow ".toList ([' ']
      ++ Shell.quoteChars ("table=" ++ Numeral.decimal table.number.toNat).toList) = false := by
    cases table <;> decide +kernel
  have hmissing : Text.contains
      (SwitchCommand.deleteFlows bridge (some table.number)).commandLine " add-flow " = false := by
    rw [Text.contains, hline, Shell.quoteChars, List.append_assoc, List.append_assoc,
      List.cons_append, Text.occurs_around hquote, hbefore, List.append_assoc,
      List.singleton_append, Text.occurs_around hquote, hname, hafter]
    rfl
  rw [flow?, hmissing, if_neg Bool.false_ne_true]

end Check

/-! ## §3. What the rules of a rebuild tell. -/

/-- The tunnel key and the VLAN of a network. -/
def Network.numbers (net : Network) : UInt32 × UInt16 := (net.vni, net.vlan)

section DesiredRules

variable {networks networks' : List Network} {ports ports' : List TunnelPort}

theorem mem_desiredRules {rule : PipelineRule} :
    rule ∈ desiredRules networks ports ↔ rule ∈ baseRules ∨
      ∃ net ∈ networks, rule = ingressRule net ∨ rule = egressRule net (linkedOfports ports) := by
  simp [desiredRules]

/-- A rule for a tunnel key is there for the networks with this key and this VLAN. -/
theorem ingressRule_mem {net : Network} :
    ingressRule net ∈ desiredRules networks ports
      ↔ net.numbers ∈ networks.map Network.numbers := by
  have hbase : ingressRule net ∉ baseRules := by simp [baseRules, ingressRule]
  have hegress : ∀ other : Network, ingressRule net ≠ egressRule other (linkedOfports ports) := by
    simp [ingressRule, egressRule]
  have hingress : ∀ other : Network,
      ingressRule net = ingressRule other ↔ other.numbers = net.numbers := by
    intro other
    simp only [ingressRule, Network.numbers, PipelineRule.mk.injEq, Criterion.tunnelKey.injEq,
      List.cons.injEq, FlowAction.setVlan.injEq, Prod.mk.injEq, and_true, true_and, eq_comm]
  simp [mem_desiredRules, hbase, hegress, hingress]

/-- A rule for a VLAN is there for the networks with this VLAN and this tunnel key, if it
floods to all linked ports in their order. -/
theorem egressRule_mem {net : Network} {ofports : List Nat} :
    egressRule net ofports ∈ desiredRules networks ports ↔
      net.numbers ∈ networks.map Network.numbers ∧ ofports = linkedOfports ports := by
  have hbase : egressRule net ofports ∉ baseRules := by simp [baseRules, egressRule]
  have hingress : ∀ other : Network, egressRule net ofports ≠ ingressRule other := by
    simp [ingressRule, egressRule]
  have houtput : ∀ ofports', ofports.map FlowAction.output = ofports'.map FlowAction.output ↔
      ofports = ofports' := fun _ => List.map_inj_right fun _ _ => FlowAction.output.inj
  have hegress : ∀ other : Network, egressRule net ofports = egressRule other (linkedOfports ports)
      ↔ other.numbers = net.numbers ∧ ofports = linkedOfports ports := by
    intro other
    simp only [egressRule, Network.numbers, PipelineRule.mk.injEq, Criterion.vlanTag.injEq,
      List.cons.injEq, FlowAction.setTunnel.injEq, Prod.mk.injEq, houtput, true_and]
    grind
  simp only [mem_desiredRules, hbase, hingress, hegress, false_or, List.mem_map]
  grind

theorem desiredRules_subset
    (hnumbers : ∀ numbers ∈ networks.map Network.numbers, numbers ∈ networks'.map Network.numbers)
    (hports : linkedOfports ports = linkedOfports ports') {rule : PipelineRule}
    (h : rule ∈ desiredRules networks ports) : rule ∈ desiredRules networks' ports' := by
  rcases mem_desiredRules.1 h with hbase | ⟨net, hnet, rfl | rfl⟩
  · exact mem_desiredRules.2 (.inl hbase)
  · exact ingressRule_mem.2 (hnumbers _ (List.mem_map_of_mem hnet))
  · exact egressRule_mem.2 ⟨hnumbers _ (List.mem_map_of_mem hnet), hports⟩

/-- **The rules of a rebuild tell tunnel keys, VLANs and linked ports**, and nothing else. -/
theorem desiredRules_same_iff (hne : networks ≠ []) :
    (∀ rule, rule ∈ desiredRules networks ports ↔ rule ∈ desiredRules networks' ports') ↔
      (∀ numbers, numbers ∈ networks.map Network.numbers ↔
        numbers ∈ networks'.map Network.numbers) ∧ linkedOfports ports = linkedOfports ports' := by
  constructor
  · intro h
    refine ⟨fun numbers => ⟨fun hmem => ?_, fun hmem => ?_⟩, ?_⟩
    · obtain ⟨net, hnet, rfl⟩ := List.mem_map.1 hmem
      exact ingressRule_mem.1 ((h _).1 (ingressRule_mem.2 hmem))
    · obtain ⟨net, hnet, rfl⟩ := List.mem_map.1 hmem
      exact ingressRule_mem.1 ((h _).2 (ingressRule_mem.2 hmem))
    -- The rules of one network are enough to tell the ports.
    · obtain ⟨net, hnet⟩ := List.exists_mem_of_ne_nil networks hne
      have hegress : egressRule net (linkedOfports ports) ∈ desiredRules networks ports :=
        egressRule_mem.2 ⟨List.mem_map_of_mem hnet, rfl⟩
      exact (egressRule_mem.1 ((h _).1 hegress)).2
  · rintro ⟨hnumbers, hports⟩ rule
    exact ⟨desiredRules_subset (fun numbers => (hnumbers numbers).1) hports,
      desiredRules_subset (fun numbers => (hnumbers numbers).2) hports.symm⟩

end DesiredRules

/-! ## §4. The log of a rebuild. -/

/-- The command installs a rule. -/
def SwitchCommand.installs : SwitchCommand → Bool
  | addFlow _ _ => true
  | addBridge _ | addPatchPort .. | addVxlanPort .. | deletePort .. | listPorts _
  | deleteFlows .. => false

/-- How many commands to install a rule were refused. -/
def Script.refused (script : Script) : Nat :=
  script.answered.countP fun asked => asked.1.installs && !asked.2.isOk

namespace SwitchSettings

/-- The command lines of a rebuild, when its commands get these answers. -/
def rebuildLog (settings : SwitchSettings) (networks : List Network) (ports : List TunnelPort)
    (ahead : Stream' (Except OverlayError String)) (clock : Clock) : List String :=
  let after := (settings.rebuild networks ports ({ switch := { ahead }, clock } : Host Script)).2
  after.switch.issued.map SwitchCommand.commandLine

/-- Among commands that install rules, those with a failure for an answer are refused. -/
theorem countP_installs {commands : List SwitchCommand}
    (h : ∀ command ∈ commands, command.installs = true) :
    ∀ {answers : List (Except OverlayError String)}, commands.length = answers.length →
      (commands.zip answers).countP (fun asked => asked.1.installs && !asked.2.isOk)
        = (answers.map Except.isOk).count false := by
  induction commands with
  | nil =>
      intro answers hlength
      rw [List.length_eq_zero_iff.1 hlength.symm]
      rfl
  | cons command rest ih =>
      intro answers hlength
      obtain ⟨hcommand, hrest⟩ := List.forall_mem_cons.1 h
      cases answers with
      | nil => exact nomatch hlength
      | cons answer more =>
          rw [List.zip_cons_cons, List.countP_cons, ih hrest (Nat.succ.inj hlength),
            List.map_cons, List.count_cons]
          cases answer <;> simp [hcommand, Except.isOk, Except.toBool]

theorem rebuildCommands_eq (settings : SwitchSettings) (networks : List Network)
    (ports : List TunnelPort) : settings.rebuildCommands networks ports
      = .deleteFlows settings.tunnelBridge (some PipelineTable.decap.number) ::
        .deleteFlows settings.tunnelBridge (some PipelineTable.flood.number) ::
          settings.installations (desiredRules networks ports) := by
  rw [rebuildCommands, List.map_map]
  rfl

/-- Nine rules are fixed, and two are there for each network. -/
theorem length_installations (settings : SwitchSettings) (networks : List Network)
    (ports : List TunnelPort) :
    (settings.installations (desiredRules networks ports)).length = 9 + 2 * networks.length := by
  simp [installations, desiredRules, baseRules, List.length_flatMap]
  omega

section Answers

variable (settings : SwitchSettings) (networks : List Network) (ports : List TunnelPort)
  (ahead : Stream' (Except OverlayError String))

theorem take_rebuildCommands : ahead.take (settings.rebuildCommands networks ports).length
    = ahead.head :: ahead.tail.head :: (ahead.drop 2).take (9 + 2 * networks.length) := by
  rw [rebuildCommands_eq, ← settings.length_installations networks ports]
  rfl

/-- The failures among the answers but for the first two, which are for emptying tables. -/
theorem refused_rebuild :
    (({ ahead } : Script).after (settings.rebuildCommands networks ports)).refused
      = (((ahead.drop 2).take (9 + 2 * networks.length)).map Except.isOk).count false := by
  let script := ({ ahead } : Script).after (settings.rebuildCommands networks ports)
  have hanswered : script.answered = (settings.rebuildCommands networks ports).zip
      (ahead.take (settings.rebuildCommands networks ports).length) := List.nil_append _
  have hinstalls : ∀ command ∈ settings.installations (desiredRules networks ports),
      command.installs = true := List.forall_mem_map.2 fun _ _ => rfl
  have hlength : (settings.installations (desiredRules networks ports)).length
      = ((ahead.drop 2).take (9 + 2 * networks.length)).length := by
    rw [Stream'.length_take, length_installations]
  show script.refused = _
  rw [Script.refused, hanswered, take_rebuildCommands, rebuildCommands_eq, List.zip_cons_cons,
    List.zip_cons_cons, List.countP_cons_of_neg (by simp [SwitchCommand.installs]),
    List.countP_cons_of_neg (by simp [SwitchCommand.installs]), countP_installs hinstalls hlength]

/-- What a rebuild answers and leaves, when its commands get the next answers. -/
theorem rebuild_answered (clock : Clock) :
    let script := ({ ahead } : Script).after (settings.rebuildCommands networks ports)
    ∃ installed, installed + script.refused = 9 + 2 * networks.length ∧
      settings.rebuild networks ports { switch := { ahead }, clock }
        = (.done { installed, failed := script.refused }, { switch := script, clock }) := by
  intro script
  let answers := ((ahead.drop 2).take (9 + 2 * networks.length)).map Except.isOk
  have hrefused : script.refused = answers.count false :=
    settings.refused_rebuild networks ports ahead
  have hrebuild := settings.rebuild_eq networks ports
    ({ switch := { ahead }, clock } : Host Script)
  simp only [Script.runAll_eq, take_rebuildCommands, List.map_cons, List.drop_succ_cons,
    List.drop_zero, RebuildSummary.foldl_count, Nat.zero_add] at hrebuild
  refine ⟨answers.count true, ?_, ?_⟩
  · rw [hrefused, List.count_true_add_count_false, List.length_map, Stream'.length_take]
  · rw [hrefused]
    exact hrebuild

end Answers

theorem flow?_installations (settings : SwitchSettings) (rules : List PipelineRule) :
    ((settings.installations rules).map SwitchCommand.commandLine).filterMap Check.flow?
      = rules.map fun rule => rule.toFlow.spec := by
  induction rules with
  | nil => rfl
  | cons rule rest ih =>
      have hrule := Check.flow?_addFlow settings.tunnelBridge rule
      rw [installations, List.map_cons, List.map_cons, List.filterMap_cons_some hrule,
        List.map_cons]
      exact congrArg (List.cons _) ih

/-- **The check finds the specs of all rules, in order**, whatever was refused. -/
theorem flows_rebuildLog (settings : SwitchSettings) (networks : List Network)
    (ports : List TunnelPort) (ahead : Stream' (Except OverlayError String)) (clock : Clock)
    (hbridge : Text.contains settings.tunnelBridge " add-flow " = false) :
    Check.flows (settings.rebuildLog networks ports ahead clock)
      = (desiredRules networks ports).map fun rule => rule.toFlow.spec := by
  obtain ⟨installed, -, hrebuild⟩ := settings.rebuild_answered networks ports ahead clock
  have hlog : settings.rebuildLog networks ports ahead clock
      = (settings.rebuildCommands networks ports).map SwitchCommand.commandLine := by
    simp only [rebuildLog, hrebuild, Script.issued_after]
    rfl
  rw [hlog, rebuildCommands_eq, Check.flows_eq, List.map_cons, List.map_cons,
    List.filterMap_cons_none (Check.flow?_deleteFlows hbridge .decap),
    List.filterMap_cons_none (Check.flow?_deleteFlows hbridge .flood), flow?_installations]

/-- **The check reads back what a rebuild programmed.**  Whatever the commands answer, the rules
found in the log are those of the networks and ports, each once and in order; all of them were
tried, and those that were refused are counted as failed.  Two rebuilds leave the same set of
rules if and only if the networks have the same tunnel keys and VLANs and the same ports are
linked. -/
theorem rebuild_is_read_back (settings : SwitchSettings) (networks : List Network)
    (ports : List TunnelPort) (ahead : Stream' (Except OverlayError String)) (clock : Clock)
    (hbridge : Text.contains settings.tunnelBridge " add-flow " = false) :
    let result := settings.rebuild networks ports ({ switch := { ahead }, clock } : Host Script)
    let log := settings.rebuildLog networks ports ahead clock
    Check.flows log = (desiredRules networks ports).map (fun rule => rule.toFlow.spec) ∧
    (∃ installed, result.1 = .done { installed, failed := result.2.switch.refused } ∧
      installed + result.2.switch.refused = 9 + 2 * networks.length) ∧
    ∀ (settings' : SwitchSettings) (networks' : List Network) (ports' : List TunnelPort)
      (ahead' : Stream' (Except OverlayError String)) (clock' : Clock),
      Text.contains settings'.tunnelBridge " add-flow " = false → networks ≠ [] →
      (Check.flowSet log = Check.flowSet (settings'.rebuildLog networks' ports' ahead' clock') ↔
        (∀ numbers, numbers ∈ networks.map Network.numbers ↔
          numbers ∈ networks'.map Network.numbers) ∧
        linkedOfports ports = linkedOfports ports') := by
  intro result log
  obtain ⟨installed, hsum, hrebuild⟩ := settings.rebuild_answered networks ports ahead clock
  refine ⟨settings.flows_rebuildLog networks ports ahead clock hbridge, ⟨installed, ?_, ?_⟩, ?_⟩
  · rw [show result = _ from hrebuild]
  · rw [show result = _ from hrebuild]
    exact hsum
  · intro settings' networks' ports' ahead' clock' hbridge' hne
    rw [Check.flowSet, Check.flowSet, settings.flows_rebuildLog networks ports ahead clock hbridge,
      settings'.flows_rebuildLog networks' ports' ahead' clock' hbridge', KeySet.ofList_eq_iff,
      ← desiredRules_same_iff hne]
    -- A rule is told by its spec, so a set of specs is a set of rules.
    have hmem : ∀ (rules : List PipelineRule) (rule : PipelineRule),
        rule.toFlow.spec ∈ rules.map (fun rule => rule.toFlow.spec) ↔ rule ∈ rules :=
      fun rules rule => List.mem_map_of_injective PipelineRule.spec_injective
    constructor
    · intro h rule
      rw [← hmem, ← hmem, h]
    · intro h spec
      simp only [List.mem_map, h]

/-- Everything is refused on a bridge with quotes, a line feed and most of the pattern in its
name.  The log still tells two networks and a port, whatever the networks are called and
however they are listed, and tells the port from another one. -/
theorem rebuild_is_read_back_refused :
    let cause : OverlayError := .commandFailed "ovs-ofctl" 1 "no such bridge"
    let settings : SwitchSettings := { tunnelBridge := "a\"b$c\\d\ne add-flow" }
    let networks : List Network := [⟨"red", 100, 1⟩, ⟨"blue", 200, 2⟩]
    let ports : List TunnelPort := [.linked 2 ⟨"n1", "10.0.0.1", .ready⟩,
      .unlinked ⟨"n2", "10.0.0.2", .down⟩]
    let log := settings.rebuildLog networks ports (Stream'.const (.error cause)) {}
    let logWith := fun port : TunnelPort => ({} : SwitchSettings).rebuildLog
      [⟨"green", 200, 2⟩, ⟨"white", 100, 1⟩] [port] (Stream'.const (.ok "")) {}
    (settings.rebuild networks ports
        ({ switch := { ahead := Stream'.const (.error cause) } } : Host Script)).1
      = .done { installed := 0, failed := 13 } ∧
      Check.flows log = (desiredRules networks ports).map (fun rule => rule.toFlow.spec) ∧
      Check.flowSet log = Check.flowSet (logWith (.linked 2 ⟨"n3", "10.0.0.3", .ready⟩)) ∧
      Check.flowSet log ≠ Check.flowSet (logWith (.linked 3 ⟨"n3", "10.0.0.3", .ready⟩)) := by
  intro cause settings networks ports log logWith
  obtain ⟨hflows, -, hsame⟩ := settings.rebuild_is_read_back networks ports
    (Stream'.const (.error cause)) {} (by decide +kernel)
  have hother := fun port => hsame {} [⟨"green", 200, 2⟩, ⟨"white", 100, 1⟩] [port]
    (Stream'.const (.ok "")) {} (by decide +kernel) (List.cons_ne_nil _ _)
  refine ⟨?_, hflows, (hother _).2 ⟨fun numbers => ?_, rfl⟩, fun h => ?_⟩
  · obtain ⟨installed, hsum, hrebuild⟩ := settings.rebuild_answered networks ports
      (Stream'.const (.error cause)) {}
    rw [refused_rebuild] at hsum hrebuild
    have htotal : installed + 13 = 13 := hsum
    rw [hrebuild, show installed = 0 by omega]
    rfl
  · exact (List.Perm.swap _ _ []).mem_iff
  · exact absurd ((hother _).1 h).2 (by decide)

end SwitchSettings

end VxlanMesh
