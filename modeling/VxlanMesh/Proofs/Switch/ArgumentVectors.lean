/-
  VxlanMesh.Proofs.Switch.ArgumentVectors
  ────────────────────────────────
  **WHICH ARGUMENTS A COMMAND HANDS TO ITS TOOL.**

  A `vector` is written out for every command: the words of the tool, and
  each name and address as a whole argument or behind the label of its
  option.  The shell takes the line of a command for one simple command
  with this vector, and the vector tells commands apart.

      vector_eq_iff       which commands have the same vector
      commandLine_hears   the main result
-/
import VxlanMesh.Proofs.Switch.CommandLines

namespace VxlanMesh

open VxlanMesh.Numeral (decimal decimal_injective)
open VxlanMesh.Shell (Word joined_eq_self plainWords)

/-- A word without line feeds arrives as it is meant. -/
theorem Shell.Word.heard_eq_value {w : Word} (h : ∀ s ∈ w.quoted, '\n' ∉ s.toList) :
    w.heard = w.value := by
  rw [heard, value]
  cases hquoted : w.quoted with
  | none => rfl
  | some s => rw [Option.map_some, joined_eq_self.2 (h s hquoted)]

namespace SwitchCommand

/-! ## §1. Vectors. -/

/-- The texts that a command is built from. -/
def texts : SwitchCommand → List String
  | addBridge bridge | listPorts bridge | deleteFlows bridge _ => [bridge]
  | addPatchPort bridge port peer _ => [bridge, port, peer]
  | addVxlanPort bridge port => [bridge, port.name, port.remoteIp, port.localIp]
  | deletePort bridge port => [bridge, port]
  | addFlow bridge rule => [bridge, rule.criteria, rule.actions]

/-- **The argument vector of a command.** -/
def vector : SwitchCommand → List String
  | addBridge bridge => ["/usr/bin/ovs-vsctl", "--timeout=10", "--may-exist", "add-br", bridge]
  | addPatchPort bridge port peer ofport =>
      ["/usr/bin/ovs-vsctl", "--timeout=10", "--may-exist", "add-port", bridge, port,
        "--", "set", "Interface", port, "type=patch", "options:peer=" ++ peer]
        ++ (ofport.map fun n => "ofport_request=" ++ decimal n).toList
  | addVxlanPort bridge port =>
      ["/usr/bin/ovs-vsctl", "--timeout=10", "--may-exist", "add-port", bridge, port.name,
        "--", "set", "Interface", port.name, "type=vxlan",
        "ofport_request=" ++ decimal port.ofport,
        "options:remote_ip=" ++ port.remoteIp, "options:local_ip=" ++ port.localIp,
        "options:in_key=flow", "options:out_key=flow", "options:csum=false",
        "options:df_default=false", "options:dst_port=" ++ decimal port.dstPort.toNat]
  | deletePort bridge port =>
      ["/usr/bin/ovs-vsctl", "--timeout=10", "--if-exists", "del-port", bridge, port]
  | listPorts bridge => ["/usr/bin/ovs-vsctl", "--timeout=10", "list-ports", bridge]
  | deleteFlows bridge table =>
      ["/usr/bin/ovs-ofctl", "del-flows", bridge]
        ++ (table.map fun n => "table=" ++ decimal n.toNat).toList
  | addFlow bridge rule => ["/usr/bin/ovs-ofctl", "add-flow", bridge, rule.spec]

/-- How many arguments a command has; its texts do not matter. -/
def arity : SwitchCommand → Nat
  | addBridge _ => 5
  | addPatchPort _ _ _ ofport => if ofport.isSome then 13 else 12
  | addVxlanPort _ _ => 19
  | deletePort _ _ => 6
  | listPorts _ => 4
  | deleteFlows _ table => if table.isSome then 4 else 3
  | addFlow _ _ => 4

/-- The commands ask the same: they are the same, or install flow rules with one spelling. -/
def AsksSame : SwitchCommand → SwitchCommand → Prop
  | addFlow bridge rule, addFlow bridge' rule' => bridge = bridge' ∧ rule.spec = rule'.spec
  | command, other => command = other

/-- **The number of arguments does not depend on the texts.** -/
theorem length_vector (command : SwitchCommand) : command.vector.length = command.arity := by
  cases command with
  | addPatchPort _ _ _ ofport => cases ofport <;> rfl
  | deleteFlows _ table => cases table <;> rfl
  | _ => rfl

theorem value_plain (s : String) : (Word.plain s).value = s := String.append_empty

theorem value_inQuotes (s : String) : (Word.inQuotes s).value = s := String.empty_append

theorem value_label (label s : String) : (⟨label, some s⟩ : Word).value = label ++ s := rfl

/-- The words of a command mean its vector. -/
theorem arguments_eq_vector (command : SwitchCommand) : command.arguments = command.vector := by
  have hplain : ∀ texts, (plainWords texts).map Word.value = texts := fun texts => by
    rw [plainWords, List.map_map]
    exact (List.map_congr_left fun s _ => value_plain s).trans (List.map_id _)
  cases command with
  | addPatchPort bridge port peer ofport =>
      cases ofport <;> simp [arguments, words, vector, configure, hplain, value_plain,
        value_inQuotes, value_label]
  | deleteFlows bridge table =>
      cases table <;> simp [arguments, words, vector, control, hplain, value_inQuotes]
  | _ =>
      simp [arguments, words, vector, configure, control, hplain, value_plain, value_inQuotes,
        value_label]

/-! ## §2. Which vectors differ. -/

theorem decimal_inj {m n : Nat} : decimal m = decimal n ↔ m = n :=
  ⟨decimal_injective, congrArg decimal⟩

/-- A number that may be left out is told by the list of what is written of it. -/
theorem toList_numbered_inj (label : String) (a b : Option Nat) :
    (a.map fun n => label ++ decimal n).toList = (b.map fun n => label ++ decimal n).toList
      ↔ a = b := by
  cases a <;> cases b <;> simp [decimal_inj]

/-- **Vectors tell commands apart**, but for flow rules that are spelled alike. -/
theorem vector_eq_iff (command other : SwitchCommand) :
    command.vector = other.vector ↔ command.AsksSame other := by
  -- Commands of two kinds differ in a word that both have; those of one kind in what is filled in.
  cases command with
  | addBridge _ | deletePort _ _ | listPorts _ | addFlow _ _ =>
      cases other <;> simp [vector, AsksSame]
  | addPatchPort bridge port peer ofport =>
      cases other with
      | addPatchPort _ _ _ _ => simp +contextual [vector, AsksSame, toList_numbered_inj]
      | _ => simp [vector, AsksSame]
  | addVxlanPort bridge port =>
      cases other with
      | addVxlanPort _ port' =>
          cases port
          cases port'
          simp +contextual [vector, AsksSame, decimal_inj, UInt16.toNat_inj]
      | _ => simp [vector, AsksSame]
  | deleteFlows bridge table =>
      cases other with
      | deleteFlows _ table' =>
          have hnumber : table.map UInt8.toNat = table'.map UInt8.toNat ↔ table = table' :=
            (Option.map_injective fun _ _ => UInt8.toNat_inj.1).eq_iff
          have htable := toList_numbered_inj "table=" (table.map UInt8.toNat)
            (table'.map UInt8.toNat)
          rw [Option.map_map, Option.map_map, hnumber] at htable
          simp only [vector, AsksSame, List.cons_append, List.nil_append, List.cons.injEq,
            true_and, deleteFlows.injEq]
          exact and_congr_right fun _ => htable
      | _ => simp [vector, AsksSame]

/-! ## §3. Lines. -/

/-- No digit is a line feed. -/
theorem line_feed_not_mem_decimal (n : Nat) : '\n' ∉ (decimal n).toList := by
  rw [Numeral.toList_decimal]
  intro hmem
  have hdigit := Numeral.isDigit_of_mem_toDigits hmem
  exact absurd hdigit (by decide)

/-- The spelling of a rule has no line feed if its match and its actions have none. -/
theorem line_feed_not_mem_spec {rule : FlowRule} (hcriteria : '\n' ∉ rule.criteria.toList)
    (hactions : '\n' ∉ rule.actions.toList) : '\n' ∉ rule.spec.toList := by
  have htable : '\n' ∉ (toString rule.table.toNat).toList := line_feed_not_mem_decimal _
  have hpriority : '\n' ∉ (toString rule.priority.toNat).toList := line_feed_not_mem_decimal _
  have hmatch : '\n' ∉ (if rule.criteria.isEmpty then "" else "," ++ rule.criteria).toList := by
    split
    · simp
    · simpa using hcriteria
  simp only [FlowRule.spec, String.toList_append, List.mem_append, not_or]
  exact ⟨⟨⟨⟨⟨⟨by decide, htable⟩, by decide⟩, hpriority⟩, hmatch⟩, by decide⟩, hactions⟩

/-- What stands in quotes on the line of a command. -/
def quotedTexts : SwitchCommand → List String
  | addBridge bridge | listPorts bridge => [bridge]
  | addPatchPort bridge port peer _ => [bridge, port, port, peer]
  | addVxlanPort bridge port => [bridge, port.name, port.name, port.remoteIp, port.localIp]
  | deletePort bridge port => [bridge, port]
  | deleteFlows bridge table => bridge :: (table.map fun n => "table=" ++ decimal n.toNat).toList
  | addFlow bridge rule => [bridge, rule.spec]

/-- The quoted words of a command are the texts that stand in quotes on its line. -/
theorem filterMap_quoted (command : SwitchCommand) :
    command.words.filterMap Word.quoted = command.quotedTexts := by
  cases command with
  | addPatchPort _ _ _ ofport => cases ofport <;> rfl
  | deleteFlows _ table => cases table <;> rfl
  | _ => rfl

/-- What a command puts in quotes has no line feed if its texts have none. -/
theorem line_feed_not_mem_words {command : SwitchCommand}
    (h : ∀ s ∈ command.texts, '\n' ∉ s.toList) :
    ∀ w ∈ command.words, ∀ s ∈ w.quoted, '\n' ∉ s.toList := by
  intro w hw s hs
  have hquoted : s ∈ command.words.filterMap Word.quoted := List.mem_filterMap.2 ⟨w, hw, hs⟩
  rw [filterMap_quoted] at hquoted
  cases command with
  | addFlow bridge rule =>
      simp only [texts, List.forall_mem_cons] at h
      simp only [quotedTexts, List.mem_cons, List.not_mem_nil, or_false] at hquoted
      rcases hquoted with rfl | rfl
      · exact h.1
      · exact line_feed_not_mem_spec h.2.1 h.2.2.1
  | deleteFlows bridge table =>
      rcases List.mem_cons.1 hquoted with rfl | hnumber
      · exact h _ List.mem_cons_self
      · obtain ⟨n, -, rfl⟩ := Option.map_eq_some_iff.1 (Option.mem_toList.1 hnumber)
        rw [String.toList_append, List.mem_append, not_or]
        exact ⟨by decide, line_feed_not_mem_decimal _⟩
  | _ =>
      refine h s ?_
      simp only [texts, quotedTexts, List.mem_cons] at hquoted ⊢
      tauto

/-- **What the shell makes of a command whose texts have no line feed**: one simple command
that is nothing but its argument vector.  How many arguments there are does not depend on the
texts, and only commands that ask the same have one vector. -/
theorem commandLine_hears (command : SwitchCommand) (h : ∀ s ∈ command.texts, '\n' ∉ s.toList) :
    Shell.Hears command.commandLine command.vector ∧ command.vector.length = command.arity ∧
      ∀ other : SwitchCommand, command.vector = other.vector ↔ command.AsksSame other := by
  refine ⟨?_, command.length_vector, command.vector_eq_iff⟩
  have hheard : command.words.map Word.heard = command.vector := by
    rw [← arguments_eq_vector, arguments]
    exact List.map_congr_left fun w hw => Word.heard_eq_value (line_feed_not_mem_words h w hw)
  rw [← hheard]
  exact command.hears_commandLine

/-- An address that would end its option, and the command, stays in the option. -/
theorem commandLine_hears_hostile :
    let command := addVxlanPort "br-tun"
      { name := "vxlan-2", ofport := 2, remoteIp := "10.0.0.2; rm -rf / $(id) \"",
        localIp := "10.0.0.1", dstPort := 6789 }
    let vector := ["/usr/bin/ovs-vsctl", "--timeout=10", "--may-exist", "add-port", "br-tun",
      "vxlan-2", "--", "set", "Interface", "vxlan-2", "type=vxlan", "ofport_request=2",
      "options:remote_ip=10.0.0.2; rm -rf / $(id) \"", "options:local_ip=10.0.0.1",
      "options:in_key=flow", "options:out_key=flow", "options:csum=false",
      "options:df_default=false", "options:dst_port=6789"]
    (∀ s ∈ command.texts, '\n' ∉ s.toList) ∧ Shell.Hears command.commandLine vector := by
  intro command vector
  have htexts : ∀ s ∈ command.texts, '\n' ∉ s.toList := by decide
  have hvector : command.vector = vector := by decide +kernel
  exact ⟨htexts, hvector ▸ (commandLine_hears command htexts).1⟩

end SwitchCommand

end VxlanMesh
