/-
  VxlanMesh.Proofs.Switch.CommandLines
  ────────────────────────────────
  **EVERY COMMAND TO THE SWITCH ARRIVES AS ITS WORDS.**

  Whatever names and addresses a command holds, they stand in quoted parts,
  and the rest of its line means nothing to the shell.  So the shell runs
  the tool with one argument for each word, and the argument differs from
  the one that is meant at most by line feeds.

      words_spelled       the words of all commands
      hears_commandLine   the main result
-/
import VxlanMesh.Proofs.Numeral.ReadBack
import VxlanMesh.Proofs.Shell.Arguments
import VxlanMesh.Switch.Command

namespace VxlanMesh

open VxlanMesh.Numeral (decimal)
open VxlanMesh.Shell (Hears Word argumentsOf? isInert joined plainWords standsForFiles)

/-! ## §1. Texts outside quotes. -/

/-- A text that the shell reads as it stands. -/
def Inert (s : String) : Prop := s ≠ "" ∧ s.toList.all isInert = true

instance (s : String) : Decidable (Inert s) := inferInstanceAs (Decidable (_ ∧ _))

theorem isInert_of_isDigit {c : Char} (h : Numeral.isDigit c = true) : isInert c = true := by
  have hdigits : ∀ d < 10, isInert (Nat.digitChar d) = true := by decide
  obtain ⟨d, hd, rfl⟩ := Numeral.exists_digitChar_of_isDigit h
  exact hdigits d hd

theorem standsForFiles_of_isDigit {c : Char} (h : Numeral.isDigit c = true) :
    standsForFiles c = false := by
  have hdigits : ∀ d < 10, standsForFiles (Nat.digitChar d) = false := by decide
  obtain ⟨d, hd, rfl⟩ := Numeral.exists_digitChar_of_isDigit h
  exact hdigits d hd

/-- A number after a text that the shell reads as it stands. -/
theorem Inert.append_decimal {s : String} (h : Inert s) (n : Nat) : Inert (s ++ decimal n) := by
  refine ⟨fun hempty => h.1 (String.append_eq_empty_iff.1 hempty).1, ?_⟩
  rw [String.toList_append, Numeral.toList_decimal, List.all_append, h.2, Bool.true_and]
  exact List.all_eq_true.2 fun c hc => isInert_of_isDigit (Numeral.isDigit_of_mem_toDigits hc)

/-! ## §2. How words are spelled. -/

/-- The words that are the same in all commands of a kind. -/
def fixedTexts : List String :=
  ["/usr/bin/ovs-vsctl", "--timeout=10", "/usr/bin/ovs-ofctl", "--may-exist", "add-br", "add-port",
    "--", "set", "Interface", "type=patch", "type=vxlan", "options:in_key=flow",
    "options:out_key=flow", "options:csum=false", "options:df_default=false", "--if-exists",
    "del-port", "list-ports", "del-flows", "add-flow"]

/-- What stands before a number outside quotes. -/
def numberLabels : List String := ["ofport_request=", "options:dst_port="]

/-- What stands before a quoted part. -/
def quoteLabels : List String := ["", "options:peer=", "options:remote_ip=", "options:local_ip="]

/-- How a word of a command is spelled. -/
inductive Spelled : Word → Prop
  | fixed {s : String} (h : s ∈ fixedTexts) : Spelled (.plain s)
  | number {label : String} (h : label ∈ numberLabels) (n : Nat) :
      Spelled (.plain (label ++ decimal n))
  | quoted {label : String} (h : label ∈ quoteLabels) (s : String) : Spelled ⟨label, some s⟩

/-- Words that are the same in all commands stand as they are. -/
theorem spelled_plainWords {texts : List String} (h : ∀ s ∈ texts, s ∈ fixedTexts) :
    ∀ w ∈ plainWords texts, Spelled w :=
  List.forall_mem_map.2 fun s hs => .fixed (h s hs)

theorem spelled_inQuotes (s : String) : Spelled (Word.inQuotes s) := .quoted (by decide) s

/-! The texts outside quotes are checked one by one, once and for all. -/

/-- **Words that are spelled so are sound:** outside quotes nothing means anything to the
shell. -/
theorem Spelled.sound {w : Word} (h : Spelled w) : w.Sound := by
  have htexts : ∀ s ∈ fixedTexts ++ numberLabels, Inert s := by decide +kernel
  have hlabels : ∀ label ∈ quoteLabels, label.toList.all isInert = true := by decide +kernel
  have hplain : ∀ {s : String}, Inert s → (Word.plain s).Sound :=
    fun hs => ⟨List.all_eq_true.1 hs.2, .inl hs.1⟩
  cases h with
  | fixed h => exact hplain (htexts _ (List.mem_append_left _ h))
  | number h n => exact hplain ((htexts _ (List.mem_append_right _ h)).append_decimal n)
  | quoted h s => exact ⟨List.all_eq_true.1 (hlabels _ h), .inr nofun⟩

/-- Nor is anything outside quotes a pattern for the names of files. -/
theorem Spelled.namesNoFiles {w : Word} (h : Spelled w) :
    ∀ c ∈ w.fixed.toList, standsForFiles c = false := by
  have htexts : ∀ s ∈ fixedTexts ++ numberLabels ++ quoteLabels, ∀ c ∈ s.toList,
      standsForFiles c = false := by
    have hall : ∀ s ∈ fixedTexts ++ numberLabels ++ quoteLabels,
        s.toList.any standsForFiles = false := by decide +kernel
    exact fun s hs c hc => Bool.eq_false_iff.2 (List.any_eq_false.1 (hall s hs) c hc)
  cases h with
  | fixed h => exact htexts _ (List.mem_append_left _ (List.mem_append_left _ h))
  | quoted h s => exact htexts _ (List.mem_append_right _ h)
  | number h n =>
      intro c hc
      rw [Word.plain, String.toList_append, Numeral.toList_decimal] at hc
      rcases List.mem_append.1 hc with hlabel | hnumber
      · exact htexts _ (List.mem_append_left _ (List.mem_append_right _ h)) c hlabel
      · exact standsForFiles_of_isDigit (Numeral.isDigit_of_mem_toDigits hnumber)

namespace SwitchCommand

/-! ## §3. Commands. -/

/-- **Each word of a command is spelled in one of these ways.** -/
theorem words_spelled (command : SwitchCommand) : ∀ w ∈ command.words, Spelled w := by
  have hconfigure : ∀ w ∈ configure, Spelled w := spelled_plainWords (by decide)
  have hcontrol : ∀ w ∈ control, Spelled w := spelled_plainWords (by decide)
  cases command with
  | addBridge bridge =>
      simp only [words, List.forall_mem_append, List.forall_mem_singleton]
      exact ⟨⟨hconfigure, spelled_plainWords (by decide)⟩, spelled_inQuotes bridge⟩
  | addPatchPort bridge port peer ofport =>
      simp only [words, List.forall_mem_append, List.forall_mem_cons]
      refine ⟨⟨⟨⟨⟨hconfigure, spelled_plainWords (by decide)⟩, spelled_inQuotes bridge,
        spelled_inQuotes port, nofun⟩, spelled_plainWords (by decide)⟩, spelled_inQuotes port,
        .fixed (by decide), .quoted (by decide) peer, nofun⟩, ?_⟩
      cases ofport with
      | none => exact nofun
      | some n => exact List.forall_mem_singleton.2 (.number (by decide) n)
  | addVxlanPort bridge port =>
      simp only [words, List.forall_mem_append, List.forall_mem_cons]
      refine ⟨⟨⟨⟨⟨hconfigure, spelled_plainWords (by decide)⟩, spelled_inQuotes bridge,
        spelled_inQuotes port.name, nofun⟩, spelled_plainWords (by decide)⟩,
        spelled_inQuotes port.name, .fixed (by decide), .number (by decide) port.ofport,
        .quoted (by decide) port.remoteIp, .quoted (by decide) port.localIp, nofun⟩, ?_⟩
      simp only [plainWords, List.map_cons, List.map_nil, List.forall_mem_cons]
      exact ⟨.fixed (by decide), .fixed (by decide), .fixed (by decide), .fixed (by decide),
        .number (by decide) _, nofun⟩
  | deletePort bridge port =>
      simp only [words, List.forall_mem_append, List.forall_mem_cons]
      exact ⟨⟨hconfigure, spelled_plainWords (by decide)⟩, spelled_inQuotes bridge,
        spelled_inQuotes port, nofun⟩
  | listPorts bridge =>
      simp only [words, List.forall_mem_append, List.forall_mem_singleton]
      exact ⟨⟨hconfigure, spelled_plainWords (by decide)⟩, spelled_inQuotes bridge⟩
  | deleteFlows bridge table =>
      simp only [words, List.forall_mem_append, List.forall_mem_singleton]
      refine ⟨⟨⟨hcontrol, spelled_plainWords (by decide)⟩, spelled_inQuotes bridge⟩, ?_⟩
      cases table with
      | none => exact nofun
      | some n => exact List.forall_mem_singleton.2 (spelled_inQuotes _)
  | addFlow bridge rule =>
      simp only [words, List.forall_mem_append, List.forall_mem_cons]
      exact ⟨⟨hcontrol, spelled_plainWords (by decide)⟩, spelled_inQuotes bridge,
        spelled_inQuotes rule.spec, nofun⟩

/-- Each command begins with the path of a tool, and no command is long. -/
theorem words_cons (command : SwitchCommand) : ∃ tool rest, command.words = tool :: rest ∧
    tool.fixed.toList.head? = some '/' ∧ (tool :: rest).length ≤ 20 := by
  cases command with
  | addPatchPort bridge port peer ofport =>
      cases ofport <;> exact ⟨_, _, rfl, rfl, Nat.le_of_ble_eq_true rfl⟩
  | deleteFlows bridge table =>
      cases table <;> exact ⟨_, _, rfl, rfl, Nat.le_of_ble_eq_true rfl⟩
  | _ => exact ⟨_, _, rfl, rfl, Nat.le_of_ble_eq_true rfl⟩

/-- **What the shell hears of a command** is one argument for each word. -/
theorem hears_commandLine (command : SwitchCommand) :
    Hears command.commandLine (command.words.map Word.heard) := by
  have hspelled := command.words_spelled
  obtain ⟨tool, rest, hwords, hslash, hlength⟩ := command.words_cons
  rw [hwords] at hspelled
  have hpatience : 24 ≤ Shell.patience := by decide
  rw [commandLine, hwords]
  exact Shell.hears_words ⟨(hspelled tool List.mem_cons_self).sound, hslash⟩
    (fun w hw => (hspelled w hw).sound) (fun w hw => (hspelled w hw).namesNoFiles) (by omega)

/-- **The arguments of a command** are its words as the shell hears them. -/
theorem argumentsOf?_commandLine (command : SwitchCommand) :
    argumentsOf? command.commandLine = some (command.words.map Word.heard) :=
  Shell.argumentsOf?_of_hears command.hears_commandLine

end SwitchCommand

end VxlanMesh
