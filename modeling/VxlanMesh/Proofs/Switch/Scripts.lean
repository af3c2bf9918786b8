/-
  VxlanMesh.Proofs.Switch.Scripts
  ────────────────────────────────
  **WHAT IS ISSUED WHEN THE ANSWERS ARE GIVEN.**

  A `Script` is a switch whose answers are fixed in advance: the next
  command gets the next answer, whatever it asks.  What is issued depends
  on nothing but the answers to what was issued before, so what holds for
  every script holds for every switch.

      persist_recovers    a command that is tried until it succeeds
      issueInTurn_done    commands of which each waits for the one before
      runAll_eq           commands that are issued whatever they answer
      init_issues         the main result, where all three follow each other
-/
import Mathlib.Data.Stream.Init
import VxlanMesh.Proofs.Switch.Programming

namespace VxlanMesh

/-! ## §1. Scripts. -/

/-- A switch that answers as it is told, and remembers what it was asked and what it answered,
oldest command first. -/
structure Script where
  /-- The answers to come, the next one first. -/
  ahead : Stream' (Except OverlayError String)
  answered : List (SwitchCommand × Except OverlayError String) := []

namespace Script

instance : CommandRunner Script where
  run command script := (script.ahead.head, {
    ahead := script.ahead.tail
    answered := script.answered ++ [(command, script.ahead.head)] })

/-- The commands that were issued. -/
def issued (script : Script) : List SwitchCommand := script.answered.map Prod.fst

/-- The script when some commands have got its next answers. -/
def after (script : Script) (commands : List SwitchCommand) : Script where
  ahead := script.ahead.drop commands.length
  answered := script.answered ++ commands.zip (script.ahead.take commands.length)

@[simp] theorem ahead_after (script : Script) (commands : List SwitchCommand) :
    (script.after commands).ahead = script.ahead.drop commands.length := rfl

@[simp] theorem after_nil (script : Script) : script.after [] = script := by
  rw [after, List.zip_nil_left, List.append_nil]
  rfl

/-- The commands that got answers are the last ones that were issued. -/
theorem issued_after (script : Script) (commands : List SwitchCommand) :
    (script.after commands).issued = script.issued ++ commands := by
  have hlength : commands.length = (script.ahead.take commands.length).length :=
    (Stream'.length_take _ _).symm
  rw [issued, after, List.map_append, List.map_fst_zip (Nat.le_of_eq hlength)]
  rfl

/-- Commands after others get the answers after theirs. -/
theorem after_after (script : Script) (commands more : List SwitchCommand) :
    (script.after commands).after more = script.after (commands ++ more) := by
  have hlength : commands.length = (script.ahead.take commands.length).length :=
    (Stream'.length_take _ _).symm
  simp only [after, Stream'.drop_drop, List.length_append, Stream'.take_add,
    List.zip_append hlength, List.append_assoc]

theorem run_eq (command : SwitchCommand) (script : Script) :
    CommandRunner.run command script = (script.ahead.head, script.after [command]) := rfl

/-- **Commands that are issued whatever they answer** get the next answers, one each. -/
theorem runAll_eq (commands : List SwitchCommand) : ∀ script : Script,
    CommandRunner.runAll commands script
      = ((script.ahead.take commands.length).map Except.isOk, script.after commands) := by
  induction commands with
  | nil => intro script; rw [after_nil]; rfl
  | cons command rest ih =>
      intro script
      have hrest := ih (script.after [command])
      rw [after_after] at hrest
      simp only [CommandRunner.runAll, run_eq, hrest]
      rfl

end Script

/-! ## §2. Commands that have to succeed. -/

namespace Host

/-- A command whose answer is good is done. -/
theorem issue_done {script : Script} {text : String} (h : script.ahead.head = .ok text)
    (command : SwitchCommand) (clock : Clock) : issue command { switch := script, clock }
      = (.done text, { switch := script.after [command], clock }) := by
  rw [issue_eq, Script.run_eq, h]
  rfl

/-- A command whose answer is a failure fails with it, and has taken it. -/
theorem issue_failed {script : Script} {cause : OverlayError}
    (h : script.ahead.head = .error cause) (command : SwitchCommand) (clock : Clock) :
    issue command { switch := script, clock }
      = (.failed cause, { switch := script.after [command], clock }) := by
  rw [issue_eq, Script.run_eq, h]
  rfl

/-- Issue commands one after the other, as long as they succeed. -/
def issueInTurn {σ : Type} [CommandRunner σ] : List SwitchCommand → Operation (Host σ) Unit
  | [] => pure ()
  | command :: rest => do
      let _ ← issue command
      issueInTurn rest

/-- **A command that is tried until it succeeds** is issued once more than it fails, with a
pause after each failure. -/
theorem persist_recovers (delay : Nat) (command : SwitchCommand) {text : String}
    {rest : Stream' (Except OverlayError String)} {causes : List OverlayError} :
    ∀ {patience : Nat} {script : Script} (now : Nat), causes.length < patience →
      script.ahead = causes.map .error ++ₛ Stream'.cons (.ok text) rest →
      Operation.persist delay (issue command) patience { switch := script, clock := { now } }
        = (.done text, {
            switch := script.after (List.replicate (causes.length + 1) command)
            clock := { now := now + causes.length * delay } }) := by
  induction causes with
  | nil =>
      intro patience script now hpatience hahead
      obtain ⟨patience, rfl⟩ : ∃ n, patience = n + 1 := ⟨patience - 1, by omega⟩
      have hhead : script.ahead.head = .ok text := by rw [hahead]; rfl
      rw [Operation.persist, issue_done hhead, List.length_nil, Nat.zero_mul]
      rfl
  | cons cause causes ih =>
      intro patience script now hpatience hahead
      obtain ⟨patience, rfl⟩ : ∃ n, patience = n + 1 := ⟨patience - 1, by omega⟩
      have hhead : script.ahead.head = .error cause := by rw [hahead]; rfl
      have htail : (script.after [command]).ahead
          = causes.map .error ++ₛ Stream'.cons (.ok text) rest := by
        rw [Script.ahead_after, hahead]
        rfl
      have hsleep : Operation.sleep delay
          ({ switch := script.after [command], clock := { now } } : Host Script)
            = (.done (), { switch := script.after [command], clock := { now := now + delay } }) :=
        Operation.sleep_unhurried rfl delay
      rw [List.length_cons] at hpatience ⊢
      have htime : now + delay + causes.length * delay = now + (causes.length + 1) * delay := by
        rw [Nat.add_mul]
        omega
      rw [Operation.persist, issue_failed hhead]
      simp only [hsleep]
      rw [ih (now + delay) (by omega) htail, Script.after_after, htime]
      rfl

theorem exists_of_isOk {answer : Except OverlayError String} (h : answer.isOk = true) :
    ∃ text, answer = .ok text := by
  cases answer with
  | ok text => exact ⟨text, rfl⟩
  | error cause => exact nomatch h

/-- Either some answers are all good, or one of them is the first that is not. -/
theorem all_isOk_or_first_error (answers : Stream' (Except OverlayError String)) (n : Nat) :
    (∀ i < n, (answers.get i).isOk = true) ∨
      ∃ i < n, ∃ cause, (∀ j < i, (answers.get j).isOk = true) ∧ answers.get i = .error cause := by
  induction n with
  | zero => exact .inl fun i hi => absurd hi (Nat.not_lt_zero i)
  | succ n ih =>
      rcases ih with hall | ⟨i, hi, cause, hbefore, hcause⟩
      · cases hlast : answers.get n with
        | error cause => exact .inr ⟨n, Nat.lt_succ_self n, cause, hall, hlast⟩
        | ok text =>
            refine .inl fun i hi => ?_
            rcases Nat.lt_succ_iff_lt_or_eq.1 hi with hless | rfl
            · exact hall i hless
            · rw [hlast]
              rfl
      · exact .inr ⟨i, Nat.lt_succ_of_lt hi, cause, hbefore, hcause⟩

/-- **Commands of which each waits for the one before**: if all succeed, all are issued. -/
theorem issueInTurn_done (clock : Clock) (commands : List SwitchCommand) : ∀ script : Script,
    (∀ i < commands.length, (script.ahead.get i).isOk = true) →
      issueInTurn commands { switch := script, clock }
        = (.done (), { switch := script.after commands, clock }) := by
  induction commands with
  | nil => intro script _; rw [Script.after_nil]; rfl
  | cons command rest ih =>
      intro script hall
      obtain ⟨text, hhead⟩ := exists_of_isOk (hall 0 (Nat.succ_pos _))
      have hrest := ih (script.after [command])
        fun i hi => hall (i + 1) (Nat.succ_lt_succ hi)
      rw [Script.after_after] at hrest
      rw [issueInTurn, Operation.bind_done (issue_done hhead command clock), hrest]
      rfl

/-- If one fails, that is reported and nothing is issued after it. -/
theorem issueInTurn_failed (clock : Clock) {cause : OverlayError} (commands : List SwitchCommand) :
    ∀ (script : Script) {i : Nat}, i < commands.length →
      (∀ j < i, (script.ahead.get j).isOk = true) → script.ahead.get i = .error cause →
      issueInTurn commands { switch := script, clock }
        = (.failed cause, { switch := script.after (commands.take (i + 1)), clock }) := by
  induction commands with
  | nil => intro script i hi; exact absurd hi (Nat.not_lt_zero i)
  | cons command rest ih =>
      intro script i hi hbefore hcause
      cases i with
      | zero =>
          rw [issueInTurn, Operation.bind_failed (issue_failed hcause command clock)]
          rfl
      | succ i =>
          obtain ⟨text, hhead⟩ := exists_of_isOk (hbefore 0 (Nat.succ_pos i))
          have hrest := ih (script.after [command]) (Nat.lt_of_succ_lt_succ hi)
            (fun j hj => hbefore (j + 1) (Nat.succ_lt_succ hj)) hcause
          rw [Script.after_after] at hrest
          rw [issueInTurn, Operation.bind_done (issue_done hhead command clock), hrest]
          rfl

end Host

/-! ## §3. Bridges, the patch pair and the fixed rules. -/

/-- A summary counts the answers of both kinds. -/
theorem RebuildSummary.foldl_count (answers : List Bool) : ∀ summary : RebuildSummary,
    answers.foldl RebuildSummary.count summary = {
      installed := summary.installed + answers.count true
      failed := summary.failed + answers.count false } := by
  induction answers with
  | nil => intro summary; rfl
  | cons answer rest ih =>
      intro summary
      rw [List.foldl_cons, ih]
      cases answer <;> simp [RebuildSummary.count] <;> omega

namespace SwitchSettings

/-- The commands between the creation of the bridges and the fixed rules. -/
def wiring (settings : SwitchSettings) : List SwitchCommand :=
  [.addPatchPort settings.tunnelBridge patchToIntegration patchToTunnel (some patchOfport),
    .addPatchPort settings.integrationBridge patchToTunnel patchToIntegration none,
    .deleteFlows settings.tunnelBridge none]

/-- The commands that install rules. -/
def installations (settings : SwitchSettings) (rules : List PipelineRule) : List SwitchCommand :=
  rules.map fun rule => .addFlow settings.tunnelBridge rule.toFlow

/-- What is issued until both bridges are there, if their creation is refused so many times. -/
def creations (settings : SwitchSettings) (tunnel integration : Nat) : List SwitchCommand :=
  List.replicate (tunnel + 1) (.addBridge settings.tunnelBridge)
    ++ List.replicate (integration + 1) (.addBridge settings.integrationBridge)

theorem init_eq {σ : Type} [CommandRunner σ] (settings : SwitchSettings) (patience : Nat) :
    settings.init (σ := σ) patience = (do
      settings.ensureBridge patience settings.tunnelBridge
      settings.ensureBridge patience settings.integrationBridge
      Host.issueInTurn settings.wiring
      settings.installAll baseRules {}) := by
  simp only [init, wiring, Host.issueInTurn, Operation.bind_assoc]
  rfl

/-- **Rules are all tried**; which of them are refused is only counted. -/
theorem installAll_answered (settings : SwitchSettings) (rules : List PipelineRule)
    (script : Script) (clock : Clock) :
    let answers := (script.ahead.take rules.length).map Except.isOk
    settings.installAll rules {} { switch := script, clock }
      = (.done { installed := answers.count true, failed := answers.count false }, {
          switch := script.after (settings.installations rules)
          clock }) := by
  intro answers
  have hanswers : (script.ahead.take (settings.installations rules).length).map Except.isOk
      = answers := by rw [installations, List.length_map]
  have hcommands : (rules.map PipelineRule.toFlow).map (.addFlow settings.tunnelBridge)
      = settings.installations rules := List.map_map
  have hinstall := installAll_eq settings rules {} ({ switch := script, clock } : Host Script)
  simp only [hcommands, Script.runAll_eq, hanswers, RebuildSummary.foldl_count,
    Nat.zero_add] at hinstall
  exact hinstall

/-- A bridge whose creation is refused so many times. -/
theorem ensureBridge_recovers (settings : SwitchSettings) (bridge : String) {text : String}
    {rest : Stream' (Except OverlayError String)} {causes : List OverlayError} {patience : Nat}
    {script : Script} (now : Nat) (hpatience : causes.length < patience)
    (hahead : script.ahead = causes.map .error ++ₛ Stream'.cons (.ok text) rest) :
    settings.ensureBridge patience bridge { switch := script, clock := { now } }
      = (.done (), {
          switch := script.after (List.replicate (causes.length + 1) (.addBridge bridge))
          clock := { now := now + causes.length * settings.bridgeRetryMs } }) := by
  rw [ensureBridge, Operation.bind_done (Host.persist_recovers settings.bridgeRetryMs
    (.addBridge bridge) now hpatience hahead)]
  rfl

/-- What is ahead when a creation has been refused so many times and then has succeeded. -/
theorem drop_refusals (causes : List OverlayError) (text : String)
    (rest : Stream' (Except OverlayError String)) :
    (causes.map .error ++ₛ Stream'.cons (.ok text) rest).drop (causes.length + 1) = rest := by
  induction causes with
  | nil => rfl
  | cons cause causes ih => exact ih

/-- **The bridges come first**, and nothing else is tried before both are there: what is ahead
then is what was to follow their creation. -/
theorem init_bridged (settings : SwitchSettings) (refusals refusals' : List OverlayError)
    (text text' : String) (rest : Stream' (Except OverlayError String)) {patience : Nat} (now : Nat)
    (htunnel : refusals.length < patience) (hintegration : refusals'.length < patience) :
    let ahead := refusals.map .error ++ₛ Stream'.cons (.ok text)
      (refusals'.map .error ++ₛ Stream'.cons (.ok text') rest)
    let bridged := ({ ahead } : Script).after
      (settings.creations refusals.length refusals'.length)
    bridged.ahead = rest ∧
      settings.init patience ({ switch := { ahead }, clock := { now } } : Host Script)
        = (Host.issueInTurn settings.wiring >>= fun _ => settings.installAll baseRules {}) {
            switch := bridged
            clock := {
              now := now + (refusals.length + refusals'.length) * settings.bridgeRetryMs } } := by
  intro ahead bridged
  have hfirst : (({ ahead } : Script).after
      (List.replicate (refusals.length + 1) (.addBridge settings.tunnelBridge))).ahead
        = refusals'.map .error ++ₛ Stream'.cons (.ok text') rest := by
    rw [Script.ahead_after, List.length_replicate]
    exact drop_refusals refusals text _
  constructor
  · rw [Script.ahead_after, ← drop_refusals refusals' text' rest, ← hfirst, Script.ahead_after,
      Stream'.drop_drop]
    simp [creations]
  · rw [init_eq, Operation.bind_done (settings.ensureBridge_recovers settings.tunnelBridge now
      htunnel rfl), Operation.bind_done (settings.ensureBridge_recovers settings.integrationBridge _
        hintegration hfirst), Script.after_after, Nat.add_assoc, ← Nat.add_mul]
    rfl

/-- **What is issued for the tunnel bridge from the start.**  The creation of each bridge is
issued once more than it fails, and only these failures cost time.  Of the three commands after
it each is issued if the one before succeeded; the first that fails ends it, with its cause.
After the third all fixed rules are tried, each once and in order, and which of them are refused
is only counted. -/
theorem init_issues (settings : SwitchSettings) (refusals refusals' : List OverlayError)
    (text text' : String) (rest : Stream' (Except OverlayError String)) (patience now : Nat)
    (htunnel : refusals.length < patience) (hintegration : refusals'.length < patience) :
    let ahead := refusals.map .error ++ₛ Stream'.cons (.ok text)
      (refusals'.map .error ++ₛ Stream'.cons (.ok text') rest)
    let result := settings.init patience ({ switch := { ahead }, clock := { now } } : Host Script)
    let creations := settings.creations refusals.length refusals'.length
    let rules := ((rest.drop 3).take 9).map Except.isOk
    result.2.clock
      = { now := now + (refusals.length + refusals'.length) * settings.bridgeRetryMs } ∧
    (∀ i < 3, ∀ cause, (∀ j < i, (rest.get j).isOk = true) → rest.get i = .error cause →
      result.1 = .failed cause ∧
        result.2.switch.issued = creations ++ settings.wiring.take (i + 1)) ∧
    ((∀ i < 3, (rest.get i).isOk = true) →
      result.1 = .done { installed := rules.count true, failed := rules.count false } ∧
        result.2.switch.issued
          = creations ++ settings.wiring ++ settings.installations baseRules) := by
  intro ahead result creations rules
  -- Both bridges are there: what is ahead now is the rest.
  let bridged := ({ ahead } : Script).after creations
  let spent : Clock :=
    { now := now + (refusals.length + refusals'.length) * settings.bridgeRetryMs }
  obtain ⟨hbridged, hresult⟩ : bridged.ahead = rest ∧ result = (Host.issueInTurn settings.wiring
      >>= fun _ => settings.installAll baseRules {}) { switch := bridged, clock := spent } :=
    settings.init_bridged refusals refusals' text text' rest now htunnel hintegration
  have hissued : ∀ commands, (bridged.after commands).issued = creations ++ commands := by
    intro commands
    rw [Script.issued_after, Script.issued_after]
    rfl
  have hfailed : ∀ i < 3, ∀ cause, (∀ j < i, (rest.get j).isOk = true) →
      rest.get i = .error cause → result = (.failed cause,
        { switch := bridged.after (settings.wiring.take (i + 1)), clock := spent }) := by
    intro i hi cause hbefore hcause
    rw [← hbridged] at hbefore hcause
    rw [hresult, Operation.bind_failed (Host.issueInTurn_failed spent settings.wiring bridged hi
      hbefore hcause)]
  have hdone : (∀ i < 3, (rest.get i).isOk = true) → result
      = (.done { installed := rules.count true, failed := rules.count false }, {
          switch := bridged.after (settings.wiring ++ settings.installations baseRules)
          clock := spent }) := by
    intro hall
    rw [← hbridged] at hall
    have hwired := Host.issueInTurn_done spent settings.wiring bridged hall
    rw [hresult, Operation.bind_done hwired, installAll_answered, Script.ahead_after, hbridged,
      Script.after_after]
    rfl
  refine ⟨?_, fun i hi cause hbefore hcause => ?_, fun hall => ?_⟩
  -- Only the failures before the bridges are there cost time, whatever comes after them.
  · rcases Host.all_isOk_or_first_error rest 3 with hall | ⟨i, hi, cause, hbefore, hcause⟩
    · rw [hdone hall]
    · rw [hfailed i hi cause hbefore hcause]
  · rw [hfailed i hi cause hbefore hcause]
    exact ⟨rfl, hissued _⟩
  · rw [hdone hall, List.append_assoc]
    exact ⟨rfl, hissued _⟩

/-- Both bridges are refused for a while, and then the end of the patch pair on the integration
bridge, where it stops. -/
theorem init_issues_unpaired :
    let cause : OverlayError := .commandFailed "ovs-vsctl" 1 "database connection failed"
    let rest := Stream'.cons (.ok "") (Stream'.const (.error cause))
    let ahead := [.error cause, .error cause] ++ₛ Stream'.cons (.ok "")
      ([.error cause] ++ₛ Stream'.cons (.ok "") rest)
    let result := ({} : SwitchSettings).init 3 ({ switch := { ahead } } : Host Script)
    result.1 = .failed cause ∧ result.2.clock = { now := 9000 } ∧
      result.2.switch.issued = [.addBridge "br-tun", .addBridge "br-tun", .addBridge "br-tun",
        .addBridge "br-int", .addBridge "br-int",
        .addPatchPort "br-tun" "patch-int" "patch-tun" (some 1),
        .addPatchPort "br-int" "patch-tun" "patch-int" none] := by
  intro cause rest ahead result
  obtain ⟨hclock, hfailed, -⟩ := init_issues {} [cause, cause] [cause] "" "" rest 3 0
    (by decide) (by decide)
  have hpaired : ∀ j < 1, (rest.get j).isOk = true := by
    intro j hj
    rw [Nat.lt_one_iff.1 hj]
    rfl
  obtain ⟨houtcome, hissued⟩ := hfailed 1 (by decide) cause hpaired rfl
  exact ⟨houtcome, hclock.trans (by decide), hissued⟩

end SwitchSettings

end VxlanMesh
