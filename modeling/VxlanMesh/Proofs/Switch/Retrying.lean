/-
  VxlanMesh.Proofs.Switch.Retrying
  ────────────────────────────────
  **TRYING A LINE AGAIN UNTIL A RECORDER IS THROUGH WITH ITS FAILURES.**

  A line fails as often as the rules that speak of it say together, and
  for ever if one of them has no end.  Each failed run takes one failure
  from the first of these rules that has one left (`useUp`).  So a line
  that is tried again is run once more than it fails, or as often as it
  may be tried.

      useFailure_eq    one run
      failuresLeft_useUp, useUp_useUp    many runs
      prints_response    what a run that does not fail prints
      retryMore_recovers, retryMore_givesUp    the two ways to end
      retry_executeLine    the main result
-/
import Mathlib.Data.ENat.Lattice
import Mathlib.Data.List.Forall2
import VxlanMesh.Proofs.Operation
import VxlanMesh.Switch.Recorder

namespace VxlanMesh

/-! ## §1. What rules have left. -/

/-- The rule speaks of the line: its pattern occurs in it. -/
def FailureRule.concerns (rule : FailureRule) (line : String) : Bool :=
  decide (Text.Occurs rule.pattern line)

/-- A recorder looks for the pattern. -/
theorem FailureRule.concerns_eq (rule : FailureRule) (line : String) :
    rule.concerns line = Text.contains line rule.pattern := by
  rw [concerns, Bool.eq_iff_iff, decide_eq_true_eq, Text.contains_iff]

namespace Recorder

variable {line : String} {rule : FailureRule} {rules rest : List FailureRule}

/-- **How often a line will still fail**: without end if a rule that speaks of it has none, and
otherwise as often as these rules say together. -/
def failuresLeft (line : String) (rules : List FailureRule) : ℕ∞ :=
  let concerned := rules.filter (·.concerns line)
  if concerned.any (·.remaining.isNone) then ⊤
  else ((concerned.filterMap FailureRule.remaining).sum : ℕ)

/-- **The rules after some failures of a line**: those that speak of it are used up one after
the other, and a rule without end shadows the rules after it. -/
def useUp (line : String) : Nat → List FailureRule → List FailureRule
  | _, [] => []
  | failures, rule :: rest =>
      if rule.concerns line then
        match rule.remaining with
        | none => rule :: rest
        | some n => { rule with remaining := some (n - failures) } :: useUp line (failures - n) rest
      else rule :: useUp line failures rest

/-- A rule for other lines leaves this one its failures. -/
theorem failuresLeft_other (h : rule.concerns line = false) :
    failuresLeft line (rule :: rest) = failuresLeft line rest := by
  simp [failuresLeft, h]

/-- A rule without end leaves no end of failures. -/
theorem failuresLeft_endless (h : rule.concerns line = true) (hnone : rule.remaining = none) :
    failuresLeft line (rule :: rest) = ⊤ := by
  simp [failuresLeft, h, hnone]

/-- The numbers of the rules that speak of a line add up. -/
theorem failuresLeft_some {n : Nat} (h : rule.concerns line = true)
    (hsome : rule.remaining = some n) :
    failuresLeft line (rule :: rest) = n + failuresLeft line rest := by
  have hconcerned : (rule :: rest).filter (·.concerns line)
      = rule :: rest.filter (·.concerns line) := List.filter_cons_of_pos h
  rw [failuresLeft, failuresLeft, hconcerned, List.any_cons, hsome,
    List.filterMap_cons_some hsome, List.sum_cons]
  show (if (rest.filter (·.concerns line)).any (·.remaining.isNone) then ⊤ else _) = _
  split
  · exact (add_top _).symm
  · exact Nat.cast_add _ _

theorem useUp_other (h : rule.concerns line = false) (failures : Nat) :
    useUp line failures (rule :: rest) = rule :: useUp line failures rest := by
  simp [useUp, h]

theorem useUp_endless (h : rule.concerns line = true) (hnone : rule.remaining = none)
    (failures : Nat) : useUp line failures (rule :: rest) = rule :: rest := by
  simp [useUp, h, hnone]

theorem useUp_some {n : Nat} (h : rule.concerns line = true) (hsome : rule.remaining = some n)
    (failures : Nat) : useUp line failures (rule :: rest)
      = { rule with remaining := some (n - failures) } :: useUp line (failures - n) rest := by
  simp [useUp, h, hsome]

/-- A property of the rules for a line is proved rule by rule: a rule speaks of other lines, or
has no end, or says a number. -/
theorem rules_induction (line : String) {motive : List FailureRule → Prop} (nil : motive [])
    (other : ∀ rule rest, rule.concerns line = false → motive rest → motive (rule :: rest))
    (endless : ∀ rule rest, rule.concerns line = true → rule.remaining = none →
      motive (rule :: rest))
    (some : ∀ rule rest n, rule.concerns line = true → rule.remaining = .some n →
      motive rest → motive (rule :: rest)) (rules : List FailureRule) : motive rules := by
  induction rules with
  | nil => exact nil
  | cons rule rest ih =>
      cases hconcerns : rule.concerns line with
      | false => exact other rule rest hconcerns ih
      | true =>
          cases hremaining : rule.remaining with
          | none => exact endless rule rest hconcerns hremaining
          | some n => exact some rule rest n hconcerns hremaining ih

theorem useUp_zero (rules : List FailureRule) : useUp line 0 rules = rules := by
  induction rules using rules_induction line with
  | nil => rfl
  | other rule rest h ih => rw [useUp_other h, ih]
  | endless rule rest h hnone => exact useUp_endless h hnone 0
  | some rule rest n h hsome ih =>
      rw [useUp_some h hsome, Nat.zero_sub, ih, Nat.sub_zero, ← hsome]

/-- Failures that come one after the other are taken from the same rules as all at once. -/
theorem useUp_useUp (first second : Nat) (rules : List FailureRule) :
    useUp line second (useUp line first rules) = useUp line (first + second) rules := by
  induction rules using rules_induction line generalizing first second with
  | nil => rfl
  | other rule rest h ih => rw [useUp_other h, useUp_other h, useUp_other h, ih]
  | endless rule rest h hnone =>
      rw [useUp_endless h hnone, useUp_endless h hnone, useUp_endless h hnone]
  | some rule rest n h hsome ih =>
      have hleft : n - first - second = n - (first + second) := Nat.sub_sub n first second
      have hpassed : first - n + (second - (n - first)) = first + second - n := by omega
      have hstill : FailureRule.concerns { rule with remaining := .some (n - first) } line = true :=
        h
      have hsecond : useUp line second
          ({ rule with remaining := .some (n - first) } :: useUp line (first - n) rest)
            = { rule with remaining := .some (n - first - second) }
              :: useUp line (second - (n - first)) (useUp line (first - n) rest) :=
        useUp_some hstill rfl second
      rw [useUp_some h hsome, hsecond, useUp_some h hsome, ih, hleft, hpassed]

/-- **What failures leave**: so many fewer. -/
theorem failuresLeft_useUp (failures : Nat) (rules : List FailureRule) :
    failuresLeft line (useUp line failures rules) = failuresLeft line rules - failures := by
  induction rules using rules_induction line generalizing failures with
  | nil => exact (zero_tsub _).symm
  | other rule rest h ih => rw [useUp_other h, failuresLeft_other h, failuresLeft_other h, ih]
  | endless rule rest h hnone =>
      rw [useUp_endless h hnone, failuresLeft_endless h hnone, ENat.top_sub_natCast]
  | some rule rest n h hsome ih =>
      have hleft : failuresLeft line
          ({ rule with remaining := .some (n - failures) } :: useUp line (failures - n) rest)
            = (n - failures : ℕ) + failuresLeft line (useUp line (failures - n) rest) :=
        failuresLeft_some h rfl
      rw [useUp_some h hsome, hleft, failuresLeft_some h hsome, ih]
      cases failuresLeft line rest with
      | top => simp
      | coe m =>
          norm_cast
          omega

/-- Where no failure is left there is nothing to use up. -/
theorem useUp_of_none_left (hnone : failuresLeft line rules = 0) (failures : Nat) :
    useUp line failures rules = rules := by
  induction rules using rules_induction line generalizing failures with
  | nil => rfl
  | other rule rest h ih =>
      rw [failuresLeft_other h] at hnone
      rw [useUp_other h, ih hnone]
  | endless rule rest h hendless =>
      rw [failuresLeft_endless h hendless] at hnone
      cases hnone
  | some rule rest n h hsome ih =>
      rw [failuresLeft_some h hsome, add_eq_zero] at hnone
      obtain rfl : n = 0 := by exact_mod_cast hnone.1
      rw [useUp_some h hsome, ih hnone.2, Nat.zero_sub, ← hsome]

/-! ## §2. One run. -/

/-- **One run uses up one failure**, and fails exactly if one was left. -/
theorem useFailure_eq (line : String) (rules : List FailureRule) :
    useFailure line rules = (failuresLeft line rules != 0, useUp line 1 rules) := by
  induction rules using rules_induction line with
  | nil => rfl
  | other rule rest h ih =>
      rw [useFailure, ih, failuresLeft_other h, useUp_other h, ← rule.concerns_eq, h]
      rfl
  | endless rule rest h hnone =>
      rw [useFailure, failuresLeft_endless h hnone, useUp_endless h hnone, ← rule.concerns_eq, h,
        hnone]
      rfl
  | some rule rest n h hsome ih =>
      rw [useFailure, failuresLeft_some h hsome, useUp_some h hsome, ih, ← rule.concerns_eq, h]
      refine (if_pos rfl).trans ?_
      rw [hsome]
      -- A rule that is used up leaves the decision to those after it.
      cases n with
      | zero => simp [← hsome]
      | succ n => simp [useUp_zero]

/-- **What a line prints**: the text of the first rule that speaks of it, or nothing if there is
none. -/
inductive Prints (line : String) : List ResponseRule → String → Prop
  | first {before after : List ResponseRule} {rule : ResponseRule}
      (hbefore : ∀ other ∈ before, ¬ Text.Occurs other.pattern line)
      (hrule : Text.Occurs rule.pattern line) :
      Prints line (before ++ rule :: after) rule.output
  | nothing {responses : List ResponseRule}
      (hnone : ∀ rule ∈ responses, ¬ Text.Occurs rule.pattern line) :
      Prints line responses ""

/-- A recorder prints what its rules for answers say. -/
theorem prints_response (line : String) (responses : List ResponseRule) :
    Prints line responses (response responses line) := by
  rw [response]
  cases hfound : responses.find? fun rule => Text.contains line rule.pattern with
  | none =>
      exact .nothing fun rule hrule hoccurs =>
        List.find?_eq_none.1 hfound rule hrule (Text.contains_iff.2 hoccurs)
  | some rule =>
      obtain ⟨hrule, before, after, rfl, hbefore⟩ := List.find?_eq_some_iff_append.1 hfound
      refine .first (fun other hother hoccurs => ?_) (Text.contains_iff.1 hrule)
      have hmissing := hbefore other hother
      rw [Text.contains_iff.2 hoccurs] at hmissing
      cases hmissing

/-- What runs of a line leave behind of which some failed. -/
def afterRuns (r : Recorder) (line : String) (runs failures : Nat) : Recorder :=
  { r with
    recorded := r.recorded ++ Array.replicate runs line
    failures := useUp line failures r.failures }

/-- Runs after runs add up. -/
theorem afterRuns_afterRuns (r : Recorder) (runs failures more further : Nat) :
    (r.afterRuns line runs failures).afterRuns line more further
      = r.afterRuns line (runs + more) (failures + further) := by
  rw [afterRuns, afterRuns, afterRuns, useUp_useUp, Array.append_assoc,
    Array.replicate_append_replicate]

theorem failuresLeft_afterRuns (r : Recorder) (runs failures : Nat) :
    failuresLeft line (r.afterRuns line runs failures).failures
      = failuresLeft line r.failures - failures := failuresLeft_useUp failures r.failures

/-- **A run for which no failure is left** answers, and uses up nothing. -/
theorem executeLine_done {r : Recorder} (hnone : failuresLeft line r.failures = 0) (clock : Clock) :
    executeLine line { switch := r, clock }
      = (.done (response r.responses line), { switch := r.afterRuns line 1 0, clock }) := by
  rw [executeLine, Operation.tryStep_eq, execute, useFailure_eq, hnone, useUp_of_none_left hnone,
    afterRuns, useUp_zero]
  rfl

/-- **A run for which a failure is left** fails, and uses up one. -/
theorem executeLine_failed {r : Recorder} (hleft : failuresLeft line r.failures ≠ 0)
    (clock : Clock) : executeLine line { switch := r, clock }
      = (.failed (injected line), { switch := r.afterRuns line 1 1, clock }) := by
  rw [executeLine, Operation.tryStep_eq, execute, useFailure_eq, bne_iff_ne.2 hleft]
  rfl

/-! ## §3. Many runs. -/

/-- A run that fails is followed by a pause and the runs that are left. -/
theorem retryMore_again {r : Recorder} (hleft : failuresLeft line r.failures ≠ 0)
    (delay more now : Nat) :
    Operation.retryMore delay (executeLine line) (more + 1) { switch := r, clock := { now } }
      = Operation.retryMore delay (executeLine line) more
          { switch := r.afterRuns line 1 1, clock := { now := now + delay } } := by
  have hsleep : Operation.sleep delay
      ({ switch := r.afterRuns line 1 1, clock := { now } } : Host Recorder)
        = (.done (), { switch := r.afterRuns line 1 1, clock := { now := now + delay } }) :=
    Operation.sleep_unhurried rfl delay
  rw [Operation.retryMore_failed (executeLine_failed hleft { now }), Operation.bind_done hsleep]

/-- **Fewer failures than attempts**: the run after the last failure answers. -/
theorem retryMore_recovers (delay : Nat) {failures more : Nat} (hfew : failures ≤ more) :
    ∀ {r : Recorder} (now : Nat), failuresLeft line r.failures = failures →
      Operation.retryMore delay (executeLine line) more { switch := r, clock := { now } }
        = (.done (response r.responses line), {
            switch := r.afterRuns line (failures + 1) failures
            clock := { now := now + failures * delay } }) := by
  induction failures generalizing more with
  | zero =>
      intro r now hnone
      rw [Operation.retryMore_done (executeLine_done hnone { now })]
      simp
  | succ failures ih =>
      intro r now hleft
      obtain ⟨more, rfl⟩ : ∃ n, more = n + 1 := ⟨more - 1, by omega⟩
      have hnext : failuresLeft line (r.afterRuns line 1 1).failures = failures := by
        rw [failuresLeft_afterRuns, hleft]
        norm_cast
      have hsome : failuresLeft line r.failures ≠ 0 := by
        rw [hleft]
        exact_mod_cast failures.succ_ne_zero
      have htime : now + delay + failures * delay = now + (failures + 1) * delay := by
        rw [Nat.add_mul]
        omega
      rw [retryMore_again hsome, ih (by omega) (now + delay) hnext, afterRuns_afterRuns, htime,
        Nat.add_comm 1 (failures + 1), Nat.add_comm 1 failures]
      rfl

/-- **As many failures as attempts, or more**: the failure of the last run is reported. -/
theorem retryMore_givesUp (delay more : Nat) :
    ∀ {r : Recorder} (now : Nat), more < failuresLeft line r.failures →
      Operation.retryMore delay (executeLine line) more { switch := r, clock := { now } }
        = (.failed (injected line), {
            switch := r.afterRuns line (more + 1) (more + 1)
            clock := { now := now + more * delay } }) := by
  induction more with
  | zero =>
      intro r now hleft
      rw [Operation.retryMore, executeLine_failed (ne_of_gt hleft)]
      simp
  | succ more ih =>
      intro r now hleft
      have hnext : more < failuresLeft line (r.afterRuns line 1 1).failures := by
        rw [failuresLeft_afterRuns]
        cases hcount : failuresLeft line r.failures with
        | top => simp
        | coe m =>
            rw [hcount] at hleft
            norm_cast at hleft ⊢
            omega
      have hsome : failuresLeft line r.failures ≠ 0 := ne_bot_of_gt hleft
      have htime : now + delay + more * delay = now + (more + 1) * delay := by
        rw [Nat.add_mul]
        omega
      rw [retryMore_again hsome, ih (now + delay) hnext, afterRuns_afterRuns, htime,
        Nat.add_comm 1 (more + 1)]

/-- Using up changes only what is left in the rules that speak of the line. -/
theorem useUp_keeps (line : String) (failures : Nat) (rules : List FailureRule) :
    List.Forall₂ (fun before after => after.pattern = before.pattern ∧
      (before.concerns line = false → after = before)) rules (useUp line failures rules) := by
  induction rules using rules_induction line generalizing failures with
  | nil => exact .nil
  | other rule rest h ih =>
      rw [useUp_other h]
      exact .cons ⟨rfl, fun _ => rfl⟩ (ih failures)
  | endless rule rest h hnone =>
      rw [useUp_endless h hnone]
      exact List.forall₂_same.2 fun _ _ => ⟨rfl, fun _ => rfl⟩
  | some rule rest n h hsome ih =>
      rw [useUp_some h hsome]
      refine .cons ⟨rfl, fun hother => ?_⟩ (ih _)
      rw [h] at hother
      cases hother

/-- **What a recorder answers to a line that is tried again.**  The line is run once more than
it fails, but at most as often as it may be tried; these runs are all that is recorded, and
between them the pauses pass.  It answers exactly if fewer failures are left than it may be
tried, and then with the text of the first rule that speaks of it, or with nothing; otherwise
the failure of the last run is reported, as a command that ended with code 1.  The failed runs
use up the rules that speak of the line, in their order, and leave the others and the answers
alone. -/
theorem retry_executeLine (r : Recorder) (line : String) (attempts delay now : Nat) :
    let most := max attempts 1
    let left := failuresLeft line r.failures
    let runs := (min (left + 1) most).toNat
    let result :=
      Operation.retry attempts delay (executeLine line) { switch := r, clock := { now } }
    (if left < most then ∃ output, Prints line r.responses output ∧ result.1 = .done output
      else result.1 = .failed (.commandFailed line 1 "injected failure")) ∧
    result.2.switch.recorded = r.recorded ++ Array.replicate runs line ∧
    result.2.clock = { now := now + (runs - 1) * delay } ∧
    result.2.switch.failures = useUp line (min left most).toNat r.failures ∧
    List.Forall₂ (fun before after => after.pattern = before.pattern ∧
      (before.concerns line = false → after = before)) r.failures result.2.switch.failures ∧
    result.2.switch.responses = r.responses := by
  intro most left runs result
  have hmost : attempts - 1 + 1 = most := by omega
  by_cases hfew : left < most
  -- The failures come to an end before the attempts do.
  · obtain ⟨failures, hleft⟩ := ENat.ne_top_iff_exists.1 (ne_top_of_lt hfew)
    have hlt : failures < most := by exact_mod_cast hleft ▸ hfew
    have hruns : runs = failures + 1 := by
      show (min (left + 1) most).toNat = failures + 1
      rw [min_eq_left (Order.add_one_le_of_lt hfew), ← hleft]
      rfl
    have hfailed : (min left most).toNat = failures := by
      rw [min_eq_left hfew.le, ← hleft]
      rfl
    have hresult : result = _ :=
      retryMore_recovers delay (by omega : failures ≤ attempts - 1) now hleft.symm
    rw [if_pos hfew, hruns, hfailed, hresult]
    exact ⟨⟨_, prints_response line r.responses, rfl⟩, rfl, rfl, rfl,
      useUp_keeps line failures r.failures, rfl⟩
  · have hmany : (most : ℕ∞) ≤ left := not_lt.1 hfew
    have hruns : runs = most := by
      show (min (left + 1) most).toNat = most
      rw [min_eq_right (hmany.trans le_self_add), ENat.toNat_natCast]
    have hfailed : (min left most).toNat = most := by
      rw [min_eq_right hmany, ENat.toNat_natCast]
    have hmore : ((attempts - 1 : ℕ) : ℕ∞) < left :=
      lt_of_lt_of_le (by exact_mod_cast (by omega : attempts - 1 < most)) hmany
    have hresult : result = _ := retryMore_givesUp delay (attempts - 1) now hmore
    rw [if_neg hfew, hruns, hfailed, hresult, hmost]
    refine ⟨rfl, rfl, ?_, rfl, useUp_keeps line most r.failures, rfl⟩
    rw [← hmost, Nat.add_sub_cancel]

/-- Two failures are left, one in each of two rules; the third run answers. -/
example : Operation.retry 3 50 (executeLine "add-br x")
    { switch := { failures := [⟨"add-br", some 1⟩, ⟨"del-br", some 5⟩, ⟨"x", some 1⟩] } }
      = (.done "", {
          switch := {
            recorded := #["add-br x", "add-br x", "add-br x"]
            failures := [⟨"add-br", some 0⟩, ⟨"del-br", some 5⟩, ⟨"x", some 0⟩] }
          clock := { now := 100 } }) := by
  rfl

end Recorder

end VxlanMesh
