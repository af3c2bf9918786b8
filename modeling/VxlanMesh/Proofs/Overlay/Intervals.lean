/-
  VxlanMesh.Proofs.Overlay.Intervals
  ────────────────────────────────
  **WHAT THE INTERVAL OF A SNAPSHOT SAYS.**

  Anything may stand in the place of the interval.  A whole number says
  itself, a text says the number that it denotes between blanks, and
  nothing else says a number.  A snapshot suggests the number if it lies
  between a second and a day; where it suggests none, the default counts.

      suggestedSeconds_eq_some_iff   what a snapshot suggests
      syncSeconds_eq_iff             which interval is used
-/
import VxlanMesh.Overlay.Topology
import VxlanMesh.Proofs.Numeral.Accepted
import VxlanMesh.Proofs.Numeral.ReadBack
import VxlanMesh.Proofs.Text.Lines

namespace VxlanMesh

/-! ## §1. Numbers between blanks. -/

/-- The text denotes the number, but for blanks around it. -/
def Text.Denotes (s : String) (n : Nat) : Prop :=
  ∃ before number after, s.toList = before ++ number ++ after ∧
    (∀ c ∈ before, isBlank c = true) ∧ (∀ c ∈ after, isBlank c = true) ∧
      Numeral.Denotes number n

/-- What denotes a number has no blanks in it. -/
theorem Numeral.Denotes.not_blank {cs : List Char} {n : Nat} (h : Denotes cs n) :
    cs ≠ [] ∧ ∀ c ∈ cs, Text.isBlank c = false := by
  have hdigit : ∀ c, isDigit c = true → Text.isBlank c = false := by
    have hblank : ∀ d < 10, Text.isBlank (Nat.digitChar d) = false := by decide
    intro c hc
    obtain ⟨d, hd, rfl⟩ := exists_digitChar_of_isDigit hc
    exact hblank d hd
  obtain ⟨sign, digits, rfl, hsign, hne, hdigits, -⟩ := h
  refine ⟨by simp [hne], fun c hc => (List.mem_append.1 hc).elim (fun hplus => ?_)
    fun hmem => hdigit c (hdigits c hmem)⟩
  rcases hsign with rfl | rfl
  · exact absurd hplus List.not_mem_nil
  · rw [List.mem_singleton.1 hplus]
    decide

/-- What a text denotes between blanks is what is left when it is trimmed. -/
theorem Text.denotes_iff {s : String} {n : Nat} :
    Denotes s n ↔ Numeral.Denotes (trimChars s.toList) n := by
  constructor
  · rintro ⟨before, number, after, hsplit, hbefore, hafter, hnumber⟩
    obtain ⟨hne, hinner⟩ := hnumber.not_blank
    rw [hsplit, trimChars_around hne hbefore hafter
      (fun c hc => hinner c (List.mem_of_mem_head? hc))
      (fun c hc => hinner c (List.mem_of_mem_getLast? hc))]
    exact hnumber
  · intro h
    obtain ⟨before, after, hsplit, hbefore, hafter⟩ := trimChars_split s.toList
    exact ⟨before, _, after, hsplit, hbefore, hafter, h⟩

/-! ## §2. Intervals. -/

/-- The number of seconds that a value in the place of the interval says. -/
inductive Json.SaysSeconds : Json → Nat → Prop
  | number (n : Nat) : SaysSeconds (.number (.integer n)) n
  | text {s : String} {n : Nat} (h : Text.Denotes s n) : SaysSeconds (.string s) n

namespace Topology

/-- **The number that is found is the number that is said**, if it has at most 64 bits. -/
theorem secondsOf_eq_some_iff {v : Json} {n : Nat} (h : n ≤ Numeral.largestOfBits 64) :
    secondsOf v = some n ↔ v.SaysSeconds n := by
  constructor
  · intro hfound
    rw [secondsOf.eq_def] at hfound
    split at hfound
    · rename_i i
      split at hfound
      · rename_i hnonneg
        obtain ⟨m, rfl⟩ := Int.eq_ofNat_of_zero_le hnonneg
        obtain rfl : m = n := Option.some.inj hfound
        exact .number m
      · cases hfound
    · rename_i s
      exact .text (Text.denotes_iff.2 (Numeral.readBounded?_eq_some_iff.1 hfound).1)
    · cases hfound
  · intro hsays
    cases hsays with
    | number =>
        rw [secondsOf, if_pos (Int.natCast_nonneg n)]
        rfl
    | text hdenotes =>
        rw [secondsOf, Numeral.readBounded?_eq_some_iff]
        exact ⟨Text.denotes_iff.1 hdenotes, h⟩

/-- The manager suggests the number with the snapshot: the interval says it, and it lies between
a second and a day. -/
def Suggests (topology : Topology) (seconds : Nat) : Prop :=
  (∃ v ∈ topology.interval, v.SaysSeconds seconds) ∧ 1 ≤ seconds ∧ seconds ≤ 86400

/-- The interval that follows a snapshot: the number that it suggests, or else the default. -/
def IsFollowedBy (topology : Topology) (default seconds : Nat) : Prop :=
  topology.Suggests seconds ∨ (∀ n, ¬ topology.Suggests n) ∧ seconds = default

/-- **What is found to be suggested is what is suggested.** -/
theorem suggestedSeconds_eq_some_iff {topology : Topology} {seconds : Nat} :
    topology.suggestedSeconds = some seconds ↔ topology.Suggests seconds := by
  have hlargest : 86400 ≤ Numeral.largestOfBits 64 := by decide
  have hday : longestInterval = 86400 := rfl
  rw [suggestedSeconds, Option.filter_eq_some_iff, hday, Bool.and_eq_true, decide_eq_true_eq,
    decide_eq_true_eq, Option.bind_eq_some_iff]
  -- A usable number has far fewer bits than those that are read.
  refine and_congr_left fun hbounds => exists_congr fun v => and_congr_right fun _ => ?_
  exact secondsOf_eq_some_iff (Nat.le_trans hbounds.2 hlargest)

/-- **The interval that is used is the one that follows.** -/
theorem syncSeconds_eq_iff {topology : Topology} {default seconds : Nat} :
    topology.syncSeconds default = seconds ↔ topology.IsFollowedBy default seconds := by
  rw [syncSeconds]
  cases hsuggested : topology.suggestedSeconds with
  | none =>
      have hnone : ∀ n, ¬ topology.Suggests n := fun n h =>
        nomatch hsuggested.symm.trans (suggestedSeconds_eq_some_iff.2 h)
      rw [Option.getD_none, IsFollowedBy, or_iff_right (hnone seconds), and_iff_right hnone]
      exact eq_comm
  | some n =>
      have hsome : topology.Suggests n := suggestedSeconds_eq_some_iff.1 hsuggested
      rw [Option.getD_some, IsFollowedBy, or_iff_left fun h => h.1 n hsome,
        ← suggestedSeconds_eq_some_iff, hsuggested, Option.some.injEq]

/-- What the manager suggests is used only from a second to a day, and so is the default if it
lies in between as well. -/
theorem syncSeconds_range (topology : Topology) {default : Nat}
    (h : 1 ≤ default ∧ default ≤ longestInterval) :
    1 ≤ topology.syncSeconds default ∧ topology.syncSeconds default ≤ longestInterval := by
  obtain hsuggests | ⟨-, hdefault⟩ := syncSeconds_eq_iff.1 (Eq.refl (topology.syncSeconds default))
  · exact hsuggests.2
  · rw [hdefault]
    exact h

end Topology

end VxlanMesh
