/-
  VxlanMesh.Proofs.Numeral.Accepted
  ────────────────────────────────
  **WHICH TEXTS ARE READ AS NUMBERS.**

  `readBounded?` takes exactly the texts that denote a number in bounds:
  a plus sign or none, and one or more decimal digits, leading zeros
  included.  What digits denote is said by their positions, with no
  reference to the reader, which meets them from the left:

      readMore? 10 acc digits  =  acc shifted by the digits, plus what they denote
-/
import Mathlib.Data.Nat.Digits.Defs
import VxlanMesh.Numeral.Decimal

namespace VxlanMesh.Numeral

/-- What decimal digits denote, the last one standing for itself. -/
def positional (digits : List Char) : Nat :=
  Nat.ofDigits 10 (digits.reverse.map fun c => c.toNat - 48)

/-- The characters are an optional plus sign and decimal digits that denote the number. -/
def Denotes (cs : List Char) (n : Nat) : Prop :=
  ∃ sign digits, cs = sign ++ digits ∧ (sign = [] ∨ sign = ['+']) ∧
    digits ≠ [] ∧ (∀ c ∈ digits, isDigit c = true) ∧ positional digits = n

/-- Letters have values of ten and more. -/
theorem digitValue?_eq_some_iff {c : Char} {d : Nat} :
    digitValue? 10 c = some d ↔ isDigit c = true ∧ c.toNat - 48 = d := by
  have hle : ∀ a b : Char, a ≤ b ↔ a.toNat ≤ b.toNat := fun _ _ => Iff.rfl
  have hvalue : digitValue? 10 c = if isDigit c then some (c.toNat - 48) else none := by
    simp only [digitValue?, isDigit, Bool.and_eq_true, decide_eq_true_eq, hle]
    split
    · rename_i hdigit
      rw [Option.filter_some, if_pos]
      have h9 : c.toNat ≤ 57 := hdigit.2
      exact decide_eq_true (by omega)
    · split
      · rename_i hletter
        have ha : 97 ≤ c.toNat := hletter.1
        rw [Option.filter_some, if_neg]
        exact fun hsmall => absurd (of_decide_eq_true hsmall) (by omega)
      · split
        · rename_i hletter
          have ha : 65 ≤ c.toNat := hletter.1
          rw [Option.filter_some, if_neg]
          exact fun hsmall => absurd (of_decide_eq_true hsmall) (by omega)
        · rfl
  rw [hvalue]
  split <;> simp [*]

theorem positional_cons (c : Char) (cs : List Char) :
    positional (c :: cs) = (c.toNat - 48) * 10 ^ cs.length + positional cs := by
  rw [positional, positional, List.reverse_cons, List.map_append, Nat.ofDigits_append,
    List.length_map, List.length_reverse, List.map_singleton, Nat.ofDigits_singleton]
  rw [Nat.add_comm, Nat.mul_comm]

/-- Characters are read on if and only if they are digits, each worth its position. -/
theorem readMore?_eq_some_iff {cs : List Char} {n : Nat} : ∀ {acc : Nat},
    readMore? 10 acc cs = some n ↔
      (∀ c ∈ cs, isDigit c = true) ∧ acc * 10 ^ cs.length + positional cs = n := by
  induction cs with
  | nil => intro acc; simp [readMore?, positional]
  | cons c cs ih =>
      intro acc
      have hshift : ∀ d, (acc * 10 + d) * 10 ^ cs.length
          = acc * 10 ^ (cs.length + 1) + d * 10 ^ cs.length := by
        intro d
        rw [Nat.add_mul, Nat.mul_assoc, Nat.pow_succ']
      rw [List.forall_mem_cons, List.length_cons, positional_cons, ← Nat.add_assoc, ← hshift]
      cases hdigit : digitValue? 10 c with
      | none =>
          have hother : ¬ isDigit c = true := fun h =>
            nomatch hdigit.symm.trans (digitValue?_eq_some_iff.2 ⟨h, rfl⟩)
          simp [readMore?, hdigit, hother]
      | some d =>
          obtain ⟨h, rfl⟩ := digitValue?_eq_some_iff.1 hdigit
          simp only [readMore?, hdigit, ih, h, true_and]

/-- A whole text is read if and only if it is made of digits and is not empty. -/
theorem readBase?_eq_some_iff {cs : List Char} {n : Nat} : readBase? 10 cs = some n ↔
    cs ≠ [] ∧ (∀ c ∈ cs, isDigit c = true) ∧ positional cs = n := by
  rw [readBase?]
  cases cs with
  | nil => simp
  | cons c cs =>
      rw [List.isEmpty_cons, if_neg Bool.false_ne_true, readMore?_eq_some_iff, Nat.zero_mul,
        Nat.zero_add]
      exact (and_iff_right (List.cons_ne_nil c cs)).symm

/-- **The bounded reader takes what denotes a number in bounds**, and nothing else. -/
theorem readBounded?_eq_some_iff {largest n : Nat} {cs : List Char} :
    readBounded? largest cs = some n ↔ Denotes cs n ∧ n ≤ largest := by
  have hfilter : ∀ digits, (readBase? 10 digits).filter (· ≤ largest) = some n ↔
      (digits ≠ [] ∧ (∀ c ∈ digits, isDigit c = true) ∧ positional digits = n) ∧ n ≤ largest := by
    intro digits
    rw [Option.filter_eq_some_iff, readBase?_eq_some_iff, decide_eq_true_eq]
  unfold readBounded?
  constructor
  · intro h
    dsimp only at h
    split at h
    · obtain ⟨hdenotes, hsmall⟩ := (hfilter _).1 h
      exact ⟨⟨['+'], _, rfl, .inr rfl, hdenotes⟩, hsmall⟩
    · obtain ⟨hdenotes, hsmall⟩ := (hfilter _).1 h
      exact ⟨⟨[], _, rfl, .inl rfl, hdenotes⟩, hsmall⟩
  · rintro ⟨⟨sign, digits, rfl, rfl | rfl, hdenotes⟩, hsmall⟩
    · dsimp only
      split
      -- Digits do not begin with a sign.
      · rename_i rest hplus
        have hdigit : isDigit '+' = true :=
          hdenotes.2.1 '+' (by rw [show digits = _ from hplus]; exact List.mem_cons_self)
        exact absurd hdigit (by decide)
      · exact (hfilter digits).2 ⟨hdenotes, hsmall⟩
    · exact (hfilter digits).2 ⟨hdenotes, hsmall⟩

end VxlanMesh.Numeral
