/-
  VxlanMesh.Proofs.Numeral.ReadBack
  ────────────────────────────────
  **WRITTEN NUMBERS ARE READ BACK.**

  `decimal` and `hexadecimal` write the digits that `readBase?` reads.
  The readers meet the digits from the left while `Nat.toDigits` splits
  off the last one, so the induction is on the number and each step uses

      readMore? base acc (cs ++ [d])  =  readMore? base acc cs, then d

  Two consequences: the bounded reader returns every number that is in
  bounds, and both texts determine their number.
-/
import VxlanMesh.Numeral.Decimal

namespace VxlanMesh.Numeral

/-! ## §1. Digits. -/

/-- The character of a digit has the value of the digit. -/
theorem digitValue?_digitChar {base d : Nat} (hd : d < base) (hb : base ≤ 16) :
    digitValue? base (Nat.digitChar d) = some d := by
  have key : ∀ e : Fin 16, ∀ b : Fin 17, e.val < b.val →
      digitValue? b.val (Nat.digitChar e.val) = some e.val := by decide
  exact key ⟨d, by omega⟩ ⟨base, by omega⟩ hd

/-- A decimal digit is the character of a number below ten. -/
theorem exists_digitChar_of_isDigit {c : Char} (h : isDigit c = true) :
    ∃ d < 10, c = Nat.digitChar d := by
  have hdigits : ∀ n < 58, 48 ≤ n → ∃ d < 10, Char.ofNat n = Nat.digitChar d := by decide
  simp only [isDigit, Bool.and_eq_true, decide_eq_true_eq] at h
  have hc := hdigits c.toNat (Nat.lt_succ_of_le h.2) h.1
  rwa [Char.ofNat_toNat] at hc

/-- The last digit is read last. -/
theorem readMore?_concat (base : Nat) (cs : List Char) (d : Char) :
    ∀ acc : Nat, readMore? base acc (cs ++ [d])
      = (readMore? base acc cs).bind
          (fun n => (digitValue? base d).map (fun v => n * base + v)) := by
  induction cs with
  | nil =>
      intro acc
      show readMore? base acc [d] = _
      cases h : digitValue? base d <;> simp [readMore?, h]
  | cons c cs ih =>
      intro acc
      show readMore? base acc (c :: (cs ++ [d])) = _
      cases h : digitValue? base c with
      | none => simp [readMore?, h]
      | some v => simp only [readMore?, h, ih]

/-- **The digits of a number are read as the number.** -/
theorem readMore?_toDigits {base : Nat} (h1 : 1 < base) (hb : base ≤ 16) (n : Nat) :
    readMore? base 0 (Nat.toDigits base n) = some n := by
  induction n using Nat.strongRecOn with
  | ind n ih =>
    by_cases hn : n < base
    · rw [Nat.toDigits_of_lt_base hn]
      simp [readMore?, digitValue?_digitChar hn hb]
    · have hlast : n % base < base := Nat.mod_lt n (by omega)
      have hless : n / base < n := Nat.div_lt_self (by omega) h1
      rw [Nat.toDigits_of_base_le h1 (by omega), readMore?_concat, ih _ hless,
        digitValue?_digitChar hlast hb]
      have hsum : n / base * base + n % base = n := by
        rw [Nat.mul_comm]; exact Nat.div_add_mod n base
      simp [hsum]

/-- Digits are never an empty text, so they are read as a whole. -/
theorem readBase?_toDigits {base : Nat} (h1 : 1 < base) (hb : base ≤ 16) (n : Nat) :
    readBase? base (Nat.toDigits base n) = some n := by
  unfold readBase?
  have hne : (Nat.toDigits base n).isEmpty = false := by simp
  rw [hne]
  exact readMore?_toDigits h1 hb n

theorem ofDigits_toDigits (n : Nat) : ofDigits (Nat.toDigits 10 n) = n := by
  unfold ofDigits
  rw [readMore?_toDigits (by decide) (by decide)]
  rfl

/-! ## §2. Decimal texts. -/

theorem toList_decimal (n : Nat) : (decimal n).toList = Nat.toDigits 10 n := by
  show (toString n).toList = _
  rw [Nat.toString_eq_ofList_toDigits, String.toList_ofList]

/-- Digits are decimal digits in the sense of the readers. -/
theorem isDigit_of_mem_toDigits {n : Nat} {c : Char} (h : c ∈ Nat.toDigits 10 n) :
    isDigit c = true := by
  have hd := Nat.isDigit_of_mem_toDigits (by decide) (by decide) h
  simp only [Char.isDigit, Bool.and_eq_true, decide_eq_true_eq] at hd
  simp only [isDigit, Bool.and_eq_true, decide_eq_true_eq]
  exact ⟨hd.1, hd.2⟩

/-- **A number in bounds is read back from its decimal text.** -/
theorem readBounded?_decimal {n largest : Nat} (h : n ≤ largest) :
    readBounded? largest (decimal n).toList = some n := by
  have hread : readBase? 10 (Nat.toDigits 10 n) = some n :=
    readBase?_toDigits (by decide) (by decide) n
  unfold readBounded?
  rw [toList_decimal]
  split
  -- A text of digits has no sign in front.
  · rename_i rest hplus
    have hdigit : isDigit '+' = true :=
      isDigit_of_mem_toDigits (n := n) (by rw [hplus]; exact List.mem_cons_self)
    exact absurd hdigit (by decide)
  · show (readBase? 10 (Nat.toDigits 10 n)).filter _ = _
    rw [hread]
    simp [h]

/-- **A decimal text tells its number**, which is read back within the larger bound of the two. -/
theorem decimal_injective {m n : Nat} (h : decimal m = decimal n) : m = n := by
  have hm := readBounded?_decimal (Nat.le_max_left m n)
  rw [h, readBounded?_decimal (Nat.le_max_right m n)] at hm
  exact (Option.some.inj hm).symm

/-! ## §3. Hexadecimal texts. -/

/-- **A hexadecimal text tells its number.** -/
theorem hexadecimal_injective {m n : Nat} (h : hexadecimal m = hexadecimal n) : m = n := by
  unfold hexadecimal at h
  have hlist := congrArg String.toList h
  simp only [String.toList_append, String.toList_ofList] at hlist
  have hdigits : Nat.toDigits 16 m = Nat.toDigits 16 n := List.append_cancel_left hlist
  have hm : readBase? 16 (Nat.toDigits 16 m) = some m :=
    readBase?_toDigits (by decide) (by decide) m
  rw [hdigits, readBase?_toDigits (by decide) (by decide)] at hm
  exact (Option.some.inj hm).symm

end VxlanMesh.Numeral
