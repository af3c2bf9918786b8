/-
  VxlanMesh.Proofs.Json.Token
  ────────────────────────────────
  **TEXTS AND NUMBERS OF A JSON TEXT ARE READ BACK.**

  The two tokens of variable length.  A text ends at its quote whatever
  follows; a number ends only before a character that cannot continue it,
  which is what `EndsNumber` says of the rest.

      text?_textChars        a text in quotes gives the text
      literal?_toDigits      the digits of a number give the number
-/
import VxlanMesh.Json.Reader
import VxlanMesh.Json.Writer
import VxlanMesh.Proofs.Numeral.ReadBack

namespace VxlanMesh.Json.Reader

open VxlanMesh.Numeral (isDigit readBase? ofDigits ofDigits_toDigits isDigit_of_mem_toDigits)

/-! ## §1. Texts. -/

/-- The piece that a written character is read as. -/
def pieceOf (c : Char) : Piece :=
  if c.toNat < 0x20 ∧ c ≠ '\x08' ∧ c ≠ '\x0c' ∧ c ≠ '\n' ∧ c ≠ '\r' ∧ c ≠ '\t'
  then .unit c.toNat else .char c

/-- Put a piece in front of what was read. -/
def consPiece (p : Piece) (read : List Piece × List Char) : List Piece × List Char :=
  (p :: read.1, read.2)

/-- A short escape is read as the character that it stands for. -/
theorem pieces?_short {e c : Char} (hu : e ≠ 'u') (he : escaped? e = some c)
    (cs : List Char) : pieces? ('\\' :: e :: cs) = (pieces? cs).map (consPiece (.char c)) := by
  rw [pieces?.eq_def]
  split
  · simp_all
  · simp_all
  · simp_all
  · rename_i e' rest _ heq
    injection heq with _ heq
    injection heq with h1 h2
    subst h1 h2
    rw [he]
    cases pieces? cs <;> rfl
  -- The case of a plain character comes last, and a backslash with something behind it
  -- has had its case before.
  · rename_i c' rest _ _ hother heq
    injection heq with h1 h2
    exact absurd h2.symm (hother e cs h1.symm)

/-- The digits of a control character below the space give its code. -/
theorem pieces?_control {a b : Char} {n : Nat}
    (h : readBase? 16 ['0', '0', a, b] = some n) (cs : List Char) :
    pieces? ('\\' :: 'u' :: '0' :: '0' :: a :: b :: cs)
      = (pieces? cs).map (consPiece (.unit n)) := by
  simp only [pieces?, h]
  cases pieces? cs <;> rfl

/-- A character that needs no escape is read as it stands. -/
theorem pieces?_plain {c : Char} (hq : c ≠ '"') (hb : c ≠ '\\') (hc : ¬ c.toNat < 0x20)
    (cs : List Char) : pieces? (c :: cs) = (pieces? cs).map (consPiece (.char c)) := by
  rw [pieces?.eq_def]
  split
  · simp_all
  · simp_all
  · simp_all
  · simp_all
  · rename_i c' rest _ _ _ heq
    injection heq with h1 h2
    subst h1 h2
    rw [if_neg (by simp [hc, hb])]
    cases pieces? cs <;> rfl

/-- The two hexadecimal digits of a control character. -/
theorem control_digits : ∀ n : Fin 32,
    ∃ a b, (if n.val < 16 then '0' :: Nat.toDigits 16 n.val else Nat.toDigits 16 n.val) = [a, b]
      ∧ readBase? 16 ['0', '0', a, b] = some n.val := by
  intro n
  refine ⟨if n.val < 16 then '0' else '1', Nat.digitChar (n.val % 16), ?_⟩
  revert n
  decide

/-- **A written character is read as its piece.** -/
theorem pieces?_escapeChar (c : Char) (cs : List Char) :
    pieces? (escapeChar c ++ cs) = (pieces? cs).map (consPiece (pieceOf c)) := by
  -- The seven short escapes, in the order in which the writer tries them.
  by_cases hq : c = '"'
  · subst hq; exact pieces?_short (by decide) rfl cs
  by_cases hb : c = '\\'
  · subst hb; exact pieces?_short (by decide) rfl cs
  by_cases h8 : c = '\x08'
  · subst h8; exact pieces?_short (by decide) rfl cs
  by_cases hc : c = '\x0c'
  · subst hc; exact pieces?_short (by decide) rfl cs
  by_cases hn : c = '\n'
  · subst hn; exact pieces?_short (by decide) rfl cs
  by_cases hr : c = '\r'
  · subst hr; exact pieces?_short (by decide) rfl cs
  by_cases ht : c = '\t'
  · subst ht; exact pieces?_short (by decide) rfl cs
  simp only [escapeChar, hq, hb, h8, hc, hn, hr, ht, if_false]
  by_cases hlow : c.toNat < 0x20
  -- Any other control character is written as its code.
  · have hpiece : pieceOf c = .unit c.toNat := if_pos ⟨hlow, h8, hc, hn, hr, ht⟩
    obtain ⟨a, b, hab, hread⟩ := control_digits ⟨c.toNat, hlow⟩
    rw [hpiece]
    by_cases h16 : c.toNat < 0x10
    · rw [if_pos h16]
      rw [if_pos h16] at hab
      show pieces? ('\\' :: 'u' :: '0' :: '0' :: (('0' :: Nat.toDigits 16 c.toNat) ++ cs)) = _
      rw [hab]
      exact pieces?_control hread cs
    · rw [if_neg h16, if_pos hlow]
      rw [if_neg h16] at hab
      show pieces? ('\\' :: 'u' :: '0' :: '0' :: (Nat.toDigits 16 c.toNat ++ cs)) = _
      rw [hab]
      exact pieces?_control hread cs
  · have hpiece : pieceOf c = .char c := if_neg fun h => hlow h.1
    rw [hpiece, if_neg (by omega), if_neg hlow]
    exact pieces?_plain hq hb hlow cs

/-- Written characters are read up to the closing quote. -/
theorem pieces?_escaped (cs rest : List Char) :
    pieces? (cs.flatMap escapeChar ++ '"' :: rest) = some (cs.map pieceOf, rest) := by
  induction cs with
  | nil => rfl
  | cons c cs ih =>
      rw [List.flatMap_cons, List.append_assoc, pieces?_escapeChar, ih]
      rfl

/-- The piece of a character stands for the character, whatever follows. -/
theorem charsOfPieces?_pieceOf (c : Char) (ps : List Piece) :
    charsOfPieces? (pieceOf c :: ps) = (charsOfPieces? ps).map (c :: ·) := by
  unfold pieceOf
  split
  -- A code below the space is no half of a surrogate pair, so it stands alone.
  · rename_i h
    have hhigh : isHighSurrogate c.toNat = false := by
      simp only [isHighSurrogate, Bool.and_eq_false_iff, decide_eq_false_iff_not]
      omega
    have hlow : isLowSurrogate c.toNat = false := by
      simp only [isLowSurrogate, Bool.and_eq_false_iff, decide_eq_false_iff_not]
      omega
    cases ps with
    | nil => simp [charsOfPieces?, hhigh, hlow]
    | cons p ps => cases p <;> simp [charsOfPieces?, hhigh, hlow]
  · rfl

/-- The pieces of characters stand for these characters. -/
theorem charsOfPieces?_map_pieceOf (cs : List Char) :
    charsOfPieces? (cs.map pieceOf) = some cs := by
  induction cs with
  | nil => rfl
  | cons c cs ih =>
      rw [List.map_cons, charsOfPieces?_pieceOf, ih]
      rfl

/-- **A text in quotes gives the text, whatever follows.** -/
theorem text?_textChars (s : String) (rest : List Char) :
    text? (s.toList.flatMap escapeChar ++ '"' :: rest) = some (some s, rest) := by
  unfold text?
  rw [pieces?_escaped]
  simp [charsOfPieces?_map_pieceOf]

/-! ## §2. Numbers. -/

/-- What follows a number does not continue it. -/
def EndsNumber (rest : List Char) : Prop :=
  ∀ c cs, rest = c :: cs → isDigit c = false ∧ c ≠ '.' ∧ c ≠ 'e' ∧ c ≠ 'E'

theorem endsNumber_nil : EndsNumber [] := by
  intro c cs h
  exact absurd h (by simp)

theorem endsNumber_cons {c : Char} {cs : List Char}
    (h : isDigit c = false ∧ c ≠ '.' ∧ c ≠ 'e' ∧ c ≠ 'E') : EndsNumber (c :: cs) := by
  intro d ds heq
  injection heq with h1 _
  exact h1 ▸ h

/-- Digits are read up to what cannot continue them. -/
theorem digits?_toDigits (n : Nat) {rest : List Char} (h : EndsNumber rest) :
    digits? (Nat.toDigits 10 n ++ rest) = some (Nat.toDigits 10 n, rest) := by
  have hall : ∀ c ∈ Nat.toDigits 10 n, isDigit c = true := fun c => isDigit_of_mem_toDigits
  have htake : (rest.takeWhile isDigit) = [] := by
    cases rest with
    | nil => rfl
    | cons c cs => simp [(h c cs rfl).1]
  have hdrop : (rest.dropWhile isDigit) = rest := by
    cases rest with
    | nil => rfl
    | cons c cs => simp [(h c cs rfl).1]
  have hspan : spanDigits (Nat.toDigits 10 n ++ rest) = (Nat.toDigits 10 n, rest) := by
    unfold spanDigits
    rw [List.takeWhile_append_of_pos hall, List.dropWhile_append_of_pos hall, htake, hdrop,
      List.append_nil]
  unfold digits?
  rw [hspan]
  simp

/-- The digits of a positive number do not begin with a zero. -/
theorem head_toDigits {n : Nat} (hn : 0 < n) :
    ∃ c cs, Nat.toDigits 10 n = c :: cs ∧ c ≠ '0' := by
  -- The first digit of a number is that of the number without its last digit.
  induction n using Nat.strongRecOn with
  | ind n ih =>
    by_cases hlt : n < 10
    · refine ⟨Nat.digitChar n, [], Nat.toDigits_of_lt_base hlt, ?_⟩
      have key : ∀ d : Fin 10, 0 < d.val → Nat.digitChar d.val ≠ '0' := by decide
      exact key ⟨n, hlt⟩ hn
    · obtain ⟨c, cs, hcs, hc⟩ := ih (n / 10) (by omega) (by omega)
      refine ⟨c, cs ++ [Nat.digitChar (n % 10)], ?_, hc⟩
      rw [Nat.toDigits_of_base_le (by decide) (by omega), hcs]
      rfl

/-- The digits of a number are a whole number: none begins with a zero but zero itself. -/
theorem whole?_toDigits (n : Nat) {rest : List Char} (h : EndsNumber rest) :
    whole? (Nat.toDigits 10 n ++ rest) = some (Nat.toDigits 10 n, rest) := by
  by_cases hn : n = 0
  · subst hn
    show whole? ('0' :: rest) = some (['0'], rest)
    cases rest with
    | nil => rfl
    | cons c cs => simp [whole?, (h c cs rfl).1]
  · obtain ⟨c, cs, hcs, hc⟩ := head_toDigits (Nat.pos_of_ne_zero hn)
    have hdigits := digits?_toDigits n h
    rw [hcs] at hdigits ⊢
    rw [← hdigits]
    unfold whole?
    split
    · simp_all
    · rfl

theorem fraction?_of_endsNumber {rest : List Char} (h : EndsNumber rest) :
    fraction? rest = some (none, rest) := by
  unfold fraction?
  split
  · exact absurd rfl (h _ _ rfl).2.1
  · rfl

theorem exponent?_of_endsNumber {rest : List Char} (h : EndsNumber rest) :
    exponent? rest = some (none, rest) := by
  cases rest with
  | nil => rfl
  | cons c cs =>
      obtain ⟨_, _, he, hE⟩ := h c cs rfl
      simp [exponent?, he, hE]

/-- **The digits of a number are read as a number without fraction and exponent.** -/
theorem literal?_toDigits (n : Nat) {rest : List Char} (h : EndsNumber rest) :
    literal? (Nat.toDigits 10 n ++ rest) = some (⟨false, Nat.toDigits 10 n, none, none⟩, rest) := by
  have hwhole := whole?_toDigits n h
  have hsign : ∀ tail, Nat.toDigits 10 n ++ rest ≠ '-' :: tail := by
    intro tail heq
    cases hcs : Nat.toDigits 10 n with
    | nil => exact Nat.toDigits_ne_nil hcs
    | cons c cs =>
        rw [hcs] at heq
        injection heq with h1 _
        have hdigit : isDigit c = true :=
          isDigit_of_mem_toDigits (n := n) (by rw [hcs]; exact List.mem_cons_self)
        rw [h1] at hdigit
        exact absurd hdigit (by decide)
  unfold literal?
  split
  rename_i negative cs hmatch
  split at hmatch
  · exact absurd ‹_› (hsign _)
  · injection hmatch with h1 h2
    subst h1 h2
    simp [hwhole, fraction?_of_endsNumber h, exponent?_of_endsNumber h]

/-- The same with a minus sign in front. -/
theorem literal?_minus (n : Nat) {rest : List Char} (h : EndsNumber rest) :
    literal? ('-' :: (Nat.toDigits 10 n ++ rest))
      = some (⟨true, Nat.toDigits 10 n, none, none⟩, rest) := by
  rw [literal?]
  simp [whole?_toDigits n h, fraction?_of_endsNumber h, exponent?_of_endsNumber h]

end VxlanMesh.Json.Reader
