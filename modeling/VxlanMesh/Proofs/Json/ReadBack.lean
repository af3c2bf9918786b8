/-
  VxlanMesh.Proofs.Json.ReadBack
  ────────────────────────────────
  **WRITTEN JSON IS READ BACK.**

  The two writers differ only in the blanks between the tokens.  A
  `Layout` says which blanks those are, `laidChars` writes with a layout,
  and both writers are instances of it.  The reader skips blanks before
  every token, so one induction over the value serves both:

      document? fuel (laidChars l level v ++ rest) = some (ofValue v, rest)

  as long as the rest cannot continue a number and every number of the
  value is a whole number of 64 bits (`isExact`): a double is written by
  its shortest digits, which the quick route of the reader can miss.
-/
import VxlanMesh.Proofs.Json.Token

namespace VxlanMesh.Json

open VxlanMesh.Json.Reader
open VxlanMesh.Numeral (isDigit twoToThe ofDigits_toDigits)

/-! ## §1. Whole numbers. -/

/-- The number is a whole number that the reader keeps as one. -/
def Number.isExact : Number → Bool
  | .integer i => decide (-(twoToThe 63 : Int) ≤ i ∧ i ≤ (largestWord : Int))
  | .double _ => false

mutual

/-- What holds for every number of the value. -/
def allNumbers (p : Number → Bool) : Json → Bool
  | .number n => p n
  | .array items => allNumbersOf p items
  | .object members => allNumbersIn p members
  | _ => true

/-- What holds for every number of the items. -/
def allNumbersOf (p : Number → Bool) : List Json → Bool
  | [] => true
  | item :: rest => item.allNumbers p && allNumbersOf p rest

/-- What holds for every number of the members. -/
def allNumbersIn (p : Number → Bool) : List (String × Json) → Bool
  | [] => true
  | (_, item) :: rest => item.allNumbers p && allNumbersIn p rest

end

/-- Every number of the value is exact. -/
def isExact (v : Json) : Bool := v.allNumbers Number.isExact

/-- The numbers of items are those of each item. -/
theorem allNumbersOf_iff {p : Number → Bool} {items : List Json} :
    allNumbersOf p items = true ↔ ∀ item ∈ items, item.allNumbers p = true := by
  induction items with
  | nil => exact iff_of_true rfl nofun
  | cons item rest ih => rw [allNumbersOf, Bool.and_eq_true, ih, List.forall_mem_cons]

/-- The numbers of members are those of each member. -/
theorem allNumbersIn_iff {p : Number → Bool} {members : List (String × Json)} :
    allNumbersIn p members = true ↔ ∀ e ∈ members, e.2.allNumbers p = true := by
  induction members with
  | nil => exact iff_of_true rfl nofun
  | cons e rest ih => rw [allNumbersIn, Bool.and_eq_true, ih, List.forall_mem_cons]

theorem numberChars_ofNat (n : Nat) : numberChars (.integer n) = Nat.toDigits 10 n := by
  show (toString (n : Int)).toList = _
  exact Numeral.toList_decimal n

theorem numberChars_negSucc (n : Nat) :
    numberChars (.integer (Int.negSucc n)) = '-' :: Nat.toDigits 10 (n + 1) := by
  show ("-" ++ toString (n + 1)).toList = _
  rw [String.toList_append]
  show ['-'] ++ (Numeral.decimal (n + 1)).toList = _
  rw [Numeral.toList_decimal]
  rfl

/-- **An exact number is read back before anything that cannot continue it.** -/
theorem literal?_numberChars {n : Number} (hn : n.isExact = true) {rest : List Char}
    (h : EndsNumber rest) :
    ∃ literal, literal? (numberChars n ++ rest) = some (literal, rest)
      ∧ number? literal = some n := by
  cases n with
  | double x => exact absurd hn (by simp [Number.isExact])
  | integer i =>
    simp only [Number.isExact, decide_eq_true_eq] at hn
    cases i with
    | ofNat m =>
      have hm : m ≤ largestWord := Int.ofNat_le.1 hn.2
      refine ⟨⟨false, Nat.toDigits 10 m, none, none⟩, ?_, ?_⟩
      · have hchars : numberChars (.integer (Int.ofNat m)) = Nat.toDigits 10 m :=
          numberChars_ofNat m
        rw [hchars]
        exact literal?_toDigits m h
      · simp only [number?, ofDigits_toDigits]
        simp [hm]
    | negSucc m =>
      -- The reader keeps a negative number as one down to the least of 64 bits.
      have hm : m + 1 ≤ twoToThe 63 := by omega
      refine ⟨⟨true, Nat.toDigits 10 (m + 1), none, none⟩, ?_, ?_⟩
      · rw [numberChars_negSucc]
        exact literal?_minus (m + 1) h
      · simp only [number?, ofDigits_toDigits]
        simp [hm]
        omega

/-- An exact number begins with a digit or a minus sign. -/
theorem numberChars_head {n : Number} (hn : n.isExact = true) :
    ∃ c cs, numberChars n = c :: cs ∧ (isDigit c = true ∨ c = '-') := by
  cases n with
  | double x => exact absurd hn (by simp [Number.isExact])
  | integer i =>
    cases i with
    | negSucc m => exact ⟨'-', _, numberChars_negSucc m, Or.inr rfl⟩
    | ofNat m =>
      have hchars : numberChars (.integer (Int.ofNat m)) = Nat.toDigits 10 m :=
        numberChars_ofNat m
      cases hcs : Nat.toDigits 10 m with
      | nil => exact absurd hcs Nat.toDigits_ne_nil
      | cons c cs =>
        refine ⟨c, cs, hchars.trans hcs, Or.inl ?_⟩
        exact Numeral.isDigit_of_mem_toDigits (n := m) (by rw [hcs]; exact List.mem_cons_self)

/-! ## §2. Layouts. -/

/-- The blanks of a writer: what stands before each item and each closing bracket, by
level, and what stands after a colon. -/
structure Layout where
  line : Nat → List Char
  gap : List Char
  line_blank : ∀ level, ∀ c ∈ line level, isBlank c = true
  gap_blank : ∀ c ∈ gap, isBlank c = true

/-- No blanks at all. -/
def Layout.compact : Layout where
  line _ := []
  gap := []
  line_blank := by simp
  gap_blank := by simp

/-- A line for each item and a space after each colon. -/
def Layout.pretty : Layout where
  line := newLine
  gap := [' ']
  line_blank := by
    intro level c hc
    simp only [newLine, List.mem_cons, List.mem_replicate] at hc
    rcases hc with rfl | ⟨_, rfl⟩ <;> decide
  gap_blank := by simp [isBlank]

mutual

/-- A value at some level. -/
def laidChars (l : Layout) (level : Nat) : Json → List Char
  | .null => ['n', 'u', 'l', 'l']
  | .bool true => ['t', 'r', 'u', 'e']
  | .bool false => ['f', 'a', 'l', 's', 'e']
  | .number n => numberChars n
  | .string s => textChars s
  | .array [] => ['[', ']']
  | .array (item :: rest) =>
      '[' :: (l.line (level + 1) ++ (laidChars l (level + 1) item ++ laidItems l level rest))
  | .object [] => ['\x7b', '\x7d']
  | .object ((key, item) :: rest) =>
      '\x7b' :: (l.line (level + 1) ++ (textChars key ++ ':' :: (l.gap
        ++ (laidChars l (level + 1) item ++ laidMembers l level rest))))

/-- The items after the first one of an array at some level, and the closing bracket. -/
def laidItems (l : Layout) (level : Nat) : List Json → List Char
  | [] => l.line level ++ [']']
  | item :: rest =>
      ',' :: (l.line (level + 1) ++ (laidChars l (level + 1) item ++ laidItems l level rest))

/-- The members after the first one of an object at some level, and the closing brace. -/
def laidMembers (l : Layout) (level : Nat) : List (String × Json) → List Char
  | [] => l.line level ++ ['\x7d']
  | (key, item) :: rest =>
      ',' :: (l.line (level + 1) ++ (textChars key ++ ':' :: (l.gap
        ++ (laidChars l (level + 1) item ++ laidMembers l level rest))))

end

mutual

/-- **The indenting writer is one of the layouts.** Induction on the value, with its items and
members. -/
theorem prettyChars_eq_laid : ∀ (v : Json) (level : Nat),
    prettyChars level v = laidChars .pretty level v
  | .null, _ => by simp only [prettyChars, laidChars]
  | .bool true, _ => by simp only [prettyChars, laidChars]
  | .bool false, _ => by simp only [prettyChars, laidChars]
  | .number _, _ => by simp only [prettyChars, laidChars]
  | .string _, _ => by simp only [prettyChars, laidChars]
  | .array [], _ => by simp only [prettyChars, laidChars]
  | .array (item :: rest), level => by
      have hitem := prettyChars_eq_laid item (level + 1)
      have hrest := prettyItems_eq_laid rest level
      simp only [prettyChars, prettyItems, laidChars, hitem, List.append_assoc]
      rw [← hrest]
      rfl
  | .object [], _ => by simp only [prettyChars, laidChars]
  | .object ((key, item) :: rest), level => by
      have hitem := prettyChars_eq_laid item (level + 1)
      have hrest := prettyMembers_eq_laid rest level
      simp only [prettyChars, prettyMembers, laidChars, hitem, List.append_assoc]
      rw [← hrest]
      rfl

theorem prettyItems_eq_laid : ∀ (rest : List Json) (level : Nat),
    (match rest with
      | [] => newLine (level + 1 - 1) ++ [']']
      | _ :: _ => ',' :: prettyItems (level + 1) rest) = laidItems .pretty level rest
  | [], _ => by simp only [laidItems]; rfl
  | item :: rest, level => by
      have hitem := prettyChars_eq_laid item (level + 1)
      have hrest := prettyItems_eq_laid rest level
      simp only [prettyItems, laidItems, hitem, List.append_assoc]
      rw [← hrest]
      rfl

theorem prettyMembers_eq_laid : ∀ (rest : List (String × Json)) (level : Nat),
    (match rest with
      | [] => newLine (level + 1 - 1) ++ ['\x7d']
      | _ :: _ => ',' :: prettyMembers (level + 1) rest) = laidMembers .pretty level rest
  | [], _ => by simp only [laidMembers]; rfl
  | (key, item) :: rest, level => by
      have hitem := prettyChars_eq_laid item (level + 1)
      have hrest := prettyMembers_eq_laid rest level
      simp only [prettyMembers, laidMembers, hitem, List.append_assoc]
      rw [← hrest]
      rfl

end

mutual

/-- **So is the writer without blanks.** Its layout does not look at the level. -/
theorem compactChars_eq_laid : ∀ (v : Json) (level : Nat),
    compactChars v = laidChars .compact level v
  | .null, _ => by simp only [compactChars, laidChars]
  | .bool true, _ => by simp only [compactChars, laidChars]
  | .bool false, _ => by simp only [compactChars, laidChars]
  | .number _, _ => by simp only [compactChars, laidChars]
  | .string _, _ => by simp only [compactChars, laidChars]
  | .array [], _ => by simp only [compactChars, compactItems, laidChars]
  | .array (item :: rest), level => by
      have hitem := compactChars_eq_laid item (level + 1)
      have hrest := compactItems_eq_laid rest level
      simp only [compactChars, compactItems, laidChars, hitem]
      rw [← hrest]
      rfl
  | .object [], _ => by simp only [compactChars, compactMembers, laidChars]
  | .object ((key, item) :: rest), level => by
      have hitem := compactChars_eq_laid item (level + 1)
      have hrest := compactMembers_eq_laid rest level
      simp only [compactChars, compactMembers, laidChars, hitem]
      rw [← hrest]
      rfl

theorem compactItems_eq_laid : ∀ (rest : List Json) (level : Nat),
    (match rest with
      | [] => [']']
      | _ :: _ => ',' :: compactItems rest) = laidItems .compact level rest
  | [], _ => by simp only [laidItems]; rfl
  | item :: rest, level => by
      have hitem := compactChars_eq_laid item (level + 1)
      have hrest := compactItems_eq_laid rest level
      simp only [compactItems, laidItems, hitem]
      rw [← hrest]
      rfl

theorem compactMembers_eq_laid : ∀ (rest : List (String × Json)) (level : Nat),
    (match rest with
      | [] => ['\x7d']
      | _ :: _ => ',' :: compactMembers rest) = laidMembers .compact level rest
  | [], _ => by simp only [laidMembers]; rfl
  | (key, item) :: rest, level => by
      have hitem := compactChars_eq_laid item (level + 1)
      have hrest := compactMembers_eq_laid rest level
      simp only [compactMembers, laidMembers, hitem]
      rw [← hrest]
      rfl

end

/-! ## §3. Blanks in front of a token. -/

/-- Blanks are skipped, however many there are. -/
theorem skipBlanks_append {bs : List Char} (h : ∀ c ∈ bs, isBlank c = true) (cs : List Char) :
    skipBlanks (bs ++ cs) = skipBlanks cs :=
  List.dropWhile_append_of_pos h

theorem skipBlanks_cons {c : Char} (h : isBlank c = false) (cs : List Char) :
    skipBlanks (c :: cs) = c :: cs :=
  List.dropWhile_cons_of_neg (by simp [h])

/-- Blanks in front of a value do not matter. -/
theorem document?_blanks {bs : List Char} (h : ∀ c ∈ bs, isBlank c = true) (fuel : Nat)
    (cs : List Char) : document? fuel (bs ++ cs) = document? fuel cs := by
  cases fuel with
  | zero => simp only [document?]
  | succ fuel => simp only [document?, skipBlanks_append h]

/-- Blanks and a closing bracket, a comma or nothing end a number. -/
theorem endsNumber_append {bs cs : List Char} (h : ∀ c ∈ bs, isBlank c = true)
    (hcs : EndsNumber cs) : EndsNumber (bs ++ cs) := by
  cases bs with
  | nil => exact hcs
  | cons b bs =>
      have hb : isBlank b = true := h b List.mem_cons_self
      refine endsNumber_cons ?_
      simp only [isBlank, Bool.or_eq_true, decide_eq_true_eq] at hb
      rcases hb with ((rfl | rfl) | rfl) | rfl <;> decide

/-- What follows an item cannot continue a number. -/
theorem endsNumber_laidItems (l : Layout) (level : Nat) (rest : List Json) (more : List Char) :
    EndsNumber (laidItems l level rest ++ more) := by
  cases rest with
  | nil =>
      rw [laidItems, List.append_assoc]
      exact endsNumber_append (l.line_blank level) (endsNumber_cons (by decide))
  | cons item rest =>
      rw [laidItems]
      exact endsNumber_cons (by decide)

/-- Nor can what follows a member. -/
theorem endsNumber_laidMembers (l : Layout) (level : Nat) (rest : List (String × Json))
    (more : List Char) : EndsNumber (laidMembers l level rest ++ more) := by
  match rest with
  | [] =>
      rw [laidMembers, List.append_assoc]
      exact endsNumber_append (l.line_blank level) (endsNumber_cons (by decide))
  | (key, item) :: rest =>
      rw [laidMembers]
      exact endsNumber_cons (by decide)

/-- A value begins with a character that is no blank and closes nothing. -/
theorem head_laidChars (l : Layout) (level : Nat) {v : Json} (hv : v.isExact = true) :
    ∃ c cs, laidChars l level v = c :: cs ∧ isBlank c = false ∧ c ≠ ']' ∧ c ≠ '\x7d' := by
  match v with
  | .null => exact ⟨_, _, by rw [laidChars], by decide⟩
  | .bool true => exact ⟨_, _, by rw [laidChars], by decide⟩
  | .bool false => exact ⟨_, _, by rw [laidChars], by decide⟩
  | .string s => exact ⟨'"', _, by rw [laidChars, textChars], by decide⟩
  | .array [] => exact ⟨_, _, by rw [laidChars], by decide⟩
  | .array (item :: rest) => exact ⟨_, _, by rw [laidChars], by decide⟩
  | .object [] => exact ⟨_, _, by rw [laidChars], by decide⟩
  | .object ((key, item) :: rest) => exact ⟨_, _, by rw [laidChars], by decide⟩
  | .number n =>
      rw [isExact, allNumbers] at hv
      obtain ⟨c, cs, hcs, hc⟩ := numberChars_head hv
      refine ⟨c, cs, by rw [laidChars, hcs], ?_⟩
      rcases hc with hc | rfl
      · have key : ∀ d : Char, isDigit d = true → isBlank d = false ∧ d ≠ ']' ∧ d ≠ '\x7d' := by
          intro d hd
          refine ⟨?_, ?_, ?_⟩
          · cases hb : isBlank d with
            | false => rfl
            | true =>
              simp only [isBlank, Bool.or_eq_true, decide_eq_true_eq] at hb
              rcases hb with ((rfl | rfl) | rfl) | rfl <;> exact absurd hd (by decide)
          · rintro rfl; exact absurd hd (by decide)
          · rintro rfl; exact absurd hd (by decide)
        exact key c hc
      · decide

/-! ## §4. Reading with a layout. -/

/-- What begins like a number is read as a number. -/
theorem document?_number (fuel : Nat) {c : Char} (hc : isDigit c = true ∨ c = '-')
    (cs : List Char) :
    document? (fuel + 1) (c :: cs)
      = (literal? (c :: cs)).map (fun (literal, rest) => (.number (number? literal), rest)) := by
  have hne : ∀ d : Char, isDigit d = false → d ≠ '-' → c ≠ d := by
    rintro d hd hm rfl
    rcases hc with hc | hc
    · exact absurd hc (by simp [hd])
    · exact hm hc
  have hblank : isBlank c = false := by
    simp only [isBlank, Bool.or_eq_false_iff, decide_eq_false_iff_not]
    exact ⟨⟨⟨hne _ (by decide) (by decide), hne _ (by decide) (by decide)⟩,
      hne _ (by decide) (by decide)⟩, hne _ (by decide) (by decide)⟩
  rw [document?, skipBlanks_cons hblank]
  split
  all_goals first
    | rfl
    | (rename_i heq; injection heq with h1 _; exact absurd h1 (hne _ (by decide) (by decide)))

/-- A text in quotes is read as the text. -/
theorem document?_textChars (fuel : Nat) (s : String) (rest : List Char) :
    document? (fuel + 1) (textChars s ++ rest) = some (.text (some s), rest) := by
  have hopen : textChars s ++ rest = '"' :: (s.toList.flatMap escapeChar ++ '"' :: rest) := by
    simp [textChars]
  rw [hopen, document?, skipBlanks_cons (by decide)]
  show (text? (s.toList.flatMap escapeChar ++ '"' :: rest)).map _ = _
  rw [text?_textChars]
  rfl

mutual

/-- **A value written with a layout is read as its document.** -/
theorem document?_laid (l : Layout) : ∀ (v : Json) (level fuel : Nat) (rest : List Char),
    v.isExact = true → 2 * (laidChars l level v).length ≤ fuel → EndsNumber rest →
      document? fuel (laidChars l level v ++ rest) = some (.ofValue v, rest)
  -- There is always fuel left, since a value has at least one character.
  | v, level, 0, rest, hv, hf, _ => by
      obtain ⟨c, cs, hcs, _⟩ := head_laidChars l level hv
      rw [hcs] at hf
      exact absurd hf (by simp)
  | .null, level, fuel + 1, rest, _, _, _ => by
      rw [laidChars, Document.ofValue]
      rfl
  | .bool true, level, fuel + 1, rest, _, _, _ => by
      rw [laidChars, Document.ofValue]
      rfl
  | .bool false, level, fuel + 1, rest, _, _, _ => by
      rw [laidChars, Document.ofValue]
      rfl
  | .string s, level, fuel + 1, rest, _, _, _ => by
      rw [laidChars, Document.ofValue]
      exact document?_textChars fuel s rest
  | .number n, level, fuel + 1, rest, hv, _, hrest => by
      rw [isExact, allNumbers] at hv
      obtain ⟨c, cs, hcs, hc⟩ := numberChars_head hv
      obtain ⟨literal, hliteral, hnumber⟩ := literal?_numberChars hv hrest
      rw [laidChars, Document.ofValue]
      rw [hcs] at hliteral ⊢
      rw [List.cons_append, document?_number fuel hc, ← List.cons_append, hliteral]
      simp [hnumber]
  | .array [], level, fuel + 1, rest, _, _, _ => by
      rw [laidChars, Document.ofValue]
      rfl
  | .array (item :: more), level, fuel + 1, rest, hv, hf, _ => by
      simp only [isExact, allNumbers, allNumbersOf, Bool.and_eq_true] at hv
      rw [laidChars, List.length_cons] at hf
      have hitems := items?_laid l item more level fuel rest hv.1 hv.2 (by omega)
      obtain ⟨c, cs, hcs, hblank, hclose, _⟩ := head_laidChars l (level + 1) hv.1
      rw [laidChars, Document.ofValue, Document.ofValues, List.cons_append, document?,
        skipBlanks_cons (by decide)]
      simp only [List.append_assoc] at hitems ⊢
      -- The reader looks for a closing bracket first, and an item does not begin with one.
      rw [skipBlanks_append (l.line_blank (level + 1)), hcs, List.cons_append,
        skipBlanks_cons hblank]
      rw [hcs, List.cons_append] at hitems
      split
      · rename_i heq
        injection heq with h1 _
        exact absurd h1 hclose
      · rw [hitems]
        rfl
  | .object [], level, fuel + 1, rest, _, _, _ => by
      rw [laidChars, Document.ofValue]
      rfl
  | .object ((key, item) :: more), level, fuel + 1, rest, hv, hf, _ => by
      simp only [isExact, allNumbers, allNumbersIn, Bool.and_eq_true] at hv
      rw [laidChars, List.length_cons] at hf
      have hmembers := members?_laid l key item more level fuel rest hv.1 hv.2 (by omega)
      rw [laidChars, Document.ofValue, Document.ofMembers, List.cons_append, document?,
        skipBlanks_cons (by decide)]
      have hopen : ∀ tail, skipBlanks (l.line (level + 1) ++ (textChars key ++ tail))
          = '"' :: (key.toList.flatMap escapeChar ++ ('"' :: tail)) := by
        intro tail
        rw [skipBlanks_append (l.line_blank (level + 1)), textChars, List.cons_append,
          skipBlanks_cons (by decide)]
        simp
      simp only [List.append_assoc] at hmembers ⊢
      rw [hopen, hmembers]
      rfl

/-- An item with those after it. -/
theorem items?_laid (l : Layout) : ∀ (item : Json) (more : List Json) (level fuel : Nat)
    (rest : List Char), item.isExact = true → allNumbersOf Number.isExact more = true →
      2 * (l.line (level + 1) ++ (laidChars l (level + 1) item ++ laidItems l level more)).length
        ≤ fuel →
      items? fuel (l.line (level + 1) ++ (laidChars l (level + 1) item ++ laidItems l level more)
          ++ rest) = some (.ofValue item :: Document.ofValues more, rest)
  | item, more, level, 0, rest, hv, _, hf => by
      obtain ⟨c, cs, hcs, _⟩ := head_laidChars l (level + 1) hv
      rw [hcs] at hf
      exact absurd hf (by simp)
  | item, more, level, fuel + 1, rest, hv, hmore, hf => by
      simp only [List.length_append] at hf
      have hitem := document?_laid l item (level + 1) fuel (laidItems l level more ++ rest) hv
        (by
          cases more <;> simp only [laidItems, List.length_append, List.length_cons] at hf <;>
            omega)
        (endsNumber_laidItems l level more rest)
      simp only [List.append_assoc]
      rw [items?, document?_blanks (l.line_blank (level + 1)), hitem]
      dsimp only
      match more with
      | [] =>
          rw [laidItems, List.append_assoc, skipBlanks_append (l.line_blank level),
            List.cons_append, skipBlanks_cons (c := ']') (by decide), Document.ofValues]
          rfl
      | next :: after =>
          simp only [allNumbersOf, Bool.and_eq_true] at hmore
          rw [laidItems, List.length_cons] at hf
          have hnext := items?_laid l next after level fuel rest hmore.1 hmore.2 (by omega)
          rw [laidItems, List.cons_append, skipBlanks_cons (c := ',') (by decide),
            Document.ofValues]
          show (items? fuel _).map _ = _
          rw [hnext]
          rfl

/-- A member with those after it. -/
theorem members?_laid (l : Layout) : ∀ (key : String) (item : Json)
    (more : List (String × Json)) (level fuel : Nat) (rest : List Char),
      item.isExact = true → allNumbersIn Number.isExact more = true →
      2 * (l.line (level + 1) ++ (textChars key ++ ':' :: (l.gap
        ++ (laidChars l (level + 1) item ++ laidMembers l level more)))).length ≤ fuel →
      Reader.members? fuel (l.line (level + 1) ++ (textChars key ++ ':' :: (l.gap
          ++ (laidChars l (level + 1) item ++ laidMembers l level more))) ++ rest)
        = some ((some key, .ofValue item) :: Document.ofMembers more, rest)
  | key, item, more, level, 0, rest, hv, _, hf => by
      exact absurd hf (by simp [textChars])
  | key, item, more, level, fuel + 1, rest, hv, hmore, hf => by
      simp only [List.length_append, List.length_cons] at hf
      have hitem := document?_laid l item (level + 1) fuel (laidMembers l level more ++ rest) hv
        (by omega) (endsNumber_laidMembers l level more rest)
      have hkey : ∀ tail, textChars key ++ tail
          = '"' :: (key.toList.flatMap escapeChar ++ ('"' :: tail)) := by
        intro tail
        simp [textChars]
      simp only [List.append_assoc, List.cons_append]
      rw [Reader.members?, skipBlanks_append (l.line_blank (level + 1)), hkey,
        skipBlanks_cons (c := '"') (by decide)]
      simp only [text?_textChars, skipBlanks_cons (c := ':') (by decide),
        document?_blanks l.gap_blank, hitem]
      match more with
      | [] =>
          rw [laidMembers, List.append_assoc, skipBlanks_append (l.line_blank level),
            List.cons_append, skipBlanks_cons (by decide), Document.ofMembers]
          rfl
      | (next, other) :: after =>
          simp only [allNumbersIn, Bool.and_eq_true] at hmore
          rw [laidMembers, List.length_cons] at hf
          have hnext := members?_laid l next other after level fuel rest hmore.1 hmore.2 (by omega)
          rw [laidMembers, List.cons_append, skipBlanks_cons (by decide), Document.ofMembers]
          show (Reader.members? fuel _).map _ = _
          rw [hnext]
          rfl

end

/-! ## §5. Whole texts. -/

/-- The text of a value with any layout is read as its document. -/
theorem read?_laid (l : Layout) {v : Json} (hv : v.isExact = true) :
    Reader.read? (laidChars l 0 v) = some (Document.ofValue v) := by
  have hread := document?_laid l v 0 (2 * (laidChars l 0 v).length + 2) [] hv (by omega)
    endsNumber_nil
  rw [List.append_nil] at hread
  unfold Reader.read?
  rw [hread]
  rfl

end VxlanMesh.Json

namespace VxlanMesh.Document

open VxlanMesh.Json

/-- **What the indenting writer wrote is read back.** -/
theorem ofJsonText?_pretty {v : Json} (hv : v.isExact = true) :
    ofJsonText? v.pretty = some (ofValue v) := by
  unfold ofJsonText? Json.pretty
  rw [String.toList_ofList, prettyChars_eq_laid]
  exact read?_laid .pretty hv

/-- **What the one-line writer wrote is read back.** -/
theorem ofJsonText?_compact {v : Json} (hv : v.isExact = true) :
    ofJsonText? v.compact = some (ofValue v) := by
  unfold ofJsonText? Json.compact
  rw [String.toList_ofList, compactChars_eq_laid v 0]
  exact read?_laid .compact hv

/-! ## §6. Documents of lists. -/

/-- The documents of listed items are listed. -/
theorem ofValues_map {α : Type} (f : α → Json) (items : List α) :
    ofValues (items.map f) = items.map fun item => ofValue (f item) := by
  induction items with
  | nil => rfl
  | cons item rest ih => rw [List.map_cons, ofValues, ih]; rfl

/-- The documents of listed members are listed under their names. -/
theorem ofMembers_map {α : Type} (f : α → Json) (entries : List (String × α)) :
    ofMembers (entries.map (fun e => (e.1, f e.2)))
      = entries.map (fun e => (some e.1, ofValue (f e.2))) := by
  induction entries with
  | nil => rfl
  | cons e rest ih => rw [List.map_cons, ofMembers, ih]; rfl

end VxlanMesh.Document

namespace VxlanMesh

/-- A step that gives every item back gives the list back. -/
theorem mapM_eq_self {α : Type} {f : α → Option α} {items : List α} :
    (∀ x ∈ items, f x = some x) → items.mapM f = some items := by
  induction items with
  | nil => intro _; rfl
  | cons x rest ih =>
      intro h
      have hrest := ih fun y hy => h y (List.mem_cons_of_mem x hy)
      rw [List.mapM_cons, h x List.mem_cons_self, hrest]
      rfl

end VxlanMesh
