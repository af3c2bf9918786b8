/-
  VxlanMesh.Proofs.Shell.Arguments
  ────────────────────────────────
  **A LINE OF WORDS IS ONE COMMAND WITH THESE ARGUMENTS.**

  A line that is built from words whose fixed parts mean nothing to the
  shell (`Sound`) is one simple command, and each word arrives as the
  argument `heard`: its fixed part, then its quoted part without line
  feeds.  `argumentsOf?` is what the shell makes of such a line as texts.

      readWord_text              one word
      readSimple_words           the words after the first
      hears_words                the main result
-/
import Mathlib.Data.List.TakeDrop
import Mathlib.Data.List.TakeWhile
import VxlanMesh.Proofs.Shell.Quoting

namespace VxlanMesh.Shell

/-- The arguments of a line that is one simple command, as the shell hands them over. -/
def argumentsOf? (line : String) : Option (List String) :=
  match readLine? (ofText line) with
  | some (.ok (.simple [] words [], [])) =>
      match (expandWords patience words {}).1 with
      | .ok fields => fields.mapM readText?
      | .error _ => none
  | _ => none

/-- An unquoted word with such a character may stand for names of files. -/
def standsForFiles (c : Char) : Bool := c = '*' || c = '?' || c = '[' || c = '~'

/-- A piece of a word that the shell takes as it stands. -/
def Piece.IsPlain : Piece → Prop
  | .literal chars quoted => quoted = true ∨ ∀ c ∈ chars, standsForFiles c = false
  | .parameter .. | .size .. | .alternative .. | .arithmetic .. | .output .. => False

/-- **The line is one simple command with these arguments**: nothing is assigned, redirected or
left over, each piece of a word is taken as it stands, and in every state of the shell the
fields are the arguments. -/
def Hears (line : String) (arguments : List String) : Prop :=
  ∃ words, readLine? (ofText line) = some (.ok (.simple [] words [], [])) ∧
    (∀ word ∈ words, ∀ piece ∈ word, piece.IsPlain) ∧
    ∀ state, expandWords patience words state = (.ok (arguments.map ofText), state)

theorem mapM_readText? (texts : List String) : (texts.map ofText).mapM readText? = some texts := by
  induction texts with
  | nil => rfl
  | cons s rest ih =>
      rw [List.map_cons, List.mapM_cons, readText?_ofText, ih]
      rfl

/-- A line that is heard as arguments has these arguments and no others. -/
theorem argumentsOf?_of_hears {line : String} {arguments : List String}
    (h : Hears line arguments) : argumentsOf? line = some arguments := by
  obtain ⟨words, hread, -, hexpand⟩ := h
  rw [argumentsOf?, hread]
  dsimp only
  rw [hexpand]
  exact mapM_readText? arguments

/-! ## §1. Words that mean nothing to the shell. -/

/-- An ASCII character that stands for itself wherever it stands in a word. -/
def isInert (c : Char) : Bool := c.toNat < 128 && Place.free.isPlain c && c != '#'

theorem isInert_iff {c : Char} :
    isInert c = true ↔ c.toNat < 128 ∧ Place.free.isPlain c = true ∧ c ≠ '#' := by
  simp [isInert, and_assoc]

/-- Inert characters are their own bytes. -/
theorem ofText_inert {s : String} (h : ∀ c ∈ s.toList, isInert c = true) :
    ofText s = s.toList := by
  have hbytes : ∀ cs : List Char, (∀ c ∈ cs, isInert c = true) → cs.flatMap ofChar = cs := by
    intro cs hcs
    induction cs with
    | nil => rfl
    | cons c cs ih =>
        have hc := (isInert_iff.1 (hcs c List.mem_cons_self)).1
        rw [List.flatMap_cons, ofChar_of_lt hc, ih fun d hd => hcs d (List.mem_cons_of_mem c hd),
          List.singleton_append]
  rw [ofText_eq, hbytes _ h]

namespace Word

/-- The shell reads the word as it was meant. -/
structure Sound (w : Word) : Prop where
  /-- The fixed part means nothing to the shell. -/
  inert : ∀ c ∈ w.fixed.toList, isInert c = true
  /-- There is something of the word on the line. -/
  present : w.fixed ≠ "" ∨ w.quoted ≠ none

/-- The argument as which a word arrives. -/
def heard (w : Word) : String := w.fixed ++ (w.quoted.map joined).getD ""

/-- The piece that a fixed part is read as. -/
def fixedPieces (fixed : List Char) : List Piece :=
  if fixed.isEmpty then [] else [.literal fixed false]

/-- The piece that a quoted part is read as. -/
def quotedPieces (quoted : Option String) : List Piece :=
  (quoted.map fun s => .literal (ofText (joined s)) true).toList

/-- The pieces that a word is read as. -/
def pieces (w : Word) : List Piece := fixedPieces w.fixed.toList ++ quotedPieces w.quoted

/-- The bytes of a word: its fixed part, and its quoted part between quotes. -/
theorem ofText_text (w : Word) (h : w.Sound) : ofText w.text
    = w.fixed.toList ++ (w.quoted.map fun s => quoteChars (ofText s)).getD [] := by
  rw [text, ofText_append, ofText_inert h.inert]
  cases w.quoted with
  | none =>
      rw [Option.map_none, Option.map_none, Option.getD_none, Option.getD_none, ofText_eq]
      rfl
  | some s =>
      rw [Option.map_some, Option.map_some, Option.getD_some, Option.getD_some, ofText_quote]

end Word

/-! ## §2. Reading a word. -/

/-- A quoted part is read as one piece, and a missing one as none. -/
theorem readWord_quoted (n : Nat) (quoted : Option String) {rest : List Char}
    (h : EndsWord rest) :
    readWord (n + 2) .free ((quoted.map fun s => quoteChars (ofText s)).getD [] ++ rest)
      = .ok (Word.quotedPieces quoted, rest) := by
  cases quoted with
  | none => exact readWord_of_ends (n + 1) h
  | some s =>
      have hread := readWord_quoteChars n (ofText s) h
      rw [← ofText_joined] at hread
      exact hread

/-- Characters that have a property end before one that has not. -/
theorem span_append {p : Char → Bool} {run more : List Char} (hrun : ∀ c ∈ run, p c = true)
    (hmore : ∀ c ∈ more.head?, p c = false) : (run ++ more).span p = (run, more) := by
  rw [List.span_eq_takeWhile_dropWhile, List.takeWhile_append_of_pos hrun,
    List.dropWhile_append_of_pos hrun]
  cases more with
  | nil => rw [List.takeWhile_nil, List.dropWhile_nil, List.append_nil]
  | cons c more =>
      have hc : ¬ p c = true := Bool.eq_false_iff.1 (hmore c rfl)
      rw [List.takeWhile_cons_of_neg hc, List.dropWhile_cons_of_neg hc, List.append_nil]

/-- What follows inert characters decides how the word goes on. -/
theorem readWord_fixed (n : Nat) {fixed more rest : List Char} {pieces : List Piece}
    (hfixed : ∀ c ∈ fixed, isInert c = true)
    (hmore : ∀ c ∈ more.head?, Place.free.isPlain c = false)
    (hread : ∀ m, readWord (m + 2) .free more = .ok (pieces, rest)) :
    readWord (n + 3) .free (fixed ++ more) = .ok (Word.fixedPieces fixed ++ pieces, rest) := by
  cases fixed with
  | nil => exact hread (n + 1)
  | cons c cs =>
      have hplain : ∀ d ∈ c :: cs, Place.free.isPlain d = true := fun d hd =>
        (isInert_iff.1 (hfixed d hd)).2.1
      have hspan := span_append hplain hmore
      have hc : Place.free.ends c = false ∧ c ≠ '"' ∧ c ≠ '\\' ∧ c ≠ '$' ∧ c ≠ backquote ∧
          c ≠ '\'' := by
        simpa [Place.isPlain, Place.isQuoted, and_assoc] using hplain c List.mem_cons_self
      obtain ⟨hends, hquote, hbackslash, hdollar, hback, hsingle⟩ := hc
      rw [List.cons_append] at hspan ⊢
      rw [readWord, hends, if_neg Bool.false_ne_true, if_neg (by simp [hsingle]), if_neg hquote,
        if_neg hbackslash, if_neg (by simp [hdollar, hback]), hspan]
      show (readWord (n + 2) .free more).bind _ = _
      rw [hread]
      rfl

theorem isPlain_of_endsWord {c : Char} (h : endsWord c = true) :
    Place.free.isPlain c = false := by
  rw [Place.isPlain, Place.ends, h]
  rfl

/-- **A word is read as its pieces.** -/
theorem readWord_text (n : Nat) {w : Word} (hw : w.Sound) {rest : List Char}
    (h : EndsWord rest) :
    readWord (n + 3) .free (ofText w.text ++ rest) = .ok (w.pieces, rest) := by
  rw [w.ofText_text hw, List.append_assoc]
  refine readWord_fixed n hw.inert ?_ fun m => readWord_quoted m w.quoted h
  cases w.quoted with
  | none => exact fun c hc => isPlain_of_endsWord (h c hc)
  | some s =>
      intro c hc
      cases hc
      rfl

/-! ## §3. Reading a line. -/

/-- The bytes of words that follow others on a line. -/
def spaced (words : List Word) : List Char := words.flatMap fun w => ' ' :: ofText w.text

theorem endsWord_spaced (words : List Word) : EndsWord (spaced words) := by
  cases words with
  | nil => exact nofun
  | cons w rest =>
      intro c hc
      cases hc
      rfl

/-- Digits redirect nothing unless an angle bracket follows. -/
theorem redirectionAt?_eq_none {cs : List Char}
    (h : ∀ c ∈ cs.find? (!Numeral.isDigit ·), c ≠ '<' ∧ c ≠ '>') : redirectionAt? cs = none := by
  rw [List.find?_eq_head?_dropWhile_not] at h
  simp only [Bool.not_not] at h
  rw [redirectionAt?, List.span_eq_takeWhile_dropWhile]
  cases hrest : cs.dropWhile Numeral.isDigit with
  | nil => rfl
  | cons c rest =>
      obtain ⟨hless, hgreater⟩ := h c (by rw [hrest]; rfl)
      dsimp only
      split
      · rename_i heq; cases heq; exact absurd rfl hless
      · rename_i heq; cases heq; exact absurd rfl hgreater
      · rfl

/-- What a sound word puts on the line begins with an inert character or with its quotes. -/
theorem Word.Sound.begins {w : Word} (hw : w.Sound) : ∃ c cs, ofText w.text = c :: cs ∧
    endsWord c = false ∧ c ≠ '#' ∧ c ≠ '\\' := by
  rw [w.ofText_text hw]
  cases hfixed : w.fixed.toList with
  | cons c cs =>
      have hc := isInert_iff.1 (hw.inert c (by rw [hfixed]; exact List.mem_cons_self))
      have hplain := hc.2.1
      simp only [Place.isPlain, Place.ends, Bool.and_eq_true, Bool.not_eq_true',
        Bool.or_eq_false_iff, decide_eq_false_iff_not] at hplain
      exact ⟨c, _, List.cons_append, hplain.1.1, hc.2.2, hplain.1.2.1.1.2⟩
  | nil =>
      have hempty : w.fixed = "" := String.toList_inj.1 hfixed
      cases hquoted : w.quoted with
      | none => exact absurd hquoted (hw.present.resolve_left fun h => h hempty)
      | some s => exact ⟨'"', _, rfl, rfl, by decide, by decide⟩

/-- A sound word is no blank, no comment and no redirection. -/
theorem Word.Sound.stands {w : Word} (hw : w.Sound) (words : List Word) : ∃ c cs,
    ofText w.text ++ spaced words = c :: cs ∧ endsWord c = false ∧
      (∀ lines, skipSpace lines false (c :: cs) = c :: cs) ∧ redirectionAt? (c :: cs) = none := by
  obtain ⟨c, cs, htext, hends, hcomment, hbackslash⟩ := hw.begins
  refine ⟨c, cs ++ spaced words, by rw [htext, List.cons_append], hends, fun lines => ?_, ?_⟩
  · have hblank : c ≠ ' ' ∧ c ≠ '\t' ∧ c ≠ '\n' := by
      refine ⟨?_, ?_, ?_⟩ <;> rintro rfl <;> exact absurd hends (by decide)
    rw [skipSpace, if_neg (by simp [hblank]), if_neg hcomment]
    exact fun _ h => absurd h hbackslash
  · rw [← List.cons_append, ← htext]
    refine redirectionAt?_eq_none fun d hd => ?_
    rw [w.ofText_text hw, List.append_assoc, List.find?_append] at hd
    cases hfixed : w.fixed.toList.find? (!Numeral.isDigit ·) with
    | some e =>
        rw [hfixed] at hd
        cases hd
        have hinert := (isInert_iff.1 (hw.inert d (List.mem_of_find?_eq_some hfixed))).2.1
        constructor <;> rintro rfl <;> exact absurd hinert (by decide)
    -- The fixed part has nothing but digits, so what follows it decides.
    | none =>
        rw [hfixed, Option.none_or] at hd
        cases hquoted : w.quoted with
        | some s =>
            rw [hquoted] at hd
            cases hd
            decide
        | none =>
            rw [hquoted] at hd
            cases words with
            | nil => cases hd
            | cons v rest =>
                cases hd
                decide

/-- A word of a simple command, and what follows it. -/
theorem readSimple_word {n : Nat} {started : Bool} {text cs rest rest' : List Char} {c : Char}
    {word : List Piece} {parts : SimpleParts} (hskip : skipBlanks text = c :: cs)
    (hends : endsWord c = false) (hredirection : redirectionAt? (c :: cs) = none)
    (hassignment : started = true ∨ assignmentAt? (c :: cs) = none)
    (hword : readWord n .free (c :: cs) = .ok (word, rest))
    (hmore : readSimple n true rest = .ok (parts, rest')) :
    readSimple (n + 1) started text = .ok ((parts.1, word :: parts.2.1, parts.2.2), rest') := by
  have hassign : (if started = true then none else assignmentAt? (c :: cs)) = none := by
    rcases hassignment with rfl | h
    · rfl
    · rw [h, ite_self]
  rw [readSimple]
  simp only [hskip, hredirection]
  split
  · rename_i heq
    cases heq
  · rename_i heq
    cases heq
  · rename_i heq
    cases heq
    exact absurd hends (by decide)
  · rename_i d tail hopen _ heq
    cases heq
    rw [hends, if_neg Bool.false_ne_true, hassign]
    show (readWord n .free (c :: cs)).bind _ = _
    rw [hword]
    show (readSimple n true rest).bind _ = _
    rw [hmore]
    rfl

/-- **The words after the first** are read one by one. -/
theorem readSimple_words (n : Nat) {words : List Word} (hwords : ∀ w ∈ words, w.Sound) :
    readSimple (words.length + n + 3) true (spaced words)
      = .ok (([], words.map Word.pieces, []), []) := by
  induction words with
  | nil => rfl
  | cons w rest ih =>
      obtain ⟨c, cs, htext, hends, hskip, hredirection⟩ :=
        (hwords w List.mem_cons_self).stands rest
      have hspaced : skipBlanks (spaced (w :: rest)) = c :: cs := by
        rw [← hskip false, ← htext]
        rfl
      have hword := readWord_text (rest.length + n) (hwords w List.mem_cons_self)
        (endsWord_spaced rest)
      rw [htext] at hword
      have hlength : (w :: rest).length + n + 3 = rest.length + n + 3 + 1 := by
        rw [List.length_cons]
        omega
      rw [hlength]
      exact readSimple_word hspaced hends hredirection (.inl rfl) hword
        (ih fun v hv => hwords v (List.mem_cons_of_mem w hv))

theorem length_le_spaced (words : List Word) : words.length ≤ (spaced words).length := by
  induction words with
  | nil => exact Nat.le_refl 0
  | cons w rest ih =>
      rw [spaced, List.flatMap_cons, List.length_append, List.length_cons, List.length_cons]
      have hrest : rest.length ≤ (rest.flatMap fun w => ' ' :: ofText w.text).length := ih
      omega

/-- The first word names a tool by its path. -/
def Word.IsTool (tool : Word) : Prop := tool.Sound ∧ tool.fixed.toList.head? = some '/'

/-- A line that begins with a tool begins with a slash. -/
theorem Word.IsTool.stands {tool : Word} (htool : tool.IsTool) (words : List Word) : ∃ cs,
    ofText tool.text ++ spaced words = '/' :: cs ∧
      (∀ lines, skipSpace lines false ('/' :: cs) = '/' :: cs) ∧
      redirectionAt? ('/' :: cs) = none := by
  obtain ⟨c, cs, htext, -, hskip, hredirection⟩ := htool.1.stands words
  have hslash : some c = some '/' := by
    rw [← List.head?_cons (l := cs), ← htext, tool.ofText_text htool.1, List.append_assoc,
      List.head?_append, htool.2, Option.some_or]
  cases hslash
  exact ⟨cs, htext, hskip, hredirection⟩

/-- No reserved word begins with a slash. -/
theorem bareWord_ne {cs : List Char} {s : String} (hs : s.toList.head? ≠ some '/') :
    bareWord ('/' :: cs) ≠ s := by
  rintro rfl
  exact hs (by rw [bareWord, String.toList_ofList]; rfl)

/-- **A simple command** that begins with the path of a tool. -/
theorem readCommand_words (n : Nat) {tool : Word} {words : List Word} (htool : tool.IsTool)
    (hwords : ∀ w ∈ words, w.Sound) :
    readCommand (words.length + n + 5) (ofText tool.text ++ spaced words)
      = .ok (.simple [] ((tool :: words).map Word.pieces) [], []) := by
  obtain ⟨cs, htext, hskip, hredirection⟩ := htool.stands words
  have hreserved : ¬ reservedWords.contains (bareWord ('/' :: cs)) = true := by
    have hheads : ∀ s ∈ reservedWords, s.toList.head? ≠ some '/' := by decide
    exact fun h => bareWord_ne (hheads _ (List.contains_iff_mem.1 h)) rfl
  have hends : endsWord '/' = false := by decide
  have hsimple : readSimple (words.length + n + 4) false ('/' :: cs)
      = .ok (([], (tool :: words).map Word.pieces, []), []) := by
    have hword := readWord_text (words.length + n) htool.1 (endsWord_spaced words)
    rw [htext] at hword
    exact readSimple_word (hskip false) hends hredirection (.inr rfl) hword
      (readSimple_words n hwords)
  rw [htext, readCommand, skipBlanks, hskip]
  dsimp only
  rw [if_neg (bareWord_ne (by decide)), if_neg (bareWord_ne (by decide)),
    if_neg (by simp [bareWord_ne (show "while".toList.head? ≠ some '/' by decide),
      bareWord_ne (show "until".toList.head? ≠ some '/' by decide)]),
    if_neg (bareWord_ne (by decide)), if_neg hreserved, if_neg (by simp [hends])]
  show (readSimple (words.length + n + 4) false ('/' :: cs)).bind _ = _
  rw [hsimple]
  rfl

/-- The bytes of a line are those of its words with a space before each after the first. -/
theorem ofText_commandLine (tool : Word) (words : List Word) :
    ofText (commandLine (tool :: words)) = ofText tool.text ++ spaced words := by
  have hblank : ofText " " = [' '] := by rw [ofText_eq]; decide
  rw [commandLine]
  induction words generalizing tool with
  | nil => exact (List.append_nil _).symm
  | cons w rest ih =>
      rw [List.map_cons, List.map_cons, String.intercalate_cons_of_ne_nil (List.cons_ne_nil _ _),
        ofText_append, ofText_append, hblank, ← List.map_cons, ih, List.append_assoc]
      rfl

/-- **A line of words is one simple command.** -/
theorem readLine?_words {tool : Word} {words : List Word} (htool : tool.IsTool)
    (hwords : ∀ w ∈ words, w.Sound) : readLine? (ofText (commandLine (tool :: words)))
      = some (.ok (.simple [] ((tool :: words).map Word.pieces) [], [])) := by
  rw [ofText_commandLine]
  obtain ⟨cs, htext, hskip, -⟩ := htool.stands words
  obtain ⟨n, hn⟩ : ∃ n, fuelFor ('/' :: cs) = words.length + n + 8 := by
    have hlength := length_le_spaced words
    have htotal := congrArg List.length htext
    rw [List.length_append] at htotal
    exact ⟨16 * (('/' :: cs).length + 1) - words.length - 8, by rw [fuelFor]; omega⟩
  have hcommand := readCommand_words n htool hwords
  rw [htext] at hcommand ⊢
  -- A pipeline of one command, a chain of one pipeline, a line of one chain.
  have hpipeline : readPipeline (words.length + n + 6) ('/' :: cs)
      = .ok (.simple [] ((tool :: words).map Word.pieces) [], []) := by
    rw [readPipeline, skipBlanks, hskip]
    dsimp only
    rw [if_neg (bareWord_ne (by decide))]
    show (readCommand (words.length + n + 5) ('/' :: cs)).bind _ = _
    rw [hcommand]
    rfl
  have hchain : readChain (words.length + n + 7) ('/' :: cs)
      = .ok (.simple [] ((tool :: words).map Word.pieces) [], []) := by
    show (readPipeline (words.length + n + 6) ('/' :: cs)).bind _ = _
    rw [hpipeline]
    rfl
  rw [readLine?, skipLines, hskip]
  dsimp only
  rw [hn]
  show some ((readChain (words.length + n + 7) ('/' :: cs)).bind _) = _
  rw [hchain]
  rfl

/-! ## §4. Arguments. -/

theorem bind_ok {α β : Type} {action : Action α} {next : α → Action β} {s s' : ShellState} {a : α}
    (h : action s = (.ok a, s')) : (action >>= next) s = next a s' := by
  simp only [bind, ExceptT.bind, ExceptT.bindCont, ExceptT.mk, StateT.bind, h]

theorem Word.ofText_heard {w : Word} (hw : w.Sound) : ofText w.heard
    = w.fixed.toList ++ (w.quoted.map fun s => ofText (joined s)).getD [] := by
  rw [heard, ofText_append, ofText_inert hw.inert]
  cases w.quoted with
  | none =>
      rw [Option.map_none, Option.map_none, Option.getD_none, Option.getD_none, ofText_eq]
      rfl
  | some s => rfl

/-- **A word is one field**, the argument as which it arrives. -/
theorem expandWord_pieces (n : Nat) {w : Word} (hw : w.Sound) (state : ShellState) : ∃ gs,
    expandWord (n + 3) w.pieces state = (.ok gs, state) ∧
      splitFields none gs = [ofText w.heard] := by
  have hchars : ∀ (cs begun : List Char),
      splitFields (some begun) (cs.map .char ++ []) = [begun.reverse ++ cs] := by
    intro cs begun
    rw [splitFields_chars, splitFields, List.reverse_append, List.reverse_reverse]
  rw [Word.ofText_heard hw, Word.pieces]
  cases hfixed : w.fixed.toList with
  | nil =>
      have hempty : w.fixed = "" := String.toList_inj.1 hfixed
      cases hquoted : w.quoted with
      | none => exact absurd hquoted (hw.present.resolve_left fun h => h hempty)
      | some s => exact ⟨_, rfl, hchars (ofText (joined s)) []⟩
  | cons c cs =>
      cases w.quoted with
      | none => exact ⟨_, rfl, (hchars cs [c]).trans (by simp)⟩
      | some s =>
          refine ⟨_, rfl, ?_⟩
          show splitFields (some [c]) (cs.map .char ++ (glyphs true (ofText (joined s)) ++ [])) = _
          rw [splitFields_chars]
          exact (hchars (ofText (joined s)) (cs.reverse ++ [c])).trans (by simp)

/-- **Words are one field each.** Induction on the words. -/
theorem expandWords_pieces (n : Nat) {words : List Word} (hwords : ∀ w ∈ words, w.Sound)
    (state : ShellState) : expandWords (words.length + n + 4) (words.map Word.pieces) state
      = (.ok (words.map fun w => ofText w.heard), state) := by
  induction words with
  | nil => rfl
  | cons w rest ih =>
      obtain ⟨gs, hword, hfields⟩ :=
        expandWord_pieces (rest.length + n + 1) (hwords w List.mem_cons_self) state
      have hlength : (w :: rest).length + n + 4 = rest.length + n + 4 + 1 := by
        rw [List.length_cons]
        omega
      have hrest := ih fun v hv => hwords v (List.mem_cons_of_mem w hv)
      rw [hlength, List.map_cons, List.map_cons]
      show (expandWord (rest.length + n + 4) w.pieces >>= fun gs =>
        expandWords (rest.length + n + 4) (rest.map Word.pieces) >>= fun more =>
          pure (splitFields none gs ++ more)) state = _
      rw [bind_ok hword, bind_ok hrest, hfields]
      rfl

/-- Only the fixed part of a word is not in quotes. -/
theorem Word.isPlain_pieces {w : Word}
    (h : ∀ c ∈ w.fixed.toList, standsForFiles c = false) : ∀ piece ∈ w.pieces, piece.IsPlain := by
  intro piece hpiece
  rcases List.mem_append.1 hpiece with hfixed | hquoted
  · rw [fixedPieces] at hfixed
    split at hfixed
    · cases hfixed
    · rw [List.mem_singleton.1 hfixed]
      exact .inr h
  · obtain ⟨s, -, rfl⟩ := Option.map_eq_some_iff.1 (Option.mem_toList.1 hquoted)
    exact .inl rfl

/-- **A line of words is heard as these words.** -/
theorem hears_words {tool : Word} {words : List Word} (htool : tool.IsTool)
    (hsound : ∀ w ∈ tool :: words, w.Sound)
    (hplain : ∀ w ∈ tool :: words, ∀ c ∈ w.fixed.toList, standsForFiles c = false)
    (hfew : (tool :: words).length + 4 ≤ patience) :
    Hears (commandLine (tool :: words)) ((tool :: words).map Word.heard) := by
  have hread := readLine?_words htool fun w hw => hsound w (List.mem_cons_of_mem tool hw)
  refine ⟨_, hread, ?_, fun state => ?_⟩
  · exact List.forall_mem_map.2 fun w hw => Word.isPlain_pieces (hplain w hw)
  · obtain ⟨n, hn⟩ : ∃ n, patience = (tool :: words).length + n + 4 :=
      ⟨patience - (tool :: words).length - 4, by omega⟩
    rw [hn, expandWords_pieces n hsound, List.map_map]
    rfl

end VxlanMesh.Shell
