/-
  VxlanMesh.Proofs.Shell.Quoting
  ────────────────────────────────
  **A QUOTED TEXT IS ONE ARGUMENT, BUT LOSES ITS LINE FEEDS.**

  The shell reads bytes, so a quoted text is compared with the bytes of
  the text: all characters that matter to it are ASCII, and the bytes of
  other characters are none of them.

  Between double quotes a backslash makes `$`, backquote, `"` and
  backslash plain, but before a line feed it goes together with the line
  feed.  Quoting puts a backslash before all five.

      ofText_quote          quoting texts is quoting bytes
      readWord_quoteChars   what the reader makes of quoted characters
      quote_is_heard        the main result
-/
import VxlanMesh.Shell.Execution
import VxlanMesh.Shell.Quote

namespace VxlanMesh.Shell

/-! ## §1. Texts as bytes. -/

/-- The bytes from a place on are read one after the other. -/
theorem toList_loop (bytes : ByteArray) (i : Nat) (read : List UInt8) :
    ByteArray.toList.loop bytes i read = read.reverse ++ bytes.data.toList.drop i := by
  fun_induction ByteArray.toList.loop bytes i read with
  | case1 i read h ih =>
      have hi : i < bytes.data.toList.length := h
      have hget : bytes.get! i = bytes.data.toList[i] := getElem!_pos bytes.data i h
      rw [ih, List.drop_eq_getElem_cons hi, List.reverse_cons, List.append_assoc, hget,
        List.singleton_append]
  | case2 i read h => rw [List.drop_eq_nil_of_le (Nat.not_lt.1 h), List.append_nil]

/-- The characters that stand for the bytes of a character. -/
def ofChar (c : Char) : List Char :=
  (String.utf8EncodeChar c).map fun byte => Char.ofNat byte.toNat

theorem toList_bytes (bytes : ByteArray) : bytes.toList = bytes.data.toList := by
  rw [ByteArray.toList, toList_loop, List.reverse_nil, List.nil_append, List.drop_zero]

/-- The bytes of a text are those of its characters. -/
theorem ofText_eq (s : String) : ofText s = s.toList.flatMap ofChar := by
  have hbytes : (Text.Utf8.encode s).toList = s.toList.flatMap String.utf8EncodeChar := by
    rw [toList_bytes, Text.Utf8.encode, String.toUTF8, ← String.utf8Encode_toList,
      List.utf8Encode, List.toList_data_toByteArray]
  rw [ofText, hbytes, List.map_flatMap]
  rfl

theorem ofText_append (s t : String) : ofText (s ++ t) = ofText s ++ ofText t := by
  rw [ofText_eq, ofText_eq, ofText_eq, String.toList_append, List.flatMap_append]

theorem toNat_byte (byte : UInt8) : (Char.ofNat byte.toNat).toNat = byte.toNat := by
  have hvalid : byte.toNat.isValidChar := Or.inl (Nat.lt_trans byte.toNat_lt (by decide))
  rw [Char.ofNat, dif_pos hvalid]
  rfl

/-- The text whose bytes characters stand for, if there is one. -/
def readText? (cs : List Char) : Option String :=
  Text.Utf8.decode? ⟨(toBytes cs.toArray).toArray⟩

/-- A text is read back from its bytes. -/
theorem readText?_ofText (s : String) : readText? (ofText s) = some s := by
  have hbyte : ∀ byte : UInt8, (Char.ofNat byte.toNat).toNat.toUInt8 = byte := fun byte => by
    rw [toNat_byte]
    exact UInt8.ofNat_toNat
  have hbytes : toBytes (ofText s).toArray = (Text.Utf8.encode s).data.toList := by
    rw [toBytes, ofText, List.map_map, toList_bytes]
    exact (List.map_congr_left fun byte _ => hbyte byte).trans (List.map_id _)
  rw [readText?, hbytes]
  exact Text.Utf8.decode?_encode s

/-- No two texts have the same bytes. -/
theorem ofText_injective {s t : String} (h : ofText s = ofText t) : s = t := by
  rw [← Option.some.injEq, ← readText?_ofText, h, readText?_ofText]

/-- An ASCII character is one byte, which is itself. -/
theorem ofChar_of_lt {c : Char} (h : c.toNat < 128) : ofChar c = [c] := by
  have hc : c.val.toNat < 128 := h
  have hbyte : (UInt8.ofNat c.val.toNat).toNat = c.toNat := by
    rw [UInt8.toNat_ofNat', Nat.mod_eq_of_lt (by omega)]
    rfl
  rw [ofChar, String.utf8EncodeChar, if_pos (Nat.lt_succ_iff.1 hc), List.map_singleton, hbyte,
    Char.ofNat_toNat]

/-- No byte of another character is an ASCII character. -/
theorem le_of_mem_ofChar {c d : Char} (h : 128 ≤ c.toNat) (hd : d ∈ ofChar c) :
    128 ≤ d.toNat := by
  obtain ⟨byte, hbyte, rfl⟩ := List.mem_map.1 hd
  have hc : ¬ c.val.toNat ≤ 127 := Nat.not_le.2 h
  rw [toNat_byte]
  grind [String.utf8EncodeChar, UInt8.toNat_ofNat']

/-- Characters beyond ASCII mean nothing to the shell. -/
theorem quoteChar_of_le {c : Char} (h : 128 ≤ c.toNat) : quoteChar c = [c] := by
  refine if_neg fun hneeds => ?_
  simp only [needsBackslash, Bool.or_eq_true, decide_eq_true_eq] at hneeds
  rcases hneeds with (((rfl | rfl) | rfl) | rfl) | rfl <;> exact absurd h (by decide)

/-- Quoting a character is quoting its bytes. -/
theorem flatMap_quoteChar (c : Char) :
    (quoteChar c).flatMap ofChar = (ofChar c).flatMap quoteChar := by
  by_cases h : c.toNat < 128
  · rw [ofChar_of_lt h, List.flatMap_singleton, quoteChar]
    split
    · rw [List.flatMap_cons, List.flatMap_singleton, ofChar_of_lt h, ofChar_of_lt (by decide)]
      rfl
    · rw [List.flatMap_singleton, ofChar_of_lt h]
  · have hbytes : ∀ cs : List Char, (∀ d ∈ cs, 128 ≤ d.toNat) → cs.flatMap quoteChar = cs := by
      intro cs hcs
      induction cs with
      | nil => rfl
      | cons d cs ih =>
          rw [List.flatMap_cons, ih fun e he => hcs e (List.mem_cons_of_mem d he),
            quoteChar_of_le (hcs d List.mem_cons_self), List.singleton_append]
    have hc := Nat.not_lt.1 h
    rw [quoteChar_of_le hc, List.flatMap_singleton, hbytes _ fun d => le_of_mem_ofChar hc]

/-- **Quoting a text is quoting its bytes.** -/
theorem ofText_quote (s : String) : ofText (quote s) = quoteChars (ofText s) := by
  have hquote : ofChar '"' = ['"'] := ofChar_of_lt (by decide)
  rw [ofText_eq, ofText_eq, quote, String.toList_ofList, quoteChars, quoteChars,
    List.flatMap_cons, List.flatMap_append, List.flatMap_singleton, hquote, List.flatMap_assoc,
    List.flatMap_assoc, List.singleton_append]
  simp only [flatMap_quoteChar]

/-- A text without its line feeds. -/
def joined (s : String) : String := String.ofList (s.toList.filter (· != '\n'))

/-- A text is heard as it is if and only if it has no line feed. -/
theorem joined_eq_self {s : String} : joined s = s ↔ '\n' ∉ s.toList := by
  rw [joined, ← String.toList_inj, String.toList_ofList, List.filter_eq_self]
  exact ⟨fun h hmem => absurd (h _ hmem) (by decide), fun h c hc =>
    bne_iff_ne.2 fun heq => h (heq ▸ hc)⟩

/-- The bytes of a text without its line feeds. -/
theorem ofText_joined (s : String) : ofText (joined s) = (ofText s).filter (· != '\n') := by
  rw [ofText_eq, ofText_eq, joined, String.toList_ofList]
  induction s.toList with
  | nil => rfl
  | cons c cs ih =>
      rw [List.flatMap_cons, List.filter_append, ← ih, List.filter_cons]
      by_cases h : c.toNat < 128
      · rw [ofChar_of_lt h, List.filter_cons]
        cases c != '\n'
        · rfl
        · rw [if_pos rfl, List.flatMap_cons, ofChar_of_lt h]
          rfl
      · have hne : ∀ d : Char, 128 ≤ d.toNat → (d != '\n') = true := fun d hd =>
          bne_iff_ne.2 fun heq => absurd (heq ▸ hd) (by decide)
        have hc := Nat.not_lt.1 h
        rw [if_pos (hne c hc), List.flatMap_cons,
          List.filter_eq_self.2 fun d hd => hne d (le_of_mem_ofChar hc hd)]

/-! ## §2. Reading. -/

/-- A word that stands before this rest ends there. -/
def EndsWord (rest : List Char) : Prop := ∀ c ∈ rest.head?, endsWord c = true

/-- **Between double quotes the reader undoes the quoting of a character**, unless it is a
line feed, which it drops. -/
theorem quotedRun_quoteChar (c : Char) (rest : List Char) :
    quotedRun (quoteChar c ++ rest)
      = ([c].filter (· != '\n') ++ (quotedRun rest).1, (quotedRun rest).2) := by
  by_cases h : needsBackslash c = true
  · rw [quoteChar, if_pos h, List.cons_append, List.singleton_append, quotedRun]
    simp only [needsBackslash, Bool.or_eq_true, decide_eq_true_eq] at h
    rcases h with (((rfl | rfl) | rfl) | rfl) | rfl <;> rfl
  · have hends : endsQuoted c = false ∧ c ≠ '\\' ∧ c ≠ '\n' := by
      grind [needsBackslash, endsQuoted, backquote]
    rw [quoteChar, if_neg h, List.singleton_append, quotedRun, hends.1]
    · simp [hends.2.2]
    · exact fun _ _ hbackslash => absurd hbackslash hends.2.1

/-- Between double quotes the reader undoes the quoting up to the closing quote. -/
theorem quotedRun_quoteChars (cs rest : List Char) :
    quotedRun (cs.flatMap quoteChar ++ '"' :: rest) = (cs.filter (· != '\n'), '"' :: rest) := by
  induction cs with
  | nil => rfl
  | cons c cs ih =>
      rw [List.flatMap_cons, List.append_assoc, quotedRun_quoteChar, ih, ← List.filter_append,
        List.singleton_append]

theorem readQuoted_quoteChars (n : Nat) (cs rest : List Char) :
    readQuoted (n + 1) (cs.flatMap quoteChar ++ '"' :: rest)
      = .ok ([.literal (cs.filter (· != '\n')) true], rest) := by
  rw [readQuoted, quotedRun_quoteChars]
  rfl

theorem readWord_of_ends (n : Nat) {rest : List Char} (h : EndsWord rest) :
    readWord (n + 1) .free rest = .ok ([], rest) := by
  cases rest with
  | nil => rfl
  | cons c rest =>
      have hends : Place.free.ends c = true := h c rfl
      rw [readWord, if_pos hends]
      rfl

/-- **Quoted characters are one literal piece of a word.** -/
theorem readWord_quoteChars (n : Nat) (cs : List Char) {rest : List Char} (h : EndsWord rest) :
    readWord (n + 2) .free (quoteChars cs ++ rest)
      = .ok ([.literal (cs.filter (· != '\n')) true], rest) := by
  have hquote : quoteChars cs ++ rest = '"' :: (cs.flatMap quoteChar ++ '"' :: rest) := by
    rw [quoteChars, List.cons_append, List.append_assoc, List.singleton_append]
  rw [hquote, readWord, if_neg (by decide), if_neg (by decide), if_pos rfl,
    readQuoted_quoteChars]
  show (readWord (n + 1) .free rest).bind _ = _
  rw [readWord_of_ends n h]
  rfl

/-- **A quoted text is a word.** -/
theorem readWords_quote (s : String) :
    readWords (fuelFor (ofText (quote s))) (ofText (quote s))
      = .ok ([[.literal (ofText (joined s)) true]], []) := by
  obtain ⟨n, hn⟩ : ∃ n, fuelFor (ofText (quote s)) = n + 3 :=
    ⟨16 * (ofText (quote s)).length + 13, by rw [fuelFor]; omega⟩
  have hread := readWord_quoteChars n (ofText s) (show EndsWord [] from nofun)
  rw [List.append_nil] at hread
  rw [hn, ofText_quote, ofText_joined]
  show (readWord (n + 2) .free (quoteChars (ofText s))).bind _ = _
  rw [hread]
  rfl

/-- Characters go on with the field that has been begun. -/
theorem splitFields_chars (cs begun : List Char) (gs : List Glyph) :
    splitFields (some begun) (cs.map .char ++ gs)
      = splitFields (some (cs.reverse ++ begun)) gs := by
  induction cs generalizing begun with
  | nil => rfl
  | cons c cs ih =>
      rw [List.map_cons, List.cons_append, splitFields, Option.getD_some, ih, List.reverse_cons,
        List.append_assoc, List.singleton_append]

/-- **A literal piece in quotes is one field as it stands**, in every state of the shell. -/
theorem expandWords_literal (n : Nat) (cs : List Char) (state : ShellState) :
    expandWords (n + 3) [[.literal cs true]] state = (.ok [cs], state) := by
  have hfields : splitFields none (glyphs true cs ++ []) = [cs] := by
    show splitFields (some []) (cs.map .char ++ []) = [cs]
    rw [splitFields_chars, splitFields, List.append_nil, List.reverse_reverse]
  show (Except.ok (splitFields none (glyphs true cs ++ []) ++ []), state) = _
  rw [hfields]
  rfl

/-- **What the shell hears of a quoted text.**  It is one word with nothing to expand, and the
argument is the text without its line feeds; so quoting is faithful for the texts without
line feeds, and for no others. -/
theorem quote_is_heard (s : String) :
    let line := ofText (quote s)
    let argument := ofText (joined s)
    readWords (fuelFor line) line = .ok ([[.literal argument true]], []) ∧
      (∀ more state, expandWords (more + 3) [[.literal argument true]] state
        = (.ok [argument], state)) ∧
      (argument = ofText s ↔ '\n' ∉ s.toList) := by
  intro line argument
  refine ⟨readWords_quote s, fun more => expandWords_literal more argument, ?_⟩
  rw [← joined_eq_self]
  exact ⟨ofText_injective, congrArg ofText⟩

/-- A text of two lines arrives as one line. -/
theorem line_feed_is_not_heard :
    let line := ofText (quote "line1\nline2")
    let argument := ofText "line1line2"
    readWords (fuelFor line) line = .ok ([[.literal argument true]], []) ∧
      (∀ state, expandWords patience [[.literal argument true]] state
        = (.ok [argument], state)) ∧
      argument ≠ ofText "line1\nline2" := by
  intro line argument
  have hjoined : joined "line1\nline2" = "line1line2" := by decide
  have hread := readWords_quote "line1\nline2"
  rw [hjoined] at hread
  exact ⟨hread, expandWords_literal 999997 argument,
    fun h => absurd (ofText_injective h) (by decide)⟩

end VxlanMesh.Shell
