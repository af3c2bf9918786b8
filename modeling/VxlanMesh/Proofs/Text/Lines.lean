/-
  VxlanMesh.Proofs.Text.Lines
  ────────────────────────────────
  **PIECES OF TEXTS, AND LINES THAT ARE PRINTED ARE READ BACK.**

  A separator parts the pieces before it from those after it.  Texts
  without line feeds, each followed by one, are the lines of what is
  printed.  A carriage return at the end of a line belongs to the line
  end, so only texts without one there come back as they were; texts that
  are trimmed are such.

      pieces_append      the pieces of two texts with a separator between
      trimChars_around   what trimming leaves of a text between blanks
      lines_join         the lines of what is printed
-/
import Mathlib.Data.List.TakeWhile
import VxlanMesh.Text.Blank
import VxlanMesh.Text.Pattern

namespace VxlanMesh.Text

/-! ## §1. Pieces. -/

/-- A text without a separator is one piece. -/
theorem pieces_of_not_mem {separator : Char} : ∀ {cs : List Char}, separator ∉ cs →
    pieces separator cs = [cs] := by
  intro cs
  induction cs with
  | nil => intro _; rfl
  | cons c cs ih =>
      intro h
      have hc : c ≠ separator := fun same => h (same ▸ List.mem_cons_self)
      rw [pieces, if_neg hc, ih fun mem => h (List.mem_cons_of_mem c mem)]

theorem pieces_ne_nil (separator : Char) (cs : List Char) : pieces separator cs ≠ [] := by
  cases cs with
  | nil => simp [pieces]
  | cons c cs =>
      rw [pieces]
      split
      · simp
      · cases pieces separator cs <;> simp

/-- A separator divides the pieces before it from those after it. -/
theorem pieces_append (separator : Char) (after : List Char) : ∀ before : List Char,
    pieces separator (before ++ separator :: after)
      = pieces separator before ++ pieces separator after := by
  intro before
  induction before with
  | nil => simp [pieces]
  | cons c before ih =>
      rw [List.cons_append, pieces, pieces, ih]
      split
      · rfl
      · cases h : pieces separator before with
        | nil => exact absurd h (pieces_ne_nil separator before)
        | cons piece more => rfl

/-- The lines of texts that each end a line. -/
theorem linesOfPieces_flatMap {texts : List (List Char)} (h : ∀ cs ∈ texts, '\n' ∉ cs) :
    linesOfPieces (pieces '\n' (texts.flatMap (· ++ ['\n']))) = texts.map dropReturn := by
  induction texts with
  | nil => rfl
  | cons cs rest ih =>
      rw [List.flatMap_cons, List.append_assoc, List.singleton_append, pieces_append,
        pieces_of_not_mem (h cs List.mem_cons_self), List.singleton_append, List.map_cons,
        ← ih fun other hother => h other (List.mem_cons_of_mem cs hother)]
      -- What follows a line feed is a piece, be it empty, so this one is not the last.
      cases hmore : pieces '\n' (rest.flatMap (· ++ ['\n'])) with
      | nil => exact absurd hmore (pieces_ne_nil _ _)
      | cons piece more => rw [linesOfPieces]; exact nofun

/-! ## §2. Trimmed texts. -/

theorem isBlank_getLast?_trimChars {cs : List Char} {c : Char}
    (h : (trimChars cs).getLast? = some c) : isBlank c = false := by
  rw [trimChars, trimRight, List.getLast?_reverse] at h
  have hhead := List.head?_dropWhile_not isBlank (trimLeft cs).reverse
  rw [h] at hhead
  exact hhead

/-- A trimmed text does not end with a carriage return. -/
theorem dropReturn_of_trim {s : String} (h : trim s = s) : dropReturn s.toList = s.toList := by
  have hchars : trimChars s.toList = s.toList := by
    rw [← String.toList_ofList (l := trimChars s.toList)]
    exact congrArg String.toList h
  rw [dropReturn, if_neg fun hreturn => ?_]
  have hlast : (trimChars s.toList).getLast? = some '\r' := by
    rw [hchars]
    exact beq_iff_eq.1 hreturn
  exact absurd (isBlank_getLast?_trimChars hlast) (by decide)

/-- What trimming drops are blanks. -/
theorem trimChars_split (cs : List Char) : ∃ before after, cs = before ++ trimChars cs ++ after ∧
    (∀ c ∈ before, isBlank c = true) ∧ ∀ c ∈ after, isBlank c = true := by
  have hleft : cs = cs.takeWhile isBlank ++ trimLeft cs := List.takeWhile_append_dropWhile.symm
  have hright : trimLeft cs
      = trimChars cs ++ ((trimLeft cs).reverse.takeWhile isBlank).reverse := by
    rw [trimChars, trimRight, ← List.reverse_append, List.takeWhile_append_dropWhile,
      List.reverse_reverse]
  refine ⟨cs.takeWhile isBlank, ((trimLeft cs).reverse.takeWhile isBlank).reverse, ?_,
    fun c hc => List.mem_takeWhile_imp hc,
    fun c hc => List.mem_takeWhile_imp (List.mem_reverse.1 hc)⟩
  rw [List.append_assoc, ← hright, ← hleft]

/-- Blanks around a text are dropped, and no more if it neither begins nor ends with one. -/
theorem trimChars_around {before cs after : List Char} (hne : cs ≠ [])
    (hbefore : ∀ c ∈ before, isBlank c = true) (hafter : ∀ c ∈ after, isBlank c = true)
    (hfirst : ∀ c ∈ cs.head?, isBlank c = false) (hlast : ∀ c ∈ cs.getLast?, isBlank c = false) :
    trimChars (before ++ cs ++ after) = cs := by
  have hstop : ∀ (ds more : List Char), ds ≠ [] → (∀ c ∈ ds.head?, isBlank c = false) →
      (ds ++ more).dropWhile isBlank = ds ++ more := by
    intro ds more hds hhead
    cases ds with
    | nil => exact absurd rfl hds
    | cons d ds =>
        exact List.dropWhile_cons_of_neg (Bool.eq_false_iff.1 (hhead d rfl))
  have hleft : trimLeft (before ++ cs ++ after) = cs ++ after := by
    rw [trimLeft, List.append_assoc, List.dropWhile_append_of_pos hbefore,
      hstop cs after hne hfirst]
  have hreversed : ∀ c ∈ after.reverse, isBlank c = true :=
    fun c hc => hafter c (List.mem_reverse.1 hc)
  have hend := hstop cs.reverse [] (List.reverse_ne_nil_iff.2 hne)
    (by rw [List.head?_reverse]; exact hlast)
  rw [List.append_nil] at hend
  rw [trimChars, hleft, trimRight, List.reverse_append, List.dropWhile_append_of_pos hreversed,
    hend, List.reverse_reverse]

/-! ## §3. Lines. -/

/-- **Printed lines are read back.** -/
theorem lines_join {texts : List String} (h : ∀ s ∈ texts, '\n' ∉ s.toList ∧ trim s = s) :
    lines (String.join (texts.map (· ++ "\n"))) = texts := by
  have hprinted : (String.join (texts.map (· ++ "\n"))).toList
      = (texts.map String.toList).flatMap (· ++ ['\n']) := by
    rw [String.toList_join, List.flatMap_map, List.flatMap_map]
    refine congrArg (List.flatMap · texts) (funext fun s => ?_)
    exact String.toList_append
  have hfeed : ∀ cs ∈ texts.map String.toList, '\n' ∉ cs :=
    List.forall_mem_map.2 fun s hs => (h s hs).1
  rw [lines, hprinted, linesOfPieces_flatMap hfeed, List.map_map, List.map_map]
  calc texts.map ((String.ofList ∘ dropReturn) ∘ String.toList)
      = texts.map id := List.map_congr_left fun s hs => by
          show String.ofList (dropReturn s.toList) = s
          rw [dropReturn_of_trim (h s hs).2, String.ofList_toList]
    _ = texts := List.map_id texts

end VxlanMesh.Text
