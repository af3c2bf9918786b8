/-
  VxlanMesh.Text.Pattern
  ────────────────────────────────
  **FINDING TEXT IN TEXT, AND LINES.**

      contains     a pattern occurs somewhere in a text
      startsWith   a text begins with a pattern
      lines        the lines of a text, without their line ends
      Occurs       what `contains` decides, by what stands around it
-/

namespace VxlanMesh.Text

/-! ## §1. Occurrence. -/

/-- The pattern begins at some position of the characters. -/
def occurs (pattern : List Char) : List Char → Bool
  | [] => pattern.isEmpty
  | c :: cs => pattern.isPrefixOf (c :: cs) || occurs pattern cs

/-- The pattern occurs in the text. -/
def contains (text pattern : String) : Bool := occurs pattern.toList text.toList

/-- The text begins with the pattern. -/
def startsWith (text pattern : String) : Bool := pattern.toList.isPrefixOf text.toList

/-- Occurrence is being a contiguous part. -/
theorem occurs_iff (pattern cs : List Char) :
    occurs pattern cs = true ↔ ∃ before after, cs = before ++ pattern ++ after := by
  induction cs with
  | nil =>
    simp only [occurs, List.isEmpty_iff]
    constructor
    · rintro rfl; exact ⟨[], [], rfl⟩
    · rintro ⟨before, after, h⟩
      have h := congrArg List.length h
      simp only [List.length_nil, List.length_append] at h
      exact List.eq_nil_of_length_eq_zero (by omega)
  | cons c cs ih =>
    simp only [occurs, Bool.or_eq_true, ih, List.isPrefixOf_iff_prefix]
    constructor
    · rintro (⟨after, h⟩ | ⟨before, after, rfl⟩)
      · exact ⟨[], after, by simpa using h.symm⟩
      · exact ⟨c :: before, after, by simp⟩
    · rintro ⟨before, after, h⟩
      cases before with
      | nil => exact Or.inl ⟨after, by simpa using h.symm⟩
      | cons b before =>
        simp only [List.cons_append, List.cons.injEq] at h
        exact Or.inr ⟨before, after, h.2⟩

/-- The pattern stands somewhere in the text, with something or nothing around it. -/
def Occurs (pattern text : String) : Prop :=
  ∃ before after, text.toList = before ++ pattern.toList ++ after

/-- What is found is what occurs. -/
theorem contains_iff {text pattern : String} :
    contains text pattern = true ↔ Occurs pattern text :=
  occurs_iff pattern.toList text.toList

instance (pattern text : String) : Decidable (Occurs pattern text) :=
  decidable_of_iff _ contains_iff

/-! ## §2. Pieces and lines. -/

/-- The pieces between the places where `separator` stands; there is always one. -/
def pieces (separator : Char) : List Char → List (List Char)
  | [] => [[]]
  | c :: cs =>
      if c = separator then [] :: pieces separator cs
      else match pieces separator cs with
        | [] => [[c]]
        | piece :: more => (c :: piece) :: more

/-- Drop one carriage return at the end. -/
def dropReturn (line : List Char) : List Char :=
  if line.getLast? == some '\r' then line.dropLast else line

/-- Pieces as lines: what follows the last line feed counts only if it is not empty, and a
carriage return before a line feed belongs to the line end. -/
def linesOfPieces : List (List Char) → List (List Char)
  | [] => []
  | [last] => if last.isEmpty then [] else [last]
  | piece :: more => dropReturn piece :: linesOfPieces more

/-- The lines of a text, without their line ends. -/
def lines (s : String) : List String :=
  (linesOfPieces (pieces '\n' s.toList)).map String.ofList

end VxlanMesh.Text
