/-
  VxlanMesh.Text.Blank
  ────────────────────────────────
  **BLANK CHARACTERS AND TRIMMING.**

  A character is blank when it has the Unicode property `White_Space`:
  the six ASCII blanks (vertical tab included), NEL, the no-break space
  and the spaces and separators beyond Latin-1.  `trim` drops blanks at
  both ends and leaves those between other characters alone.
-/

namespace VxlanMesh.Text

/-! ## §1. The property. -/

/-- The character has the property `White_Space`. -/
def isBlank (c : Char) : Bool :=
  let n := c.toNat
  (0x09 ≤ n && n ≤ 0x0D) || n == 0x20 || n == 0x85 || n == 0xA0 || n == 0x1680
    || (0x2000 ≤ n && n ≤ 0x200A) || n == 0x2028 || n == 0x2029 || n == 0x202F
    || n == 0x205F || n == 0x3000

/-! ## §2. Trimming. -/

/-- Drop blanks at the start. -/
def trimLeft (cs : List Char) : List Char := cs.dropWhile isBlank

/-- Drop blanks at the end. -/
def trimRight (cs : List Char) : List Char := (cs.reverse.dropWhile isBlank).reverse

/-- Drop blanks at both ends. -/
def trimChars (cs : List Char) : List Char := trimRight (trimLeft cs)

/-- Drop blanks at both ends of a text. -/
def trim (s : String) : String := String.ofList (trimChars s.toList)

end VxlanMesh.Text
