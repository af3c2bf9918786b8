/-
  VxlanMesh.Shell.Quote
  ────────────────────────────────
  **TEXT AS ONE SHELL WORD.**

  A text is put between double quotes, with a backslash before each
  character that the shell would act on there: dollar, backquote, double
  quote, backslash and line feed.

  A `Word` of a command is a fixed part followed by a quoted one; its
  `text` is what the command line holds, its `value` the argument meant.
-/

namespace VxlanMesh.Shell

/-! ## §1. Quoting. -/

/-- The character gets a backslash between double quotes. -/
def needsBackslash (c : Char) : Bool :=
  c = '$' || c = '\x60' || c = '"' || c = '\\' || c = '\n'

/-- A character between double quotes. -/
def quoteChar (c : Char) : List Char := if needsBackslash c then ['\\', c] else [c]

/-- Characters between double quotes. -/
def quoteChars (cs : List Char) : List Char := '"' :: (cs.flatMap quoteChar ++ ['"'])

/-- A text as one word. -/
def quote (s : String) : String := String.ofList (quoteChars s.toList)

/-! ## §2. Words of a command. -/

/-- A word of a command: a fixed part, then possibly a quoted one. -/
structure Word where
  fixed : String
  quoted : Option String := none
  deriving Repr, DecidableEq

namespace Word

/-- A word without a quoted part. -/
def plain (s : String) : Word := ⟨s, none⟩

/-- A word that is quoted as a whole. -/
def inQuotes (s : String) : Word := ⟨"", some s⟩

/-- The word on the command line. -/
def text (w : Word) : String := w.fixed ++ (w.quoted.map quote).getD ""

/-- The argument that the word means. -/
def value (w : Word) : String := w.fixed ++ w.quoted.getD ""

end Word

/-- A command line. -/
def commandLine (words : List Word) : String := " ".intercalate (words.map Word.text)

/-- The words of a fixed text. -/
def plainWords (texts : List String) : List Word := texts.map Word.plain

end VxlanMesh.Shell
