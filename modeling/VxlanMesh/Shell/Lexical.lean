/-
  VxlanMesh.Shell.Lexical
  ────────────────────────────────
  **CHARACTERS OF A SCRIPT.**

  How far a part of a script without structure of its own reaches:

      skipSpace     blanks, comments and, where they mean nothing, lines
      quotedRun     characters that stand for themselves between double quotes
      singleQuoted  up to the closing single quote
      backquoted    up to the closing backquote
      arithmeticRun up to the parentheses that close an expression

  Between double quotes a backslash is itself, except before `$`,
  backquote, `"` and backslash, which it makes plain, and before a line
  feed, which it removes.
-/
import VxlanMesh.Numeral.Decimal

namespace VxlanMesh.Shell

/-! ## §1. Classes. -/

/-- The backquote. -/
def backquote : Char := '\x60'

/-- The character ends an unquoted word. -/
def endsWord (c : Char) : Bool := " \t\n;&|<>()".toList.contains c

/-- The character ends a plain run between double quotes. -/
def endsQuoted (c : Char) : Bool := c = '"' || c = '$' || c = backquote

/-- The character begins a name. -/
def startsName (c : Char) : Bool := c.isAlpha || c = '_'

/-- The character continues a name. -/
def continuesName (c : Char) : Bool := startsName c || Numeral.isDigit c

/-- The characters are a name. -/
def isName : List Char → Bool
  | [] => false
  | c :: cs => startsName c && cs.all continuesName

/-! ## §2. Space. -/

/-- What follows blanks and comments, and line ends if `lines` says so; `comment` says that
a comment has begun. -/
def skipSpace (lines : Bool) : Bool → List Char → List Char
  | _, [] => []
  | true, c :: cs =>
      if c = '\n' then (if lines then skipSpace lines false cs else c :: cs)
      else skipSpace lines true cs
  | false, c :: cs =>
      if c = ' ' || c = '\t' || (lines && c = '\n') then skipSpace lines false cs
      else if c = '#' then skipSpace lines true cs
      else match c, cs with
        | '\\', '\n' :: rest => skipSpace lines false rest
        | _, _ => c :: cs

/-- What follows blanks. -/
def skipBlanks (cs : List Char) : List Char := skipSpace false false cs

/-- What follows blanks and line ends. -/
def skipLines (cs : List Char) : List Char := skipSpace true false cs

/-! ## §3. Runs. -/

/-- Characters that stand for themselves between double quotes, and the rest, which is empty
or begins with `"`, `$` or a backquote. -/
def quotedRun : List Char → List Char × List Char
  | [] => ([], [])
  | '\\' :: c :: cs =>
      let (run, rest) := quotedRun cs
      -- The backslash and the line feed both go.
      if c = '\n' then (run, rest)
      else if endsQuoted c || c = '\\' then (c :: run, rest)
      else ('\\' :: c :: run, rest)
  | c :: cs =>
      if endsQuoted c then ([], c :: cs)
      else let (run, rest) := quotedRun cs; (c :: run, rest)

/-- The characters before the closing single quote, and the rest. -/
def singleQuoted : List Char → Option (List Char × List Char)
  | [] => none
  | c :: cs =>
      if c = '\'' then some ([], cs) else (singleQuoted cs).map fun (run, rest) => (c :: run, rest)

/-- The script before the closing backquote, and the rest; between double quotes a
backslash makes a double quote plain as well. -/
def backquoted (quoted : Bool) : List Char → Option (List Char × List Char)
  | [] => none
  | '\\' :: c :: cs =>
      (backquoted quoted cs).map fun (run, rest) =>
        if c = backquote || c = '\\' || c = '$' || (quoted && c = '"') then (c :: run, rest)
        else ('\\' :: c :: run, rest)
  | c :: cs =>
      if c = backquote then some ([], cs)
      else (backquoted quoted cs).map fun (run, rest) => (c :: run, rest)

/-- The expression before two closing parentheses, with `depth` parentheses open in it, and
the rest. -/
def arithmeticRun : Nat → List Char → Option (List Char × List Char)
  | _, [] => none
  | 0, ')' :: ')' :: cs => some ([], cs)
  | depth, c :: cs =>
      let next := if c = '(' then some (depth + 1) else if c = ')' then
        (match depth with | 0 => none | d + 1 => some d) else some depth
      match next with
      | none => none
      | some depth => (arithmeticRun depth cs).map fun (run, rest) => (c :: run, rest)

end VxlanMesh.Shell
