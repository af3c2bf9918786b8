/-
  VxlanMesh.Shell.Escape
  ────────────────────────────────
  **BACKSLASH ESCAPES IN WHAT IS PRINTED.**

  A backslash followed by a letter or by up to three octal digits stands
  for one byte; before anything else it is itself.  The command `echo`
  has one escape more, which ends the output, and marks octal digits by a
  zero of their own.
-/
import VxlanMesh.Shell.Lexical

namespace VxlanMesh.Shell

/-- The control character that a letter stands for after a backslash. -/
def controlOf? : Char → Option Char
  | 'a' => some '\x07'
  | 'b' => some '\x08'
  | 'e' => some '\x1b'
  | 'f' => some '\x0c'
  | 'n' => some '\n'
  | 'r' => some '\r'
  | 't' => some '\t'
  | 'v' => some '\x0b'
  | '\\' => some '\\'
  | _ => none

/-- An octal digit. -/
def isOctal (c : Char) : Bool := (Numeral.digitValue? 8 c).isSome

/-- The byte that up to three octal digits at the front denote, and how many there are. -/
def octalByte (cs : List Char) : Char × Nat :=
  let digits := (cs.take 3).takeWhile isOctal
  (Char.ofNat ((Numeral.readMore? 8 0 digits).getD 0 % 256), digits.length)

/-- What the characters after a backslash stand for in a format, and how many of them belong
to it. -/
def formatEscape (cs : List Char) : Char × Nat :=
  match cs with
  | [] => ('\\', 0)
  | c :: _ =>
      match controlOf? c with
      | some control => (control, 1)
      | none => if isOctal c then octalByte cs else ('\\', 0)

/-- What the characters after a backslash stand for in printed text, and how many of them
belong to it; none where the output ends. -/
def textEscape (cs : List Char) : Option Char × Nat :=
  match cs with
  | 'c' :: _ => (none, 1)
  | '0' :: digits => let (c, used) := octalByte digits; (some c, used + 1)
  | _ => let (c, used) := formatEscape cs; (some c, used)

/-- Printed text with its escapes resolved, and whether the output ends in it; `skip`
characters at the front belong to an escape. -/
def printed : Nat → List Char → List Char × Bool
  | _, [] => ([], false)
  | skip + 1, _ :: cs => printed skip cs
  | 0, c :: cs =>
      if c = '\\' then
        match textEscape cs with
        | (none, _) => ([], true)
        | (some d, used) => let (rest, ends) := printed used cs; (d :: rest, ends)
      else let (rest, ends) := printed 0 cs; (c :: rest, ends)

/-- What `echo` prints. -/
def echoed (arguments : List (List Char)) : List Char :=
  let (quiet, arguments) : Bool × List (List Char) := match arguments with
    | ['-', 'n'] :: rest => (true, rest)
    | arguments => (false, arguments)
  let (text, ends) := printed 0 ([' '].intercalate arguments)
  if quiet || ends then text else text ++ ['\n']

end VxlanMesh.Shell
