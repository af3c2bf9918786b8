/-
  VxlanMesh.Shell.Script
  ────────────────────────────────
  **COMMANDS OF THE SHELL.**

  A word is a list of pieces; what a piece expands to is split at blanks
  unless the piece is quoted.  A script combines simple commands.  The
  shell works on bytes: each byte of a command stands as the character of
  that number, so no character of a script is beyond 255.
-/

namespace VxlanMesh.Shell

/-! ## §1. Words and redirections. -/

/-- When the alternative word of a parameter is used. -/
inductive Alternative where
  /-- Instead of a missing value. -/
  | default
  /-- Instead of a missing value, which it becomes. -/
  | assign
  /-- Instead of a value that is there. -/
  | replace
  /-- As the complaint about a missing value. -/
  | complain
  deriving Repr, DecidableEq

mutual

/-- A piece of a word. -/
inductive Piece where
  | literal (chars : List Char) (quoted : Bool)
  /-- The value of a parameter. -/
  | parameter (name : String) (quoted : Bool)
  /-- The length of the value of a parameter. -/
  | size (name : String) (quoted : Bool)
  /-- The value of a parameter or another word; `orEmpty` counts empty values as missing. -/
  | alternative (name : String) (kind : Alternative) (orEmpty : Bool) (word : List Piece)
      (quoted : Bool)
  /-- The value of an arithmetic expression. -/
  | arithmetic (expression : List Piece) (quoted : Bool)
  /-- What a script prints. -/
  | output (script : Script) (quoted : Bool)

/-- Where a command reads from or writes to instead. -/
inductive Redirection where
  | toFile (descriptor : Nat) (target : List Piece)
  | fromFile (descriptor : Nat) (source : List Piece)
  /-- The same place as another descriptor. -/
  | duplicate (descriptor : Nat) (other : List Piece)

/-- A script. -/
inductive Script where
  | nothing
  | simple (assignments : List (String × List Piece)) (words : List (List Piece))
      (redirections : List Redirection)
  | sequence (first second : Script)
  /-- The second only after success of the first. -/
  | both (first second : Script)
  /-- The second only after failure of the first. -/
  | either (first second : Script)
  | negated (body : Script)
  /-- The second reads what the first prints. -/
  | pipe (first second : Script)
  | conditional (condition yes no : Script)
  /-- Repeat as long as the condition ends as `goal` says. -/
  | loop (goal : Bool) (condition body : Script)
  /-- Repeat for each word. -/
  | each (name : String) (words : List (List Piece)) (body : Script)
  /-- In a copy of the shell. -/
  | subshell (body : Script)
  /-- In a copy of the shell that is not waited for. -/
  | background (body : Script)
  | redirected (body : Script) (redirections : List Redirection)

end

instance : Inhabited Script := ⟨.nothing⟩

/-! ## §2. What is no script. -/

/-- Why a text is no script. -/
inductive SyntaxFault where
  | unterminatedQuote
  | unterminatedBackquote
  | missingParentheses
  | badSubstitution
  | missingBrace
  | badLoopVariable
  /-- Something stands where it may not; what would have been right, if only one thing. -/
  | unexpected (found : String) (expecting : Option String)
  deriving Repr, DecidableEq

/-- What is reported of a fault. -/
def SyntaxFault.message : SyntaxFault → String
  | unterminatedQuote => "Syntax error: Unterminated quoted string"
  | unterminatedBackquote => "Syntax error: EOF in backquote substitution"
  | missingParentheses => "Syntax error: Missing '))'"
  | badSubstitution => "Bad substitution"
  | missingBrace => "Syntax error: Missing '\x7d'"
  | badLoopVariable => "Syntax error: Bad for loop variable"
  | unexpected found none => "Syntax error: " ++ found ++ " unexpected"
  | unexpected found (some wanted) =>
      "Syntax error: " ++ found ++ " unexpected (expecting " ++ wanted ++ ")"

end VxlanMesh.Shell
