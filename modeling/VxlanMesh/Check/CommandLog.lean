/-
  VxlanMesh.Check.CommandLog
  ────────────────────────────────
  **CHECKS ON RECORDED COMMANDS.**

  A check says what a log of command lines has to contain, and answers
  nothing when it does.  The flow rules of a log are read back from its
  lines: the last quoted part of each line that installs a rule.
-/
import VxlanMesh.KeyedTable
import VxlanMesh.Numeral.Decimal
import VxlanMesh.Text.Escaped
import VxlanMesh.Text.Pattern

namespace VxlanMesh.Check

/-! ## §1. What a check can find. -/

/-- A check that does not hold. -/
inductive Mismatch where
  | commandMissing (expected : String) (seen : List String)
  | unexpectedCommand (pattern : String)
  | countMismatch (pattern : String) (expected actual : Nat)
  | flowMissing (expected : String)
  deriving Repr, DecidableEq

/-- What is reported of a mismatch. -/
def Mismatch.message : Mismatch → String
  | commandMissing expected seen =>
      "Expected command containing '" ++ expected ++ "' not executed; saw "
        ++ Text.showTexts seen
  | unexpectedCommand pattern => "Unexpected command containing '" ++ pattern ++ "' executed"
  | countMismatch pattern expected actual =>
      "Expected " ++ toString expected ++ " items matching '" ++ pattern ++ "', found "
        ++ toString actual
  | flowMissing expected => "Expected flow containing '" ++ expected ++ "' not installed"

/-! ## §2. Commands. -/

/-- Some line contains the pattern. -/
def executed (log : List String) (pattern : String) : Except Mismatch Unit :=
  if log.any (Text.contains · pattern) then .ok () else .error (.commandMissing pattern log)

/-- No line contains the pattern. -/
def notExecuted (log : List String) (pattern : String) : Except Mismatch Unit :=
  if log.any (Text.contains · pattern) then .error (.unexpectedCommand pattern) else .ok ()

/-- A count that has to be as expected. -/
def exactly (pattern : String) (expected actual : Nat) : Except Mismatch Unit :=
  if actual = expected then .ok () else .error (.countMismatch pattern expected actual)

/-- So many lines contain the pattern. -/
def count (log : List String) (pattern : String) (expected : Nat) : Except Mismatch Unit :=
  exactly pattern expected (log.countP (Text.contains · pattern))

/-! ## §3. Flow rules. -/

/-- The characters between the last two double quotes. -/
def lastQuotedChars (cs : List Char) : Option (List Char) :=
  -- Seen from the end, the first quote closes and the second one opens.
  match cs.reverse.dropWhile (· ≠ '"') with
  | [] => none
  | _ :: rest =>
      if rest.contains '"' then some (rest.takeWhile (· ≠ '"')).reverse else none

/-- The last quoted part of a line. -/
def lastQuoted (line : String) : Option String :=
  (lastQuotedChars line.toList).map String.ofList

/-- The flow rules that a log installs, in order. -/
def flows (log : List String) : List String :=
  (log.filter (Text.contains · " add-flow ")).filterMap lastQuoted

/-- The flow rules that a log installs, each once. -/
def flowSet (log : List String) : KeySet := KeySet.ofList (flows log)

/-- The flow rules of one table. -/
def flowsInTable (log : List String) (table : Nat) : List String :=
  (flows log).filter (Text.startsWith · ("table=" ++ Numeral.decimal table ++ ","))

/-- Some flow rule contains the pattern. -/
def flow (log : List String) (pattern : String) : Except Mismatch Unit :=
  if (flows log).any (Text.contains · pattern) then .ok () else .error (.flowMissing pattern)

/-- So many flow rules stand in a table. -/
def tableCount (log : List String) (table expected : Nat) : Except Mismatch Unit :=
  exactly ("table=" ++ Numeral.decimal table) expected (flowsInTable log table).length

end VxlanMesh.Check
