/-
  VxlanMesh.Shell.Condition
  ────────────────────────────────
  **CONDITIONS ON TEXTS AND NUMBERS.**

  The arguments of `test` form a condition: comparisons of texts and
  numbers, joined by `-a` and `-o`, with `!` and parentheses.  With up to
  three arguments their number decides how they are read, so that texts
  which look like operators can be compared.
-/
import VxlanMesh.Shell.Arithmetic

namespace VxlanMesh.Shell

/-! ## §1. Comparisons. -/

/-- Why arguments are no condition. -/
inductive ConditionFault where
  | illegalNumber (text : String)
  | unexpectedOperator (text : String)
  | argumentExpected
  /-- Nothing follows an operator. -/
  | operandExpected (operator : String)
  | closingParenthesis
  deriving Repr, DecidableEq

/-- What is reported of a fault. -/
def ConditionFault.message : ConditionFault → String
  | illegalNumber text => "Illegal number: " ++ text
  | unexpectedOperator text => text ++ ": unexpected operator"
  | argumentExpected => "argument expected"
  | operandExpected operator => operator ++ ": argument expected"
  | closingParenthesis => "closing paren expected"

/-- The number that an argument denotes. -/
def numberArgument (argument : List Char) : Except ConditionFault Int :=
  match integer? argument with
  | some (n, rest) =>
      if rest.all Char.isWhitespace then .ok n else .error (.illegalNumber (String.ofList argument))
  | none => .error (.illegalNumber (String.ofList argument))

/-- A comparison of two numbers. -/
def compareNumbers (f : Int → Int → Bool) (a b : List Char) : Except ConditionFault Bool := do
  return f (← numberArgument a) (← numberArgument b)

/-- A comparison of two arguments, if the operator is one. -/
def comparison? (operator : List Char) (a b : List Char) : Option (Except ConditionFault Bool) :=
  match String.ofList operator with
  | "=" => some (.ok (a == b))
  | "!=" => some (.ok (a != b))
  | "<" => some (.ok (String.ofList a < String.ofList b))
  | ">" => some (.ok (String.ofList b < String.ofList a))
  | "-eq" => some (compareNumbers (· == ·) a b)
  | "-ne" => some (compareNumbers (· != ·) a b)
  | "-lt" => some (compareNumbers (· < ·) a b)
  | "-le" => some (compareNumbers (· ≤ ·) a b)
  | "-gt" => some (compareNumbers (· > ·) a b)
  | "-ge" => some (compareNumbers (· ≥ ·) a b)
  | _ => none

/-- A question about one argument, if the operator is one; no file is found. -/
def question? (operator : List Char) (a : List Char) : Option Bool :=
  match String.ofList operator with
  | "-n" => some (!a.isEmpty)
  | "-z" => some a.isEmpty
  | "-b" | "-c" | "-d" | "-e" | "-f" | "-g" | "-h" | "-k" | "-L" | "-O" | "-G" | "-p" | "-r"
  | "-s" | "-S" | "-t" | "-u" | "-w" | "-x" => some false
  | _ => none

/-! ## §2. Conditions. -/

/-- The arguments are one of two texts. -/
def isOneOf (argument : List Char) (texts : List String) : Bool :=
  texts.contains (String.ofList argument)

mutual

/-- Conditions joined by `-o`. -/
def readAny : Nat → List (List Char) → Except ConditionFault (Bool × List (List Char))
  | 0, _ => .error .argumentExpected
  | n + 1, arguments => do
      let (first, rest) ← readAll n arguments
      match rest with
      | ['-', 'o'] :: rest =>
          let (second, rest) ← readAny n rest
          return (first || second, rest)
      | rest => return (first, rest)

/-- Conditions joined by `-a`. -/
def readAll : Nat → List (List Char) → Except ConditionFault (Bool × List (List Char))
  | 0, _ => .error .argumentExpected
  | n + 1, arguments => do
      let (first, rest) ← readNot n arguments
      match rest with
      | ['-', 'a'] :: rest =>
          let (second, rest) ← readAll n rest
          return (first && second, rest)
      | rest => return (first, rest)

/-- A condition, possibly negated. -/
def readNot : Nat → List (List Char) → Except ConditionFault (Bool × List (List Char))
  | 0, _ => .error .argumentExpected
  | n + 1, ['!'] :: rest => do
      let (b, rest) ← readNot n rest
      return (!b, rest)
  | n + 1, arguments => readPrimary n arguments

/-- A comparison, a question, a condition in parentheses or a text. -/
def readPrimary : Nat → List (List Char) → Except ConditionFault (Bool × List (List Char))
  | 0, _ => .error .argumentExpected
  | _ + 1, [] => .error .argumentExpected
  | n + 1, first :: rest =>
      let text : Except ConditionFault (Bool × List (List Char)) :=
        match question? first (rest.headD []), rest with
        | some b, _ :: rest => .ok (b, rest)
        | _, rest => .ok (!first.isEmpty, rest)
      match rest with
      | operator :: second :: rest =>
          match comparison? operator first second with
          | some result => do return (← result, rest)
          | none =>
              if first = ['('] then do
                let (b, rest) ← readAny n (operator :: second :: rest)
                match rest with
                | [')'] :: rest => return (b, rest)
                | _ => .error .closingParenthesis
              else text
      | _ => text

end

/-- The condition that arguments form. -/
def condition (arguments : List (List Char)) : Except ConditionFault Bool :=
  let general : Except ConditionFault Bool := do
    let (b, rest) ← readAny (4 * (arguments.length + 1)) arguments
    match rest with
    | [] => return b
    | extra :: _ => .error (.unexpectedOperator (String.ofList extra))
  match arguments with
  | [] => .ok false
  | [a] => .ok (!a.isEmpty)
  | [operator, a] =>
      if operator = ['!'] then .ok a.isEmpty
      else match question? operator a with
        | some b => .ok b
        | none =>
            if (comparison? a [] []).isSome then .error (.operandExpected (String.ofList a))
            else .error (.unexpectedOperator (String.ofList operator))
  | [a, operator, b] =>
      match comparison? operator a b with
      | some result => result
      | none =>
          if a = ['!'] then
            match question? operator b with
            | some answer => .ok (!answer)
            | none => general
          else if a = ['('] && b = [')'] then .ok (!operator.isEmpty)
          else if isOneOf operator ["-a", "-o"] then general
          else .error (.unexpectedOperator (String.ofList a))
  | _ => general

end VxlanMesh.Shell
