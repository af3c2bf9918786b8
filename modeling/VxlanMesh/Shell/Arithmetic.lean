/-
  VxlanMesh.Shell.Arithmetic
  ────────────────────────────────
  **WHOLE-NUMBER EXPRESSIONS OF THE SHELL.**

  An expression is read by the precedence of its operators and evaluated
  in words of 64 bits that wrap around.  Of a conditional, a conjunction
  and a disjunction only the operands that decide are evaluated, since an
  assignment in an operand changes a variable.
-/
import VxlanMesh.KeyedTable
import VxlanMesh.Numeral.Power
import VxlanMesh.Shell.Lexical

namespace VxlanMesh.Shell

/-! ## §1. Numerals. -/

/-- A number as a word of 64 bits. -/
def wrapped (n : Int) : Int := Int.bmod n (Numeral.twoToThe 64)

/-- The number that digits at the front denote, and the rest. -/
def digitRun (base : Nat) (cs : List Char) : Nat × List Char :=
  let (digits, rest) := cs.span fun c => (Numeral.digitValue? base c).isSome
  ((Numeral.readMore? base 0 digits).getD 0, rest)

/-- A numeral at the front, and the rest; `0x` marks hexadecimal and `0` octal digits. -/
def numeral? : List Char → Option (Nat × List Char)
  | '0' :: x :: d :: cs =>
      if (x = 'x' || x = 'X') && (Numeral.digitValue? 16 d).isSome then
        some (digitRun 16 (d :: cs))
      else some (digitRun 8 ('0' :: x :: d :: cs))
  | '0' :: cs => some (digitRun 8 ('0' :: cs))
  | c :: cs => if Numeral.isDigit c then some (digitRun 10 (c :: cs)) else none
  | [] => none

/-- The largest number of 64 bits. -/
def largestInteger : Nat := Numeral.largestOfBits 63

/-- An integer at the front, possibly after blanks and a sign, and the rest; numbers beyond
64 bits count as the nearest one within. -/
def integer? (cs : List Char) : Option (Int × List Char) :=
  match cs.dropWhile Char.isWhitespace with
  | '-' :: cs => (numeral? cs).map fun (n, rest) => (-(min n (largestInteger + 1) : Nat), rest)
  | '+' :: cs => (numeral? cs).map fun (n, rest) => ((min n largestInteger : Nat), rest)
  | cs => (numeral? cs).map fun (n, rest) => ((min n largestInteger : Nat), rest)

/-- The integer at the front is within 64 bits. -/
def isWithin64 (cs : List Char) : Bool :=
  let (least, digits) : Nat × List Char := match cs.dropWhile Char.isWhitespace with
    | '-' :: cs => (1, cs)
    | '+' :: cs => (0, cs)
    | cs => (0, cs)
  ((numeral? digits).map fun (n, _) => decide (n ≤ largestInteger + least)).getD true

/-- The digits of an integer. -/
def integerText (n : Int) : List Char := (toString n).toList

/-! ## §2. Expressions. -/

/-- An operator between two operands. -/
inductive ArithmeticOperator where
  | times | divide | remainder | plus | minus | shiftLeft | shiftRight
  | less | greater | atMost | atLeast | equal | different
  | bitAnd | bitXor | bitOr | conjunction | disjunction
  deriving Repr, DecidableEq

/-- The operators with their signs; a sign stands before those that it begins with. -/
def operatorSigns : List (String × ArithmeticOperator) :=
  [("<<", .shiftLeft), (">>", .shiftRight), ("<=", .atMost), (">=", .atLeast), ("==", .equal),
    ("!=", .different), ("&&", .conjunction), ("||", .disjunction), ("*", .times),
    ("/", .divide), ("%", .remainder), ("+", .plus), ("-", .minus), ("<", .less),
    (">", .greater), ("&", .bitAnd), ("^", .bitXor), ("|", .bitOr)]

namespace ArithmeticOperator

/-- The larger, the closer its operands. -/
def precedence : ArithmeticOperator → Nat
  | times | divide | remainder => 10
  | plus | minus => 9
  | shiftLeft | shiftRight => 8
  | less | greater | atMost | atLeast => 7
  | equal | different => 6
  | bitAnd => 5
  | bitXor => 4
  | bitOr => 3
  | conjunction => 2
  | disjunction => 1

/-- The operator can be joined with an assignment. -/
def assigns : ArithmeticOperator → Bool
  | times | divide | remainder | plus | minus | shiftLeft | shiftRight | bitAnd | bitXor
  | bitOr => true
  | _ => false

end ArithmeticOperator

/-- An expression. -/
inductive Arithmetic where
  | number (n : Int)
  | named (name : String)
  | negative (operand : Arithmetic)
  | complement (operand : Arithmetic)
  | falsehood (operand : Arithmetic)
  | binary (operator : ArithmeticOperator) (left right : Arithmetic)
  | conditional (condition yes no : Arithmetic)
  | assign (name : String) (operator : Option ArithmeticOperator) (value : Arithmetic)
  deriving Repr

/-- Why an expression has no value. -/
inductive ArithmeticFault where
  | expectingPrimary
  | expectingEnd
  | expectingParenthesis
  | expectingColon
  | divisionByZero
  | illegalNumber (text : String)
  deriving Repr, DecidableEq

/-- What is reported of a fault in an expression. -/
def ArithmeticFault.message (expression : String) : ArithmeticFault → String
  | expectingPrimary => "arithmetic expression: expecting primary: \"" ++ expression ++ "\""
  | expectingEnd => "arithmetic expression: expecting EOF: \"" ++ expression ++ "\""
  | expectingParenthesis => "arithmetic expression: expecting ')': \"" ++ expression ++ "\""
  | expectingColon => "arithmetic expression: expecting ':': \"" ++ expression ++ "\""
  | divisionByZero => "arithmetic expression: division by zero: \"" ++ expression ++ "\""
  | illegalNumber text => "Illegal number: " ++ text

/-! ## §3. Reading. -/

namespace Arithmetic

/-- What follows blanks. -/
def skip (cs : List Char) : List Char := cs.dropWhile Char.isWhitespace

/-- The operator at the front, and the rest. -/
def operatorAt? (cs : List Char) : Option (ArithmeticOperator × List Char) :=
  (operatorSigns.find? fun (sign, _) => sign.toList.isPrefixOf cs).map fun (sign, operator) =>
    (operator, cs.drop sign.length)

/-- An assignment sign at the front, with the operator joined to it, and the rest. -/
def assignmentAt? (cs : List Char) : Option (Option ArithmeticOperator × List Char) :=
  match cs with
  | '=' :: '=' :: _ => none
  | '=' :: rest => some (none, rest)
  | _ => match operatorAt? cs with
    | some (operator, '=' :: rest) => if operator.assigns then some (some operator, rest) else none
    | _ => none

mutual

/-- A conditional, or an operation. -/
def readConditional : Nat → List Char → Except ArithmeticFault (Arithmetic × List Char)
  | 0, _ => .error .expectingPrimary
  | n + 1, cs => do
      let (condition, rest) ← readOperand n cs
      let (condition, rest) ← readMore n 1 condition rest
      match skip rest with
      | '?' :: rest =>
          let (yes, rest) ← readConditional n rest
          match skip rest with
          | ':' :: rest =>
              let (no, rest) ← readConditional n rest
              return (.conditional condition yes no, rest)
          | _ => .error .expectingColon
      | rest => return (condition, rest)

/-- Operators of at least a precedence, and their right operands, after a left operand. -/
def readMore : Nat → Nat → Arithmetic → List Char →
    Except ArithmeticFault (Arithmetic × List Char)
  | 0, _, _, _ => .error .expectingPrimary
  | n + 1, least, left, cs =>
      match operatorAt? (skip cs) with
      | none => .ok (left, cs)
      | some (operator, rest) =>
          if operator.precedence < least then .ok (left, cs)
          else do
            let (right, rest) ← readOperand n rest
            let (right, rest) ← readMore n (operator.precedence + 1) right rest
            -- Operators of one precedence bind to the left.
            readMore n least (.binary operator left right) rest

/-- A number, a variable, an assignment, or an operation on one operand. -/
def readOperand : Nat → List Char → Except ArithmeticFault (Arithmetic × List Char)
  | 0, _ => .error .expectingPrimary
  | n + 1, cs =>
      match skip cs with
      | '(' :: rest => do
          let (inner, rest) ← readConditional n rest
          match skip rest with
          | ')' :: rest => return (inner, rest)
          | _ => .error .expectingParenthesis
      | '-' :: rest => do
          let (operand, rest) ← readOperand n rest
          return (.negative operand, rest)
      | '+' :: rest => readOperand n rest
      | '~' :: rest => do
          let (operand, rest) ← readOperand n rest
          return (.complement operand, rest)
      | '!' :: rest => do
          let (operand, rest) ← readOperand n rest
          return (.falsehood operand, rest)
      | cs =>
          match numeral? cs with
          | some (value, rest) => .ok (.number (min value largestInteger : Nat), rest)
          | none =>
              let (name, rest) := cs.span continuesName
              if !isName name then .error .expectingPrimary
              else match assignmentAt? (skip rest) with
                | none => .ok (.named (String.ofList name), rest)
                | some (operator, rest) => do
                    let (value, rest) ← readConditional n rest
                    return (.assign (String.ofList name) operator value, rest)

end

/-- Read an expression. -/
def read (cs : List Char) : Except ArithmeticFault Arithmetic := do
  let (expression, rest) ← readConditional (4 * (cs.length + 1)) cs
  if (skip rest).isEmpty then .ok expression else .error .expectingEnd

/-! ## §4. Evaluation. -/

/-- The values of the variables. -/
abbrev Variables : Type := List (String × List Char)

/-- One for what holds, and zero for what does not. -/
def ofBool (b : Bool) : Int := if b then 1 else 0

/-- Shift a word; the distance counts modulo 64. -/
def shift (left : Bool) (n distance : Int) : Int :=
  let places := (distance % 64).toNat
  if left then wrapped (n * Numeral.twoToThe places) else n / Numeral.twoToThe places

/-- Combine the bits of two words. -/
def bits (f : BitVec 64 → BitVec 64 → BitVec 64) (a b : Int) : Int :=
  (f (BitVec.ofInt 64 a) (BitVec.ofInt 64 b)).toInt

/-- The value of an operation. -/
def operate (a b : Int) : ArithmeticOperator → Except ArithmeticFault Int
  | .times => .ok (wrapped (a * b))
  | .divide => if b = 0 then .error .divisionByZero else .ok (wrapped (a.tdiv b))
  | .remainder => if b = 0 then .error .divisionByZero else .ok (a.tmod b)
  | .plus => .ok (wrapped (a + b))
  | .minus => .ok (wrapped (a - b))
  | .shiftLeft => .ok (shift true a b)
  | .shiftRight => .ok (shift false a b)
  | .less => .ok (ofBool (a < b))
  | .greater => .ok (ofBool (a > b))
  | .atMost => .ok (ofBool (a ≤ b))
  | .atLeast => .ok (ofBool (a ≥ b))
  | .equal => .ok (ofBool (a == b))
  | .different => .ok (ofBool (a != b))
  | .bitAnd => .ok (bits (· &&& ·) a b)
  | .bitXor => .ok (bits (· ^^^ ·) a b)
  | .bitOr => .ok (bits (· ||| ·) a b)
  | .conjunction => .ok (ofBool (a != 0 && b != 0))
  | .disjunction => .ok (ofBool (a != 0 || b != 0))

/-- The number that a variable holds; a variable without a value is zero. -/
def lookup (bindings : Variables) (name : String) : Except ArithmeticFault Int :=
  match (Entries.get? name bindings).getD [] with
  | [] => .ok 0
  | value => match integer? value with
    | some (n, rest) =>
        if (skip rest).isEmpty then .ok n else .error (.illegalNumber (String.ofList value))
    | none => .error (.illegalNumber (String.ofList value))

/-- The value of an expression, and the variables after it. -/
def eval (bindings : Variables) : Arithmetic → Except ArithmeticFault (Int × Variables)
  | number n => .ok (n, bindings)
  | named name => do return (← lookup bindings name, bindings)
  | negative operand => do
      let (n, bindings) ← eval bindings operand
      return (wrapped (-n), bindings)
  | complement operand => do
      let (n, bindings) ← eval bindings operand
      return (-n - 1, bindings)
  | falsehood operand => do
      let (n, bindings) ← eval bindings operand
      return (ofBool (n == 0), bindings)
  | binary operator left right => do
      let (a, bindings) ← eval bindings left
      -- The right operand is not evaluated where the left one decides.
      if operator = .conjunction && a == 0 then return (0, bindings)
      if operator = .disjunction && a != 0 then return (1, bindings)
      let (b, bindings) ← eval bindings right
      return (← operate a b operator, bindings)
  | conditional condition yes no => do
      let (n, bindings) ← eval bindings condition
      if n != 0 then eval bindings yes else eval bindings no
  | assign name operator value => do
      let (n, bindings) ← eval bindings value
      let n ← match operator with
        | none => .ok n
        | some operator => operate (← lookup bindings name) n operator
      return (n, Entries.insert name (integerText n) bindings)

end Arithmetic

end VxlanMesh.Shell
