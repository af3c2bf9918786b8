/-
  VxlanMesh.Shell.Format
  ────────────────────────────────
  **PRINTING ARGUMENTS BY A FORMAT.**

  A format is text with directives, each of which prints one argument:
  `%s` as it is, `%b` with its escapes resolved, `%c` its first character,
  `%d %i %u %o %x %X` as a number.  The format is used again as long as it
  takes arguments and some are left; a missing argument is empty, or zero.
-/
import VxlanMesh.Shell.Arithmetic
import VxlanMesh.Shell.Escape

namespace VxlanMesh.Shell

/-! ## §1. Formats. -/

/-- A width or a precision: given, or taken from the arguments. -/
inductive Amount where
  | fixed (n : Nat)
  | argument
  deriving Repr, DecidableEq

/-- How an argument is printed. -/
structure Directive where
  flags : List Char
  width : Amount
  precision : Option Amount
  conversion : Char
  deriving Repr

/-- A part of a format. -/
inductive FormatPart where
  | character (c : Char)
  | directive (d : Directive)
  /-- A percent sign with nothing to say what it prints. -/
  | incomplete
  deriving Repr

/-- A width or precision at the front, and the rest. -/
def amountAt (cs : List Char) : Amount × List Char :=
  match cs with
  | '*' :: rest => (.argument, rest)
  | _ => let (digits, rest) := cs.span Numeral.isDigit; (.fixed (Numeral.ofDigits digits), rest)

/-- The directive after a percent sign, and the rest. -/
def directiveAt (cs : List Char) : FormatPart × List Char :=
  let (flags, rest) := cs.span "#-+ 0".toList.contains
  let (width, rest) := amountAt rest
  let (precision, rest) : Option Amount × List Char := match rest with
    | '.' :: rest => let (amount, rest) := amountAt rest; (some amount, rest)
    | rest => (none, rest)
  match rest with
  | [] => (.incomplete, [])
  | conversion :: rest => (.directive { flags, width, precision, conversion }, rest)

/-- The parts of a format; `skip` characters at the front belong to the part before. -/
def formatParts : Nat → List Char → List FormatPart
  | _, [] => []
  | skip + 1, _ :: cs => formatParts skip cs
  | 0, c :: cs =>
      if c = '\\' then
        let (d, used) := formatEscape cs
        .character d :: formatParts used cs
      else if c = '%' then
        if cs.head? = some '%' then .character '%' :: formatParts 1 cs
        else
          let (part, rest) := directiveAt cs
          part :: formatParts (cs.length - rest.length) cs
      else .character c :: formatParts 0 cs

/-! ## §2. Printing. -/

/-- What has been printed, and what is left to print. -/
structure Printing where
  arguments : List (List Char)
  /-- Some argument has been taken. -/
  taken : Bool := false
  /-- What has been printed, the last character first. -/
  reversed : List Char := []
  /-- What to complain about, the last complaint first. -/
  complaints : List String := []
  /-- Nothing more is printed. -/
  ended : Bool := false
  /-- Why the format cannot be followed any further. -/
  fault : Option String := none

namespace Printing

/-- The next argument, if there is one. -/
def next (p : Printing) : Option (List Char) × Printing :=
  match p.arguments with
  | [] => (none, p)
  | argument :: arguments => (some argument, { p with arguments, taken := true })

/-- Print characters. -/
def put (cs : List Char) (p : Printing) : Printing :=
  { p with reversed := cs.reverse ++ p.reversed }

/-- The next argument as an integer; what is no integer is complained about. -/
def nextInteger (p : Printing) : Int × Printing :=
  match p.next with
  | (none, p) => (0, p)
  | (some argument, p) =>
      let complain (text : String) : Printing :=
        { p with complaints := (String.ofList argument ++ ": " ++ text) :: p.complaints }
      match argument with
      | [] => (0, p)
      | '"' :: c :: _ | '\'' :: c :: _ => (c.toNat, p)
      | _ => match integer? argument with
        | none => (0, complain "expected numeric value")
        | some (n, []) =>
            if isWithin64 argument then (n, p) else (n, complain "Numerical result out of range")
        | some (n, _ :: _) => (n, complain "not completely converted")

/-- Nothing can be printed any more. -/
def stop (text : String) (p : Printing) : Printing := { p with ended := true, fault := some text }

/-- A width or precision; a negative width asks for the left side. -/
def amount (a : Amount) (p : Printing) : Int × Printing :=
  match a with
  | .fixed n => (n, p)
  | .argument => p.nextInteger

end Printing

/-- Fill up with blanks on the left, or on the right if the flags or the width say so. -/
def padded (flags : List Char) (width : Int) (cs : List Char) : List Char :=
  let blanks := List.replicate (width.natAbs - cs.length) ' '
  if flags.contains '-' || width < 0 then cs ++ blanks else blanks ++ cs

/-- The digits of a number by a conversion. -/
def conversionDigits (conversion : Char) (n : Nat) : List Char :=
  match conversion with
  | 'o' => Nat.toDigits 8 n
  | 'x' => Nat.toDigits 16 n
  | 'X' => (Nat.toDigits 16 n).map Char.toUpper
  | _ => Nat.toDigits 10 n

/-- What stands before the digits of a number that is not negative. -/
def numberSign (flags : List Char) (conversion : Char) (n : Nat) : List Char :=
  if conversion = 'd' || conversion = 'i' then
    if flags.contains '+' then ['+'] else if flags.contains ' ' then [' '] else []
  else if flags.contains '#' && n ≠ 0 then
    (if conversion = 'o' then ['0'] else if conversion = 'u' then [] else ['0', conversion])
  else []

/-- A number by a conversion. -/
def numberText (flags : List Char) (width : Int) (precision : Option Int) (conversion : Char)
    (n : Int) : List Char :=
  let isSigned := conversion = 'd' || conversion = 'i'
  let magnitude := if isSigned then n.natAbs else (n % Numeral.twoToThe 64).toNat
  let sign := if isSigned && n < 0 then ['-'] else numberSign flags conversion magnitude
  let precision := precision.filter (0 ≤ ·)
  let digits :=
    if magnitude = 0 && precision == some 0 then [] else conversionDigits conversion magnitude
  let least := match precision with
    | some least => least.toNat
    | none =>
        if flags.contains '0' && !flags.contains '-' && 0 ≤ width
        then width.toNat - sign.length else 0
  padded flags width (sign ++ List.replicate (least - digits.length) '0' ++ digits)

/-- Print the next argument as a directive says. -/
def Directive.print (d : Directive) (p : Printing) : Printing :=
  let (width, p) := p.amount d.width
  let (precision, p) : Option Int × Printing := match d.precision with
    | none => (none, p)
    | some a => let (n, p) := p.amount a; (some n, p)
  let cut (cs : List Char) : List Char := match precision with
    | some n => if 0 ≤ n then cs.take n.toNat else cs
    | none => cs
  if d.conversion = 's' then
    let (argument, p) := p.next
    p.put (padded d.flags width (cut (argument.getD [])))
  else if d.conversion = 'b' then
    let (argument, p) := p.next
    let (text, ends) := printed 0 (argument.getD [])
    { p.put (padded d.flags width (cut text)) with ended := ends }
  else if d.conversion = 'c' then
    let (argument, p) := p.next
    p.put (padded d.flags width [((argument.getD []).head?).getD '\x00'])
  else if "diuoxX".toList.contains d.conversion then
    let (n, p) := p.nextInteger
    p.put (numberText d.flags width precision d.conversion n)
  else
    p.stop ("%" ++ String.singleton d.conversion ++ ": invalid directive")

/-- Print a part of a format. -/
def FormatPart.print (p : Printing) (part : FormatPart) : Printing :=
  if p.ended then p
  else match part with
    | .character c => p.put [c]
    | .directive d => d.print p
    | .incomplete => p.stop "missing format character"

/-- Print by a format, again as long as it takes arguments and some are left. -/
def printByFormat (parts : List FormatPart) : Nat → Printing → Printing
  | 0, p => p
  | n + 1, p =>
      let p := parts.foldl FormatPart.print p
      -- A format that takes no argument is used once, however many there are.
      if p.ended || !p.taken || p.arguments.isEmpty then p else printByFormat parts n p

/-- What is printed by a format and its arguments: the text, what there is to complain about,
and the status. -/
def formatted (format : List Char) (arguments : List (List Char)) :
    List Char × List String × Nat :=
  let p := printByFormat (formatParts 0 format) (arguments.length + 1) { arguments }
  let status := if p.fault.isSome then 2 else if p.complaints.isEmpty then 0 else 1
  (p.reversed.reverse, p.complaints.reverse ++ p.fault.toList, status)

end VxlanMesh.Shell
