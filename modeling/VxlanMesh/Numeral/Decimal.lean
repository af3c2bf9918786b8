/-
  VxlanMesh.Numeral.Decimal
  ────────────────────────────────
  **WHOLE NUMBERS AS DIGITS.**

      decimal       the decimal text of a number
      hexadecimal   its hexadecimal text, in lower case and marked by `0x`
      readBase?     the number that digits denote
      readBounded?  an optional plus sign and decimal digits, up to a bound

  The written forms are one digit for zero and no leading zero otherwise;
  the reader takes leading zeros as well.
-/

namespace VxlanMesh.Numeral

/-! ## §1. Writing. -/

/-- The decimal text of a number. -/
def decimal (n : Nat) : String := toString n

/-- The hexadecimal text of a number, marked as such. -/
def hexadecimal (n : Nat) : String := "0x" ++ String.ofList (Nat.toDigits 16 n)

/-! ## §2. Reading. -/

/-- An ASCII decimal digit. -/
def isDigit (c : Char) : Bool := '0' ≤ c && c ≤ '9'

/-- The value of a digit in a base up to sixteen. -/
def digitValue? (base : Nat) (c : Char) : Option Nat :=
  let value :=
    if '0' ≤ c && c ≤ '9' then some (c.toNat - 48)
    else if 'a' ≤ c && c ≤ 'f' then some (c.toNat - 87)
    else if 'A' ≤ c && c ≤ 'F' then some (c.toNat - 55)
    else none
  value.filter (· < base)

/-- The number that digits denote, continuing from a number read so far. -/
def readMore? (base : Nat) : Nat → List Char → Option Nat
  | acc, [] => some acc
  | acc, c :: cs =>
      match digitValue? base c with
      | none => none
      | some d => readMore? base (acc * base + d) cs

/-- The number that digits denote; there has to be one digit at least. -/
def readBase? (base : Nat) (cs : List Char) : Option Nat :=
  if cs.isEmpty then none else readMore? base 0 cs

/-- An optional plus sign and decimal digits that denote a number up to `largest`. -/
def readBounded? (largest : Nat) (cs : List Char) : Option Nat :=
  let digits := match cs with
    | '+' :: rest => rest
    | _ => cs
  (readBase? 10 digits).filter (· ≤ largest)

/-- The value of decimal digits, with anything else counting as zero. -/
def ofDigits (cs : List Char) : Nat := (readMore? 10 0 cs).getD 0

end VxlanMesh.Numeral
