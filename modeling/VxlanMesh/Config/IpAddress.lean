/-
  VxlanMesh.Config.IpAddress
  ────────────────────────────────
  **ADDRESSES OF THE INTERNET PROTOCOL.**

  An address of version 4 is four decimal numbers up to 255, joined by
  dots, without leading zeros.  One of version 6 is eight groups of one
  to four hexadecimal digits, joined by colons; a run of zero groups may
  be left out once, and the last two groups may be written as an address
  of version 4.
-/
import VxlanMesh.Numeral.Decimal

namespace VxlanMesh.IpAddress

open VxlanMesh.Numeral (isDigit readBase? digitValue?)

/-! ## §1. Version 4. -/

/-- A number up to 255 without a leading zero. -/
def octet? (cs : List Char) : Option (Nat × List Char) :=
  let digits := cs.takeWhile isDigit
  if digits.length > 3 || (digits.head? == some '0' && digits.length > 1) then none
  else match readBase? 10 digits with
    | some n => if n ≤ 255 then some (n, cs.dropWhile isDigit) else none
    | none => none

/-- A dot and a number up to 255. -/
def dotOctet? : List Char → Option (Nat × List Char)
  | '.' :: rest => octet? rest
  | _ => none

/-- Four numbers joined by dots. -/
def v4? (cs : List Char) : Option (List Nat × List Char) := do
  let (a, cs) ← octet? cs
  let (b, cs) ← dotOctet? cs
  let (c, cs) ← dotOctet? cs
  let (d, cs) ← dotOctet? cs
  pure ([a, b, c, d], cs)

/-! ## §2. Version 6. -/

/-- A hexadecimal digit. -/
def isHexDigit (c : Char) : Bool := (digitValue? 16 c).isSome

/-- A group of one to four hexadecimal digits. -/
def group? (cs : List Char) : Option (List Char) :=
  let digits := cs.takeWhile isHexDigit
  if digits.isEmpty || digits.length > 4 then none else some (cs.dropWhile isHexDigit)

/-- The colon in front of every group but the first. -/
def separator? (isFirst : Bool) (cs : List Char) : Option (List Char) :=
  if isFirst then some cs
  else match cs with
    | ':' :: rest => some rest
    | _ => none

/-- Groups at the front, at most so many: how many there are, whether the last two are an
address of version 4, and what follows. -/
def groups (isFirst : Bool) : Nat → List Char → Nat × Bool × List Char
  | 0, cs => (0, false, cs)
  | more + 1, cs =>
      match separator? isFirst cs with
      | none => (0, false, cs)
      | some inner =>
          match (if more ≥ 1 then v4? inner else none) with
          | some (_, rest) => (2, true, rest)
          | none =>
              match group? inner with
              | none => (0, false, cs)
              | some rest =>
                  let (count, ends, rest) := groups false more rest
                  (count + 1, ends, rest)

/-- An address of version 6; what follows it. -/
def v6? (cs : List Char) : Option (List Char) :=
  match groups true 8 cs with
  | (8, _, rest) => some rest
  | (_, true, _) => none
  | (count, false, ':' :: ':' :: rest) => some (groups true (7 - count) rest).2.2
  | _ => none

/-! ## §3. Either. -/

/-- The text is an address of either version. -/
def isValid (s : String) : Bool :=
  ((v4? s.toList).map (·.2)) == some [] || v6? s.toList == some []

end VxlanMesh.IpAddress
