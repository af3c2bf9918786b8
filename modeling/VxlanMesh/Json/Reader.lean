/-
  VxlanMesh.Json.Reader
  ────────────────────────────────
  **READING JSON TEXT.**

  The grammar is strict: blanks are space, tab, line feed and carriage
  return; no comment, no comma after the last item, no leading zero, no
  control character inside a text.  Nesting is not limited here but where
  a type is read from the document.

  A number with a fraction or an exponent, or beyond 64 bits, is a double
  and is read by the quick route: as many leading digits as fit in 64
  bits, rounded, then multiplied or divided by a rounded power of ten.
  That can miss the nearest double by a unit in the last place.
-/
import VxlanMesh.Json.Document
import VxlanMesh.Numeral.Decimal
import VxlanMesh.Numeral.Power

namespace VxlanMesh.Json.Reader

open VxlanMesh.Numeral (Binary64 isDigit digitValue? largestOfBits ofDigits readBase? tenToThe
  twoToThe)

/-! ## §1. Blanks and words. -/

/-- A character that may stand between tokens. -/
def isBlank (c : Char) : Bool := c = ' ' || c = '\t' || c = '\n' || c = '\r'

/-- Skip blanks. -/
def skipBlanks (cs : List Char) : List Char := cs.dropWhile isBlank

/-- Skip a fixed word. -/
def skipWord : List Char → List Char → Option (List Char)
  | [], cs => some cs
  | _ :: _, [] => none
  | w :: word, c :: cs => if w = c then skipWord word cs else none

/-! ## §2. Texts. -/

/-- A piece of a text: a character, or a code unit written in hexadecimal. -/
inductive Piece where
  | char (c : Char)
  | unit (code : Nat)
  deriving Repr, DecidableEq

/-- The character that a backslash and a letter stand for. -/
def escaped? : Char → Option Char
  | '"' => some '"'
  | '\\' => some '\\'
  | '/' => some '/'
  | 'b' => some '\x08'
  | 'f' => some '\x0c'
  | 'n' => some '\n'
  | 'r' => some '\r'
  | 't' => some '\t'
  | _ => none

/-- Pieces up to the closing quote, and what follows it. -/
def pieces? : List Char → Option (List Piece × List Char)
  | [] => none
  | '"' :: rest => some ([], rest)
  | '\\' :: 'u' :: a :: b :: c :: d :: rest =>
      match readBase? 16 [a, b, c, d], pieces? rest with
      | some code, some (more, rest) => some (.unit code :: more, rest)
      | _, _ => none
  | '\\' :: e :: rest =>
      match escaped? e, pieces? rest with
      | some c, some (more, rest) => some (.char c :: more, rest)
      | _, _ => none
  | c :: rest =>
      if c.toNat < 0x20 || c = '\\' then none
      else match pieces? rest with
        | some (more, rest) => some (.char c :: more, rest)
        | none => none

/-- The first half of a surrogate pair. -/
def isHighSurrogate (code : Nat) : Bool := 0xD800 ≤ code && code ≤ 0xDBFF

/-- The second half of a surrogate pair. -/
def isLowSurrogate (code : Nat) : Bool := 0xDC00 ≤ code && code ≤ 0xDFFF

/-- The characters that pieces stand for, none where half of a surrogate pair stands
alone. -/
def charsOfPieces? : List Piece → Option (List Char)
  | [] => some []
  | .char c :: rest => (charsOfPieces? rest).map (c :: ·)
  | .unit high :: .unit low :: rest =>
      -- Two halves in this order are one character.
      if isHighSurrogate high then
        if isLowSurrogate low then
          (charsOfPieces? rest).map
            (Char.ofNat (0x10000 + (high - 0xD800) * 0x400 + (low - 0xDC00)) :: ·)
        else none
      else if isLowSurrogate high then none
      else (charsOfPieces? (.unit low :: rest)).map (Char.ofNat high :: ·)
  | .unit code :: rest =>
      if isHighSurrogate code || isLowSurrogate code then none
      else (charsOfPieces? rest).map (Char.ofNat code :: ·)

/-- A text after its opening quote. -/
def text? (cs : List Char) : Option (Option String × List Char) :=
  (pieces? cs).map fun (pieces, rest) => ((charsOfPieces? pieces).map String.ofList, rest)

/-! ## §3. Numbers. -/

/-- A number as it was written. -/
structure Literal where
  negative : Bool
  whole : List Char
  fraction : Option (List Char)
  exponent : Option (Bool × List Char)
  deriving Repr, DecidableEq

/-- Digits at the front. -/
def spanDigits (cs : List Char) : List Char × List Char :=
  (cs.takeWhile isDigit, cs.dropWhile isDigit)

/-- One digit at least. -/
def digits? (cs : List Char) : Option (List Char × List Char) :=
  let (digits, rest) := spanDigits cs
  if digits.isEmpty then none else some (digits, rest)

/-- The digits before the point: a zero alone, or digits that begin with another one. -/
def whole? : List Char → Option (List Char × List Char)
  | '0' :: rest =>
      match rest with
      | c :: _ => if isDigit c then none else some (['0'], rest)
      | [] => some (['0'], [])
  | cs => digits? cs

/-- A point and digits, or nothing. -/
def fraction? : List Char → Option (Option (List Char) × List Char)
  | '.' :: rest => (digits? rest).map fun (digits, rest) => (some digits, rest)
  | cs => some (none, cs)

/-- An exponent with its sign (true for a negative one), or nothing. -/
def exponent? : List Char → Option (Option (Bool × List Char) × List Char)
  | c :: rest =>
      if c = 'e' || c = 'E' then
        match rest with
        | '+' :: rest => (digits? rest).map fun (digits, rest) => (some (false, digits), rest)
        | '-' :: rest => (digits? rest).map fun (digits, rest) => (some (true, digits), rest)
        | _ => (digits? rest).map fun (digits, rest) => (some (false, digits), rest)
      else some (none, c :: rest)
  | [] => some (none, [])

/-- A number. -/
def literal? (cs : List Char) : Option (Literal × List Char) := do
  let (negative, cs) := match cs with
    | '-' :: rest => (true, rest)
    | _ => (false, cs)
  let (whole, cs) ← whole? cs
  let (fraction, cs) ← fraction? cs
  let (exponent, cs) ← exponent? cs
  pure (⟨negative, whole, fraction, exponent⟩, cs)

/-- The largest unsigned number of 64 bits. -/
def largestWord : Nat := largestOfBits 64

/-- Take digits into a number as long as it fits in 64 bits; the answer says how many were
taken. -/
def takeDigits : Nat → List Char → Nat × Nat
  | acc, [] => (acc, 0)
  | acc, c :: cs =>
      let next := acc * 10 + (digitValue? 10 c).getD 0
      if next ≤ largestWord then
        let (result, taken) := takeDigits next cs
        (result, taken + 1)
      else (acc, 0)

/-- The largest power of ten that is a double. -/
def largestPower : Nat := 308

/-- `x · 10 ^ exponent` by rounded powers of ten, none where it is too large. -/
def scale (x : Binary64) (exponent : Int) : Nat → Option Binary64
  | 0 => some Binary64.zero
  | fuel + 1 =>
      if exponent.natAbs ≤ largestPower then do
        let power ← Binary64.ofNat (tenToThe exponent.natAbs)
        if exponent ≥ 0 then x.mul power else x.div power
      else if x.isZero then some x
      else if exponent ≥ 0 then none
      else do
        let power ← Binary64.ofNat (tenToThe largestPower)
        scale (← x.div power) (exponent + largestPower) fuel

/-- The double of a literal with at most 64 bits of digits. -/
def double? (literal : Literal) : Option Binary64 := do
  let (significand, taken) := takeDigits 0 literal.whole
  let dropped : Int := literal.whole.length - taken
  let (significand, places) := takeDigits significand (literal.fraction.getD [])
  let shift : Int := dropped - places
  let (negative, digits) := literal.exponent.getD (false, [])
  let power := ofDigits digits
  let x ←
    -- An exponent beyond 31 bits decides by itself.
    if power ≥ twoToThe 31 then
      if significand = 0 || negative then some Binary64.zero else none
    else do
      let start ← Binary64.ofNat significand
      scale start (if negative then shift - power else shift + power)
        (largestPower * literal.whole.length + power + places + 2)
  pure (if literal.negative then x.neg else x)

/-- The number of a literal, none where it is too large. -/
def number? (literal : Literal) : Option Number :=
  let magnitude := ofDigits literal.whole
  if literal.fraction.isNone && literal.exponent.isNone then
    -- A negative zero has no integer of its own and is a double.
    if !literal.negative && magnitude ≤ largestWord then some (.integer magnitude)
    else if literal.negative && magnitude ≠ 0 && magnitude ≤ twoToThe 63 then
      some (.integer (-magnitude))
    else (double? literal).map .double
  else (double? literal).map .double

/-! ## §4. Documents. -/

mutual

/-- A value at the front of some characters. -/
def document? : Nat → List Char → Option (Document × List Char)
  | 0, _ => none
  | fuel + 1, cs =>
      match skipBlanks cs with
      | '[' :: rest =>
          match skipBlanks rest with
          | ']' :: rest => some (.sequence [], rest)
          | _ => (items? fuel rest).map fun (items, rest) => (.sequence items, rest)
      | '\x7b' :: rest =>
          match skipBlanks rest with
          | '\x7d' :: rest => some (.mapping [], rest)
          | _ => (members? fuel rest).map fun (members, rest) => (.mapping members, rest)
      | '"' :: rest => (text? rest).map fun (s, rest) => (.text s, rest)
      | 'n' :: rest => (skipWord ['u', 'l', 'l'] rest).map (.null, ·)
      | 't' :: rest => (skipWord ['r', 'u', 'e'] rest).map (.bool true, ·)
      | 'f' :: rest => (skipWord ['a', 'l', 's', 'e'] rest).map (.bool false, ·)
      | cs => (literal? cs).map fun (literal, rest) => (.number (number? literal), rest)

/-- One or more items up to the closing bracket. -/
def items? : Nat → List Char → Option (List Document × List Char)
  | 0, _ => none
  | fuel + 1, cs =>
      match document? fuel cs with
      | none => none
      | some (item, rest) =>
          match skipBlanks rest with
          | ',' :: rest => (items? fuel rest).map fun (items, rest) => (item :: items, rest)
          | ']' :: rest => some ([item], rest)
          | _ => none

/-- One or more members up to the closing brace. -/
def members? : Nat → List Char → Option (List (Option String × Document) × List Char)
  | 0, _ => none
  | fuel + 1, cs =>
      match skipBlanks cs with
      | '"' :: rest =>
          match text? rest with
          | none => none
          | some (key, rest) =>
              match skipBlanks rest with
              | ':' :: rest =>
                  match document? fuel rest with
                  | none => none
                  | some (item, rest) =>
                      match skipBlanks rest with
                      | ',' :: rest =>
                          (members? fuel rest).map fun (more, rest) =>
                            ((key, item) :: more, rest)
                      | '\x7d' :: rest => some ([(key, item)], rest)
                      | _ => none
              | _ => none
      | _ => none

end

/-- The document of a whole text. -/
def read? (cs : List Char) : Option Document :=
  match document? (2 * cs.length + 2) cs with
  | some (doc, rest) => if (skipBlanks rest).isEmpty then some doc else none
  | none => none

end VxlanMesh.Json.Reader

namespace VxlanMesh

/-- How many containers may be nested in a text that is kept. -/
def nestingLimit : Nat := 127

/-- The document of a JSON text. -/
def Document.ofJsonText? (s : String) : Option Document := Json.Reader.read? s.toList

/-- Read a type from a JSON text. -/
def Document.decodeText? {α : Type} (decode : Document.Decoder α) (s : String) : Option α := do
  decode nestingLimit (← ofJsonText? s)

end VxlanMesh
