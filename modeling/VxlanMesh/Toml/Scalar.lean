/-
  VxlanMesh.Toml.Scalar
  ────────────────────────────────
  **NUMBERS, DATES AND TRUTH VALUES OF A CONFIGURATION FILE.**

  A scalar is a word up to the next character that cannot belong to one.
  It is a truth value, a whole number (decimal, or without a sign in
  another base), a number with a fraction or an exponent, or a date, a
  time, or both.  Underscores may stand between digits.

  As a document a date is a mapping with one member: it fits where any
  mapping fits, and nowhere else.
-/
import VxlanMesh.Json.Document
import VxlanMesh.Numeral.Power
import VxlanMesh.Toml.Text

namespace VxlanMesh.Toml

open VxlanMesh.Numeral (Binary64 readBase? digitValue? isDigit ofDigits tenToThe)

/-! ## §1. Digits with underscores. -/

/-- Digits of a base, with single underscores between digits; the digits alone. -/
def grouped? (base : Nat) (cs : List Char) : Option (List Char) :=
  if cs.isEmpty then none else go true cs
where
  /-- The digits to come; `fresh` says that the next character has to be a digit. -/
  go (fresh : Bool) : List Char → Option (List Char)
    | [] => if fresh then none else some []
    | c :: rest =>
        if c = '_' then if fresh then none else go true rest
        else if (digitValue? base c).isSome then (go false rest).map (c :: ·)
        else none

/-- Decimal digits with underscores and without a leading zero. -/
def decimal? (cs : List Char) : Option (List Char) := do
  let digits ← grouped? 10 cs
  if digits.head? == some '0' && digits.length > 1 then none else pure digits

/-! ## §2. Whole numbers. -/

/-- A sign in front: whether it is negative, and what follows. -/
def sign : List Char → Bool × List Char
  | '+' :: rest => (false, rest)
  | '-' :: rest => (true, rest)
  | cs => (false, cs)

/-- A whole number. -/
def integer? (cs : List Char) : Option Int :=
  match cs with
  | '0' :: 'x' :: rest => (grouped? 16 rest).bind fun ds => (readBase? 16 ds).map Int.ofNat
  | '0' :: 'o' :: rest => (grouped? 8 rest).bind fun ds => (readBase? 8 ds).map Int.ofNat
  | '0' :: 'b' :: rest => (grouped? 2 rest).bind fun ds => (readBase? 2 ds).map Int.ofNat
  | _ =>
      let (negative, digits) := sign cs
      (decimal? digits).map fun ds =>
        if negative then -(Int.ofNat (ofDigits ds)) else Int.ofNat (ofDigits ds)

/-- Whole numbers of 128 bits, with or without a sign, can be held. -/
def fits (n : Int) : Bool := -(Numeral.twoToThe 127 : Int) ≤ n && n < (Numeral.twoToThe 128 : Int)

/-! ## §3. Numbers with a fraction or an exponent. -/

/-- The double nearest to `digits · 10 ^ exponent`, none where it is too large. -/
def doubleOf? (digits : List Char) (exponent : Int) : Option Binary64 :=
  let significand := ofDigits digits
  let size : Int := digits.length + exponent
  if significand = 0 ∨ size < -400 then some Binary64.zero
  else if exponent ≥ 0 then
    if (Nat.toDigits 10 significand).length + exponent > 400 then none
    else Binary64.ofRatio (significand * tenToThe exponent.toNat) 1
  else Binary64.ofRatio significand (tenToThe (-exponent).toNat)

/-- The digits of an exponent after its mark, with their sign. -/
def exponent? (cs : List Char) : Option Int :=
  let (negative, digits) := sign cs
  (grouped? 10 digits).map fun ds =>
    if negative then -(Int.ofNat (ofDigits ds)) else Int.ofNat (ofDigits ds)

/-- A character that marks an exponent. -/
def marksExponent (c : Char) : Bool := c = 'e' || c = 'E'

/-- A number with a fraction, an exponent, or both: digits and exponent. -/
def fractional? (cs : List Char) : Option (List Char × Int) := do
  let whole ← decimal? (cs.takeWhile fun c => c ≠ '.' && !marksExponent c)
  let rest := cs.dropWhile fun c => c ≠ '.' && !marksExponent c
  let fraction ← match rest with
    | '.' :: rest => grouped? 10 (rest.takeWhile (!marksExponent ·))
    | _ => some []
  let exponent ← match rest.dropWhile (!marksExponent ·) with
    | _ :: rest => exponent? rest
    | [] => if rest.isEmpty then none else some 0
  pure (whole ++ fraction, exponent - fraction.length)

/-- A number that need not be whole; infinite and undefined ones are no use to anyone. -/
def float? (cs : List Char) : Option (Option Json.Number) :=
  let (negative, magnitude) := sign cs
  if magnitude = ['i', 'n', 'f'] ∨ magnitude = ['n', 'a', 'n'] then some none
  else do
    let (digits, exponent) ← fractional? magnitude
    let x ← doubleOf? digits exponent
    pure (some (.double (if negative then x.neg else x)))

/-! ## §4. Dates and times. -/

/-- So many digits, as a number. -/
def fixed? (count : Nat) (cs : List Char) : Option (Nat × List Char) :=
  if cs.length < count || !(cs.take count).all isDigit then none
  else some (ofDigits (cs.take count), cs.drop count)

/-- A fixed character. -/
def skip? (c : Char) : List Char → Option (List Char)
  | d :: rest => if c = d then some rest else none
  | [] => none

/-- The days of a month. -/
def daysIn (year month : Nat) : Nat :=
  if month = 2 then
    if (year % 4 == 0 && year % 100 != 0) || year % 400 == 0 then 29 else 28
  else if month = 4 ∨ month = 6 ∨ month = 9 ∨ month = 11 then 30
  else 31

/-- Skip a date. -/
def date? (cs : List Char) : Option (List Char) := do
  let (year, cs) ← fixed? 4 cs
  let cs ← skip? '-' cs
  let (month, cs) ← fixed? 2 cs
  let cs ← skip? '-' cs
  let (day, cs) ← fixed? 2 cs
  if 1 ≤ month ∧ month ≤ 12 ∧ 1 ≤ day ∧ day ≤ daysIn year month then pure cs else none

/-- Skip a fraction of a second, if there is one. -/
def subsecond? : List Char → Option (List Char)
  | '.' :: rest =>
      if (rest.takeWhile isDigit).isEmpty then none else some (rest.dropWhile isDigit)
  | cs => some cs

/-- Skip seconds, which may be left out. -/
def seconds? : List Char → Option (List Char)
  | ':' :: rest => do
      let (second, rest) ← fixed? 2 rest
      if second ≤ 60 then subsecond? rest else none
  | cs => some cs

/-- Skip hours and minutes. -/
def clock? (cs : List Char) : Option (List Char) := do
  let (hour, cs) ← fixed? 2 cs
  let cs ← skip? ':' cs
  let (minute, cs) ← fixed? 2 cs
  if hour ≤ 23 ∧ minute ≤ 59 then pure cs else none

/-- Skip a time. -/
def time? (cs : List Char) : Option (List Char) := do seconds? (← clock? cs)

/-- An offset from universal time, or nothing, up to the end of a word. -/
def isOffset : List Char → Bool
  | [] => true
  | ['Z'] | ['z'] => true
  | c :: rest => (c = '+' || c = '-') && clock? rest == some []

/-- A date, a time or both. -/
def isDateTime (cs : List Char) : Bool :=
  match date? cs with
  | some [] => true
  | some (c :: rest) =>
      (c = 'T' || c = 't' || c = ' ') && ((time? rest).map isOffset).getD false
  | none => time? cs == some []

/-! ## §5. Words. -/

/-- A character of a scalar. -/
def isScalar (c : Char) : Bool := isBare c || c = '+' || c = '.' || c = ':'

/-- A word at the front; a date goes on after one space if a digit follows. -/
def spanWord (cs : List Char) : List Char × List Char :=
  let word := cs.takeWhile isScalar
  let rest := cs.dropWhile isScalar
  match rest with
  | ' ' :: c :: more =>
      -- A blank is part of a date only where a time follows.
      if date? word == some [] && isDigit c then
        (word ++ ' ' :: (c :: more).takeWhile isScalar, (c :: more).dropWhile isScalar)
      else (word, rest)
  | _ => (word, rest)

/-- What a word says. -/
def scalarOf? (word : List Char) : Option Document :=
  if word = ['t', 'r', 'u', 'e'] then some (.bool true)
  else if word = ['f', 'a', 'l', 's', 'e'] then some (.bool false)
  else match integer? word with
    | some n => if fits n then some (.number (some (.integer n))) else none
    | none =>
        match float? word with
        | some n => some (.number n)
        | none =>
            if isDateTime word then
              some (.mapping [(some "datetime", .text (some (String.ofList word)))])
            else none

/-- A scalar. -/
def scalar? (cs : List Char) : Option (Document × List Char) :=
  let (word, rest) := spanWord cs
  (scalarOf? word).map (·, rest)

end VxlanMesh.Toml
