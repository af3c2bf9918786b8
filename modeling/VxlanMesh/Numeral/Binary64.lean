/-
  VxlanMesh.Numeral.Binary64
  ────────────────────────────────
  **DOUBLE PRECISION NUMBERS, EXACTLY.**

  A finite double is a sign and `significand · 2 ^ exponent` with at most
  53 significant bits.  Rounding is to the nearest, a tie goes to the even
  significand, and a result too large for the format is none.  All of it
  is whole-number arithmetic, so products, quotients and comparisons of
  doubles can be reasoned about without an opaque machine type.
-/
import VxlanMesh.Numeral.Power

namespace VxlanMesh.Numeral

/-! ## §1. The format. -/

/-- A finite double. -/
structure Binary64 where
  negative : Bool
  significand : Nat
  exponent : Int
  deriving Repr, DecidableEq

namespace Binary64

/-- The least exponent of the format. -/
def leastExponent : Int := -1074

/-- The largest exponent of the format. -/
def largestExponent : Int := 971

/-- The number of significant bits. -/
def precision : Nat := 53

/-- Positive zero. -/
def zero : Binary64 := ⟨false, 0, leastExponent⟩

/-- The number is zero, of either sign. -/
def isZero (x : Binary64) : Bool := x.significand == 0

/-- The same number with the other sign. -/
def neg (x : Binary64) : Binary64 := { x with negative := !x.negative }

/-! ## §2. Rounding. -/

/-- The quotient nearest to `num / den`, a tie going to the even one. -/
def divideNearest (num den : Nat) : Nat :=
  let q := num / den
  let rest := num % den
  if 2 * rest > den || (2 * rest == den && q % 2 == 1) then q + 1 else q

/-- `num · 2 ^ shift / den` as a quotient of whole numbers, rounded to the nearest. -/
def scaledNearest (num den : Nat) (shift : Int) : Nat :=
  if shift ≥ 0 then divideNearest (num * twoToThe shift.toNat) den
  else divideNearest num (den * twoToThe (-shift).toNat)

/-- `num / den < 2 ^ power`. -/
def ratioLess (num den : Nat) (power : Int) : Bool :=
  if power ≥ 0 then num < den * twoToThe power.toNat else num * twoToThe (-power).toNat < den

/-- The positive double nearest to `num / den`, none where that is too large. -/
def ofRatio (num den : Nat) : Option Binary64 :=
  if num = 0 then some zero
  else
    let size : Int := Int.ofNat (Nat.log2 num) - Int.ofNat (Nat.log2 den)
    let full : Int := if ratioLess num den size then size - precision else size - precision + 1
    let exponent := max full leastExponent
    let m := scaledNearest num den (-exponent)
    let (m, exponent) := if m = twoToThe precision then (twoToThe (precision - 1), exponent + 1)
      else (m, exponent)
    if exponent > largestExponent then none else some ⟨false, m, exponent⟩

/-- The positive double nearest to a whole number. -/
def ofNat (n : Nat) : Option Binary64 := ofRatio n 1

/-! ## §3. Products and quotients of positive doubles. -/

/-- `m · 2 ^ e` as a quotient of whole numbers. -/
def ratioOf (m : Nat) (e : Int) : Nat × Nat :=
  if e ≥ 0 then (m * twoToThe e.toNat, 1) else (m, twoToThe (-e).toNat)

/-- The rounded product. -/
def mul (x y : Binary64) : Option Binary64 :=
  let (num, den) := ratioOf (x.significand * y.significand) (x.exponent + y.exponent)
  ofRatio num den

/-- The rounded quotient by a nonzero double. -/
def div (x y : Binary64) : Option Binary64 :=
  let (num, den) := ratioOf x.significand (x.exponent - y.exponent)
  ofRatio num (den * y.significand)

end Binary64

end VxlanMesh.Numeral
