/-
  VxlanMesh.Numeral.Shortest
  ────────────────────────────────
  **THE SHORTEST DECIMAL THAT READS BACK.**

  The doubles nearest to a real form an interval around each double `x`:
  every decimal inside reads back as `x`.  `shortest` looks for the least
  number of decimal digits with which some decimal lies in that interval,
  and takes the one nearest to `x` of those.  On a decimal grid only the
  two neighbours of `x` need a test, since an interval around `x` that
  holds a grid point holds one of them.
-/
import VxlanMesh.Numeral.Binary64

namespace VxlanMesh.Numeral

namespace Binary64

/-! ## §1. The interval of decimals that read back. -/

/-- Half the distance to the neighbours, in quarter units of the last place: below, above.
A power of two has its lower neighbour at half the distance. -/
def margins (x : Binary64) : Nat × Nat :=
  if x.significand = twoToThe (precision - 1) ∧ x.exponent > leastExponent then (1, 2) else (2, 2)

/-- `a / b` compared with `c / d`. -/
def compareRatio (a b c d : Nat) : Ordering := compare (a * d) (c * b)

/-- `n · 10 ^ k` as a quotient of whole numbers. -/
def decimalRatio (n : Nat) (k : Int) : Nat × Nat :=
  if k ≥ 0 then (n * tenToThe k.toNat, 1) else (n, tenToThe (-k).toNat)

/-- `n · 10 ^ k` reads back as `x`: it lies in the interval, whose ends count for an even
significand. -/
def readsBack (x : Binary64) (n : Nat) (k : Int) : Bool :=
  let (num, den) := decimalRatio n k
  let (below, above) := x.margins
  let (lowNum, lowDen) := ratioOf (4 * x.significand - below) (x.exponent - 2)
  let (highNum, highDen) := ratioOf (4 * x.significand + above) (x.exponent - 2)
  let even := x.significand % 2 == 0
  let low := compareRatio lowNum lowDen num den
  let high := compareRatio num den highNum highDen
  (low == .lt || (even && low == .eq)) && (high == .lt || (even && high == .eq))

/-! ## §2. The decimal grid. -/

/-- The exponent `e` with `10 ^ e ≤ num / den < 10 ^ (e + 1)`, from an estimate that is too
small by at most the given number. -/
def decimalExponentFrom (num den : Nat) (e : Int) : Nat → Int
  | 0 => e
  | more + 1 =>
      let (n, d) := decimalRatio 1 (e + 1)
      if compareRatio n d num den != .gt then decimalExponentFrom num den (e + 1) more else e

/-- The exponent of the first decimal digit of a positive quotient. -/
def decimalExponent (num den : Nat) : Int :=
  let size : Int := Int.ofNat (Nat.log2 num) - Int.ofNat (Nat.log2 den)
  decimalExponentFrom num den ((size - 1) * 30103 / 100000 - 1) 4

/-- The neighbour of `x` on the grid of `10 ^ k` that reads back, the nearer of two. -/
def onGrid (x : Binary64) (num den : Nat) (k : Int) : Option Nat :=
  let (gridNum, gridDen) := decimalRatio 1 k
  let top := num * gridDen
  let bottom := den * gridNum
  let low := top / bottom
  let lowFits := readsBack x low k
  let highFits := readsBack x (low + 1) k
  if lowFits && highFits then
    let rest := top % bottom
    -- Both neighbours read back: the nearer one, and of two equally near the even one.
    if 2 * rest < bottom || (2 * rest == bottom && low % 2 == 0) then some low
    else some (low + 1)
  else if lowFits then some low
  else if highFits then some (low + 1)
  else none

/-- The first grid from `k` downwards on which a decimal reads back. -/
def shortestFrom (x : Binary64) (num den : Nat) (k : Int) : Nat → Nat × Int
  | 0 => ((onGrid x num den k).getD 0, k)
  | finer + 1 =>
      match onGrid x num den k with
      | some n => (n, k)
      | none => shortestFrom x num den (k - 1) finer

/-- Move trailing zeros of the digits into the exponent. -/
def dropZeros (n : Nat) (k : Int) : Nat → Nat × Int
  | 0 => (n, k)
  | more + 1 => if n % 10 == 0 && n != 0 then dropZeros (n / 10) (k + 1) more else (n, k)

/-- The shortest decimal of a positive double: digits `n` and exponent `k` with
`x = n · 10 ^ k` up to rounding. -/
def shortest (x : Binary64) : Nat × Int :=
  let (num, den) := ratioOf x.significand x.exponent
  let (n, k) := shortestFrom x num den (decimalExponent num den) 17
  dropZeros n k 18

end Binary64

end VxlanMesh.Numeral
