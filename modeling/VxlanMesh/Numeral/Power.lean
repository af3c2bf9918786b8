/-
  VxlanMesh.Numeral.Power
  ────────────────────────────────
  **POWERS OF TWO AND TEN.**

  The bases of words and of decimal notation, with the largest numbers
  that words of some widths hold.
-/

namespace VxlanMesh.Numeral

/-- A power of two. -/
def twoToThe (n : Nat) : Nat := Nat.pow 2 n

/-- A power of ten. -/
def tenToThe (n : Nat) : Nat := Nat.pow 10 n

/-- The largest number of a word with that many bits. -/
def largestOfBits (bits : Nat) : Nat := twoToThe bits - 1

end VxlanMesh.Numeral
