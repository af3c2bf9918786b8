/-
  VxlanMesh.IdSpace
  ────────────────────────────────
  **SMALL NUMBERS HANDED OUT AND TAKEN BACK.**

  An `IdSpace` is a bitmap that says which numbers are taken.  It grows
  by whole blocks when a number beyond its end is needed, and never
  shrinks.

      allocate   take the least free number below the limit
      release    give a number back
      seed       mark numbers as taken, also beyond the limit
-/
import VxlanMesh.Error

namespace VxlanMesh

/-- By how many numbers the bitmap of a space grows. -/
def idBlock : Nat := 100

/-- A space of small numbers, some of them taken. -/
structure IdSpace where
  name : String
  /-- Numbers from here on are never handed out. -/
  limit : Option Nat := none
  used : Array Bool := #[]
  deriving Repr, DecidableEq

namespace IdSpace

/-! ## §1. The view. -/

/-- The size of the bitmap. -/
def capacity (space : IdSpace) : Nat := space.used.size

/-- The number is taken. -/
def isAllocated (space : IdSpace) (id : Nat) : Bool := space.used[id]?.getD false

/-- The numbers that are taken, ascending. -/
def allocated (space : IdSpace) : List Nat :=
  (List.range space.capacity).filter space.isAllocated

/-- The least number that is not taken, which may lie just beyond the bitmap. -/
def firstFree (space : IdSpace) : Nat :=
  (space.used.findIdx? fun taken => !taken).getD space.used.size

/-- Numbers from the limit on are not handed out. -/
def isBelowLimit (space : IdSpace) (id : Nat) : Bool :=
  match space.limit with
  | some limit => id < limit
  | none => true

/-! ## §2. Changes. -/

/-- A bitmap that reaches as far as the block of a number. -/
def reach (used : Array Bool) (id : Nat) : Array Bool :=
  used ++ Array.replicate ((id / idBlock + 1) * idBlock - used.size) false

/-- Mark a number as taken. -/
def mark (used : Array Bool) (id : Nat) : Array Bool := (reach used id).setIfInBounds id true

/-- Take the least free number. -/
def allocate (space : IdSpace) : Except OverlayError Nat × IdSpace :=
  let id := space.firstFree
  -- The least free number is beyond the limit only if all below it are taken.
  if space.isBelowLimit id then (.ok id, { space with used := mark space.used id })
  else (.error (.idExhausted space.name (space.limit.getD 0)), space)

/-- Give a number back; one beyond the bitmap is not taken anyway. -/
def release (space : IdSpace) (id : Nat) : IdSpace :=
  { space with used := space.used.setIfInBounds id false }

/-- Mark numbers as taken, whatever the limit. -/
def seed (space : IdSpace) (ids : List Nat) : IdSpace :=
  { space with used := ids.foldl mark space.used }

end IdSpace

end VxlanMesh
