/-
  VxlanMesh.Json.Value
  ────────────────────────────────
  **JSON VALUES.**

  A number is a whole number or a finite double, never both: `15` and
  `15.0` are different values.  The members of an object stand in the
  order in which they are written; objects that hold arbitrary data keep
  them in ascending order of the keys.
-/
import VxlanMesh.KeyedTable
import VxlanMesh.Numeral.Binary64

namespace VxlanMesh

/-- A JSON number. -/
inductive Json.Number where
  | integer (value : Int)
  | double (value : Numeral.Binary64)
  deriving Repr, DecidableEq

/-- A JSON value. -/
inductive Json where
  | null
  | bool (value : Bool)
  | number (value : Json.Number)
  | string (value : String)
  | array (items : List Json)
  | object (members : List (String × Json))
  deriving Repr, Inhabited

namespace Json

/-- A whole number as a value. -/
def ofNat (n : Nat) : Json := .number (.integer n)

/-- A list of texts as a value. -/
def ofTexts (texts : List String) : Json := .array (texts.map .string)

/-- The member of an object with that key. -/
def member? (key : String) : Json → Option Json
  | .object members => Entries.get? key members
  | _ => none

end Json

end VxlanMesh
