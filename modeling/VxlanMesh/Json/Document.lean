/-
  VxlanMesh.Json.Document
  ────────────────────────────────
  **WHAT A TEXT SAYS BEFORE ANYONE ASKS FOR A TYPE.**

  A `Document` is the tree of a well-formed JSON text (or of a
  configuration file) as it was written: members in their order, twice
  where they stand twice.  Two parts of it can be unusable without being
  ill-formed: a number too large for every number type, and a text that
  holds half of a surrogate pair.  They spoil a document only where they
  are asked for.

      value?     the document as a JSON value
      Decoder    how a type is read from a document
      fields?    the fields of a record

  A decoder gets the number of containers that may still be opened below
  it, so a text nested too deeply is refused.
-/
import VxlanMesh.Json.Value

namespace VxlanMesh

/-- The tree of a text. -/
inductive Document where
  | null
  | bool (value : Bool)
  /-- A number, none where no number type can hold it. -/
  | number (value : Option Json.Number)
  /-- A text, none where it holds half of a surrogate pair. -/
  | text (value : Option String)
  | sequence (items : List Document)
  | mapping (members : List (Option String × Document))
  deriving Repr, Inhabited

namespace Document

/-! ## §1. As a value. -/

mutual

/-- The document as a JSON value with at most `depth` nested containers. -/
def value? (depth : Nat) : Document → Option Json
  | .null => some .null
  | .bool b => some (.bool b)
  | .number n => n.map .number
  | .text s => s.map .string
  | .sequence items =>
      match depth with
      | 0 => none
      | inner + 1 => (values? inner items).map .array
  | .mapping members =>
      match depth with
      | 0 => none
      | inner + 1 => (members? inner members []).map .object

/-- The items of a sequence as values. -/
def values? (depth : Nat) : List Document → Option (List Json)
  | [] => some []
  | item :: rest =>
      match value? depth item, values? depth rest with
      | some v, some vs => some (v :: vs)
      | _, _ => none

/-- The members of a mapping in ascending order; of two with one key the last counts. -/
def members? (depth : Nat) :
    List (Option String × Document) → List (String × Json) → Option (List (String × Json))
  | [], found => some found
  | (key, item) :: rest, found =>
      match key, value? depth item with
      | some k, some v => members? depth rest (Entries.insert k v found)
      | _, _ => none

end

/-! ## §2. Decoders. -/

/-- How a type is read from a document, below which so many containers may be opened. -/
abbrev Decoder (α : Type) : Type := Nat → Document → Option α

/-- A text. -/
def string? : Decoder String
  | _, .text s => s
  | _, _ => none

/-- A whole number from zero up to `largest`. -/
def natural? (largest : Nat) : Decoder Nat
  | _, .number (some (.integer n)) =>
      if 0 ≤ n ∧ n ≤ largest then some n.toNat else none
  | _, _ => none

/-- Any JSON value. -/
def any? : Decoder Json := value?

/-- Something, or null for nothing. -/
def optional? {α : Type} (decode : Decoder α) : Decoder (Option α)
  | _, .null => some none
  | depth, doc => (decode depth doc).map some

/-- A sequence of things. -/
def sequence? {α : Type} (decode : Decoder α) : Decoder (List α)
  | inner + 1, .sequence items => items.mapM (decode inner)
  | _, _ => none

/-- A mapping from texts to things; of two members with one key the last counts. -/
def table? {α : Type} (decode : Decoder α) : Decoder (KeyedTable α)
  | inner + 1, .mapping members => do
      let entries ← members.mapM fun (key, doc) => do
        let k ← key
        let v ← decode inner doc
        pure (k, v)
      pure (KeyedTable.ofList entries)
  | _, _ => none

/-! ## §3. Records. -/

/-- The members of a mapping whose key is `name`. -/
def named (name : String) (members : List (Option String × Document)) : List Document :=
  members.filterMap fun (key, doc) => if key = some name then some doc else none

/-- What a mapping holds for one field: at most one member. -/
def field? (members : List (Option String × Document)) (name : String) :
    Option (Option Document) :=
  match named name members with
  | [] => some none
  | [doc] => some (some doc)
  | _ => none

/-- What a document holds for each of the fields of a record: the members of a mapping
with these names, or the items of a sequence in the order of the fields.  `surplus` says
that items of a sequence beyond the last field are ignored. -/
def fields? (names : List String) (surplus : Bool) : Document → Option (List (Option Document))
  | .mapping members =>
      if members.all (·.1.isSome) then names.mapM (field? members) else none
  | .sequence items =>
      if items.length ≤ names.length || surplus then
        some ((items.take names.length).map some
          ++ List.replicate (names.length - items.length) none)
      else none
  | _ => none

/-- The fields of a record, each to be read below one more container. -/
def record? {α : Type} (names : List String)
    (build : Nat → List (Option Document) → Option α) (surplus : Bool := false) : Decoder α
  | 0, _ => none
  | inner + 1, doc => do build inner (← fields? names surplus doc)

/-- A field that has to be there. -/
def required {α : Type} (decode : Decoder α) (depth : Nat) : Option Document → Option α
  | none => none
  | some doc => decode depth doc

/-- A field with a default. -/
def defaulted {α : Type} (default : α) (decode : Decoder α) (depth : Nat) :
    Option Document → Option α
  | none => some default
  | some doc => decode depth doc

/-! ## §4. Values as documents. -/

mutual

/-- The document that says a value. -/
def ofValue : Json → Document
  | .null => .null
  | .bool b => .bool b
  | .number n => .number (some n)
  | .string s => .text (some s)
  | .array items => .sequence (ofValues items)
  | .object members => .mapping (ofMembers members)

/-- The documents that say some values. -/
def ofValues : List Json → List Document
  | [] => []
  | v :: vs => ofValue v :: ofValues vs

/-- The members that say the members of an object. -/
def ofMembers : List (String × Json) → List (Option String × Document)
  | [] => []
  | (k, v) :: rest => (some k, ofValue v) :: ofMembers rest

end

end Document

end VxlanMesh
