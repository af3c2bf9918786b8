/-
  VxlanMesh.Toml.Table
  ────────────────────────────────
  **TABLES OF A CONFIGURATION FILE AS THEY GROW.**

  A table comes into being in one of three ways: by a header that names
  it, by a header that names a table below it, or by a dotted key.  Each
  thing can be said once only:

      a key                 is assigned once
      a header              names a table once, and none made by dotted keys
      a dotted key          extends no table that a header has named
      an inline table       is not extended from outside
-/
import VxlanMesh.Json.Document

namespace VxlanMesh.Toml

/-! ## §1. Entries. -/

/-- How a table came into being. -/
inductive TableKind where
  /-- A header names it. -/
  | named
  /-- A header names a table below it. -/
  | implied
  /-- A dotted key made it. -/
  | dotted
  deriving Repr, DecidableEq

/-- What a key of a table stands for. -/
inductive Entry where
  | value (doc : Document)
  | table (kind : TableKind) (entries : List (String × Entry))
  /-- A list of tables; the last one is still growing. -/
  | tables (items : List (List (String × Entry)))

/-- The entries of a table. -/
abbrev TableEntries : Type := List (String × Entry)

/-! ## §2. Going down a path. -/

/-- Change the table at the end of a path, making the tables on the way that are missing.
The change is told whether the table was made by a dotted key. -/
def descend (byKey : Bool) (f : Bool → TableEntries → Option TableEntries) :
    List String → Bool → TableEntries → Option TableEntries
  | [], isDotted, entries => f isDotted entries
  | key :: path, _, entries =>
      match Entries.get? key entries with
      | none =>
          let kind := if byKey then TableKind.dotted else TableKind.implied
          (descend byKey f path byKey []).map fun sub =>
            Entries.insert key (.table kind sub) entries
      | some (.table kind sub) =>
          -- A dotted key may not reach into a table that a header has named.
          if byKey && kind == .named then none
          else (descend byKey f path (kind == .dotted) sub).map fun sub =>
            Entries.insert key (.table kind sub) entries
      -- A path through a list of tables means the last of them.
      | some (.tables items) =>
          match items.getLast? with
          | none => none
          | some last =>
              (descend byKey f path false last).map fun sub =>
                Entries.insert key (.tables (items.dropLast ++ [sub])) entries
      | some (.value _) => none

/-! ## §3. Assignments. -/

/-- Assign a value to the last key of a path below a table. -/
def assign (path : List String) (doc : Document) (isDotted : Bool) (entries : TableEntries) :
    Option TableEntries :=
  match path.getLast? with
  | none => none
  | some key =>
      let above := path.dropLast
      descend true (fun isDotted entries =>
          if isDotted == above.isEmpty then none
          else if (Entries.get? key entries).isSome then none
          else some (Entries.insert key (.value doc) entries))
        above isDotted entries

/-- Name a table by a header. -/
def nameTable (path : List String) (entries : TableEntries) : Option TableEntries :=
  match path.getLast? with
  | none => none
  | some key =>
      descend false (fun _ entries =>
          match Entries.get? key entries with
          | none => some (Entries.insert key (.table .named []) entries)
          | some (.table .implied sub) =>
              some (Entries.insert key (.table .named sub) entries)
          | some _ => none)
        path.dropLast false entries

/-- Begin a table at the end of a list of tables. -/
def appendTable (path : List String) (entries : TableEntries) : Option TableEntries :=
  match path.getLast? with
  | none => none
  | some key =>
      descend false (fun _ entries =>
          match Entries.get? key entries with
          | none => some (Entries.insert key (.tables [[]]) entries)
          | some (.tables items) =>
              some (Entries.insert key (.tables (items ++ [[]])) entries)
          | some _ => none)
        path.dropLast false entries

/-! ## §4. As documents. -/

mutual

/-- An entry as a document. -/
def Entry.document : Entry → Document
  | .value doc => doc
  | .table _ entries => .mapping (entriesDocument entries)
  | .tables items => .sequence (tablesDocument items)

/-- Entries as members of a mapping. -/
def entriesDocument : List (String × Entry) → List (Option String × Document)
  | [] => []
  | (key, entry) :: rest => (some key, entry.document) :: entriesDocument rest

/-- Tables as items of a sequence. -/
def tablesDocument : List (List (String × Entry)) → List Document
  | [] => []
  | entries :: rest => .mapping (entriesDocument entries) :: tablesDocument rest

end

/-- The document of an inline table: its assignments in order. -/
def inlineTable? (pairs : List (List String × Document)) : Option Document :=
  (pairs.foldlM (fun entries (path, doc) => assign path doc false entries) []).map
    fun entries => .mapping (entriesDocument entries)

end VxlanMesh.Toml
