/-
  VxlanMesh.Toml.Reader
  ────────────────────────────────
  **READING A CONFIGURATION FILE.**

  A file is a sequence of lines: headers that name a table or begin one in
  a list of tables, assignments to the table named last, blank lines and
  comments.  Arrays and inline tables may span lines, may end with a comma
  and may be nested up to a limit.

      statements?         the lines of a file
      Document.ofToml?    the document that they build
-/
import VxlanMesh.Toml.Scalar
import VxlanMesh.Toml.Table

namespace VxlanMesh.Toml

/-! ## §1. Values. -/

/-- How deep arrays and inline tables may be nested. -/
def nestingLimit : Nat := 80

mutual

/-- A value, below which so many arrays and inline tables may be opened. -/
def value? : Nat → Nat → List Char → Option (Document × List Char)
  | 0, _, _ => none
  | fuel + 1, depth, cs =>
      match cs with
      | '"' :: _ | '\'' :: _ => (text? cs).map fun (s, rest) => (.text (some s), rest)
      | '[' :: rest =>
          match depth with
          | 0 => none
          | inner + 1 =>
              (items? fuel inner (skipLines rest.length rest)).map fun (items, rest) =>
                (.sequence items, rest)
      | '\x7b' :: rest =>
          match depth with
          | 0 => none
          | inner + 1 => do
              let (pairs, rest) ← pairs? fuel inner (skipLines rest.length rest)
              let doc ← inlineTable? pairs
              pure (doc, rest)
      | _ => scalar? cs

/-- Items up to the closing bracket, at an item or at that bracket. -/
def items? : Nat → Nat → List Char → Option (List Document × List Char)
  | 0, _, _ => none
  | fuel + 1, depth, cs =>
      match cs with
      | ']' :: rest => some ([], rest)
      | _ => do
          let (item, rest) ← value? fuel depth cs
          match skipLines rest.length rest with
          | ',' :: rest => do
              let (items, rest) ← items? fuel depth (skipLines rest.length rest)
              pure (item :: items, rest)
          | ']' :: rest => pure ([item], rest)
          | _ => none

/-- Assignments up to the closing brace, at an assignment or at that brace. -/
def pairs? : Nat → Nat → List Char → Option (List (List String × Document) × List Char)
  | 0, _, _ => none
  | fuel + 1, depth, cs =>
      match cs with
      | '\x7d' :: rest => some ([], rest)
      | _ => do
          let (pair, rest) ← pair? fuel depth cs
          match skipLines rest.length rest with
          | ',' :: rest => do
              let (pairs, rest) ← pairs? fuel depth (skipLines rest.length rest)
              pure (pair :: pairs, rest)
          | '\x7d' :: rest => pure ([pair], rest)
          | _ => none

/-- A path, an equals sign and a value. -/
def pair? : Nat → Nat → List Char → Option ((List String × Document) × List Char)
  | 0, _, _ => none
  | fuel + 1, depth, cs => do
      let (path, rest) ← path? cs.length cs
      match skipBlanks rest with
      | '=' :: rest => do
          let (doc, rest) ← value? fuel depth (skipBlanks rest)
          pure ((path, doc), rest)
      | _ => none

end

/-! ## §2. Lines. -/

/-- What a line says. -/
inductive Statement where
  | name (path : List String)
  | append (path : List String)
  | assign (path : List String) (doc : Document)

/-- A line that says something, up to its end. -/
def statement? (cs : List Char) : Option (Statement × List Char) :=
  match cs with
  | '[' :: '[' :: rest => do
      let (path, rest) ← path? rest.length rest
      match skipBlanks rest with
      | ']' :: ']' :: rest => pure (.append path, rest)
      | _ => none
  | '[' :: rest => do
      let (path, rest) ← path? rest.length rest
      match skipBlanks rest with
      | ']' :: rest => pure (.name path, rest)
      | _ => none
  | _ => do
      let ((path, doc), rest) ← pair? (2 * cs.length + 2) nestingLimit cs
      pure (.assign path doc, rest)

/-- The lines of a file that say something. -/
def statements? : Nat → List Char → Option (List Statement)
  | 0, cs => if cs.isEmpty then some [] else none
  | fuel + 1, cs =>
      match endOfLine? cs with
      | some [] => some []
      | some rest => statements? fuel rest
      | none => do
          let (statement, rest) ← statement? (skipBlanks cs)
          -- Nothing but a comment may follow on the same line.
          let rest ← endOfLine? rest
          let more ← statements? fuel rest
          pure (statement :: more)

/-! ## §3. The document. -/

/-- Follow a line: the table named last, and all entries. -/
def follow (state : List String × TableEntries) :
    Statement → Option (List String × TableEntries)
  | .name path => (nameTable path state.2).map fun entries => (path, entries)
  | .append path => (appendTable path state.2).map fun entries => (path, entries)
  | .assign path doc =>
      (descend false (assign path doc) state.1 false state.2).map fun entries =>
        (state.1, entries)

/-- The mark that may stand at the beginning of a file. -/
def dropMark : List Char → List Char
  | '\uFEFF' :: rest => rest
  | cs => cs

end VxlanMesh.Toml

namespace VxlanMesh

/-- The document of a configuration file. -/
def Document.ofToml? (s : String) : Option Document := do
  let cs := Toml.dropMark s.toList
  let statements ← Toml.statements? (cs.length + 1) cs
  let (_, entries) ← statements.foldlM Toml.follow ([], [])
  pure (.mapping (Toml.entriesDocument entries))

end VxlanMesh
