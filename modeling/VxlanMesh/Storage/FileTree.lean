/-
  VxlanMesh.Storage.FileTree
  ────────────────────────────────
  **FILES AND DIRECTORIES.**

  A `FileNode` is a file with its bytes or a directory of named nodes.
  Operations take a path as text and follow it from a root directory, one
  name after the other: every name but the last has to be a directory,
  `.` stays and `..` goes back.  There are no links, so a path that has
  been followed is a plain list of names, its `location`.

      read, write, createDirectory, createDirectories, rename
-/
import VxlanMesh.KeyedTable
import VxlanMesh.Text.Pattern

namespace VxlanMesh

/-! ## §1. Why a file operation can fail. -/

/-- A cause of failure of a file operation. -/
inductive OsError where
  | notFound
  | alreadyExists
  | notDirectory
  | isDirectory
  | nameTooLong
  | nulInName
  | invalidText
  deriving Repr, DecidableEq

/-- What is reported of a cause. -/
def OsError.message : OsError → String
  | notFound => "No such file or directory (os error 2)"
  | alreadyExists => "File exists (os error 17)"
  | notDirectory => "Not a directory (os error 20)"
  | isDirectory => "Is a directory (os error 21)"
  | nameTooLong => "File name too long (os error 36)"
  | nulInName => "file name contained an unexpected NUL byte"
  | invalidText => "stream did not contain valid UTF-8"

/-! ## §2. Nodes. -/

/-- A file with its bytes, or a directory of named nodes. -/
inductive FileNode where
  | file (content : ByteArray)
  | directory (entries : List (String × FileNode))
  deriving Inhabited

namespace FileNode

/-- A directory without entries. -/
def emptyDirectory : FileNode := .directory []

/-- The node at a location below a node. -/
def get? : List String → FileNode → Option FileNode
  | [], node => some node
  | name :: rest, .directory entries => (Entries.get? name entries).bind (get? rest)
  | _ :: _, .file _ => none

/-- Change what is at a location below a node; where a directory on the way is missing,
nothing changes. -/
def change (f : Option FileNode → Option FileNode) :
    List String → Option FileNode → Option FileNode
  | [], node => f node
  | name :: rest, some (.directory entries) =>
      some (.directory (match change f rest (Entries.get? name entries) with
        | some child => Entries.insert name child entries
        | none => Entries.erase name entries))
  | _ :: _, node => node

end FileNode

/-- The tree of all files below a root directory. -/
structure FileTree where
  root : FileNode := .emptyDirectory

namespace FileTree

/-- The node at a location. -/
def get? (tree : FileTree) (location : List String) : Option FileNode :=
  tree.root.get? location

/-- Put a node at a location. -/
def put (tree : FileTree) (location : List String) (node : FileNode) : FileTree :=
  ⟨(FileNode.change (fun _ => some node) location (some tree.root)).getD tree.root⟩

/-- Remove what is at a location. -/
def remove (tree : FileTree) (location : List String) : FileTree :=
  ⟨(FileNode.change (fun _ => none) location (some tree.root)).getD .emptyDirectory⟩

/-! ## §3. Following a path. -/

/-- The longest name that a directory can hold, in bytes. -/
def longestName : Nat := 255

/-- The names of a path. -/
def names (path : String) : List String :=
  ((Text.pieces '/' path.toList).filter (!·.isEmpty)).map String.ofList

/-- The location is a directory. -/
def requireDirectory (tree : FileTree) (location : List String) : Except OsError Unit :=
  match tree.get? location with
  | some (.directory _) => .ok ()
  | some (.file _) => .error .notDirectory
  | none => .error .notFound

/-- Follow names from a location. -/
def follow (tree : FileTree) : List String → List String → Except OsError (List String)
  | location, [] => .ok location
  | location, name :: rest => do
      tree.requireDirectory location
      if name = "." then follow tree location rest
      else if name = ".." then follow tree location.dropLast rest
      else if name.utf8ByteSize > longestName then .error .nameTooLong
      else follow tree (location ++ [name]) rest

/-- The location of a path; the node there need not exist. -/
def locate (tree : FileTree) (path : String) : Except OsError (List String) :=
  if path.toList.any (·.toNat == 0) then .error .nulInName
  else tree.follow [] (names path)

/-! ## §4. Operations. -/

/-- The bytes of a file. -/
def read (tree : FileTree) (path : String) : Except OsError ByteArray := do
  match tree.get? (← tree.locate path) with
  | some (.file content) => .ok content
  | some (.directory _) => .error .isDirectory
  | none => .error .notFound

/-- Create a file with some bytes, or replace those of an existing one. -/
def write (tree : FileTree) (path : String) (content : ByteArray) :
    Except OsError FileTree := do
  let location ← tree.locate path
  match tree.get? location with
  | some (.directory _) => .error .isDirectory
  | _ => .ok (tree.put location (.file content))

/-- Create a directory. -/
def createDirectory (tree : FileTree) (path : List String) : Except OsError FileTree := do
  let location ← tree.follow [] path
  match tree.get? location with
  | some _ => .error .alreadyExists
  | none => .ok (tree.put location .emptyDirectory)

/-- A failure to create a directory counts only if there is no directory. -/
def unlessDirectory (tree : FileTree) (path : List String) (e : OsError) :
    Except OsError Unit :=
  match (tree.follow [] path).toOption.bind tree.get? with
  | some (.directory _) => .ok ()
  | _ => .error e

/-- The path without its last name, and without any `.` after it. -/
def parentNames (path : List String) : List String :=
  ((path.reverse.dropWhile (· == ".")).drop 1).reverse

/-- Create a directory and those above it that are missing; what was created before a
failure stays.  The fuel bounds how many there can be. -/
def createAll (tree : FileTree) (path : List String) : Nat → Except OsError Unit × FileTree
  | 0 => (.ok (), tree)
  | fuel + 1 =>
      if path.isEmpty then (.ok (), tree)
      else match tree.createDirectory path with
        | .ok tree => (.ok (), tree)
        -- Something above is missing: make that first, then try once more.
        | .error .notFound =>
            match createAll tree (parentNames path) fuel with
            | (.error e, tree) => (.error e, tree)
            | (.ok (), tree) =>
                match tree.createDirectory path with
                | .ok tree => (.ok (), tree)
                | .error e => (tree.unlessDirectory path e, tree)
        | .error e => (tree.unlessDirectory path e, tree)

/-- Create a directory and those above it that are missing. -/
def createDirectories (tree : FileTree) (path : String) : Except OsError Unit × FileTree :=
  if path.toList.any (·.toNat == 0) then (.error .nulInName, tree)
  else createAll tree (names path) ((names path).length + 1)

/-- Move a file, replacing a file that is at the new place. -/
def rename (tree : FileTree) (source target : String) : Except OsError FileTree := do
  let source ← tree.locate source
  let target ← tree.locate target
  match tree.get? source, tree.get? target with
  -- A file does not replace a directory, nor a directory a file.
  | none, _ => .error .notFound
  | some (.file _), some (.directory _) => .error .isDirectory
  | some (.directory _), some (.file _) => .error .notDirectory
  | some node, _ => .ok ((tree.remove source).put target node)

/-- The names in a directory, ascending; none where there is no directory. -/
def list (tree : FileTree) (path : String) : List String :=
  match (tree.locate path).toOption.bind tree.get? with
  | some (.directory entries) => entries.map (·.1)
  | _ => []

end FileTree

end VxlanMesh
