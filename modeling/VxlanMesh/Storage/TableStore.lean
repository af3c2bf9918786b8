/-
  VxlanMesh.Storage.TableStore
  ────────────────────────────────
  **TABLES KEPT AS FILES.**

  Each table is one indented JSON file of a directory.  A snapshot is
  written to a scratch file first, which then takes the place of the
  table file in one step, so that no reader sees half of it:

      prepare   create the directory if it is missing
      stage     write the scratch file
      commit    put it in the place of the table file

  A `Disk` is the file tree together with the faults that writes to come
  will meet; without faults, writing fails only as the tree demands.
-/
import VxlanMesh.Error
import VxlanMesh.Json.Reader
import VxlanMesh.Json.Writer
import VxlanMesh.Storage.FileTree
import VxlanMesh.Text.Utf8

namespace VxlanMesh

/-! ## §1. Disks. -/

/-- The steps of writing a snapshot. -/
inductive SaveStep where
  | prepare
  | stage
  | commit
  deriving Repr, DecidableEq

/-- A fault that a write meets at one of its steps. -/
structure WriteFault where
  step : SaveStep
  cause : OsError
  deriving Repr, DecidableEq

/-- A file tree and the faults of the writes to come, none for a write without fault. -/
structure Disk where
  tree : FileTree := {}
  faults : List (Option WriteFault) := []

namespace Disk

/-- The fault of the next write, and the disk for the writes after it. -/
def nextFault (disk : Disk) : Option WriteFault × Disk :=
  match disk.faults with
  | [] => (none, disk)
  | fault :: faults => (fault, { disk with faults })

/-- The fault strikes at the step. -/
def faultAt (fault : Option WriteFault) (step : SaveStep) : Option OsError :=
  (fault.filter (·.step = step)).map (·.cause)

end Disk

/-! ## §2. Stores. -/

/-- A directory of table files. -/
structure TableStore where
  directory : String
  deriving Repr, DecidableEq

namespace TableStore

/-- A name below a directory; an absolute name stands for itself. -/
def join (directory name : String) : String :=
  -- A name that begins at the root does not depend on the directory.
  if Text.startsWith name "/" || directory.isEmpty then name
  else if directory.toList.getLast? == some '/' then directory ++ name
  else directory ++ "/" ++ name

/-- The file of a table. -/
def path (store : TableStore) (table : String) : String :=
  join store.directory (table ++ ".json")

/-- A path up to its last slash, and the name after it. -/
def splitName (path : String) : String × List Char :=
  let reversed := path.toList.reverse
  (String.ofList (reversed.dropWhile (· ≠ '/')).reverse,
    (reversed.takeWhile (· ≠ '/')).reverse)

/-- The name without the extension that follows its last dot, none where the only dot is
in front. -/
def stem? (name : List Char) : Option (List Char) :=
  let stem := (name.reverse.dropWhile (· ≠ '.')).drop 1
  if stem.isEmpty then none else some stem.reverse

/-- The scratch file of a table file: its extension gives way to another.  Where nothing
but a dot stands before the extension, what is left names the directory above. -/
def scratchOf (path : String) : String :=
  let (above, name) := splitName path
  match stem? name with
  | none => above ++ String.ofList name ++ ".json.tmp"
  | some ['.'] => above ++ ".."
  | some stem => above ++ String.ofList stem ++ ".json.tmp"

/-- The scratch file of a table. -/
def scratchPath (store : TableStore) (table : String) : String := scratchOf (store.path table)

/-! ## §3. Reading. -/

/-- A failure at a path. -/
def failure {α : Type} (path doing : String) (e : OsError) : Except OverlayError α :=
  .error (.persistence path (doing ++ ": " ++ e.message))

/-- The text of a table file, none where there is no file. -/
def readText (store : TableStore) (table : String) (tree : FileTree) :
    Except OverlayError (Option String) :=
  match tree.read (store.path table) with
  | .error .notFound => .ok none
  | .error e => failure (store.path table) "Failed to read" e
  | .ok content =>
      match Text.Utf8.decode? content with
      | none => failure (store.path table) "Failed to read" .invalidText
      | some text => .ok (some text)

/-- The value of a table, the default where there is no file. -/
def load {α : Type} (store : TableStore) (table : String) (decode : Document.Decoder α)
    (default : α) (tree : FileTree) : Except OverlayError α :=
  match store.readText table tree with
  | .error e => .error e
  | .ok none => .ok default
  | .ok (some text) =>
      match Document.decodeText? decode text with
      | some value => .ok value
      | none => .error (.persistence (store.path table) "Failed to decode:")

/-! ## §4. Writing. -/

/-- Create the directory if it is missing. -/
def prepare (store : TableStore) (table : String) (fault : Option WriteFault)
    (tree : FileTree) : Except OverlayError Unit × FileTree :=
  let doing := "Failed to create state directory"
  match Disk.faultAt fault .prepare with
  | some e => (failure (store.path table) doing e, tree)
  | none =>
      match tree.createDirectories store.directory with
      | (.ok (), tree) => (.ok (), tree)
      | (.error e, tree) => (failure (store.path table) doing e, tree)

/-- Write the scratch file. -/
def stage (store : TableStore) (table : String) (content : String)
    (fault : Option WriteFault) (tree : FileTree) : Except OverlayError Unit × FileTree :=
  let doing := "Failed to write"
  let written : Except OsError FileTree := match Disk.faultAt fault .stage with
    | some e => .error e
    | none => tree.write (store.scratchPath table) (Text.Utf8.encode content)
  match written with
  | .ok tree => (.ok (), tree)
  | .error e => (failure (store.scratchPath table) doing e, tree)

/-- Put the scratch file in the place of the table file. -/
def commit (store : TableStore) (table : String) (fault : Option WriteFault)
    (tree : FileTree) : Except OverlayError Unit × FileTree :=
  let doing := "Failed to rename"
  let moved : Except OsError FileTree := match Disk.faultAt fault .commit with
    | some e => .error e
    | none => tree.rename (store.scratchPath table) (store.path table)
  match moved with
  | .ok tree => (.ok (), tree)
  | .error e => (failure (store.path table) doing e, tree)

/-- Write a snapshot of a table: what was done before a failing step stays done. -/
def save (store : TableStore) (table : String) (value : Json) (disk : Disk) :
    Except OverlayError Unit × Disk :=
  let (fault, disk) := disk.nextFault
  let (answer, tree) :=
    match store.prepare table fault disk.tree with
    | (.error e, tree) => (.error e, tree)
    | (.ok (), tree) =>
        -- Until the last step the table file is what it was.
        match store.stage table value.pretty fault tree with
        | (.error e, tree) => (.error e, tree)
        | (.ok (), tree) => store.commit table fault tree
  (answer, { disk with tree })

end TableStore

end VxlanMesh
