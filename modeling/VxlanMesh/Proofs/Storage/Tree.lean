/-
  VxlanMesh.Proofs.Storage.Tree
  ────────────────────────────────
  **WHAT IS AT A LOCATION, BEFORE AND AFTER.**

  A tree is seen through `kind?`: at each location there is a directory, a
  file with its bytes, or nothing.  Where only directories stand above a
  location, putting a file there changes `kind?` at that location and
  nowhere else, and so does taking it away.

      kind?_put / kind?_remove      the frame of a change
      follow_eq_resolve             a path leads to one place, whatever the tree
      follow_mono                   directories that stay keep paths open
      write_ok / rename_ok          which places a file operation changes
-/
import VxlanMesh.Storage.FileTree

namespace VxlanMesh

/-! ## §1. Kinds. -/

/-- What stands at a location: a directory, or a file with its bytes. -/
inductive NodeKind where
  | directory
  | file (content : ByteArray)

namespace FileNode

/-- The kind of a node. -/
def kind : FileNode → NodeKind
  | directory _ => .directory
  | file content => .file content

/-- What is at a location below what may be a node. -/
def lookUp (location : List String) (node : Option FileNode) : Option NodeKind :=
  (node.bind (get? location)).map kind

@[simp] theorem lookUp_nil (node : Option FileNode) : lookUp [] node = node.map kind := by
  cases node <;> rfl

@[simp] theorem lookUp_directory (name : String) (rest : List String)
    (entries : List (String × FileNode)) :
    lookUp (name :: rest) (some (directory entries)) = lookUp rest (Entries.get? name entries) :=
  rfl

/-- What is of the kind of directories has entries. -/
theorem kind_eq_directory {node : FileNode} (h : node.kind = .directory) :
    ∃ entries, node = directory entries := by
  cases node with
  | directory entries => exact ⟨entries, rfl⟩
  | file content => cases h

/-- Nothing lies below what is no directory. -/
theorem lookUp_below {node : Option FileNode} (h : lookUp [] node ≠ some .directory)
    (name : String) (rest : List String) : lookUp (name :: rest) node = none := by
  cases node with
  | none => rfl
  | some node =>
      cases node with
      | file content => rfl
      | directory entries => exact absurd rfl h

/-! ## §2. The frame of a change. -/

/-- Below the name that is changed stands what the change makes of what stood there. -/
theorem lookUp_change_self (f : Option FileNode → Option FileNode) (name : String)
    (rest tail : List String) (entries : List (String × FileNode)) :
    lookUp (name :: tail) (change f (name :: rest) (some (directory entries)))
      = lookUp tail (change f rest (Entries.get? name entries)) := by
  rw [change, lookUp_directory]
  cases change f rest (Entries.get? name entries) with
  | none => rw [Entries.get?_erase, if_pos rfl]
  | some child => rw [Entries.get?_insert, if_pos rfl]

/-- Below another name nothing changes. -/
theorem lookUp_change_ne (f : Option FileNode → Option FileNode) {first name : String}
    (hname : first ≠ name) (rest tail : List String) (entries : List (String × FileNode)) :
    lookUp (first :: tail) (change f (name :: rest) (some (directory entries)))
      = lookUp (first :: tail) (some (directory entries)) := by
  rw [change, lookUp_directory, lookUp_directory]
  cases change f rest (Entries.get? name entries) with
  | none => rw [Entries.get?_erase, if_neg hname]
  | some child => rw [Entries.get?_insert, if_neg hname]

/-- **Changing one place.**  Induction on the location; each name but the last leads
through a directory, and what is put in place has nothing below it. -/
theorem lookUp_change (leaf : Option FileNode) (hleaf : lookUp [] leaf ≠ some .directory ∨
      leaf = some emptyDirectory) :
    ∀ (location other : List String) (node : Option FileNode),
      (∀ above, above <+: location → above ≠ location → lookUp above node = some .directory) →
      lookUp location node ≠ some .directory →
      lookUp other (change (fun _ => leaf) location node)
        = if other = location then leaf.map kind else lookUp other node := by
  have hbelow : ∀ name rest, lookUp (name :: rest) leaf = none := by
    intro name rest
    cases hleaf with
    | inl h => exact lookUp_below h name rest
    | inr h => rw [h]; rfl
  intro location
  induction location with
  | nil =>
      intro other node _ hnode
      have hchange : change (fun _ => leaf) [] node = leaf := by cases node <;> rfl
      rw [hchange]
      cases other with
      | nil => simp
      | cons name rest => rw [hbelow, lookUp_below hnode, if_neg (by simp)]
  | cons name rest ih =>
      intro other node habove hnode
      have hroot := habove [] (List.nil_prefix) (by simp)
      cases node with
      | none => cases hroot
      | some node =>
          -- A location with a name lies below a directory, by the hypothesis on what is above.
          obtain ⟨entries, rfl⟩ := kind_eq_directory (Option.some.inj hroot)
          have ih' := fun tail => ih tail (Entries.get? name entries)
            (fun above h hne => habove (name :: above) (List.cons_prefix_cons.2 ⟨rfl, h⟩)
              (fun same => hne (List.cons.inj same).2)) hnode
          cases other with
          | nil => rfl
          | cons first tail =>
              by_cases hname : first = name
              · subst hname
                rw [lookUp_change_self, ih', lookUp_directory]
                simp
              · rw [lookUp_change_ne _ hname, if_neg (fun same => hname (List.cons.inj same).1)]

end FileNode

namespace FileTree

/-- What is at a location of a tree. -/
def kind? (tree : FileTree) (location : List String) : Option NodeKind :=
  FileNode.lookUp location (some tree.root)

theorem kind?_eq (tree : FileTree) (location : List String) :
    tree.kind? location = (tree.get? location).map FileNode.kind := rfl

/-- Only directories stand above a location. -/
def Open (tree : FileTree) (location : List String) : Prop :=
  ∀ above, above <+: location → above ≠ location → tree.kind? above = some .directory

/-- **Putting a node changes one place.** -/
theorem kind?_put {tree : FileTree} {location : List String} {node : FileNode}
    (hopen : tree.Open location) (hplace : tree.kind? location ≠ some .directory)
    (hnode : node.kind ≠ .directory ∨ node = .emptyDirectory) (other : List String) :
    (tree.put location node).kind? other
      = if other = location then some node.kind else tree.kind? other := by
  have hleaf : FileNode.lookUp [] (some node) ≠ some .directory
      ∨ some node = some FileNode.emptyDirectory :=
    hnode.imp (fun h same => h (Option.some.inj same)) (congrArg some)
  have h := FileNode.lookUp_change (some node) hleaf location other (some tree.root) hopen hplace
  have hsome : (FileNode.change (fun _ => some node) location (some tree.root)).isSome := by
    cases location with
    | nil => rfl
    | cons name rest => cases tree.root <;> rfl
  obtain ⟨root, hroot⟩ := Option.isSome_iff_exists.1 hsome
  rw [kind?, put, hroot, Option.getD_some]
  rw [hroot] at h
  exact h

/-- **Removing a file changes one place.** -/
theorem kind?_remove {tree : FileTree} {location : List String} (hopen : tree.Open location)
    (hplace : tree.kind? location ≠ some .directory) (hbelow : location ≠ [])
    (other : List String) :
    (tree.remove location).kind? other = if other = location then none else tree.kind? other := by
  have h := FileNode.lookUp_change none (Or.inl (by simp)) location other
    (some tree.root) hopen hplace
  obtain ⟨name, rest, rfl⟩ := List.exists_cons_of_ne_nil hbelow
  have hsome : (FileNode.change (fun _ => none) (name :: rest) (some tree.root)).isSome := by
    cases tree.root <;> rfl
  obtain ⟨root, hroot⟩ := Option.isSome_iff_exists.1 hsome
  rw [kind?, remove, hroot, Option.getD_some]
  rw [hroot] at h
  exact h

/-! ## §3. Paths. -/

/-- Where names lead from a location, if they can be followed at all. -/
def resolve : List String → List String → List String
  | location, [] => location
  | location, name :: rest =>
      if name = "." then resolve location rest
      else if name = ".." then resolve location.dropLast rest
      else resolve (location ++ [name]) rest

/-- A location is accepted as a directory if and only if it is one. -/
theorem requireDirectory_eq_ok {tree : FileTree} {location : List String} :
    tree.requireDirectory location = .ok () ↔ tree.kind? location = some .directory := by
  rw [requireDirectory, kind?_eq]
  cases tree.get? location with
  | none => simp
  | some node => cases node <;> simp [FileNode.kind]

/-- One more name: the location has to be a directory, and the name short. -/
theorem follow_cons {tree : FileTree} {location found : List String} {name : String}
    {rest : List String} (h : tree.follow location (name :: rest) = .ok found) :
    tree.kind? location = some .directory ∧
      tree.follow (resolve location [name]) rest = .ok found ∧
      (name = "." ∨ name = ".." ∨ name.utf8ByteSize ≤ longestName) := by
  rw [follow] at h
  cases hdir : tree.requireDirectory location with
  | error e => rw [hdir] at h; cases h
  | ok u =>
      rw [hdir] at h
      refine ⟨requireDirectory_eq_ok.1 hdir, ?_⟩
      change (if name = "." then _ else _) = _ at h
      simp only [resolve]
      split at h
      · rename_i hdot
        rw [if_pos hdot]
        exact ⟨h, Or.inl hdot⟩
      · rename_i hdot
        rw [if_neg hdot]
        split at h
        · rename_i hup
          rw [if_pos hup]
          exact ⟨h, Or.inr (Or.inl hup)⟩
        · rename_i hup
          rw [if_neg hup]
          split at h
          · cases h
          · rename_i hlong
            exact ⟨h, Or.inr (Or.inr (Nat.le_of_not_lt hlong))⟩

/-- The converse of `follow_cons`. -/
theorem follow_cons_eq {tree : FileTree} {location : List String} {name : String}
    (rest : List String) (hdir : tree.kind? location = some .directory)
    (hname : name = "." ∨ name = ".." ∨ name.utf8ByteSize ≤ longestName) :
    tree.follow location (name :: rest) = tree.follow (resolve location [name]) rest := by
  rw [follow, requireDirectory_eq_ok.2 hdir]
  show (if name = "." then _ else _) = _
  simp only [resolve]
  split
  · rfl
  · split
    · rfl
    · rename_i hdot hup
      rw [if_neg (Nat.not_lt.2 ((hname.resolve_left hdot).resolve_left hup))]

/-- Names lead from one to the next. -/
theorem resolve_cons (location : List String) (name : String) (rest : List String) :
    resolve location (name :: rest) = resolve (resolve location [name]) rest := by
  simp only [resolve]
  split
  · rfl
  · split <;> rfl

/-- **A path leads to one place, whatever the tree.** -/
theorem follow_eq_resolve {tree : FileTree} :
    ∀ {path location found : List String}, tree.follow location path = .ok found →
      found = resolve location path := by
  intro path
  induction path with
  | nil => intro location found h; exact (Except.ok.inj h).symm
  | cons name rest ih =>
      intro location found h
      rw [resolve_cons]
      exact ih (follow_cons h).2.1

/-- Names after others lead on from where these lead. -/
theorem resolve_append (path more : List String) : ∀ location : List String,
    resolve location (path ++ more) = resolve (resolve location path) more := by
  induction path with
  | nil => intro location; rfl
  | cons name rest ih =>
      intro location
      rw [List.cons_append, resolve_cons, ih, ← resolve_cons]

theorem prefix_dropLast {α : Type} {above location : List α} (h : above <+: location.dropLast)
    (hne : above ≠ location.dropLast) : above <+: location ∧ above ≠ location := by
  refine ⟨h.trans (List.dropLast_prefix location), fun same => ?_⟩
  subst same
  exact hne (h.eq_of_length_le (by simp))

theorem prefix_concat {α : Type} {above location : List α} {a : α} (h : above <+: location ++ [a])
    (hne : above ≠ location ++ [a]) : above <+: location :=
  (List.prefix_concat_iff.1 h).resolve_left hne

/-- **Only directories stand above a place that can be reached.** -/
theorem open_of_follow {tree : FileTree} :
    ∀ {path location found : List String}, tree.Open location →
      tree.follow location path = .ok found → tree.Open found := by
  intro path
  induction path with
  | nil => intro location found hopen h; rw [← Except.ok.inj h]; exact hopen
  | cons name rest ih =>
      intro location found hopen h
      obtain ⟨hdir, hrest, -⟩ := follow_cons h
      refine ih ?_ hrest
      -- Staying and going up keep to prefixes of the location; going down adds the location
      -- itself, which `follow` has found to be a directory.
      simp only [resolve]
      split
      · exact hopen
      · split
        · intro above habove hne
          obtain ⟨hpre, hne'⟩ := prefix_dropLast habove hne
          exact hopen above hpre hne'
        · intro above habove hne
          have hpre := prefix_concat habove hne
          by_cases same : above = location
          · rw [same]; exact hdir
          · exact hopen above hpre same

theorem open_root (tree : FileTree) : tree.Open [] := by
  intro above h hne
  exact absurd (List.prefix_nil.1 h) hne

/-! ## §4. Directories that stay. -/

/-- Every directory of the first tree is one of the second. -/
def DirectoriesKept (tree later : FileTree) : Prop :=
  ∀ location, tree.kind? location = some .directory → later.kind? location = some .directory

/-- **Paths that could be followed still can.** -/
theorem follow_mono {tree later : FileTree} (hkept : DirectoriesKept tree later) :
    ∀ {path location found : List String}, tree.follow location path = .ok found →
      later.follow location path = .ok found := by
  intro path
  induction path with
  | nil => intro location found h; exact h
  | cons name rest ih =>
      intro location found h
      obtain ⟨hdir, hrest, hname⟩ := follow_cons h
      rw [follow_cons_eq rest (hkept location hdir) hname]
      exact ih hrest

/-- The second tree has the nodes of the first, and directories in some free places. -/
def Grown (tree later : FileTree) : Prop :=
  ∀ location, later.kind? location = tree.kind? location ∨
    (tree.kind? location = none ∧ later.kind? location = some .directory)

theorem Grown.refl (tree : FileTree) : Grown tree tree := fun _ => Or.inl rfl

/-- A tree that grows twice has grown. -/
theorem Grown.trans {a b c : FileTree} (hab : Grown a b) (hbc : Grown b c) : Grown a c := by
  intro location
  cases hab location with
  | inl same =>
      cases hbc location with
      | inl same' => exact Or.inl (same'.trans same)
      | inr new => exact Or.inr ⟨same ▸ new.1, new.2⟩
  | inr new =>
      cases hbc location with
      | inl same => exact Or.inr ⟨new.1, same.trans new.2⟩
      | inr new' => rw [new'.1] at new; cases new.2

/-- **Creating a directory** fills one free place. -/
theorem createDirectory_ok {tree later : FileTree} {path : List String}
    (h : tree.createDirectory path = .ok later) :
    tree.kind? (resolve [] path) = none ∧ ∀ other, later.kind? other
      = if other = resolve [] path then some .directory else tree.kind? other := by
  rw [createDirectory] at h
  cases hfollow : tree.follow [] path with
  | error e => rw [hfollow] at h; cases h
  | ok location =>
      rw [hfollow] at h
      simp only [bind, Except.bind] at h
      cases hget : tree.get? location with
      | some node => rw [hget] at h; cases h
      | none =>
          rw [hget] at h
          have hnone : tree.kind? location = none := by rw [kind?_eq, hget]; rfl
          rw [← follow_eq_resolve hfollow]
          refine ⟨hnone, fun other => ?_⟩
          rw [← Except.ok.inj h, kind?_put (open_of_follow tree.open_root hfollow)
            (by rw [hnone]; simp) (Or.inr rfl)]
          rfl

/-- One directory that is created lets the tree grow. -/
theorem createDirectory_grown {tree later : FileTree} {path : List String}
    (h : tree.createDirectory path = .ok later) : Grown tree later := by
  obtain ⟨hnone, hkind⟩ := createDirectory_ok h
  intro other
  rw [hkind]
  split
  · rename_i same
    subst same
    exact Or.inr ⟨hnone, rfl⟩
  · exact Or.inl rfl

/-- So do all that are missing above it. Induction on how far up the creation goes. -/
theorem createAll_grown (fuel : Nat) : ∀ (tree : FileTree) (path : List String),
    Grown tree (tree.createAll path fuel).2 := by
  induction fuel with
  | zero => intro tree path; exact Grown.refl tree
  | succ fuel ih =>
      intro tree path
      rw [createAll]
      split
      · exact Grown.refl tree
      · split
        · rename_i h; exact createDirectory_grown h
        -- The directory above is missing: it is created first, then this one once more.
        · have habove := ih tree (parentNames path)
          split
          · rename_i e later h
            rw [h] at habove
            exact habove
          · rename_i later h
            rw [h] at habove
            split
            · rename_i last hlast; exact habove.trans (createDirectory_grown hlast)
            · exact habove
        · exact Grown.refl tree

/-- **Creating directories adds directories in free places and does nothing else.** -/
theorem createDirectories_grown (tree : FileTree) (path : String) :
    Grown tree (tree.createDirectories path).2 := by
  rw [createDirectories]
  split
  · exact Grown.refl tree
  · exact createAll_grown _ tree _

/-! ## §5. Files that are read, written and moved. -/

theorem get?_of_file {tree : FileTree} {location : List String} {content : ByteArray}
    (h : tree.kind? location = some (.file content)) :
    tree.get? location = some (.file content) := by
  rw [kind?_eq] at h
  cases hget : tree.get? location with
  | none => rw [hget] at h; cases h
  | some node =>
      rw [hget] at h
      cases node with
      | directory entries => cases h
      | file bytes => cases h; rfl

theorem get?_of_directory {tree : FileTree} {location : List String}
    (h : tree.kind? location = some .directory) :
    ∃ entries, tree.get? location = some (.directory entries) := by
  rw [kind?_eq] at h
  cases hget : tree.get? location with
  | none => rw [hget] at h; cases h
  | some node =>
      rw [hget] at h
      cases node with
      | directory entries => exact ⟨entries, rfl⟩
      | file bytes => cases h

/-- The bytes of the file at a location. -/
def content? (tree : FileTree) (location : List String) : Option ByteArray :=
  match tree.kind? location with
  | some (.file content) => some content
  | _ => none

theorem content?_eq_some {tree : FileTree} {location : List String} {content : ByteArray} :
    tree.content? location = some content ↔ tree.kind? location = some (.file content) := by
  rw [content?]
  constructor
  · intro h
    split at h
    · rename_i hkind; rw [hkind, Option.some.inj h]
    · cases h
  · intro h
    rw [h]

/-- Directories in free places hide no file. -/
theorem Grown.content? {tree later : FileTree} (h : Grown tree later) (location : List String) :
    later.content? location = tree.content? location := by
  rw [FileTree.content?, FileTree.content?]
  rcases h location with same | ⟨hbefore, hafter⟩
  · rw [same]
  · rw [hbefore, hafter]

/-- A path that can be followed leads where its names say, below directories only. -/
theorem locate_ok {tree : FileTree} {path : String} {location : List String}
    (h : tree.locate path = .ok location) :
    location = resolve [] (names path) ∧ tree.Open location := by
  rw [locate] at h
  split at h
  · cases h
  · exact ⟨follow_eq_resolve h, open_of_follow tree.open_root h⟩

/-- It still leads there while all directories stay. -/
theorem locate_mono {tree later : FileTree} {path : String} {location : List String}
    (hkept : DirectoriesKept tree later) (h : tree.locate path = .ok location) :
    later.locate path = .ok location := by
  rw [locate] at h ⊢
  split
  · rename_i hnul; rw [if_pos hnul] at h; cases h
  · rename_i hnul; rw [if_neg hnul] at h; exact follow_mono hkept h

/-- A file that a path leads to can be read. -/
theorem read_eq_ok {tree : FileTree} {path : String} {location : List String}
    {content : ByteArray} (hlocate : tree.locate path = .ok location)
    (h : tree.content? location = some content) : tree.read path = .ok content := by
  have hget := get?_of_file (content?_eq_some.1 h)
  rw [read, hlocate]
  simp only [bind, Except.bind, hget]

/-- What is read is the content of the file that the path leads to. -/
theorem content?_of_read {tree : FileTree} {path : String} {content : ByteArray}
    (h : tree.read path = .ok content) :
    tree.content? (resolve [] (names path)) = some content := by
  rw [read] at h
  cases hlocate : tree.locate path with
  | error e => rw [hlocate] at h; cases h
  | ok location =>
      rw [hlocate] at h
      simp only [bind, Except.bind] at h
      rw [← (locate_ok hlocate).1, content?_eq_some, kind?_eq]
      split at h
      · rename_i hget; rw [hget, ← Except.ok.inj h]; rfl
      · cases h
      · cases h

/-- **A write puts the bytes in one place.** -/
theorem write_ok {tree later : FileTree} {path : String} {content : ByteArray}
    (h : tree.write path content = .ok later) :
    ∃ location, tree.locate path = .ok location ∧ tree.kind? location ≠ some .directory ∧
      ∀ other, later.kind? other
        = if other = location then some (.file content) else tree.kind? other := by
  rw [write] at h
  cases hlocate : tree.locate path with
  | error e => rw [hlocate] at h; cases h
  | ok location =>
      rw [hlocate] at h
      simp only [bind, Except.bind] at h
      have hplace : tree.kind? location ≠ some .directory := by
        intro hdir
        obtain ⟨entries, hget⟩ := get?_of_directory hdir
        rw [hget] at h
        cases h
      refine ⟨location, rfl, hplace, fun other => ?_⟩
      have hlater : tree.put location (.file content) = later := by
        split at h
        · cases h
        · exact Except.ok.inj h
      rw [← hlater, kind?_put (locate_ok hlocate).2 hplace (Or.inl (by simp [FileNode.kind]))]
      rfl

/-- **Moving a file leaves nothing in its old place and its bytes in the new one.** -/
theorem rename_ok {tree later : FileTree} {source target : String} {start : List String}
    {content : ByteArray} (hsource : tree.locate source = .ok start) (hbelow : start ≠ [])
    (hfile : tree.kind? start = some (.file content))
    (h : tree.rename source target = .ok later) :
    ∃ goal, tree.locate target = .ok goal ∧ tree.kind? goal ≠ some .directory ∧
      ∀ other, later.kind? other = if other = goal then some (.file content)
        else if other = start then none else tree.kind? other := by
  rw [rename, hsource] at h
  cases htarget : tree.locate target with
  | error e => rw [htarget] at h; cases h
  | ok goal =>
      rw [htarget] at h
      simp only [bind, Except.bind, get?_of_file hfile] at h
      have hplace : tree.kind? goal ≠ some .directory := by
        intro hdir
        obtain ⟨entries, hget⟩ := get?_of_directory hdir
        rw [hget] at h
        cases h
      have hlater : (tree.remove start).put goal (.file content) = later := by
        cases hget : tree.get? goal with
        | none => rw [hget] at h; exact Except.ok.inj h
        | some node =>
            rw [hget] at h
            cases node with
            | directory entries => cases h
            | file bytes => exact Except.ok.inj h
      -- The file is taken away first; no directory goes with it, so the way stays open.
      have hstart : tree.kind? start ≠ some .directory := by rw [hfile]; simp
      have hremove := kind?_remove (locate_ok hsource).2 hstart hbelow
      have hopen : (tree.remove start).Open goal := by
        intro above habove hne
        have hdir := (locate_ok htarget).2 above habove hne
        rw [hremove, if_neg, hdir]
        intro same
        rw [same] at hdir
        exact hstart hdir
      have hplace' : (tree.remove start).kind? goal ≠ some .directory := by
        rw [hremove]
        split
        · simp
        · exact hplace
      refine ⟨goal, rfl, hplace, fun other => ?_⟩
      rw [← hlater, kind?_put hopen hplace' (Or.inl (by simp [FileNode.kind])), hremove]
      rfl

end FileTree

end VxlanMesh
