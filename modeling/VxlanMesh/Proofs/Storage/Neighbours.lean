/-
  VxlanMesh.Proofs.Storage.Neighbours
  ────────────────────────────────
  **WHAT LOADING REPORTS BEFORE AND AFTER A SNAPSHOT.**

  Writing a snapshot of one table touches its own two files, and it fills
  free places on the way to the directory of the store with directories.
  Neither is noticed when a table is loaded whose own file was left alone,
  but for one thing: a name can be too long only for a directory that is
  there.

      follow_grown        a way on which directories were missing
      read_kept           what reading a file can notice of them
      Within              the places that a snapshot touches
      load_after_save     the main result
-/
import VxlanMesh.Proofs.Storage.Snapshot
import VxlanMesh.Proofs.Tenant.Encoding

namespace VxlanMesh

/-! ## §1. Missing directories. -/

namespace FileTree

/-- Below a free place nothing is. -/
theorem kind?_below {tree : FileTree} {location : List String}
    (h : tree.kind? location = none) (more : List String) :
    tree.kind? (location ++ more) = none := by
  -- Induction on the location: without a name it would be the root, which is there.
  have hbelow : ∀ (location : List String) (node : Option FileNode),
      FileNode.lookUp location node = none →
        FileNode.lookUp (location ++ more) node = none := by
    intro location
    induction location with
    | nil =>
        intro node hnode
        cases node with
        | none => rfl
        | some node => cases hnode
    | cons name rest ih =>
        intro node hnode
        cases node with
        | none => rfl
        | some node =>
            cases node with
            | file content => rfl
            | directory entries => exact ih _ hnode
  exact hbelow location (some tree.root) h

/-- Without `..` a path only leads down. -/
theorem prefix_resolve {path : List String} (hup : ".." ∉ path) :
    ∀ location : List String, location <+: resolve location path := by
  induction path with
  | nil => intro location; exact List.prefix_refl _
  | cons name rest ih =>
      intro location
      have hname : name ≠ ".." := fun same => hup (same ▸ List.mem_cons_self)
      have hrest : ".." ∉ rest := fun hmem => hup (List.mem_cons_of_mem name hmem)
      unfold resolve
      by_cases hdot : name = "."
      · rw [if_pos hdot]
        exact ih hrest location
      · rw [if_neg hdot, if_neg hname]
        exact (List.prefix_append location [name]).trans (ih hrest _)

/-- Without `..` fewer names lead less far down. -/
theorem resolve_below {above path : List String} (hup : ".." ∉ path) (h : above <+: path)
    (location : List String) : resolve location above <+: resolve location path := by
  obtain ⟨more, rfl⟩ := h
  rw [resolve_append]
  exact prefix_resolve (fun hmem => hup (List.mem_append_right _ hmem)) _

/-- The names of the directory above are among the first of a path. -/
theorem parentNames_prefix (path : List String) : parentNames path <+: path := by
  unfold parentNames
  rw [← List.reverse_suffix, List.reverse_reverse]
  exact (List.drop_suffix _ _).trans (List.dropWhile_suffix _)

/-- Directories in free places on the way to a place. -/
def GrownTo (place : List String) (tree later : FileTree) : Prop :=
  ∀ location, later.kind? location = tree.kind? location ∨
    (location <+: place ∧ tree.kind? location = none ∧ later.kind? location = some .directory)

theorem GrownTo.refl (place : List String) (tree : FileTree) : GrownTo place tree tree :=
  fun _ => Or.inl rfl

/-- What grows twice on the way to a place has grown on that way. -/
theorem GrownTo.trans {place : List String} {a b c : FileTree} (hab : GrownTo place a b)
    (hbc : GrownTo place b c) : GrownTo place a c := by
  intro location
  cases hab location with
  | inl same =>
      cases hbc location with
      | inl same' => exact Or.inl (same'.trans same)
      | inr new => exact Or.inr ⟨new.1, same ▸ new.2.1, new.2.2⟩
  | inr new =>
      cases hbc location with
      | inl same => exact Or.inr ⟨new.1, new.2.1, same.trans new.2.2⟩
      | inr new' =>
          rw [new'.2.1] at new
          cases new.2.2

/-- A directory that is created on the way to a place is in a free place on it. -/
theorem createDirectory_grownTo {place path : List String} {tree later : FileTree}
    (hpath : resolve [] path <+: place) (h : tree.createDirectory path = .ok later) :
    GrownTo place tree later := by
  obtain ⟨hnone, hkind⟩ := createDirectory_ok h
  intro location
  rw [hkind]
  by_cases same : location = resolve [] path
  · subst same
    rw [if_pos rfl]
    exact Or.inr ⟨hpath, hnone, rfl⟩
  · rw [if_neg same]
    exact Or.inl rfl

/-- Induction on the fuel, as the directories above are created by the same recursion. -/
theorem createAll_grownTo (place : List String) (fuel : Nat) :
    ∀ (tree : FileTree) (path : List String), ".." ∉ path → resolve [] path <+: place →
      GrownTo place tree (tree.createAll path fuel).2 := by
  induction fuel with
  | zero => intro tree path _ _; exact GrownTo.refl place tree
  | succ fuel ih =>
      intro tree path hup hpath
      have hparent := parentNames_prefix path
      have habove := ih tree (parentNames path) (fun hmem => hup (hparent.subset hmem))
        ((resolve_below hup hparent []).trans hpath)
      rw [createAll]
      split
      · exact GrownTo.refl place tree
      · split
        · rename_i h
          exact createDirectory_grownTo hpath h
        · split
          · rename_i h
            rw [h] at habove
            exact habove
          · rename_i h
            rw [h] at habove
            split
            · rename_i last hlast
              exact habove.trans (createDirectory_grownTo hpath hlast)
            · exact habove
        · exact GrownTo.refl place tree

/-! ## §2. Following a way that has grown. -/

/-- Nothing can be followed from where nothing is. -/
theorem follow_missing {tree : FileTree} {location : List String}
    (h : tree.kind? location = none) (name : String) (rest : List String) :
    tree.follow location (name :: rest) = .error .notFound := by
  have hget : tree.get? location = none := by
    rw [kind?_eq] at h
    exact Option.map_eq_none_iff.1 h
  have hdir : tree.requireDirectory location = .error .notFound := by
    unfold requireDirectory
    rw [hget]
  rw [follow, hdir]
  rfl

theorem tooLong_of_not {name : String}
    (h : ¬ (name = "." ∨ name = ".." ∨ name.utf8ByteSize ≤ longestName)) :
    name ≠ "." ∧ name ≠ ".." ∧ longestName < name.utf8ByteSize := by
  rw [not_or, not_or, Nat.not_le] at h
  exact h

/-- A name that is too long is noticed only in a directory that is there. -/
theorem follow_long {tree : FileTree} {location : List String} {name : String}
    (hdir : tree.kind? location = some .directory) (hdot : name ≠ ".") (hup : name ≠ "..")
    (hlong : longestName < name.utf8ByteSize) (rest : List String) :
    tree.follow location (name :: rest) = .error .nameTooLong := by
  rw [follow, requireDirectory_eq_ok.2 hdir]
  show (if name = "." then _ else _) = _
  rw [if_neg hdot, if_neg hup, if_pos hlong]

/-- What is said of a location that is no directory. -/
theorem requireDirectory_congr {tree later : FileTree} {location : List String}
    (h : later.kind? location = tree.kind? location) :
    later.requireDirectory location = tree.requireDirectory location := by
  rw [kind?_eq, kind?_eq] at h
  unfold requireDirectory
  cases hlater : later.get? location with
  | none =>
      rw [hlater] at h
      rw [Option.map_eq_none_iff.1 h.symm]
  | some node =>
      rw [hlater] at h
      obtain ⟨other, hother, hkind⟩ := Option.map_eq_some_iff.1 h.symm
      rw [hother]
      cases node <;> cases other <;> first | rfl | cases hkind

/-- How a way can end that is nothing but directories and free places: at its target, in a
free place, or before a name that is too long. -/
def EndsUnseen (target names : List String) (result : Except OsError (List String)) : Prop :=
  result = .ok target ∨ result = .error .notFound ∨
    (result = .error .nameTooLong ∧ ∃ name ∈ names, longestName < name.utf8ByteSize)

/-- A way that ends unseen does so after one more name. -/
theorem EndsUnseen.cons {target rest : List String} {result : Except OsError (List String)}
    (h : EndsUnseen target rest result) (name : String) :
    EndsUnseen target (name :: rest) result := by
  obtain hfound | hmissing | ⟨hlong, other, hmem, hsize⟩ := h
  · exact Or.inl hfound
  · exact Or.inr (Or.inl hmissing)
  · exact Or.inr (Or.inr ⟨hlong, other, List.mem_cons_of_mem name hmem, hsize⟩)

/-- Induction on the names that are left, each one step further down. -/
theorem endsUnseen_follow {tree : FileTree} {target : List String} (names : List String) :
    ∀ location : List String, ".." ∉ names → resolve location names = target →
      (∀ place, location <+: place → place <+: target →
        tree.kind? place = none ∨ tree.kind? place = some .directory) →
      EndsUnseen target names (tree.follow location names) := by
  induction names with
  | nil =>
      intro location _ htarget _
      exact Or.inl (congrArg Except.ok htarget)
  | cons name rest ih =>
      intro location hup htarget hfree
      have hname : name ≠ ".." := fun same => hup (same ▸ List.mem_cons_self)
      have hrest : ".." ∉ rest := fun hmem => hup (List.mem_cons_of_mem name hmem)
      have hbelow : location <+: target := htarget ▸ prefix_resolve hup location
      cases hfree location (List.prefix_refl location) hbelow with
      | inl hnone => exact Or.inr (Or.inl (follow_missing hnone name rest))
      | inr hdir =>
          rw [resolve_cons] at htarget
          by_cases hshort : name = "." ∨ name = ".." ∨ name.utf8ByteSize ≤ longestName
          · rw [follow_cons_eq rest hdir hshort]
            have hdown : location <+: resolve location [name] :=
              prefix_resolve (fun hmem => hname (List.mem_singleton.1 hmem).symm) location
            exact (ih _ hrest htarget fun place habove => hfree place (hdown.trans habove)).cons
              name
          · obtain ⟨hdot, -, hlong⟩ := tooLong_of_not hshort
            exact Or.inr (Or.inr ⟨follow_long hdir hdot hname hlong rest, name,
              List.mem_cons_self, hlong⟩)

/-- **A way on which directories were missing.**  It leads on as before, or it broke off in a
free place; then it may lead further now, but still to no file. -/
theorem follow_grown {tree later : FileTree} {target : List String}
    (hgrown : ∀ place, place <+: target → later.kind? place = tree.kind? place ∨
      (tree.kind? place = none ∧ later.kind? place = some .directory)) (names : List String) :
    ∀ location : List String, ".." ∉ names → resolve location names = target →
      later.follow location names = tree.follow location names ∨
        (tree.follow location names = .error .notFound ∧ tree.kind? target = none ∧
          EndsUnseen target names (later.follow location names)) := by
  induction names with
  | nil => intro location _ _; exact Or.inl rfl
  | cons name rest ih =>
      intro location hup htarget
      have hrest : ".." ∉ rest := fun hmem => hup (List.mem_cons_of_mem name hmem)
      have hbelow : location <+: target := htarget ▸ prefix_resolve hup location
      cases hgrown location hbelow with
      | inl same =>
          by_cases hdir : tree.kind? location = some .directory
          · by_cases hshort : name = "." ∨ name = ".." ∨ name.utf8ByteSize ≤ longestName
            · rw [resolve_cons] at htarget
              rw [follow_cons_eq rest hdir hshort, follow_cons_eq rest (same.trans hdir) hshort]
              cases ih _ hrest htarget with
              | inl heq => exact Or.inl heq
              | inr hnew => exact Or.inr ⟨hnew.1, hnew.2.1, hnew.2.2.cons name⟩
            · obtain ⟨hdot, hup', hlong⟩ := tooLong_of_not hshort
              left
              rw [follow_long hdir hdot hup' hlong rest,
                follow_long (same.trans hdir) hdot hup' hlong rest]
          -- Neither tree lets the way go on, and both for the same reason.
          · left
            unfold follow
            rw [requireDirectory_congr same]
            cases hrequire : tree.requireDirectory location with
            | error e => rfl
            | ok u => exact absurd (requireDirectory_eq_ok.1 hrequire) hdir
      | inr new =>
          have hnone : ∀ place, location <+: place → tree.kind? place = none := by
            intro place habove
            obtain ⟨more, rfl⟩ := habove
            exact kind?_below new.1 more
          refine Or.inr ⟨follow_missing new.1 name rest, hnone target hbelow, ?_⟩
          refine endsUnseen_follow _ location hup htarget fun place habove hplace => ?_
          cases hgrown place hplace with
          | inl same => exact Or.inl (same.trans (hnone place habove))
          | inr found => exact Or.inr found.2

/-! ## §3. Reading. -/

theorem read_of_error {tree : FileTree} {path : String} {e : OsError}
    (h : tree.locate path = .error e) : tree.read path = .error e := by
  unfold read
  rw [h]
  rfl

/-- Reading only looks at the kind of what is at the location. -/
theorem read_congr {tree later : FileTree} {path : String} {location : List String}
    (h : tree.locate path = .ok location) (hlater : later.locate path = .ok location)
    (hkind : later.kind? location = tree.kind? location) : later.read path = tree.read path := by
  rw [kind?_eq, kind?_eq] at hkind
  unfold read
  rw [h, hlater]
  simp only [bind, Except.bind]
  cases hget : later.get? location with
  | none =>
      rw [hget] at hkind
      rw [Option.map_eq_none_iff.1 hkind.symm]
  | some node =>
      rw [hget] at hkind
      obtain ⟨other, hother, hsame⟩ := Option.map_eq_some_iff.1 hkind.symm
      rw [hother]
      cases node <;> cases other <;> cases hsame <;> rfl

/-- What is not there is reported as not found. -/
theorem read_missing {tree : FileTree} {path : String} {location : List String}
    (h : tree.locate path = .ok location) (hkind : tree.kind? location = none) :
    tree.read path = .error .notFound := by
  rw [kind?_eq] at hkind
  unfold read
  rw [h]
  simp only [bind, Except.bind, Option.map_eq_none_iff.1 hkind]

/-- A path on which a name is too long, which shows only now. -/
structure TooLongNow (path : String) (tree later : FileTree) : Prop where
  long : ∃ name ∈ names path, longestName < name.utf8ByteSize
  before : tree.read path = .error .notFound
  now : later.read path = .error .nameTooLong

/-- **Reading a file that was left alone**, while directories were created on the way. -/
theorem read_kept {tree later : FileTree} {path : String} {target : List String}
    (hup : ".." ∉ names path) (htarget : resolve [] (names path) = target)
    (hgrown : ∀ place, place <+: target → later.kind? place = tree.kind? place ∨
      (tree.kind? place = none ∧ later.kind? place = some .directory))
    (hsame : later.kind? target = tree.kind? target) :
    later.read path = tree.read path ∨ TooLongNow path tree later := by
  by_cases hnul : path.toList.any (·.toNat == 0) = true
  · have hrefused : ∀ tree : FileTree, tree.locate path = .error .nulInName := by
      intro tree
      unfold locate
      rw [if_pos hnul]
    left
    rw [read_of_error (hrefused tree), read_of_error (hrefused later)]
  · have hlocate : ∀ tree : FileTree, tree.locate path = tree.follow [] (names path) := by
      intro tree
      unfold locate
      rw [if_neg hnul]
    cases follow_grown hgrown (names path) [] hup htarget with
    | inl heq =>
        left
        cases hfollow : tree.follow [] (names path) with
        | error e =>
            rw [read_of_error ((hlocate tree).trans hfollow),
              read_of_error ((hlocate later).trans (heq.trans hfollow))]
        | ok location =>
            have hplace : location = target := (follow_eq_resolve hfollow).trans htarget
            subst hplace
            exact read_congr ((hlocate tree).trans hfollow)
              ((hlocate later).trans (heq.trans hfollow)) hsame
    | inr new =>
        obtain ⟨hbroken, hnone, hends⟩ := new
        have hbefore := read_of_error ((hlocate tree).trans hbroken)
        obtain hfound | hmissing | ⟨hlong, hname⟩ := hends
        · left
          rw [hbefore, read_missing ((hlocate later).trans hfound) (hsame.trans hnone)]
        · left
          rw [hbefore, read_of_error ((hlocate later).trans hmissing)]
        · exact Or.inr ⟨hname, hbefore, read_of_error ((hlocate later).trans hlong)⟩

/-- A way in two parts. -/
theorem follow_append {tree : FileTree} {found : List String} (more : List String)
    (path : List String) : ∀ {location : List String},
      tree.follow location (path ++ more) = .ok found →
        ∃ place, tree.follow location path = .ok place ∧ tree.follow place more = .ok found := by
  induction path with
  | nil => intro location h; exact ⟨location, rfl, h⟩
  | cons name rest ih =>
      intro location h
      obtain ⟨hdir, hrest, hname⟩ := follow_cons h
      obtain ⟨place, hplace, hmore⟩ := ih hrest
      exact ⟨place, (follow_cons_eq rest hdir hname).trans hplace, hmore⟩

/-- What lies above a directory is a directory. -/
theorem kind?_above {tree : FileTree} {path : String} {above location : List String}
    (hnames : names path = above ++ [".."]) (h : tree.locate path = .ok location) :
    tree.kind? location = some .directory := by
  unfold locate at h
  split at h
  · cases h
  · rw [hnames] at h
    obtain ⟨place, hplace, hup⟩ := follow_append [".."] above h
    have hopen := open_of_follow tree.open_root hplace
    obtain ⟨hdir, hlocation, -⟩ := follow_cons hup
    have hlast : location = place.dropLast := (Except.ok.inj hlocation).symm
    rw [hlast]
    by_cases hroot : place = []
    · subst hroot
      exact hdir
    · refine hopen _ (List.dropLast_prefix place) fun same => ?_
      have hlength := congrArg List.length same
      have hpositive := List.length_pos_iff.2 hroot
      rw [List.length_dropLast] at hlength
      omega

end FileTree

namespace TableStore

/-! ## §4. The places that a snapshot touches. -/

/-- A table whose name is a file name. -/
structure IsFileName (table : String) : Prop where
  nonempty : table ≠ ""
  slash : '/' ∉ table.toList

/-- Nothing is changed but the places named, and free places on the way to the store, where
there may be directories now. -/
def Within (store : TableStore) (touched : List (List String)) (tree later : FileTree) : Prop :=
  ∀ location, location ∉ touched → later.kind? location = tree.kind? location ∨
    (location <+: store.place ∧ tree.kind? location = none ∧
      later.kind? location = some .directory)

section
variable {store : TableStore} {touched : List (List String)} {tree later last : FileTree}

theorem Within.mono (h : Within store touched tree later) {more : List (List String)}
    (hmore : touched ⊆ more) : Within store more tree later :=
  fun location haway => h location fun hmem => haway (hmore hmem)

/-- A later change of places that are named. -/
theorem Within.change (h : Within store touched tree later)
    (hchange : ∀ location, location ∉ touched → last.kind? location = later.kind? location) :
    Within store touched tree last := by
  intro location haway
  rw [hchange location haway]
  exact h location haway

/-- Preparing a snapshot only fills free places on the way to the store. -/
theorem within_prepare (hup : ".." ∉ FileTree.names store.directory) (table : String)
    (fault : Option WriteFault) (tree : FileTree) :
    Within store [] tree (store.prepare table fault tree).2 := by
  have hgrown : FileTree.GrownTo store.place tree (tree.createDirectories store.directory).2 := by
    unfold FileTree.createDirectories
    split
    · exact FileTree.GrownTo.refl _ tree
    · exact FileTree.createAll_grownTo store.place _ tree _ hup (List.prefix_refl _)
  unfold prepare
  split
  · exact fun location _ => Or.inl rfl
  · split
    · rename_i h
      rw [h] at hgrown
      exact fun location _ => hgrown location
    · rename_i h
      rw [h] at hgrown
      exact fun location _ => hgrown location

theorem names_scratchPath_dot (store : TableStore) :
    FileTree.names (store.scratchPath ".") = FileTree.names store.directory ++ [".."] := by
  have hpath : store.scratchPath "." = base store.directory ++ ".." := by
    unfold scratchPath scratchOf
    rw [path_eq (by decide), splitName_append (by decide) (base_cases _)]
    rfl
  rw [hpath, names_base (by decide) (by decide)]

/-- The scratch file of the table `.` would be the directory above, so it is never written. -/
theorem stage_dot (store : TableStore) (content : String) (fault : Option WriteFault)
    (tree : FileTree) : (store.stage "." content fault tree).1 ≠ .ok () := by
  unfold stage
  cases Disk.faultAt fault .stage with
  | some e => simp [failure]
  | none =>
      cases hwrite : tree.write (store.scratchPath ".") (Text.Utf8.encode content) with
      | error e => simp [failure]
      | ok written =>
          obtain ⟨location, hlocate, hplace, -⟩ := FileTree.write_ok hwrite
          exact absurd (FileTree.kind?_above (names_scratchPath_dot store) hlocate) hplace

/-- Only a plain table is staged, and staging touches its scratch file. -/
theorem within_stage {table content : String} (hname : IsFileName table)
    {fault : Option WriteFault} {prepared staged : FileTree}
    (hprepared : Within store [] tree prepared)
    (h : store.stage table content fault prepared = (.ok (), staged)) :
    IsPlain table ∧ Within store [store.scratchFileOf table] tree staged := by
  have hplain : IsPlain table := by
    refine ⟨hname.nonempty, ?_, hname.slash⟩
    rintro rfl
    exact stage_dot store content fault prepared (congrArg Prod.fst h)
  refine ⟨hplain, (hprepared.mono (List.nil_subset _)).change fun location haway => ?_⟩
  rw [(stage_ok hplain h).2, if_neg fun same => haway (List.mem_singleton.2 same)]

/-- **What a snapshot touches**: its scratch file, and if it is reported as written the table
file. -/
theorem within_save (hup : ".." ∉ FileTree.names store.directory) {table : String}
    (hname : IsFileName table) {value : Json} {disk later : Disk}
    {answer : Except OverlayError Unit} (h : store.save table value disk = (answer, later)) :
    (answer = .ok () ∧ IsPlain table ∧
        Within store [store.scratchFileOf table, store.fileOf table] disk.tree later.tree) ∨
      (answer ≠ .ok () ∧ Within store [store.scratchFileOf table] disk.tree later.tree) := by
  obtain ⟨fault, hends⟩ := save_ends h
  have hprepared := within_prepare hup table fault disk.tree
  generalize later.tree = last at hends ⊢
  cases hends with
  | unprepared hprepare | unstaged hprepare _ =>
      rw [hprepare] at hprepared
      exact Or.inr ⟨nofun, hprepared.mono (List.nil_subset _)⟩
  | uncommitted hprepare hstage _ =>
      rw [hprepare] at hprepared
      exact Or.inr ⟨nofun, (within_stage hname hprepared hstage).2⟩
  | committed hprepare hstage hcommit =>
      rw [hprepare] at hprepared
      obtain ⟨hplain, hstaged⟩ := within_stage hname hprepared hstage
      obtain ⟨hlocate, hkind⟩ := stage_ok hplain hstage
      have hfile := hkind (store.scratchFileOf table)
      rw [if_pos rfl] at hfile
      obtain ⟨-, -, hmoved⟩ := commit_moves hplain hlocate hfile hcommit
      -- Committing touches both files of the table.
      refine Or.inl ⟨rfl, hplain, (hstaged.mono (by simp)).change fun location haway => ?_⟩
      simp only [List.mem_cons, List.not_mem_nil, or_false, not_or] at haway
      rw [hmoved, if_neg haway.2, if_neg haway.1]

end

/-! ## §5. Loading. -/

/-- What loading a table reports does not change, except that a name on the way to its file
may be too long, which shows only where the directory is there in which it would be. -/
def Kept (store : TableStore) (table : String) (tree later : FileTree) : Prop :=
  ∀ {α : Type} (decode : Document.Decoder α) (default : α),
    store.load table decode default later = store.load table decode default tree ∨
      (store.load table decode default tree = .ok default ∧
        store.load table decode default later
          = failure (store.path table) "Failed to read" .nameTooLong ∧
        ∃ name ∈ FileTree.names (store.path table), FileTree.longestName < name.utf8ByteSize)

/-- An error that is not for want of the file is reported. -/
theorem load_of_error {α : Type} {store : TableStore} {table : String}
    {decode : Document.Decoder α} {default : α} {tree : FileTree} {e : OsError}
    (h : tree.read (store.path table) = .error e) (hthere : e ≠ .notFound) :
    store.load table decode default tree = failure (store.path table) "Failed to read" e := by
  unfold load readText
  rw [h]
  cases e with
  | notFound => exact absurd rfl hthere
  | _ => rfl

theorem concat_prefix {place : List String} {first second : String}
    (h : place ++ [first] <+: place ++ [second]) : first = second := by
  have heq := h.eq_of_length (by simp)
  exact (List.cons.inj (List.append_cancel_left heq)).1

variable {store : TableStore} {touched : List (List String)} {tree later : FileTree}

/-- **Loading a table whose file was left alone.** -/
theorem kept_of_within (hup : ".." ∉ FileTree.names store.directory) {table : String}
    (hslash : '/' ∉ table.toList) (h : Within store touched tree later)
    (haway : ∀ place, place ∈ touched → ¬ place <+: store.fileOf table) :
    Kept store table tree later := by
  have hdots : ".." ∉ FileTree.names (store.path table) := by
    rw [names_path hslash, List.mem_append, List.mem_singleton]
    intro hmem
    cases hmem with
    | inl hmem => exact hup hmem
    | inr same => exact (extended_ne_dots table ".json" (by decide)).2 same.symm
  have hgrown : ∀ place, place <+: store.fileOf table →
      later.kind? place = tree.kind? place ∨
        (tree.kind? place = none ∧ later.kind? place = some .directory) := by
    intro place hbelow
    exact (h place fun hmem => haway place hmem hbelow).imp_right And.right
  -- The file is deeper than the directory of the store, so it is in no such free place.
  have hsame : later.kind? (store.fileOf table) = tree.kind? (store.fileOf table) := by
    refine (h _ fun hmem => haway _ hmem (List.prefix_refl _)).resolve_right fun hnew => ?_
    have hlength := hnew.1.length_le
    simp only [fileOf, List.length_append, List.length_cons, List.length_nil] at hlength
    omega
  intro α decode default
  cases FileTree.read_kept hdots (resolve_path hslash) hgrown hsame with
  | inl heq =>
      left
      unfold load readText
      rw [heq]
  | inr hnow =>
      exact Or.inr ⟨load_of_notFound hnow.before, load_of_error hnow.now nofun, hnow.long⟩

/-- No table file lies at or below a scratch file. -/
theorem scratchFileOf_not_prefix (store : TableStore) (table other : String) :
    ¬ store.scratchFileOf table <+: store.fileOf other := by
  intro h
  have hname : table ++ ".json.tmp" = other ++ ".json" := concat_prefix h
  -- The last letters differ.
  have hlast := congrArg (fun s => s.toList.getLast?) hname
  simp [String.toList_append] at hlast

/-- No table file lies at or below another one. -/
theorem fileOf_not_prefix (store : TableStore) {table other : String} (hne : table ≠ other) :
    ¬ store.fileOf table <+: store.fileOf other := by
  intro h
  have hname : table ++ ".json" = other ++ ".json" := concat_prefix h
  exact hne ((String.append_left_inj _).1 hname)

/-- **Round trip, frame and atomicity of a snapshot.**  The directory is any path without
`..`, the tree any, and so are the faults that the write meets.  A snapshot that is reported
as written is loaded as it was; one that is not leaves what loading that table reports, and
in any case every other table is left alone, also by a write that was cut off anywhere. -/
theorem load_after_save (store : TableStore) (hup : ".." ∉ FileTree.names store.directory)
    {table other : String} (htable : IsFileName table) (hother : IsFileName other)
    (hne : table ≠ other) (records : TenantRecords) (disk : Disk) :
    let saved := store.save table records.toJson disk
    (saved.1 = .ok () →
      store.load table TenantRecords.decode? KeyedTable.empty saved.2.tree = .ok records) ∧
    (saved.1 ≠ .ok () → Kept store table disk.tree saved.2.tree) ∧
    Kept store other disk.tree saved.2.tree ∧
    ∀ left, Within store [store.scratchFileOf table] disk.tree left →
      Kept store table disk.tree left ∧ Kept store other disk.tree left := by
  intro saved
  have hscratch : ∀ name, ∀ place, place ∈ [store.scratchFileOf table] →
      ¬ place <+: store.fileOf name := by
    intro name place hmem
    rw [List.mem_singleton.1 hmem]
    exact scratchFileOf_not_prefix store table name
  have hleft : ∀ left, Within store [store.scratchFileOf table] disk.tree left →
      Kept store table disk.tree left ∧ Kept store other disk.tree left :=
    fun left h => ⟨kept_of_within hup htable.slash h (hscratch table),
      kept_of_within hup hother.slash h (hscratch other)⟩
  have hsave : store.save table records.toJson disk = (saved.1, saved.2) := rfl
  cases within_save hup htable hsave with
  | inl hdone =>
      obtain ⟨hok, hplain, hwithin⟩ := hdone
      have hsave : store.save table records.toJson disk = (.ok (), saved.2) :=
        Prod.ext hok rfl
      refine ⟨fun _ => load_save hplain records.decodeText?_pretty hsave,
        fun hfailed => absurd hok hfailed, ?_, hleft⟩
      refine kept_of_within hup hother.slash hwithin fun place hmem => ?_
      simp only [List.mem_cons, List.not_mem_nil, or_false] at hmem
      cases hmem with
      | inl hplace => rw [hplace]; exact scratchFileOf_not_prefix store table other
      | inr hplace => rw [hplace]; exact fileOf_not_prefix store hne
  | inr hfailed =>
      obtain ⟨hnot, hwithin⟩ := hfailed
      exact ⟨fun hok => absurd hok hnot, fun _ => (hleft _ hwithin).1, (hleft _ hwithin).2,
        hleft⟩

/-- One record. -/
def oneRecord : TenantRecords :=
  KeyedTable.ofList [("net-A", { vni := 100, vlanText := "1", pods := KeySet.ofList ["ns:p"] })]

/-- The records are written, and then the file of their successors is not moved to its place:
what is loaded is the first. -/
theorem load_after_save_interrupted :
    let store : TableStore := ⟨"state"⟩
    let first := store.save "tenants" oneRecord.toJson
      { faults := [none, some ⟨.commit, .isDirectory⟩] }
    let second := store.save "tenants" (TenantRecords.toJson KeyedTable.empty) first.2
    first.1 = .ok () ∧ second.1 ≠ .ok () ∧
      store.load "tenants" TenantRecords.decode? KeyedTable.empty second.2.tree
        = .ok oneRecord := by
  intro store first second
  have htable : IsFileName "tenants" := ⟨by decide, by decide⟩
  have hother : IsFileName "vlans" := ⟨by decide, by decide⟩
  have hshort : ∀ name ∈ FileTree.names (store.path "tenants"),
      ¬ FileTree.longestName < name.utf8ByteSize := by decide +kernel
  have hfirst : first.1 = .ok () := by decide +kernel
  have hsecond : second.1 ≠ .ok () := by decide +kernel
  have hloaded := (load_after_save store (by decide +kernel) htable hother (by decide) oneRecord
    { faults := [none, some ⟨.commit, .isDirectory⟩] }).1 hfirst
  have hkept := (load_after_save store (by decide +kernel) htable hother (by decide)
    KeyedTable.empty first.2).2.1 hsecond TenantRecords.decode? KeyedTable.empty
  refine ⟨hfirst, hsecond, ?_⟩
  cases hkept with
  | inl same => exact same.trans hloaded
  | inr hnow =>
      obtain ⟨-, -, name, hmem, hlong⟩ := hnow
      exact absurd hlong (hshort name hmem)

theorem locate_path {name : String} (hslash : '/' ∉ name.toList)
    (hnul : name.toList.any (·.toNat == 0) = false) (tree : FileTree) :
    tree.locate (path ⟨"state"⟩ name) = tree.follow [] ["state", name ++ ".json"] := by
  have hbase : base "state" = "state/" := by decide +kernel
  have hstate : FileTree.names "state" = ["state"] := by decide +kernel
  have hplain : (path ⟨"state"⟩ name).toList.any (·.toNat == 0) = false := by
    rw [path_eq hslash, hbase, String.toList_append, String.toList_append, List.any_append,
      List.any_append, hnul]
    decide
  unfold FileTree.locate
  rw [hplain, names_path hslash, hstate]
  rfl

/-- A name of 251 characters, which the extension makes too long. -/
def longTable : String := String.ofList (List.replicate 251 'x')

/-- As long as the directory is missing, a name that is too long for it goes unnoticed; the
snapshot of another table creates the directory. -/
theorem long_name_shows_later :
    let store : TableStore := ⟨"state"⟩
    let saved := store.save "t" (TenantRecords.toJson KeyedTable.empty) {}
    saved.1 = .ok () ∧
      store.load longTable TenantRecords.decode? KeyedTable.empty {} = .ok KeyedTable.empty ∧
      store.load longTable TenantRecords.decode? KeyedTable.empty saved.2.tree
        = failure (store.path longTable) "Failed to read" .nameTooLong := by
  intro store saved
  have hslash : '/' ∉ longTable.toList := by
    unfold longTable
    rw [String.toList_ofList]
    decide +kernel
  have hnul : longTable.toList.any (·.toNat == 0) = false := by
    unfold longTable
    rw [String.toList_ofList]
    decide +kernel
  have hlong : FileTree.longestName < (longTable ++ ".json").utf8ByteSize := by decide +kernel
  obtain ⟨hdot, hup⟩ := extended_ne_dots longTable ".json" (by decide)
  -- At first there is no directory, afterwards there is.
  have hbefore : ∀ name, FileTree.follow {} [] ["state", name] = .error .notFound := fun _ => rfl
  have hsaved : saved.1 = .ok () ∧ saved.2.tree.requireDirectory [] = .ok () ∧
      saved.2.tree.requireDirectory ["state"] = .ok () := by decide +kernel
  obtain ⟨hok, hroot, hstate⟩ := hsaved
  refine ⟨hok, load_of_notFound (FileTree.read_of_error ?_),
    load_of_error (FileTree.read_of_error ?_) nofun⟩
  · rw [locate_path hslash hnul]
    exact hbefore _
  · rw [locate_path hslash hnul, FileTree.follow_cons_eq _
      (FileTree.requireDirectory_eq_ok.1 hroot) (by decide +kernel)]
    exact FileTree.follow_long (FileTree.requireDirectory_eq_ok.1 hstate) hdot hup hlong []

end TableStore

end VxlanMesh
