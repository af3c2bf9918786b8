/-
  VxlanMesh.Proofs.Storage.Snapshot
  ────────────────────────────────
  **A SNAPSHOT IS ON DISK AS A WHOLE OR NOT AT ALL.**

  Both files of a table lie in the directory that the text of the store
  leads to, under two different names.  Writing a snapshot therefore has
  two outcomes for the table file, whatever fault it meets and whatever
  else is in the tree:

      SaveEnds      the first step that fails, if any
      save_cases    it holds the new text, or it is what it was
      load_cases    what a load that succeeds found
      load_save     what was saved is what is loaded
-/
import VxlanMesh.Proofs.Storage.Tree
import VxlanMesh.Proofs.Text.Lines
import VxlanMesh.Storage.TableStore

namespace VxlanMesh

/-! ## §1. Names of paths. -/

namespace FileTree

/-- Behind a slash one more name follows. -/
theorem names_slash {above name : String} (hname : name ≠ "") (hslash : '/' ∉ name.toList) :
    names (above ++ "/" ++ name) = names above ++ [name] := by
  have hlist : (above ++ "/" ++ name).toList = above.toList ++ '/' :: name.toList := by simp
  have hne : name.toList.isEmpty = false := by
    rw [List.isEmpty_eq_false_iff]
    exact fun h => hname (String.toList_inj.1 h)
  unfold names
  rw [hlist, Text.pieces_append, Text.pieces_of_not_mem hslash, List.filter_append,
    List.map_append]
  simp [hne]

theorem names_single {name : String} (hname : name ≠ "") (hslash : '/' ∉ name.toList) :
    names name = [name] := by
  have hne : name.toList.isEmpty = false := by
    rw [List.isEmpty_eq_false_iff]
    exact fun h => hname (String.toList_inj.1 h)
  unfold names
  rw [Text.pieces_of_not_mem hslash]
  simp [hne]

end FileTree

namespace TableStore

/-- What stands before the name of a file in its path: nothing, or a text that ends with a
slash. -/
def base (directory : String) : String :=
  if directory.isEmpty then ""
  else if directory.toList.getLast? == some '/' then directory
  else directory ++ "/"

theorem startsWith_slash {name : String} (hslash : '/' ∉ name.toList) :
    Text.startsWith name "/" = false := by
  unfold Text.startsWith
  cases h : name.toList with
  | nil => rfl
  | cons c rest =>
      have hc : '/' ≠ c := fun same => hslash (by rw [h, same]; exact List.mem_cons_self)
      show ('/' == c && [].isPrefixOf rest) = false
      rw [beq_eq_false_iff_ne.2 hc]
      rfl

/-- A file name without a slash stands behind the base of its directory. -/
theorem join_eq_base {directory name : String} (hslash : '/' ∉ name.toList) :
    join directory name = base directory ++ name := by
  unfold join base
  rw [startsWith_slash hslash, Bool.false_or]
  split
  · simp
  · split <;> rfl

/-- The name of a file stands alone, or behind a slash. -/
theorem base_cases (directory : String) :
    base directory = "" ∨ ∃ above, base directory = above ++ "/" := by
  unfold base
  split
  · exact Or.inl rfl
  · split
    · rename_i h
      obtain ⟨cs, hcs⟩ := List.getLast?_eq_some_iff.1 (eq_of_beq h)
      refine Or.inr ⟨String.ofList cs, String.toList_inj.1 ?_⟩
      rw [hcs]
      simp
    · exact Or.inr ⟨directory, rfl⟩

/-- The names on the way to a file are those of its directory and its own. -/
theorem names_base {directory name : String} (hname : name ≠ "") (hslash : '/' ∉ name.toList) :
    FileTree.names (base directory ++ name) = FileTree.names directory ++ [name] := by
  unfold base
  -- Nothing, a text that ends with a slash, or one to which a slash is added.
  split
  · rename_i h
    have hdirectory : directory = "" := by simpa using h
    subst hdirectory
    rw [String.empty_append, FileTree.names_single hname hslash]
    rfl
  · split
    · rename_i h
      obtain ⟨cs, hcs⟩ := List.getLast?_eq_some_iff.1 (eq_of_beq h)
      have hdirectory : directory = String.ofList cs ++ "/" := by
        apply String.toList_inj.1
        rw [hcs]
        simp
      rw [hdirectory, FileTree.names_slash hname hslash]
      congr 1
      unfold FileTree.names
      rw [String.toList_append, String.toList_ofList, show "/".toList = '/' :: [] from rfl,
        Text.pieces_append]
      simp [Text.pieces]
    · exact FileTree.names_slash hname hslash

/-! ## §2. The two files of a table. -/

/-- A table whose name is a file name that says more than a dot. -/
structure IsPlain (table : String) : Prop where
  nonempty : table ≠ ""
  more : table ≠ "."
  slash : '/' ∉ table.toList

theorem slash_extended {table : String} (h : '/' ∉ table.toList) {extension : String}
    (hext : '/' ∉ extension.toList) : '/' ∉ (table ++ extension).toList := by
  rw [String.toList_append, List.mem_append]
  rintro (hmem | hmem)
  · exact h hmem
  · exact hext hmem

theorem extended_ne_empty {table extension : String} (hext : extension ≠ "") :
    table ++ extension ≠ "" := by
  intro h
  have hlist := congrArg String.toList h
  rw [String.toList_append] at hlist
  exact hext (String.toList_inj.1 (List.append_eq_nil_iff.1 hlist).2)

theorem path_eq {store : TableStore} {table : String} (h : '/' ∉ table.toList) :
    store.path table = base store.directory ++ (table ++ ".json") :=
  join_eq_base (slash_extended h (by decide))

/-- A path is split before the name of the file. -/
theorem splitName_append {above name : String} (hslash : '/' ∉ name.toList)
    (habove : above = "" ∨ ∃ more, above = more ++ "/") :
    splitName (above ++ name) = (above, name.toList) := by
  have hall : ∀ c ∈ name.toList.reverse, (c ≠ '/') = True := by
    intro c hc
    rw [List.mem_reverse] at hc
    exact eq_true fun same => hslash (same ▸ hc)
  have hdrop : (above.toList.reverse).dropWhile (· ≠ '/') = above.toList.reverse := by
    rcases habove with rfl | ⟨more, rfl⟩
    · rfl
    · rw [String.toList_append, List.reverse_append]
      rfl
  have htake : (above.toList.reverse).takeWhile (· ≠ '/') = [] := by
    rcases habove with rfl | ⟨more, rfl⟩
    · rfl
    · rw [String.toList_append, List.reverse_append]
      rfl
  -- The name is what stands behind the last slash, so the text is gone through backwards.
  unfold splitName
  simp only [String.toList_append, List.reverse_append]
  rw [List.dropWhile_append_of_pos (by simpa using hall),
    List.takeWhile_append_of_pos (by simpa using hall), hdrop, htake]
  simp

/-- What stands before the last dot is the stem, unless it is empty. -/
theorem stem?_append {name extension : List Char} (hname : name ≠ [])
    (hext : '.' ∉ extension) : stem? (name ++ '.' :: extension) = some name := by
  have hall : ∀ c ∈ extension.reverse, decide (c ≠ '.') = true := by
    intro c hc
    rw [List.mem_reverse] at hc
    exact decide_eq_true fun same => hext (same ▸ hc)
  unfold stem?
  rw [List.reverse_append, List.reverse_cons, List.append_assoc,
    List.dropWhile_append_of_pos hall]
  simp [hname]

/-- The scratch file stands beside the table file, under the name of the table as well. -/
theorem scratchPath_eq {store : TableStore} {table : String} (h : IsPlain table) :
    store.scratchPath table = base store.directory ++ (table ++ ".json.tmp") := by
  have hname : table.toList ≠ [] := fun same => h.nonempty (String.toList_inj.1 same)
  have hstem : stem? (table ++ ".json").toList = some table.toList := by
    rw [String.toList_append, show ".json".toList = '.' :: ['j', 's', 'o', 'n'] from rfl]
    exact stem?_append hname (by decide)
  have hmore : table.toList ≠ ['.'] := fun same => h.more (String.toList_inj.1 same)
  unfold scratchPath scratchOf
  rw [path_eq h.slash, splitName_append (slash_extended h.slash (by decide)) (base_cases _)]
  -- What stands before the extension is more than a dot, so the last case applies.
  simp only [hstem]
  rw [String.ofList_toList, String.append_assoc]

/-- Where the directory of a store is. -/
def place (store : TableStore) : List String :=
  FileTree.resolve [] (FileTree.names store.directory)

/-- Where the file of a table is. -/
def fileOf (store : TableStore) (table : String) : List String :=
  store.place ++ [table ++ ".json"]

/-- Where the scratch file of a table is. -/
def scratchFileOf (store : TableStore) (table : String) : List String :=
  store.place ++ [table ++ ".json.tmp"]

/-- A last name that is not a dot or two leads one level down. -/
theorem resolve_concat {location path : List String} {name : String} (hdot : name ≠ ".")
    (hup : name ≠ "..") : FileTree.resolve location (path ++ [name])
      = FileTree.resolve location path ++ [name] := by
  rw [FileTree.resolve_append]
  simp [FileTree.resolve, hdot, hup]

/-- A name that ends as the files of tables do is neither `.` nor `..`. -/
theorem extended_ne_dots (table extension : String) (hlong : 2 < extension.toList.length) :
    table ++ extension ≠ "." ∧ table ++ extension ≠ ".." := by
  constructor
  · intro same
    have hlength := congrArg (fun s => s.toList.length) same
    simp only [String.toList_append, List.length_append,
      show ".".toList.length = 1 from rfl] at hlength
    omega
  · intro same
    have hlength := congrArg (fun s => s.toList.length) same
    simp only [String.toList_append, List.length_append,
      show "..".toList.length = 2 from rfl] at hlength
    omega

/-- The names on the way to the file of a table. -/
theorem names_path {store : TableStore} {table : String} (h : '/' ∉ table.toList) :
    FileTree.names (store.path table) = FileTree.names store.directory ++ [table ++ ".json"] := by
  rw [path_eq h, names_base (extended_ne_empty (by decide)) (slash_extended h (by decide))]

/-- The path of a table leads to its file. -/
theorem resolve_path {store : TableStore} {table : String} (h : '/' ∉ table.toList) :
    FileTree.resolve [] (FileTree.names (store.path table)) = store.fileOf table := by
  obtain ⟨hdot, hup⟩ := extended_ne_dots table ".json" (by decide)
  rw [names_path h, resolve_concat hdot hup]
  rfl

/-- The scratch path of a table leads to its scratch file. -/
theorem resolve_scratchPath {store : TableStore} {table : String} (h : IsPlain table) :
    FileTree.resolve [] (FileTree.names (store.scratchPath table))
      = store.scratchFileOf table := by
  obtain ⟨hdot, hup⟩ := extended_ne_dots table ".json.tmp" (by decide)
  rw [scratchPath_eq h, names_base (extended_ne_empty (by decide))
    (slash_extended h.slash (by decide)), resolve_concat hdot hup]
  rfl

/-- The two files of a table are different ones. -/
theorem scratchFileOf_ne_fileOf (store : TableStore) (table : String) :
    store.scratchFileOf table ≠ store.fileOf table := by
  intro same
  have hname := (List.append_inj' same rfl).2
  have hlength := congrArg (fun s => s.toList.length) (List.cons.inj hname).1
  simp only [String.toList_append, List.length_append,
    show ".json.tmp".toList.length = 9 from rfl, show ".json".toList.length = 5 from rfl] at hlength
  omega

end TableStore

/-! ## §3. Snapshots. -/

namespace TableStore

/-- Preparing a snapshot adds directories in free places, also where it fails. -/
theorem prepare_grown (store : TableStore) (table : String) (fault : Option WriteFault)
    (tree : FileTree) : FileTree.Grown tree (store.prepare table fault tree).2 := by
  rw [prepare]
  split
  · exact FileTree.Grown.refl tree
  · have hgrown := tree.createDirectories_grown store.directory
    split
    · rename_i h; rw [h] at hgrown; exact hgrown
    · rename_i h; rw [h] at hgrown; exact hgrown

/-- A staged snapshot is in the scratch file, and every other place is what it was. -/
theorem stage_ok {store : TableStore} {table content : String} {fault : Option WriteFault}
    {tree later : FileTree} (hplain : IsPlain table)
    (h : store.stage table content fault tree = (.ok (), later)) :
    later.locate (store.scratchPath table) = .ok (store.scratchFileOf table) ∧
      ∀ other, later.kind? other = if other = store.scratchFileOf table
        then some (.file (Text.Utf8.encode content)) else tree.kind? other := by
  rw [stage] at h
  cases hfault : Disk.faultAt fault .stage with
  | some e => rw [hfault] at h; cases h
  | none =>
      rw [hfault] at h
      cases hwrite : tree.write (store.scratchPath table) (Text.Utf8.encode content) with
      | error e => simp only [hwrite] at h; cases h
      | ok written =>
          simp only [hwrite, Prod.mk.injEq, true_and] at h
          subst h
          obtain ⟨location, hlocate, hplace, hkind⟩ := FileTree.write_ok hwrite
          have hlocation := (FileTree.locate_ok hlocate).1.trans (resolve_scratchPath hplain)
          subst hlocation
          -- No directory goes with the write, so the way to the file stays open.
          refine ⟨FileTree.locate_mono (fun other hdir => ?_) hlocate, hkind⟩
          rw [hkind, if_neg, hdir]
          intro same
          exact hplace (same ▸ hdir)

/-- What cannot be staged changes nothing. -/
theorem stage_error {store : TableStore} {table content : String} {fault : Option WriteFault}
    {tree later : FileTree} {e : OverlayError}
    (h : store.stage table content fault tree = (.error e, later)) : later = tree := by
  rw [stage] at h
  split at h
  · cases h
  · exact (Prod.mk.inj h).2.symm

/-- What cannot be committed changes nothing. -/
theorem commit_error {store : TableStore} {table : String} {fault : Option WriteFault}
    {tree later : FileTree} {e : OverlayError}
    (h : store.commit table fault tree = (.error e, later)) : later = tree := by
  rw [commit] at h
  split at h
  · cases h
  · exact (Prod.mk.inj h).2.symm

/-- **Committing moves the scratch file** to the place of the table file, where no directory
stands, and leaves every other place as it was. -/
theorem commit_moves {store : TableStore} {table : String} {fault : Option WriteFault}
    {tree later : FileTree} {bytes : ByteArray} (hplain : IsPlain table)
    (hlocate : tree.locate (store.scratchPath table) = .ok (store.scratchFileOf table))
    (hfile : tree.kind? (store.scratchFileOf table) = some (.file bytes))
    (h : store.commit table fault tree = (.ok (), later)) :
    tree.locate (store.path table) = .ok (store.fileOf table) ∧
      tree.kind? (store.fileOf table) ≠ some .directory ∧
      ∀ other, later.kind? other = if other = store.fileOf table then some (.file bytes)
        else if other = store.scratchFileOf table then none else tree.kind? other := by
  rw [commit] at h
  cases hfault : Disk.faultAt fault .commit with
  | some e => rw [hfault] at h; cases h
  | none =>
      rw [hfault] at h
      cases hmove : tree.rename (store.scratchPath table) (store.path table) with
      | error e => simp only [hmove] at h; cases h
      | ok moved =>
          simp only [hmove, Prod.mk.injEq, true_and] at h
          subst h
          obtain ⟨goal, hgoal, hplace, hkind⟩ := FileTree.rename_ok hlocate
            (by simp [scratchFileOf]) hfile hmove
          have hplaceOf := (FileTree.locate_ok hgoal).1.trans (resolve_path hplain.slash)
          subst hplaceOf
          exact ⟨hgoal, hplace, hkind⟩

/-- A committed snapshot is in the table file, and the way to it is open. -/
theorem commit_ok {store : TableStore} {table : String} {fault : Option WriteFault}
    {tree later : FileTree} {bytes : ByteArray} (hplain : IsPlain table)
    (hlocate : tree.locate (store.scratchPath table) = .ok (store.scratchFileOf table))
    (hfile : tree.kind? (store.scratchFileOf table) = some (.file bytes))
    (h : store.commit table fault tree = (.ok (), later)) :
    later.locate (store.path table) = .ok (store.fileOf table) ∧
      later.content? (store.fileOf table) = some bytes := by
  obtain ⟨hgoal, hplace, hkind⟩ := commit_moves hplain hlocate hfile h
  constructor
  · refine FileTree.locate_mono (fun other hdir => ?_) hgoal
    have hgoal' : other ≠ store.fileOf table := fun same => hplace (same ▸ hdir)
    have hstart : other ≠ store.scratchFileOf table := by
      intro same
      rw [same, hfile] at hdir
      cases hdir
    rw [hkind, if_neg hgoal', if_neg hstart, hdir]
  · rw [FileTree.content?_eq_some, hkind, if_pos rfl]

/-- **How a snapshot ends**, on a tree and with what goes wrong: at the first step that fails,
which leaves what the steps before it did. -/
inductive SaveEnds (store : TableStore) (table content : String) (fault : Option WriteFault)
    (tree : FileTree) : Except OverlayError Unit → FileTree → Prop
  | unprepared {e : OverlayError} {prepared : FileTree}
      (hprepare : store.prepare table fault tree = (.error e, prepared)) :
      SaveEnds store table content fault tree (.error e) prepared
  | unstaged {e : OverlayError} {prepared : FileTree}
      (hprepare : store.prepare table fault tree = (.ok (), prepared))
      (hstage : store.stage table content fault prepared = (.error e, prepared)) :
      SaveEnds store table content fault tree (.error e) prepared
  | uncommitted {e : OverlayError} {prepared staged : FileTree}
      (hprepare : store.prepare table fault tree = (.ok (), prepared))
      (hstage : store.stage table content fault prepared = (.ok (), staged))
      (hcommit : store.commit table fault staged = (.error e, staged)) :
      SaveEnds store table content fault tree (.error e) staged
  | committed {prepared staged committed : FileTree}
      (hprepare : store.prepare table fault tree = (.ok (), prepared))
      (hstage : store.stage table content fault prepared = (.ok (), staged))
      (hcommit : store.commit table fault staged = (.ok (), committed)) :
      SaveEnds store table content fault tree (.ok ()) committed

/-- **Every save ends in one of these ways**, with the fault that it meets on the disk. -/
theorem save_ends {store : TableStore} {table : String} {value : Json} {disk later : Disk}
    {answer : Except OverlayError Unit} (h : store.save table value disk = (answer, later)) :
    ∃ fault, SaveEnds store table value.pretty fault disk.tree answer later.tree := by
  have htree : disk.nextFault.2.tree = disk.tree := by
    rw [Disk.nextFault]
    split <;> rfl
  cases hnext : disk.nextFault with | mk fault rest =>
  have htree : rest.tree = disk.tree := by
    rw [← htree, hnext]
  rw [save, hnext] at h
  simp only [htree] at h
  refine ⟨fault, ?_⟩
  cases hprepare : store.prepare table fault disk.tree with
  | mk answer₁ prepared =>
      rw [hprepare] at h
      cases answer₁ with
      | error e => cases h; exact .unprepared hprepare
      | ok u₁ =>
          cases hstage : store.stage table value.pretty fault prepared with
          | mk answer₂ staged =>
              simp only [hstage] at h
              cases answer₂ with
              | error e =>
                  cases h
                  obtain rfl := stage_error hstage
                  exact .unstaged hprepare hstage
              | ok u₂ =>
                  cases hcommit : store.commit table fault staged with
                  | mk answer₃ committed =>
                      simp only [hcommit] at h
                      cases answer₃ with
                      | error e =>
                          cases h
                          obtain rfl := commit_error hcommit
                          exact .uncommitted hprepare hstage hcommit
                      | ok u₃ => cases h; exact .committed hprepare hstage hcommit

/-- **Whole or not at all.**  A snapshot that is reported as written is in the table file;
one that is not leaves the table file as it was. -/
theorem save_cases {store : TableStore} {table : String} {value : Json} {disk later : Disk}
    {answer : Except OverlayError Unit} (hplain : IsPlain table)
    (h : store.save table value disk = (answer, later)) :
    (answer = .ok () ∧ later.tree.locate (store.path table) = .ok (store.fileOf table) ∧
        later.tree.content? (store.fileOf table) = some (Text.Utf8.encode value.pretty)) ∨
      ((∃ e, answer = .error e) ∧
        later.tree.content? (store.fileOf table) = disk.tree.content? (store.fileOf table)) := by
  obtain ⟨fault, hends⟩ := save_ends h
  have hgrown := store.prepare_grown table fault disk.tree
  generalize later.tree = last at hends ⊢
  cases hends with
  | unprepared hprepare | unstaged hprepare _ =>
      rw [hprepare] at hgrown
      exact Or.inr ⟨⟨_, rfl⟩, hgrown.content? _⟩
  | uncommitted hprepare hstage _ =>
      rw [hprepare] at hgrown
      obtain ⟨-, hkind⟩ := stage_ok hplain hstage
      -- Staging touches the scratch file, which is not the table file.
      refine Or.inr ⟨⟨_, rfl⟩, ?_⟩
      rw [← hgrown.content?, FileTree.content?, FileTree.content?, hkind,
        if_neg (scratchFileOf_ne_fileOf store table).symm]
  | committed hprepare hstage hcommit =>
      obtain ⟨hlocate, hkind⟩ := stage_ok hplain hstage
      have hfile := hkind (store.scratchFileOf table)
      rw [if_pos rfl] at hfile
      exact Or.inl ⟨rfl, commit_ok hplain hlocate hfile hcommit⟩

/-- A snapshot that is not written is a failure of the disk. -/
theorem error_of_save {store : TableStore} {table : String} {value : Json} {disk later : Disk}
    {e : OverlayError} (h : store.save table value disk = (.error e, later)) :
    ∃ path reason, e = .persistence path reason := by
  have hfailure : ∀ {path doing : String} {cause : OsError},
      (failure path doing cause : Except OverlayError Unit) = .error e →
        ∃ path reason, e = .persistence path reason := by
    intro path doing cause same
    exact ⟨_, _, (Except.error.inj same).symm⟩
  -- Preparing, staging and committing each report their failure as one of the disk.
  obtain ⟨fault, hends⟩ := save_ends h
  generalize later.tree = last at hends
  cases hends with
  | unprepared hprepare =>
      rw [prepare] at hprepare
      split at hprepare
      · exact hfailure (Prod.mk.inj hprepare).1
      · split at hprepare
        · cases hprepare
        · exact hfailure (Prod.mk.inj hprepare).1
  | unstaged _ hstage =>
      rw [stage] at hstage
      split at hstage
      · cases hstage
      · exact hfailure (Prod.mk.inj hstage).1
  | uncommitted _ _ hcommit =>
      rw [commit] at hcommit
      split at hcommit
      · cases hcommit
      · exact hfailure (Prod.mk.inj hcommit).1

/-- What a load that succeeds found: the default, or the text of the table file. -/
theorem load_cases {α : Type} {store : TableStore} {table : String}
    {decode : Document.Decoder α} {default value : α} {tree : FileTree} (hplain : IsPlain table)
    (h : store.load table decode default tree = .ok value) :
    value = default ∨ ∃ bytes text, tree.content? (store.fileOf table) = some bytes ∧
      Text.Utf8.decode? bytes = some text ∧ Document.decodeText? decode text = some value := by
  unfold load readText at h
  cases hread : tree.read (store.path table) with
  | error e =>
      rw [hread] at h
      cases e
      case notFound => exact Or.inl (Except.ok.inj h).symm
      all_goals cases h
  | ok bytes =>
      rw [hread] at h
      have hcontent := FileTree.content?_of_read hread
      rw [resolve_path hplain.slash] at hcontent
      cases hdecode : Text.Utf8.decode? bytes with
      | none => simp only [hdecode] at h; cases h
      | some text =>
          simp only [hdecode] at h
          cases hvalue : Document.decodeText? decode text with
          | none => simp only [hvalue] at h; cases h
          | some found =>
              simp only [hvalue] at h
              rw [← Except.ok.inj h]
              exact Or.inr ⟨bytes, text, hcontent, hdecode, hvalue⟩

/-- Where there is no table file, the default is loaded. -/
theorem load_of_notFound {α : Type} {store : TableStore} {table : String}
    {decode : Document.Decoder α} {default : α} {tree : FileTree}
    (h : tree.read (store.path table) = .error .notFound) :
    store.load table decode default tree = .ok default := by
  unfold load readText
  rw [h]

/-- **What was saved is what is loaded.** -/
theorem load_save {α : Type} {store : TableStore} {table : String} {value : Json}
    {decode : Document.Decoder α} {default found : α} {disk later : Disk}
    (hplain : IsPlain table) (hdecode : Document.decodeText? decode value.pretty = some found)
    (h : store.save table value disk = (.ok (), later)) :
    store.load table decode default later.tree = .ok found := by
  rcases save_cases hplain h with ⟨-, hlocate, hcontent⟩ | ⟨⟨e, he⟩, -⟩
  · unfold load readText
    rw [FileTree.read_eq_ok hlocate hcontent]
    simp only [Text.Utf8.decode?_encode, hdecode]
  · cases he

end TableStore

end VxlanMesh
