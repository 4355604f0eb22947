import AnnotatedSql.Proofs.Loading.Listing
import AnnotatedSql.Proofs.Loading.Reloading

/-!
# A folder is loaded like its files

The container of a folder has the statements of the SQL files below it, each at the place of its
file, and containers for the folders that lead to these files. It does not matter in which order the
file system lists entries. Each file can be loaded alone, unless the style of placeholders was found
in a container where the settings should have been.
-/

set_option autoImplicit false

namespace AnnotatedSql

namespace Registry

/-- The operations of a container and of the containers within, by their places, with their
statements. -/
def placedStatements (r : Registry) : List (List String × Statement) :=
  r.placed.map fun e => (e.1, e.2.statement)

/-- The operations of the containers within, by their places, with their statements. -/
def statementsWithin (r : Registry) : List (List String × Statement) :=
  r.children.flatMap fun c => c.2.placedStatements.map fun e => (c.1 :: e.1, e.2)

/-- The statements of a container are its own and those of the containers within. -/
theorem placedStatements_eq (r : Registry) :
    r.placedStatements = r.ownStatements ++ r.statementsWithin := by
  rw [placedStatements, placed_eq]
  simp only [ownStatements, statementsWithin, placedStatements, List.map_append, List.map_map,
    List.map_flatMap, Function.comp_def]

/-- Names lead to a container when the first leads to one within, and the others from there. -/
theorem exists_descend_cons_iff {r : Registry} {outer : String} {rest : List String} :
    (∃ d, r.descend (outer :: rest) = .ok d) ↔
      ∃ child, r.child? outer = some child ∧ ∃ d, child.descend rest = .ok d := by
  simp only [descend]
  cases r.child? outer with
  | none => simp
  | some child => simp

end Registry

namespace Loader

/-- The places of the statements of a file. -/
def placesOf (f : SqlFile) (list : List Statement) : List (List String × Statement) :=
  list.map fun s => (f.folders ++ [s.name], s)

/-- Seen from the folder around, the places of statements start with the name of the folder. -/
theorem placesOf_within (f : SqlFile) (outer : String) (list : List Statement) :
    placesOf (f.within outer) list = (placesOf f list).map fun e => (outer :: e.1, e.2) := by
  simp [placesOf, SqlFile.within]

section Entries

variable {loader : Loader} {root : FileNode} {path : FilePath} {counted last : Counted}
  {entries : List (String × FileNode)}

/-- Every SQL file counts once. -/
theorem Loads.files_eq (h : Loads loader root path counted entries last) :
    last.files = counted.files + (FileNode.folder entries).sqlFiles.length := by
  induction h with
  | done => rfl
  | other hsuffix _ ih => simpa [FileNode.sqlFiles, hsuffix] using ih
  | file hsuffix _ _ _ ih =>
    simp only [FileNode.sqlFiles, FileNode.ownSqlFiles_cons_sql hsuffix, List.length_append,
      FileNode.sqlFilesWithin_cons_file, List.length_cons] at ih ⊢
    omega
  | @empty _ _ inner _ _ _ _ _ hfiles _ ihinner ih =>
    have hnone : (FileNode.folder inner).sqlFiles = [] :=
      List.eq_nil_of_length_eq_zero (by omega)
    rw [FileNode.sqlFiles, FileNode.ownSqlFiles_cons_folder, FileNode.sqlFilesWithin_cons_folder,
      hnone]
    exact ih
  | folder _ _ _ _ ihinner ih =>
    have hnothing : loader.nothing.files = 0 := rfl
    simp only [FileNode.sqlFiles, FileNode.ownSqlFiles_cons_folder, List.length_append,
      FileNode.sqlFilesWithin_cons_folder, List.length_map] at ih ihinner ⊢
    omega

/-- A folder for which no file was counted has no SQL files. -/
theorem Loads.sqlFiles_eq_nil {inner : List (String × FileNode)} {child : Counted}
    (h : Loads loader root path loader.nothing inner child) (hfiles : child.files = 0) :
    (FileNode.folder inner).sqlFiles = [] := by
  have hcount := h.files_eq
  exact List.eq_nil_of_length_eq_zero (by omega)

/-- A container that has nothing but the statements of files has those of all files. -/
theorem placedStatements_of_nothing {r : Registry} {g : SqlFile → List (List String × Statement)}
    (hown : r.ownStatements = loader.nothing.registry.ownStatements ++
      (FileNode.ownSqlFiles entries).flatMap g)
    (hwithin : r.statementsWithin = loader.nothing.registry.statementsWithin ++
      (FileNode.sqlFilesWithin entries).flatMap g) :
    r.placedStatements = (FileNode.folder entries).sqlFiles.flatMap g := by
  rw [Registry.placedStatements_eq, hown, hwithin, FileNode.sqlFiles, List.flatMap_append]
  rfl

/-- The statements of the files among the entries are added to the own operations, and containers
are added with those of the files below. -/
theorem Loads.statements_eq (h : Loads loader root path counted entries last)
    (found : FilePath → List Statement)
    (hfound : ∀ path list, loader.statements root path = .ok list → found path = list) :
    last.registry.ownStatements = counted.registry.ownStatements ++
        (FileNode.ownSqlFiles entries).flatMap (fun f => placesOf f (found (f.path path))) ∧
      last.registry.statementsWithin = counted.registry.statementsWithin ++
        (FileNode.sqlFilesWithin entries).flatMap fun f => placesOf f (found (f.path path)) := by
  induction h with
  | done => simp [FileNode.ownSqlFiles, FileNode.sqlFilesWithin]
  | other hsuffix _ ih => simpa [hsuffix] using ih
  | @file path name bytes _ _ _ list later hsuffix hstatements hlist _ ih =>
    obtain ⟨hown, hwithin⟩ := ih
    obtain ⟨hlater, hchildren⟩ := Registry.of_loadAll hlist
    have hlist' : found ((⟨[], name⟩ : SqlFile).path path) = list := hfound _ _ hstatements
    rw [hown, hwithin, hlater]
    constructor
    · simp [hsuffix, hlist', placesOf]
    · simp [Registry.statementsWithin, hchildren]
  | empty hinner hfiles _ _ ih => simpa [hinner.sqlFiles_eq_nil hfiles] using ih
  | @folder path name inner _ _ child _ later hinner _ hadd _ ihinner ih =>
    obtain ⟨hown, hwithin⟩ := ih
    obtain ⟨hchildOwn, hchildWithin⟩ := ihinner
    obtain ⟨_, _, rfl⟩ := Outcome.map_eq_ok_iff.mp hadd
    have hchild : child.registry.placedStatements =
        (FileNode.folder inner).sqlFiles.flatMap
          fun f => placesOf f (found (f.path (path.child name))) :=
      placedStatements_of_nothing hchildOwn hchildWithin
    rw [hown, hwithin]
    constructor
    · simp [Registry.ownStatements, Registry.setAttribute]
    · simp [Registry.statementsWithin, hchild, placesOf_within, List.map_flatMap, List.flatMap_map,
        SqlFile.path_within]

/-- Names lead to a container exactly when they led to one before, or lead to an SQL file below the
folders among the entries. -/
theorem Loads.descend_iff (h : Loads loader root path counted entries last) (outer : String)
    (rest : List String) :
    (∃ d, last.registry.descend (outer :: rest) = .ok d) ↔
      (∃ d, counted.registry.descend (outer :: rest) = .ok d) ∨
        ∃ f ∈ FileNode.sqlFilesWithin entries, outer :: rest <+: f.folders := by
  induction h generalizing outer rest with
  | done => simp [FileNode.sqlFilesWithin]
  | other _ _ ih => simpa using ih outer rest
  | file _ _ hlist _ ih =>
    have hchildren := (Registry.of_loadAll hlist).2
    rw [ih, FileNode.sqlFilesWithin_cons_file, Registry.exists_descend_cons_iff,
      Registry.exists_descend_cons_iff]
    simp only [Registry.child?, hchildren]
  | empty hinner hfiles _ _ ih => simpa [hinner.sqlFiles_eq_nil hfiles] using ih outer rest
  | @folder path name inner _ counted child _ later hinner hfiles hadd _ ihinner ih =>
    have hadded := Registry.registers_of_addChild hadd
    have hbelow : ∀ folders, (∃ d, child.registry.descend folders = .ok d) ↔
        ∃ f ∈ (FileNode.folder inner).sqlFiles, folders <+: f.folders := by
      intro folders
      cases folders with
      | nil =>
        have hsome : (FileNode.folder inner).sqlFiles ≠ [] := by
          intro hnone
          have hcount := hinner.files_eq
          rw [hnone] at hcount
          exact hfiles hcount
        obtain ⟨f, hf⟩ := List.exists_mem_of_ne_nil _ hsome
        simpa [Registry.descend] using ⟨f, hf⟩
      | cons first others =>
        rw [ihinner, FileNode.exists_below_iff]
        simp [nothing, Registry.empty, Registry.descend, Registry.child?]
    have hlater : (∃ d, later.descend (outer :: rest) = .ok d) ↔
        (∃ d, counted.registry.descend (outer :: rest) = .ok d) ∨
          outer = name ∧ ∃ d, child.registry.descend rest = .ok d := by
      have hfree := (Registry.isTaken_eq_false_iff.mp hadded.free).2
      rw [Registry.exists_descend_cons_iff, Registry.exists_descend_cons_iff, hadded.child_eq]
      by_cases heq : outer = name
      · simp [heq, hfree, Attribute.container?]
      · simp [heq]
    have hfirst : (∃ f ∈ (FileNode.folder inner).sqlFiles.map (SqlFile.within name),
        outer :: rest <+: f.folders) ↔
          outer = name ∧ ∃ f ∈ (FileNode.folder inner).sqlFiles, rest <+: f.folders := by
      simp [SqlFile.within, List.cons_prefix_cons, and_left_comm]
    rw [ih, hlater, hbelow, or_assoc, FileNode.sqlFilesWithin_cons_folder]
    simp only [List.mem_append, or_and_right, exists_or, hfirst]

/-- The statements of every SQL file are loaded into some container. -/
theorem Loads.exists_of_mem (h : Loads loader root path counted entries last) {f : SqlFile}
    (hf : f ∈ (FileNode.folder entries).sqlFiles) :
    ∃ (list : List Statement) (r later : Registry),
      loader.statements root (f.path path) = .ok list ∧ r.loadAll list = (later, none) := by
  induction h generalizing f with
  | done => cases hf
  | other hsuffix _ ih =>
    rw [FileNode.sqlFiles, FileNode.ownSqlFiles_cons_other hsuffix,
      FileNode.sqlFilesWithin_cons_file] at hf
    exact ih hf
  | @file path name _ _ counted _ list later hsuffix hstatements hlist _ ih =>
    rw [FileNode.sqlFiles, FileNode.ownSqlFiles_cons_sql hsuffix,
      FileNode.sqlFilesWithin_cons_file, List.cons_append] at hf
    rcases List.mem_cons.mp hf with rfl | hf
    · exact ⟨list, counted.registry, later, hstatements, hlist⟩
    · exact ih hf
  | empty hinner hfiles _ _ ih =>
    rw [FileNode.sqlFiles, FileNode.ownSqlFiles_cons_folder, FileNode.sqlFilesWithin_cons_folder,
      hinner.sqlFiles_eq_nil hfiles] at hf
    exact ih hf
  | folder _ _ _ _ ihinner ih =>
    rw [FileNode.sqlFiles, FileNode.ownSqlFiles_cons_folder,
      FileNode.sqlFilesWithin_cons_folder] at hf
    rcases List.mem_append.mp hf with hf | hf
    · exact ih (List.mem_append_left _ hf)
    · rcases List.mem_append.mp hf with hf | hf
      · obtain ⟨inner, hinner, rfl⟩ := List.mem_map.mp hf
        rw [SqlFile.path_within]
        exact ihinner hinner
      · exact ih (List.mem_append_right _ hf)

end Entries

section Relisting

variable {loader : Loader} {root other : FileNode}

/-- Entries are loaded alike where files are read alike. -/
theorem loadEntries_congr (h : ∀ path, loader.read root path = loader.read other path)
    (path : FilePath) (counted : Counted) (entries : List (String × FileNode)) :
    loadEntries loader root path counted entries =
      loadEntries loader other path counted entries := by
  have hinto : ∀ r path, loader.loadInto root r path = loader.loadInto other r path := by
    intro r path
    rw [loadInto, loadInto, h]
  match entries with
  | [] => rfl
  | (name, .file bytes) :: rest =>
    simp only [loadEntries, hinto, loadEntries_congr h path _ rest]
  | (name, .folder inner) :: rest =>
    simp only [loadEntries, loadNode, loadEntries_congr h _ _ inner,
      loadEntries_congr h path _ rest]
termination_by entries

/-- A folder is loaded alike where the tree is put in order. -/
theorem loadFolder_inOrder (h : root.Distinct) (path : FilePath) :
    loader.loadFolder root.inOrder path = loader.loadFolder root path := by
  have hread : ∀ path, loader.read root.inOrder path = loader.read root path := by
    intro path
    rw [read, read, FileNode.readText, FileNode.readText, FileNode.readBytes_inOrder h]
  unfold loadFolder
  rw [FileNode.isFolder_inOrder h, FileNode.lookup_root_inOrder h]
  cases hnode : root.lookup path with
  | error fault => rfl
  | ok node =>
    have hordered := (h.of_lookup hnode).ordered_inOrder.inOrder_eq
    have hloaded : loader.loadNode root.inOrder path node.inOrder =
        loader.loadNode root path node.inOrder := by
      cases node.inOrder with
      | file bytes => rfl
      | folder entries => exact loadEntries_congr hread _ _ entries
    simp only [Except.map, hordered, hloaded]

/-- It does not matter in which order the entries of folders are listed. -/
theorem loadFolder_relisted (h : root.Distinct) (hsame : FileNode.Relisted root other)
    (path : FilePath) : loader.loadFolder other path = loader.loadFolder root path := by
  obtain ⟨hinOrder, hother⟩ := hsame.inOrder_eq h
  rw [← loadFolder_inOrder h, hinOrder, loadFolder_inOrder hother]

end Relisting

section Alone

variable {loader : Loader} {root : FileNode} {path : FilePath} {events : List Event}
  {list : List Statement}

/-- A file that is loaded alone has its statements. -/
theorem placedStatements_of_loadFile {alone : Registry}
    (hlist : loader.statements root path = .ok list)
    (h : (loader.loadFile root path events).1 = .ok alone) :
    alone.placedStatements = list.map fun s => ([s.name], s) := by
  obtain ⟨list', hlist', hloaded⟩ := loadFile_eq_ok_iff.mp h
  obtain rfl : list = list' := by simpa [hlist] using hlist'
  obtain ⟨hown, hchildren⟩ := Registry.of_loadAll hloaded
  rw [Registry.placedStatements_eq, hown, Registry.statementsWithin, hchildren]
  simp [nothing, Registry.empty, Registry.ownStatements]

/-- A file whose statements were loaded into some container can be loaded alone exactly when the
settings fix the style or none of the statements but the last is called like the adapter. -/
theorem loadFile_alone_iff {r later : Registry} (hlist : loader.statements root path = .ok list)
    (hloaded : r.loadAll list = (later, none)) :
    (∃ alone, (loader.loadFile root path events).1 = .ok alone) ↔
      loader.settings.style.isSome = true ∨
        Registry.adapterName ∉ (list.map Statement.name).dropLast := by
  obtain ⟨text, _, hresult⟩ := exists_of_statements_eq hlist
  rw [← Registry.loadAll_empty_iff loader.adapter loader.settings hloaded
    (wellFormed_of_result_compile hresult) (of_result_compile hresult).2]
  simp only [loadFile_eq_ok_iff, hlist, Except.ok.injEq, exists_eq_left']
  rfl

end Alone

/-- What a container has of the SQL files below a folder. -/
structure HoldsFiles (loader : Loader) (root : FileNode) (path : FilePath) (files : List SqlFile)
    (found : SqlFile → List Statement) (r : Registry) : Prop where
  /-- The files are what paths below the folder lead to, if the name has the suffix. -/
  mem_iff : ∀ f, ".." ∉ f.folders →
    (f ∈ files ↔ FilePath.suffixOf f.name = sqlSuffix ∧
      ∃ bytes, root.lookup (f.path path) = .ok (.file bytes))
  /-- Those of one folder are in alphabetical order, and each is there once. -/
  ordered : files.Pairwise fun f g => f.folders = g.folders → f.name < g.name
  /-- The statements of a file are those that its text compiles to. -/
  statements_eq : ∀ f ∈ files, loader.statements root (f.path path) = .ok (found f)
  /-- The operations are those of the statements of all files, where their files are. -/
  placed_eq : r.placedStatements = files.flatMap fun f => placesOf f (found f)
  /-- The place of an operation leads to it. -/
  mem_placed_iff : ∀ folders name op,
    (folders ++ [name], op) ∈ r.placed ↔ r.Leads folders name op
  /-- There is a container for each folder that leads to a file. -/
  descend_iff : ∀ folders, (∃ d, r.descend folders = .ok d) ↔
    folders = [] ∨ ∃ f ∈ files, folders <+: f.folders
  /-- A file that is loaded alone has the same statements. -/
  alone_eq : ∀ f ∈ files, ∀ events alone,
    (loader.loadFile root (f.path path) events).1 = .ok alone →
      alone.placedStatements = (found f).map fun s => ([s.name], s)
  /-- A file is loaded alone exactly when the settings fix the style or none of its statements but
  the last is called like the adapter. -/
  alone_ok_iff : ∀ f ∈ files, ∀ events,
    (∃ alone, (loader.loadFile root (f.path path) events).1 = .ok alone) ↔
      loader.settings.style.isSome = true ∨
        Registry.adapterName ∉ ((found f).map Statement.name).dropLast

/-- A folder that is loaded has the statements of the SQL files below it where their files are, and
containers for the folders that lead to them. It does not matter in which order the file system
lists entries. Each file is loaded alone with the same statements, exactly when the settings fix the
style or none of its statements but the last is called like the adapter. -/
theorem loadFolder_exact {loader : Loader} {root : FileNode} {path : FilePath}
    {events : List Event} {r : Registry} (hroot : root.Distinct)
    (h : (loader.loadFolder root path events).1 = .ok r) :
    (∃ node found, root.lookup path = .ok node ∧
      HoldsFiles loader root path node.inOrder.sqlFiles found r) ∧
      ∀ other, FileNode.Relisted root other →
        loader.loadFolder other path = loader.loadFolder root path := by
  refine ⟨?_, fun other hother => loadFolder_relisted hroot hother path⟩
  have htidy := tidy_of_loadFolder h
  obtain ⟨entries, last, hnode, hloads, rfl⟩ := loads_of_loadFolder h
  have hordered := (hroot.of_lookup hnode).ordered_inOrder
  have hfiles : (FileNode.folder (FileNode.folder entries).inOrder.entries).sqlFiles =
      (FileNode.folder entries).inOrder.sqlFiles := by
    simp only [FileNode.inOrder, FileNode.entries]
  let found := fun path => (loader.statements root path).toOption.getD []
  have hfound : ∀ path list, loader.statements root path = .ok list → found path = list := by
    intro path list hlist
    simp [found, hlist, Except.toOption]
  have hsome : ∀ f ∈ (FileNode.folder entries).inOrder.sqlFiles, ∃ before later : Registry,
      loader.statements root (f.path path) = .ok (found (f.path path)) ∧
        before.loadAll (found (f.path path)) = (later, none) := by
    intro f hf
    obtain ⟨list, before, later, hlist, hlater⟩ := hloads.exists_of_mem (hfiles ▸ hf)
    rw [hfound _ _ hlist]
    exact ⟨before, later, hlist, hlater⟩
  refine ⟨_, fun f => found (f.path path), hnode, ?_, hordered.pairwise_sqlFiles, ?_, ?_,
    fun _ _ _ => htidy.mem_placed_iff_leads, ?_, ?_, ?_⟩
  · intro f hup
    constructor
    · intro hf
      obtain ⟨_, _, hlist, _⟩ := hsome f hf
      exact ⟨FileNode.suffixOf_of_mem_sqlFiles hf, exists_lookup_of_statements hlist⟩
    · rintro ⟨hsuffix, bytes, hbytes⟩
      rw [FileNode.mem_sqlFiles_inOrder_iff]
      exact FileNode.mem_sqlFiles_of_lookup hnode hbytes hup hsuffix
  · intro f hf
    obtain ⟨_, _, hlist, _⟩ := hsome f hf
    exact hlist
  · obtain ⟨hown, hwithin⟩ := hloads.statements_eq found hfound
    rw [placedStatements_of_nothing hown hwithin, hfiles]
  · intro folders
    cases folders with
    | nil => simp [Registry.descend]
    | cons outer rest =>
      rw [hloads.descend_iff, ← FileNode.exists_below_iff, hfiles]
      simp [nothing, Registry.empty, Registry.descend, Registry.child?]
  · intro f hf events alone halone
    obtain ⟨_, _, hlist, _⟩ := hsome f hf
    exact placedStatements_of_loadFile hlist halone
  · intro f hf events
    obtain ⟨_, _, hlist, hlater⟩ := hsome f hf
    exact loadFile_alone_iff hlist hlater

/-- A folder with files and a folder, listed out of order. -/
def outOfOrder : FileNode :=
  .folder [("d", .folder
    [("sub", .folder [("x.sql", .file "-- name: c!\nselect 3\n/\n".toUTF8.toList)]),
      ("empty", .folder [("notes.txt", .file [])]),
      ("b.sql", .file "-- name: b!\nselect 2\n/\n".toUTF8.toList),
      ("a.sql", .file "-- name: z!\nselect 0\n/\n-- name: a!\nselect 1\n/\n".toUTF8.toList)])]

/-- The operations are those of the files in alphabetical order, and then that of the folder. -/
theorem loadFolder_exact_outOfOrder :
    ∃ r, (loadFolder ⟨.standard, .standard, "utf-8"⟩ outOfOrder (.ofString "d") []).1 = .ok r ∧
      r.placed.map Prod.fst = [["z"], ["a"], ["b"], ["sub", "c"]] ∧
      ∃ node found, outOfOrder.lookup (.ofString "d") = .ok node ∧
        HoldsFiles ⟨.standard, .standard, "utf-8"⟩ outOfOrder (.ofString "d")
          node.inOrder.sqlFiles found r := by
  have hplaces :
      ((loadFolder ⟨.standard, .standard, "utf-8"⟩ outOfOrder (.ofString "d") []).1.map
        fun r => r.placed.map Prod.fst).toOption = some [["z"], ["a"], ["b"], ["sub", "c"]] := by
    decide +kernel
  have hroot : outOfOrder.Distinct := by
    simp [outOfOrder, FileNode.distinct_folder_iff, FileNode.Distinct.file]
  cases hload : (loadFolder ⟨.standard, .standard, "utf-8"⟩ outOfOrder (.ofString "d") []).1 with
  | error e => simp [hload, Except.map, Except.toOption] at hplaces
  | ok r =>
    have hread : r.placed.map Prod.fst = [["z"], ["a"], ["b"], ["sub", "c"]] := by
      simpa [hload, Except.map, Except.toOption] using hplaces
    exact ⟨r, rfl, hread, (loadFolder_exact hroot hload).1⟩

/-- A folder whose container of the name of the settings has operations where the settings have the
style of placeholders and the type checks. -/
def misplacedSettings : FileNode :=
  .folder [("d", .folder
    [("config", .folder [("ops.sql", .file
        ("-- name: placeholder_style?\nselect 1\n/\n" ++
          "-- name: check_types?\nselect 1\n/\n").toUTF8.toList)]),
      ("z.sql", .file "-- name: adapter!\nselect 1\n/\n-- name: b!\nselect 2\n/\n".toUTF8.toList)])]

/-- A folder may be loaded although one of its files cannot be loaded alone. -/
theorem loadFile_can_fail_alone :
    ¬ ∀ (loader : Loader) (root : FileNode) (path : FilePath) (f : SqlFile) (r : Registry),
      root.Distinct → (loader.loadFolder root path []).1 = .ok r →
        FilePath.suffixOf f.name = sqlSuffix → root.isFile (f.path path) = .ok true →
          ∃ alone, (loader.loadFile root (f.path path) []).1 = .ok alone := by
  intro h
  have hroot : misplacedSettings.Distinct := by
    simp [misplacedSettings, FileNode.distinct_folder_iff, FileNode.Distinct.file]
  have hfolder : (loadFolder ⟨.standard, .standard, "utf-8"⟩ misplacedSettings
      (.ofString "d") []).1.toOption.isSome = true := by decide +kernel
  have hfile : (loadFile ⟨.standard, .standard, "utf-8"⟩ misplacedSettings
      (.ofString "d/z.sql") []).1.toOption.isSome = false := by decide +kernel
  cases hload : (loadFolder ⟨.standard, .standard, "utf-8"⟩ misplacedSettings
      (.ofString "d") []).1 with
  | error e => simp [hload, Except.toOption] at hfolder
  | ok r =>
    obtain ⟨alone, halone⟩ := h _ _ _ ⟨[], "z.sql"⟩ r hroot hload (by decide) rfl
    have hpath : (⟨[], "z.sql"⟩ : SqlFile).path (.ofString "d") = .ofString "d/z.sql" := by
      decide +kernel
    rw [hpath] at halone
    simp [halone, Except.toOption] at hfile

end Loader

end AnnotatedSql
