import AnnotatedSql.Loading.Files
import AnnotatedSql.Proofs.Engine.Ending
import AnnotatedSql.Proofs.Loading.FileTree
import AnnotatedSql.Proofs.Loading.Text

/-!
# How files and folders are loaded

Loading a file compiles its text and loads the statements. Loading a folder goes through its entries
and adds one file or one container at a time. What a load that succeeds has done is said once here,
entry by entry.
-/

set_option autoImplicit false

namespace AnnotatedSql.Loader

/-- The statements of the file at a path. -/
def statements (loader : Loader) (root : FileNode) (path : FilePath) :
    Except Failure (List Statement) := do
  let text ← loader.read root path
  (compile loader.settings text path.text).result.mapError Failure.ofCompileError

/-- Before anything has been loaded. -/
def nothing (loader : Loader) : Counted :=
  ⟨.empty loader.adapter loader.settings, 0, 0⟩

/-- Entries of the folder at a path are loaded one after another. -/
inductive Loads (loader : Loader) (root : FileNode) :
    FilePath → Counted → List (String × FileNode) → Counted → Prop where
  /-- There is no entry left. -/
  | done {path : FilePath} {counted : Counted} : Loads loader root path counted [] counted
  /-- The first entry is a file, but no SQL file. -/
  | other {path : FilePath} {name : String} {bytes : List UInt8} {rest : List (String × FileNode)}
    {counted last : Counted} (hsuffix : FilePath.suffixOf name ≠ sqlSuffix)
    (hrest : Loads loader root path counted rest last) :
    Loads loader root path counted ((name, .file bytes) :: rest) last
  /-- The first entry is an SQL file, and its statements are added. -/
  | file {path : FilePath} {name : String} {bytes : List UInt8} {rest : List (String × FileNode)}
    {counted last : Counted} {list : List Statement} {later : Registry}
    (hsuffix : FilePath.suffixOf name = sqlSuffix)
    (hstatements : loader.statements root (path.child name) = .ok list)
    (hlist : counted.registry.loadAll list = (later, none))
    (hrest : Loads loader root path
      ⟨later, counted.files + 1, counted.statements + list.length⟩ rest last) :
    Loads loader root path counted ((name, .file bytes) :: rest) last
  /-- The first entry is a folder without SQL files. -/
  | empty {path : FilePath} {name : String} {inner rest : List (String × FileNode)}
    {counted child last : Counted}
    (hinner : Loads loader root (path.child name) loader.nothing inner child)
    (hfiles : child.files = 0) (hrest : Loads loader root path counted rest last) :
    Loads loader root path counted ((name, .folder inner) :: rest) last
  /-- The first entry is a folder with SQL files, and its container is added. -/
  | folder {path : FilePath} {name : String} {inner rest : List (String × FileNode)}
    {counted child last : Counted} {later : Registry}
    (hinner : Loads loader root (path.child name) loader.nothing inner child)
    (hfiles : child.files ≠ 0)
    (hadd : counted.registry.addChild name child.registry = .ok later)
    (hrest : Loads loader root path
      ⟨later, counted.files + child.files, counted.statements + child.statements⟩ rest last) :
    Loads loader root path counted ((name, .folder inner) :: rest) last

variable {loader : Loader} {root : FileNode} {path : FilePath} {events : List Event}
  {r later : Registry}

/-- The statements of a file come from compiling its text. -/
theorem exists_of_statements_eq {list : List Statement}
    (h : loader.statements root path = .ok list) :
    ∃ text, loader.read root path = .ok text ∧
      (compile loader.settings text path.text).result = .ok list := by
  obtain ⟨text, hread, hlist⟩ := Outcome.bind_eq_ok_iff.mp h
  exact ⟨text, hread, Outcome.mapError_eq_ok_iff.mp hlist⟩

/-- What has statements is a file. -/
theorem exists_lookup_of_statements {list : List Statement}
    (h : loader.statements root path = .ok list) :
    ∃ bytes, root.lookup path = .ok (.file bytes) := by
  obtain ⟨text, hread, _⟩ := exists_of_statements_eq h
  have htext := Outcome.mapError_eq_ok_iff.mp hread
  unfold FileNode.readText at htext
  split at htext
  · cases htext
  · obtain ⟨bytes, hbytes, _⟩ := Outcome.bind_eq_ok_iff.mp htext
    exact ⟨bytes, FileNode.lookup_of_readBytes hbytes⟩

/-- Compiling a text has the result of its compilation. -/
theorem statements_eq_ok_iff {settings : Settings} {text sourceName : String}
    {list : List Statement} :
    (Loading.statements settings text sourceName events).1 = .ok list ↔
      (compile settings text sourceName).result.mapError Failure.ofCompileError = .ok list := by
  unfold Loading.statements
  simp only [Run.bind_eq_ok_iff, Run.ofExcept_eq_ok_iff, Run.log]
  simp

/-- Statements are made into operations where all of them are added. -/
theorem into_eq_ok_iff {list : List Statement} :
    (Loading.into r list events).1 = .ok later ↔ r.loadAll list = (later, none) := by
  unfold Loading.into
  rcases r.loadAll list with ⟨loaded, _ | e⟩
  · simp [Run.result]
  · simp [Run.fail]

/-- The statements of a file are added to a container, or loading the file fails. -/
theorem loadInto_eq_ok_iff {count : ℕ} :
    (loader.loadInto root r path events).1 = .ok (later, count) ↔
      ∃ list, loader.statements root path = .ok list ∧ r.loadAll list = (later, none) ∧
        list.length = count := by
  unfold loadInto statements
  simp only [Run.bind_eq_ok_iff, Run.ofExcept_eq_ok_iff, Run.pure_eq_ok_iff,
    Outcome.bind_eq_ok_iff, statements_eq_ok_iff, into_eq_ok_iff]
  constructor
  · rintro ⟨text, hread, list, hlist, loaded, hloaded, hpair⟩
    obtain ⟨rfl, rfl⟩ := Prod.mk.inj hpair
    exact ⟨list, ⟨text, hread, hlist⟩, hloaded, rfl⟩
  · rintro ⟨list, ⟨text, hread, hlist⟩, hloaded, rfl⟩
    exact ⟨text, hread, list, hlist, later, hloaded, rfl⟩

/-- A file is loaded exactly when its statements are all added to a new container. -/
theorem loadFile_eq_ok_iff :
    (loader.loadFile root path events).1 = .ok r ↔
      ∃ list, loader.statements root path = .ok list ∧
        loader.nothing.registry.loadAll list = (r, none) := by
  unfold loadFile
  simp only [Run.bind_eq_ok_iff, Run.ofExcept_eq_ok_iff]
  constructor
  · rintro ⟨isFile, hfile, h⟩
    cases isFile with
    | false => simp [Run.fail] at h
    | true =>
      simp only [if_true, Run.bind_eq_ok_iff, Run.pure_eq_ok_iff] at h
      obtain ⟨⟨loaded, count⟩, hinto, _, _, rfl⟩ := h
      obtain ⟨list, hlist, hloaded, _⟩ := loadInto_eq_ok_iff.mp hinto
      exact ⟨list, hlist, hloaded⟩
  · rintro ⟨list, hlist, hloaded⟩
    obtain ⟨bytes, hbytes⟩ := exists_lookup_of_statements hlist
    refine ⟨true, FileNode.isFile_of_lookup hbytes, ?_⟩
    simp only [if_true, Run.bind_eq_ok_iff, Run.pure_eq_ok_iff]
    exact ⟨(r, list.length), loadInto_eq_ok_iff.mpr ⟨list, hlist, hloaded, rfl⟩, (), rfl, rfl⟩

/-- The entries of a folder that is loaded are loaded one after another. -/
theorem loads_of_loadEntries {path : FilePath} {events : List Event} {counted last : Counted}
    {entries : List (String × FileNode)}
    (h : (loadEntries loader root path counted entries events).1 = .ok last) :
    Loads loader root path counted entries last := by
  match entries with
  | [] =>
    have hlast : counted = last := by simpa [loadEntries, Run.result] using h
    exact hlast ▸ .done
  | (name, .file bytes) :: rest =>
    rw [loadEntries] at h
    by_cases hsuffix : FilePath.suffixOf name = sqlSuffix
    · simp only [if_pos hsuffix, Run.bind_eq_ok_iff, Run.pure_eq_ok_iff] at h
      obtain ⟨⟨later, count⟩, hinto, next, rfl, hrest⟩ := h
      obtain ⟨list, hlist, hloaded, rfl⟩ := loadInto_eq_ok_iff.mp hinto
      exact .file hsuffix hlist hloaded (loads_of_loadEntries hrest)
    · simp only [if_neg hsuffix, Run.bind_eq_ok_iff, Run.pure_eq_ok_iff] at h
      obtain ⟨next, rfl, hrest⟩ := h
      exact .other hsuffix (loads_of_loadEntries hrest)
  | (name, .folder inner) :: rest =>
    simp only [loadEntries, Run.bind_eq_ok_iff] at h
    obtain ⟨child, hchild, hrest⟩ := h
    rw [loadNode] at hchild
    have hinner := loads_of_loadEntries hchild
    by_cases hfiles : child.files = 0
    · simp only [if_pos hfiles, Run.bind_eq_ok_iff, Run.pure_eq_ok_iff] at hrest
      obtain ⟨next, rfl, hrest⟩ := hrest
      exact .empty hinner hfiles (loads_of_loadEntries hrest)
    · simp only [if_neg hfiles, Run.bind_eq_ok_iff, Run.pure_eq_ok_iff,
        Run.ofExcept_eq_ok_iff, Outcome.mapError_eq_ok_iff] at hrest
      obtain ⟨later, hadd, next, rfl, hrest⟩ := hrest
      exact .folder hinner hfiles hadd (loads_of_loadEntries hrest)
termination_by entries

/-- Reporting a failure leaves a result as it is. -/
theorem reportFailure_eq_ok_iff {α : Type} {run : Run α} {a : α} :
    (reportFailure path run events).1 = .ok a ↔ (run events).1 = .ok a := by
  unfold reportFailure
  rcases run events with ⟨_ | b, later⟩
  · simp
  · simp

/-- A folder that is loaded has its entries loaded in alphabetical order. -/
theorem loads_of_loadFolder (h : (loader.loadFolder root path events).1 = .ok r) :
    ∃ entries last, root.lookup path = .ok (.folder entries) ∧
      Loads loader root path loader.nothing (FileNode.folder entries).inOrder.entries last ∧
      last.registry = r := by
  unfold loadFolder at h
  simp only [Run.bind_eq_ok_iff, Run.ofExcept_eq_ok_iff] at h
  obtain ⟨isFolder, hfolder, h⟩ := h
  cases isFolder with
  | false => simp [Run.fail] at h
  | true =>
    rw [if_pos rfl] at h
    unfold FileNode.isFolder FileNode.test at hfolder
    cases hnode : root.lookup path with
    | error fault => simp [hnode, Run.fail] at h
    | ok node =>
      simp only [hnode, Run.bind_eq_ok_iff, Run.pure_eq_ok_iff] at h hfolder
      cases node with
      | file bytes => simp at hfolder
      | folder entries =>
        obtain ⟨last, hlast, _, _, rfl⟩ := h
        refine ⟨entries, last, rfl, ?_, rfl⟩
        rw [reportFailure_eq_ok_iff, FileNode.inOrder, loadNode] at hlast
        exact loads_of_loadEntries hlast

end AnnotatedSql.Loader
