import AnnotatedSql.Loading.FileTree
import AnnotatedSql.Loading.Text

/-!
# Containers from files

A file becomes a container of its operations. A folder becomes one container of the operations
of its SQL files, with a container within for every folder in it that holds any SQL files. The
entries of a folder are gone through in alphabetical order.
-/

namespace AnnotatedSql

namespace Failure

/-- A file or folder that is to be loaded does not exist. -/
def sqlFileNotFound (path : FilePath) (cause : Option Failure) : Failure :=
  ofLibrary .sqlFileNotFound
    ("SQL file '" ++ path.name ++ "' not found at path: " ++ path.text)
    { name := some (.text path.name), path := some (.text path.text) } cause

/-- A file cannot be read. -/
def sqlFileParse (path : FilePath) (error : Failure) : Failure :=
  saying error.text fun message =>
    ofLibrary .sqlFileParse
      ("Failed to read SQL file '" ++ path.name ++ "' at " ++ path.text ++ ": " ++ message)
      { name := some (.text path.name), path := some (.text path.text) } (some error)

end Failure

namespace Log

/-- A file has been loaded. -/
def loadedFile (path : FilePath) (statements : Nat) : Record :=
  { logger := "sqlinclude.loader"
    level := .info
    template := "Loaded " ++ toString statements ++ " statements from " ++ path.text
    fields := .mapping [("path", .text path.text), ("statement_count", .int statements)] }

/-- A folder has been loaded. -/
def loadedFolder (path : FilePath) (files statements : Nat) : Record :=
  { logger := "sqlinclude.loader"
    level := .info
    template := "Loaded " ++ toString files ++ " SQL files with " ++ toString statements
      ++ " statements in 0.000ms"
    fields := .mapping
      [("path", .text path.text), ("files_loaded", .int files),
        ("statement_count", .int statements), ("duration_ms", duration)] }

/-- A folder could not be loaded. -/
def failedFolder (path : FilePath) (e : Failure) : Record :=
  { logger := "sqlinclude.loader"
    level := .error
    template := "Failed to load SQL directory " ++ path.text
    fields := .mapping [("path", .text path.text), ("error_type", .text e.kind.label)]
    failure := some e }

end Log

/-- How files are loaded. -/
structure Loader where
  /-- What runs the operations. -/
  adapter : Adapter
  /-- How the files are compiled. -/
  settings : Settings
  /-- The name of the encoding of the files. -/
  encoding : String

namespace Loader

/-- The suffix of SQL files. -/
def sqlSuffix : List Char := ['.', 's', 'q', 'l']

/-- What failing to read a file is reported as. -/
def readFailure (path : FilePath) (e : Failure) : Failure :=
  if e.kind.isBelow .fileNotFound then .sqlFileNotFound path (some e)
  else if e.kind.isBelow .system || e.kind.isBelow .unicodeDecode then .sqlFileParse path e
  else e

/-- The text of a file. -/
def read (loader : Loader) (root : FileNode) (path : FilePath) : Except Failure String :=
  (root.readText path loader.encoding).mapError (readFailure path)

/-- Adds the operations of a file to a container, and counts its statements. -/
def loadInto (loader : Loader) (root : FileNode) (registry : Registry) (path : FilePath) :
    Run (Registry × Nat) := do
  let text ← Run.ofExcept (loader.read root path)
  let found ← Loading.statements loader.settings text path.text
  let loaded ← Loading.into registry found
  pure (loaded, found.length)

/-- The container of a file. -/
def loadFile (loader : Loader) (root : FileNode) (path : FilePath) : Run Registry := do
  if ← Run.ofExcept (root.isFile path) then
    let (registry, count) ←
      loader.loadInto root (.empty loader.adapter loader.settings) path
    Run.log [Log.loadedFile path count]
    pure registry
  else Run.fail (.sqlFileNotFound path none)

/-- A container with the counts of the files and statements that went into it. -/
structure Counted where
  /-- The container. -/
  registry : Registry
  /-- How many files. -/
  files : Nat
  /-- How many statements. -/
  statements : Nat

mutual

/-- The container of a folder. -/
def loadNode (loader : Loader) (root : FileNode) (path : FilePath) : FileNode → Run Counted
  | .file _ => .result ⟨.empty loader.adapter loader.settings, 0, 0⟩
  | .folder entries =>
    loadEntries loader root path ⟨.empty loader.adapter loader.settings, 0, 0⟩ entries

/-- A container with what the entries of its folder add to it. -/
def loadEntries (loader : Loader) (root : FileNode) (path : FilePath) (counted : Counted) :
    List (String × FileNode) → Run Counted
  | [] => .result counted
  | (name, node) :: rest => do
    let entry := path.child name
    let next ← match node with
      | .file _ =>
        if FilePath.suffixOf name = sqlSuffix then do
          let (registry, count) ← loader.loadInto root counted.registry entry
          pure ⟨registry, counted.files + 1, counted.statements + count⟩
        else pure counted
      | .folder _ => do
        let child ← loadNode loader root entry node
        if child.files = 0 then pure counted
        else do
          let registry ← Run.ofExcept
            ((counted.registry.addChild name child.registry).mapError Failure.ofCompileError)
          pure ⟨registry, counted.files + child.files, counted.statements + child.statements⟩
    loadEntries loader root path next rest

end

/-- Logs that a folder could not be loaded, and fails. -/
def reportFailure {α : Type} (path : FilePath) (run : Run α) : Run α :=
  fun events =>
    match run events with
    | (.ok a, later) => (.ok a, later)
    | (.error e, later) => (.error e, later ++ [.logged (Log.failedFolder path e)])

/-- The container of a folder. -/
def loadFolder (loader : Loader) (root : FileNode) (path : FilePath) : Run Registry := do
  if ← Run.ofExcept (root.isFolder path) then
    match root.lookup path with
    | .error _ => Run.fail (.sqlFileNotFound path none)
    | .ok node =>
      let counted ← reportFailure path (loader.loadNode root path node.inOrder)
      Run.log [Log.loadedFolder path counted.files counted.statements]
      pure counted.registry
  else Run.fail (.sqlFileNotFound path none)

/-- The container of a folder or a file. -/
def loadPath (loader : Loader) (root : FileNode) (path : FilePath) : Run Registry := do
  if ← Run.ofExcept (root.isFolder path) then loader.loadFolder root path
  else loader.loadFile root path

end Loader

end AnnotatedSql
