import AnnotatedSql.Failure.Basic
import AnnotatedSql.Loading.Path
import AnnotatedSql.Text.Encoding
import AnnotatedSql.Text.Lines

/-!
# Files and folders

The files below the working directory. Looking a path up and reading a file fail as they do on
an operating system: a path may lead nowhere or through a file, and a folder has no text.
-/

namespace AnnotatedSql

/-- A file or a folder. -/
inductive FileNode where
  /-- A file with its bytes. -/
  | file (content : List UInt8)
  /-- A folder with its entries, in the order in which the file system lists them. -/
  | folder (entries : List (String × FileNode))

namespace FileNode

/-- The entries of a folder; a file has none. -/
def entries : FileNode → List (String × FileNode)
  | file _ => []
  | folder es => es

/-- Entries in alphabetical order with one of them changed or added. -/
def changeEntry (name : String) (change : Option FileNode → FileNode) :
    List (String × FileNode) → List (String × FileNode)
  | [] => [(name, change none)]
  | (key, node) :: rest =>
    if name = key then (key, change (some node)) :: rest
    else if name < key then (name, change none) :: (key, node) :: rest
    else (key, node) :: changeEntry name change rest

/-- The tree with a node at the given names. Folders on the way are made. -/
def place (node : FileNode) : List String → Option FileNode → FileNode
  | [], _ => node
  | name :: rest, tree =>
    folder (changeEntry name (place node rest) ((tree.map entries).getD []))

/-- The tree with a folder at the given names. What is there already stays. -/
def placeFolder : List String → Option FileNode → FileNode
  | [], tree => tree.getD (folder [])
  | name :: rest, tree =>
    folder (changeEntry name (placeFolder rest) ((tree.map entries).getD []))

/-- Entries in alphabetical order with one more. -/
def insertEntry (entry : String × FileNode) : List (String × FileNode) → List (String × FileNode)
  | [] => [entry]
  | first :: rest =>
    if entry.1 ≤ first.1 then entry :: first :: rest else first :: insertEntry entry rest

mutual

/-- The tree with the entries of all folders in alphabetical order. -/
def inOrder : FileNode → FileNode
  | file content => file content
  | folder es => folder (entriesInOrder es)

/-- Entries in alphabetical order, and so are the entries of all folders below them. -/
def entriesInOrder : List (String × FileNode) → List (String × FileNode)
  | [] => []
  | (name, node) :: rest => insertEntry (name, inOrder node) (entriesInOrder rest)

end

/-- Why a path leads to nothing. -/
inductive PathFault where
  /-- An entry does not exist. -/
  | missing
  /-- The path leads through a file. -/
  | throughFile
  /-- A name or the whole path is too long. -/
  | tooLong
  deriving DecidableEq, Repr

/-- Follows names from a node below the given folders. -/
def follow : (above : List FileNode) → FileNode → List String → Except PathFault FileNode
  | _, node, [] => .ok node
  | _, file _, _ :: _ => .error .throughFile
  | above, folder es, name :: rest =>
    if name = ".." then
      match above with
      | [] => follow [] (folder []) rest
      | parent :: others => follow others parent rest
    else if 255 < name.utf8ByteSize then .error .tooLong
    else
      match es.lookup name with
      | none => .error .missing
      | some node => follow (folder es :: above) node rest

/-- The node at a path. Of the files outside of the working directory none are known. -/
def lookup (root : FileNode) (path : FilePath) : Except PathFault FileNode :=
  if path.text.toList.contains '\x00' then .error .missing
  else if 4096 ≤ path.text.utf8ByteSize then .error .tooLong
  else if path.start = .here then follow [] root path.parts
  else follow [] (folder []) path.parts

/-- An error of the operating system about a path. -/
def systemFailure (kind : ErrorKind) (number : Int) (text : String) (path : FilePath) : Failure :=
  { kind := kind, arguments := [.int number, .text text], files := [.text path.text] }

/-- The failure of a path that leads to nothing. -/
def PathFault.failure (path : FilePath) : PathFault → Failure
  | missing => systemFailure .fileNotFound 2 "No such file or directory" path
  | throughFile => systemFailure .notADirectory 20 "Not a directory" path
  | tooLong => systemFailure .system 36 "File name too long" path

/-- A test of the node at a path. A path that leads to nothing fails the test, but one that is
too long is an error. -/
def test (root : FileNode) (path : FilePath) (holds : FileNode → Bool) : Except Failure Bool :=
  match root.lookup path with
  | .ok node => .ok (holds node)
  | .error .tooLong => .error (PathFault.failure path .tooLong)
  | .error _ => .ok false

/-- The path leads to a file. -/
def isFile (root : FileNode) (path : FilePath) : Except Failure Bool :=
  root.test path fun
    | file _ => true
    | folder _ => false

/-- The path leads to a folder. -/
def isFolder (root : FileNode) (path : FilePath) : Except Failure Bool :=
  root.test path fun
    | file _ => false
    | folder _ => true

/-- The failure of bytes that do not decode. -/
def decodeFailure (bytes : List UInt8) : Text.DecodeFault → Failure
  | .undecodable codec first last reason =>
    { kind := .unicodeDecode
      arguments := [.text codec, .bytes bytes, .int first, .int last, .text reason] }
  | .missingMark => .plain .unicode "UTF-16 stream does not start with BOM"

/-- The bytes of the file at a path. -/
def readBytes (root : FileNode) (path : FilePath) : Except Failure (List UInt8) :=
  if path.text.toList.contains '\x00' then .error (.plain .value "embedded null byte")
  else
    match root.lookup path with
    | .error fault => .error (fault.failure path)
    | .ok (folder _) => .error (systemFailure .isADirectory 21 "Is a directory" path)
    | .ok (file bytes) => .ok bytes

/-- The text of the file at a path in an encoding, with every line end as a newline. -/
def readText (root : FileNode) (path : FilePath) (encoding : String) : Except Failure String :=
  if encoding.toList.contains '\x00' then .error (.plain .value "embedded null character")
  else do
    let bytes ← root.readBytes path
    match Text.Encoding.ofName? encoding with
    | none => .error (.plain .lookup (Text.Encoding.refusal encoding))
    | some e =>
      match e.decode bytes with
      | .ok cs => pure (String.ofList (Text.normalizeNewlines cs))
      | .error fault => .error (decodeFailure (e.faultBytes bytes) fault)

end FileNode

end AnnotatedSql
