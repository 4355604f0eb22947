import AnnotatedSql.Loading.Files
import AnnotatedSql.Proofs.Failure.Message
import AnnotatedSql.Proofs.Text.Encoding

/-!
# What reading a file is reported as

A loader reads the text of a file or reports why it cannot: nothing is found at the path, or what is
found cannot be read. Two failures are not reported as either: that the path has a null character
in it, and that the mark in front of UTF-16 is missing.
-/

set_option autoImplicit false

namespace AnnotatedSql

open Text (Encoding normalizeNewlines)

/-- There is something at a path that cannot be read in an encoding: it is no file, it cannot be
reached, or its bytes are those of no characters. -/
def FileNode.Unreadable (e : Encoding) (root : FileNode) (path : FilePath) : Prop :=
  match root.lookup path with
  | .error fault => fault ≠ .missing
  | .ok (.folder _) => True
  | .ok (.file bytes) => ∀ cs, ¬ e.Encodes cs bytes

/-- Reading a path fails in a way that a loader does not know. -/
def FileNode.Escapes (e : Encoding) (root : FileNode) (path : FilePath) : Prop :=
  '\x00' ∈ path.text.toList ∨
    e = .utf16 ∧ ∃ bytes, root.lookup path = .ok (.file bytes) ∧ Encoding.LacksMark bytes

namespace Loader

/-- What comes of reading a path is the text of the file, with newlines at its line ends, or a
failure of the loader that is raised from the original one. -/
inductive Surfaces (loader : Loader) (e : Encoding) (root : FileNode) (path : FilePath) :
    Except Failure String → Prop
  /-- The file has the bytes of characters. -/
  | text {bytes : List UInt8} {cs : List Char} (file : root.lookup path = .ok (.file bytes))
      (encodes : e.Encodes cs bytes) :
      Surfaces loader e root path (.ok (String.ofList (normalizeNewlines cs)))
  /-- There is nothing at the path. -/
  | notFound {original : Failure} (missing : root.lookup path = .error .missing)
      (raised : root.readText path loader.encoding = .error original) :
      Surfaces loader e root path (.error (.sqlFileNotFound path (some original)))
  /-- What is there cannot be read. The failure tells what the original one says. -/
  | unreadable {original : Failure} {message : String} (reason : root.Unreadable e path)
      (raised : root.readText path loader.encoding = .error original)
      (told : original.text = .ok message) :
      Surfaces loader e root path (.error (.sqlFileParse path original))

variable {loader : Loader} {e : Encoding} {root : FileNode} {path : FilePath}

/-- A failure to read a file is told by one of the loader's own, if it has a message. -/
theorem sqlFileParse_of_text {original : Failure} {message : String}
    (h : original.text = .ok message) :
    (Failure.sqlFileParse path original).kind = .sqlFileParse := by
  rw [Failure.sqlFileParse, h, Failure.saying_ok]
  rfl

/-- What reading a path fails with is one of the loader's failures. -/
theorem Surfaces.isLibrary {outcome : Except Failure String}
    (h : Surfaces loader e root path outcome) {f : Failure} (hf : outcome = .error f) :
    f.kind.isLibrary = true := by
  cases h with
  | text => cases hf
  | notFound =>
    cases hf
    rfl
  | unreadable _ _ told =>
    obtain rfl := Except.error.inj hf
    rw [sqlFileParse_of_text told]
    rfl

/-- A failure of the operating system has a message if its number is not too long. -/
theorem text_systemFailure (kind : ErrorKind) {number : Int} (text : String) (path : FilePath)
    (hkind : kind.isBelow .system = true) (hnumber : (Value.int number).isShowable = true) :
    (FileNode.systemFailure kind number text path).text =
      .ok (FileNode.systemFailure kind number text path).message := by
  have hvalues : (FileNode.systemFailure kind number text path).plainValues =
      [.int number, .text text, .text path.text] := by
    rw [Failure.plainValues]
    exact if_pos hkind
  apply Failure.text_of_areShown rfl
  rw [hvalues]
  refine List.forall_mem_cons.mpr ⟨hnumber, ?_⟩
  simp [Value.isShowable]

/-- A failure to decode bytes has a message. -/
theorem text_decodeFailure (bytes : List UInt8) (codec : String) (first last : Nat)
    (reason : String) :
    (FileNode.decodeFailure bytes (.undecodable codec first last reason)).text =
      .ok (FileNode.decodeFailure bytes (.undecodable codec first last reason)).message := by
  have hvalues :
      (FileNode.decodeFailure bytes (.undecodable codec first last reason)).plainValues = [] := rfl
  apply Failure.text_of_areShown rfl
  simp [hvalues]

/-- Reading a path with a null character in it. -/
theorem readText_of_null (hname : '\x00' ∉ loader.encoding.toList)
    (hnull : '\x00' ∈ path.text.toList) :
    root.readText path loader.encoding = .error (.plain .value "embedded null byte") := by
  unfold FileNode.readText FileNode.readBytes
  rw [if_neg (by simpa using hname), if_pos (by simpa using hnull)]
  rfl

/-- Reading a path that leads to nothing. -/
theorem readText_of_fault {fault : FileNode.PathFault} (hname : '\x00' ∉ loader.encoding.toList)
    (hnull : '\x00' ∉ path.text.toList) (hlookup : root.lookup path = .error fault) :
    root.readText path loader.encoding = .error (fault.failure path) := by
  unfold FileNode.readText FileNode.readBytes
  rw [if_neg (by simpa using hname), if_neg (by simpa using hnull), hlookup]
  rfl

/-- Reading a path that leads to a folder. -/
theorem readText_of_folder {entries : List (String × FileNode)}
    (hname : '\x00' ∉ loader.encoding.toList) (hnull : '\x00' ∉ path.text.toList)
    (hlookup : root.lookup path = .ok (.folder entries)) :
    root.readText path loader.encoding =
      .error (FileNode.systemFailure .isADirectory 21 "Is a directory" path) := by
  unfold FileNode.readText FileNode.readBytes
  rw [if_neg (by simpa using hname), if_neg (by simpa using hnull), hlookup]
  rfl

/-- Reading a path that leads to a file. -/
theorem readText_of_file {bytes : List UInt8} (hname : '\x00' ∉ loader.encoding.toList)
    (hencoding : Encoding.ofName? loader.encoding = some e) (hnull : '\x00' ∉ path.text.toList)
    (hlookup : root.lookup path = .ok (.file bytes)) :
    root.readText path loader.encoding =
      match e.decode bytes with
      | .ok cs => .ok (String.ofList (normalizeNewlines cs))
      | .error fault => .error (FileNode.decodeFailure (e.faultBytes bytes) fault) := by
  unfold FileNode.readText FileNode.readBytes
  rw [if_neg (by simpa using hname), if_neg (by simpa using hnull), hlookup]
  simp only [Bind.bind, Except.bind, hencoding]
  rfl

/-- A failure of the operating system or of decoding is reported as a file that cannot be read,
unless the file is not found. -/
theorem readFailure_eq {original : Failure} (hfound : original.kind.isBelow .fileNotFound = false)
    (hkind : original.kind.isBelow .system = true ∨
      original.kind.isBelow .unicodeDecode = true) :
    readFailure path original = .sqlFileParse path original := by
  unfold readFailure
  rw [if_neg (by simp [hfound]), if_pos (by simpa using hkind)]

/-- A failure of any other kind stays. -/
theorem readFailure_eq_self {original : Failure}
    (hfound : original.kind.isBelow .fileNotFound = false)
    (hsystem : original.kind.isBelow .system = false)
    (hdecode : original.kind.isBelow .unicodeDecode = false) :
    readFailure path original = original := by
  unfold readFailure
  simp [hfound, hsystem, hdecode]

/-- Reading a path fails in a way that a loader does not know, so that the failure is none of its
own. -/
theorem read_of_escapes (hname : '\x00' ∉ loader.encoding.toList)
    (hencoding : Encoding.ofName? loader.encoding = some e) (h : root.Escapes e path) :
    ∃ original, root.readText path loader.encoding = .error original ∧
      loader.read root path = .error original ∧ original.kind.isLibrary = false := by
  by_cases hnull : '\x00' ∈ path.text.toList
  · have htext : root.readText path loader.encoding = _ := readText_of_null hname hnull
    refine ⟨_, htext, ?_, rfl⟩
    rw [read, htext, Outcome.mapError_error, readFailure_eq_self rfl rfl rfl]
  · obtain hnull' | ⟨rfl, bytes, hlookup, hlacks⟩ := h
    · exact absurd hnull' hnull
    · have htext := readText_of_file hname hencoding hnull hlookup
      rw [Encoding.decode_eq_missingMark_iff.mpr ⟨rfl, hlacks⟩] at htext
      refine ⟨_, htext, ?_, rfl⟩
      rw [read, htext, Outcome.mapError_error]
      exact congrArg Except.error (readFailure_eq_self rfl rfl rfl)

/-- Reading any other path gives the text of the file, or a failure of the loader. -/
theorem surfaces_read (hname : '\x00' ∉ loader.encoding.toList)
    (hencoding : Encoding.ofName? loader.encoding = some e) (h : ¬ root.Escapes e path) :
    Surfaces loader e root path (loader.read root path) := by
  obtain ⟨hnull, hmarked⟩ := not_or.mp h
  have hunreadable : ∀ original, root.Unreadable e path →
      root.readText path loader.encoding = .error original →
      original.kind.isBelow .fileNotFound = false →
      (original.kind.isBelow .system = true ∨ original.kind.isBelow .unicodeDecode = true) →
      original.text = .ok original.message →
      Surfaces loader e root path (loader.read root path) := by
    intro original hreason hraised hfound hkind htold
    rw [read, hraised, Outcome.mapError_error, readFailure_eq hfound hkind]
    exact .unreadable hreason hraised htold
  cases hlookup : root.lookup path with
  | error fault =>
    have htext := readText_of_fault hname hnull hlookup
    have hreason : fault ≠ .missing → root.Unreadable e path := by
      intro hne
      rw [FileNode.Unreadable, hlookup]
      exact hne
    cases fault with
    | missing =>
      rw [read, htext, Outcome.mapError_error]
      exact .notFound hlookup htext
    | throughFile =>
      exact hunreadable _ (hreason (by simp)) htext rfl (Or.inl rfl)
        (text_systemFailure _ _ path rfl (by decide +kernel))
    | tooLong =>
      exact hunreadable _ (hreason (by simp)) htext rfl (Or.inl rfl)
        (text_systemFailure _ _ path rfl (by decide +kernel))
  | ok node =>
    cases node with
    | folder entries =>
      have hreason : root.Unreadable e path := by
        rw [FileNode.Unreadable, hlookup]
        trivial
      exact hunreadable _ hreason (readText_of_folder hname hnull hlookup) rfl (Or.inl rfl)
        (text_systemFailure _ _ path rfl (by decide +kernel))
    | file bytes =>
      have htext := readText_of_file hname hencoding hnull hlookup
      cases hdecode : e.decode bytes with
      | ok cs =>
        rw [hdecode] at htext
        rw [read, htext, Outcome.mapError_ok]
        exact .text hlookup (Encoding.decode_eq_ok_iff.mp hdecode)
      | error fault =>
        have hreason : root.Unreadable e path := by
          rw [FileNode.Unreadable, hlookup]
          intro cs hencodes
          rw [Encoding.decode_eq_ok_iff.mpr hencodes] at hdecode
          cases hdecode
        rw [hdecode] at htext
        cases fault with
        | missingMark =>
          obtain ⟨he, hlacks⟩ := Encoding.decode_eq_missingMark_iff.mp hdecode
          exact absurd ⟨he, bytes, hlookup, hlacks⟩ hmarked
        | undecodable codec first last reason =>
          exact hunreadable _ hreason htext rfl (Or.inr rfl)
            (text_decodeFailure _ codec first last reason)

/-- Whatever the path and the bytes of the file, reading gives the text of the file or one of the
loader's failures, raised from the original one, unless there is a null character in the path or
the mark in front of UTF-16 is missing. Exactly then the original failure comes through. -/
theorem read_surfaces_iff (hname : '\x00' ∉ loader.encoding.toList)
    (hencoding : Encoding.ofName? loader.encoding = some e) (root : FileNode) (path : FilePath) :
    (Surfaces loader e root path (loader.read root path) ↔ ¬ root.Escapes e path) ∧
      ((∃ original, root.readText path loader.encoding = .error original ∧
        loader.read root path = .error original ∧ original.kind.isLibrary = false) ↔
          root.Escapes e path) := by
  have hnot : ∀ original, loader.read root path = .error original →
      original.kind.isLibrary = false →
      ¬ Surfaces loader e root path (loader.read root path) := by
    intro original hread hkind hsurfaces
    have hown := hsurfaces.isLibrary hread
    rw [hkind] at hown
    cases hown
  constructor
  · refine ⟨?_, surfaces_read hname hencoding⟩
    intro hsurfaces hescapes
    obtain ⟨original, _, hread, hkind⟩ := read_of_escapes hname hencoding hescapes
    exact hnot original hread hkind hsurfaces
  · refine ⟨?_, read_of_escapes hname hencoding⟩
    rintro ⟨original, _, hread, hkind⟩
    by_contra hescapes
    exact hnot original hread hkind (surfaces_read hname hencoding hescapes)

/-- A folder with one file. -/
def single (bytes : List UInt8) : FileNode :=
  .folder [("a.sql", .file bytes)]

/-- A loader of files in UTF-16. -/
def ofUtf16 : Loader :=
  ⟨.standard, .standard, "utf-16"⟩

/-- A file in UTF-16 with the mark in front is read. -/
theorem read_surfaces_iff_marked :
    Surfaces ofUtf16 .utf16 (single [0xFE, 0xFF, 0x00, 0x0D, 0x00, 0x61]) ⟨.here, ["a.sql"]⟩
      (.ok "\na") := by
  let bytes : List UInt8 := [0xFE, 0xFF, 0x00, 0x0D, 0x00, 0x61]
  have hlookup : (single bytes).lookup ⟨.here, ["a.sql"]⟩ = .ok (.file bytes) := rfl
  have hread : ofUtf16.read (single bytes) ⟨.here, ["a.sql"]⟩ = .ok "\na" := rfl
  have hmarked : ¬ (single bytes).Escapes .utf16 ⟨.here, ["a.sql"]⟩ := by
    rintro (hnull | ⟨_, found, hfound, hlacks⟩)
    · exact absurd hnull (by decide)
    · cases hlookup.symm.trans hfound
      exact hlacks.2.1 ⟨[0x00, 0x0D, 0x00, 0x61], rfl⟩
  rw [← hread]
  exact (read_surfaces_iff (by decide) (by decide) (single bytes) _).1.mpr hmarked

/-- A file in UTF-16 without the mark in front fails with a failure that is none of the loader's. -/
theorem not_forall_surfaces_read :
    ¬ ∀ (loader : Loader) (e : Encoding) (root : FileNode) (path : FilePath),
      '\x00' ∉ loader.encoding.toList → Encoding.ofName? loader.encoding = some e →
      '\x00' ∉ path.text.toList →
      Surfaces loader e root path (loader.read root path) := by
  intro h
  have hsurfaces := h ofUtf16 .utf16 (single [0x61, 0x00]) ⟨.here, ["a.sql"]⟩ (by decide)
    (by decide) (by decide)
  have hread : ofUtf16.read (single [0x61, 0x00]) ⟨.here, ["a.sql"]⟩ =
      .error (.plain .unicode "UTF-16 stream does not start with BOM") := rfl
  cases hsurfaces.isLibrary hread

end Loader

end AnnotatedSql
