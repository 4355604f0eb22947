import AnnotatedSql.Log.Record
import AnnotatedSql.Settings
import AnnotatedSql.Statement.Segmentation

/-!
# Compiling text

A text is cut into blocks, the header of each block is read, and its parameters are resolved.
The first error ends the compilation, except that under the policy to skip a block whose header
cannot be read, and the text after the last terminator line, are only logged. The names of the
statements of one text are different.
-/

namespace AnnotatedSql

/-- What became of a block. -/
inductive BlockOutcome where
  /-- It was compiled to a statement. -/
  | compiled (header : Header) (statement : Statement)
  /-- It was left out because its header cannot be read. -/
  | skipped (error : CompileError)

namespace BlockOutcome

/-- The statement, if the block was compiled. -/
def statement? : BlockOutcome → Option Statement
  | compiled _ s => some s
  | skipped _ => none

/-- The error, if the block was left out. -/
def error? : BlockOutcome → Option CompileError
  | compiled .. => none
  | skipped e => some e

end BlockOutcome

/-- What became of a text. -/
structure Compilation where
  /-- What became of the blocks, up to the first error. -/
  outcomes : List BlockOutcome
  /-- The error about text after the last terminator line, if that text was left out. -/
  skippedTail : Option CompileError
  /-- The error that ended the compilation. -/
  failure : Option CompileError

namespace Compilation

/-- The statements, in the order of the text. -/
def statements (c : Compilation) : List Statement :=
  c.outcomes.filterMap BlockOutcome.statement?

/-- How many blocks were left out. -/
def skippedCount (c : Compilation) : Nat :=
  (c.outcomes.filterMap BlockOutcome.error?).length

/-- The statements, or the error that ended the compilation. -/
def result (c : Compilation) : Except CompileError (List Statement) :=
  match c.failure with
  | some e => .error e
  | none => .ok c.statements

/-- Compiles the text after the last terminator line. -/
def ofTail (policy : SyntaxPolicy) (unterminated : Option CompileError) : Compilation :=
  match policy with
  | .abort => ⟨[], none, unterminated⟩
  | .skip => ⟨[], unterminated, none⟩

/-- Compiles blocks and the text after them. The names of earlier statements come with the
places of their blocks. -/
def ofBlocks (settings : Settings) (unterminated : Option CompileError) :
    (earlier : List (String × String)) → List Block → Compilation
  | _, [] => ofTail settings.onSyntaxError unterminated
  | earlier, block :: rest =>
    match Header.parse block with
    | .error e =>
      match settings.onSyntaxError with
      | .abort => ⟨[], none, some e⟩
      | .skip =>
        let later := ofBlocks settings unterminated earlier rest
        { later with outcomes := .skipped e :: later.outcomes }
    | .ok header =>
      match earlier.lookup header.name with
      | some location =>
        ⟨[], none, some ⟨.nameTaken location, some header.name, some block.location⟩⟩
      | none =>
        match header.resolve settings.unused with
        | .error e => ⟨[], none, some e⟩
        | .ok s =>
          let later :=
            ofBlocks settings unterminated ((header.name, block.location) :: earlier) rest
          { later with outcomes := .compiled header s :: later.outcomes }

end Compilation

/-- Compiles a text. -/
def compile (settings : Settings) (text sourceName : String) : Compilation :=
  let segmentation := segment text settings.terminator sourceName
  Compilation.ofBlocks settings segmentation.unterminated [] segmentation.blocks

namespace Log

/-- The warning that a declared parameter is not used. -/
def unusedParameter (statement parameter : String) (location : Option String) : Record :=
  { logger := "sqlinclude.resolver"
    level := .warning
    template := (Problem.unusedParameter parameter).message ++ " (statement: " ++ statement ++ ")"
    fields := .mapping
      [("statement", .text statement), ("parameter", .text parameter),
        ("location", .ofText? location)] }

/-- The warnings about parameters that are not used, if the policy asks for them. -/
def unusedParameters (policy : UnusedPolicy) (statement : String) (parameters : List Parameter)
    (location : Option String) : List Record :=
  (Resolution.unusedParameters policy parameters).map fun p =>
    unusedParameter statement p.name location

/-- The warning that a block was left out. -/
def skipped (e : CompileError) : Record :=
  { logger := "sqlinclude.compiler"
    level := .warning
    template := "Skipping malformed statement: " ++ Text.strip e.message
    fields := .mapping
      [("statement", .ofText? e.statement), ("location", .ofText? e.location),
        ("error_type", .text e.kind.label)] }

/-- How long something took, which is not measured. -/
def duration : Value := .float (.finite false .zero)

/-- The summary of a compilation. -/
def compiled (sourceName : String) (statements skipped : Nat) : Record :=
  { logger := "sqlinclude.compiler"
    level := .debug
    template := "Compiled " ++ toString statements ++ " statements from " ++ sourceName
    fields := .mapping
      [("source", .text sourceName), ("statement_count", .int statements),
        ("skipped_count", .int skipped), ("duration_ms", duration)] }

end Log

namespace Compilation

/-- What is logged about one block. -/
def blockRecords (policy : UnusedPolicy) : BlockOutcome → List Log.Record
  | .compiled header s =>
    Log.unusedParameters policy s.name s.parameters (some header.bodyLocation)
  | .skipped e => [Log.skipped e]

/-- What is logged about a compilation. The summary comes only when it did not fail. -/
def records (c : Compilation) (settings : Settings) (sourceName : String) : List Log.Record :=
  c.outcomes.flatMap (blockRecords settings.unused)
    ++ c.skippedTail.toList.map Log.skipped
    ++ (if c.failure.isNone then [Log.compiled sourceName c.statements.length c.skippedCount]
      else [])

end Compilation

end AnnotatedSql
