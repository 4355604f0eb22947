import AnnotatedSql.Statement.Block
import AnnotatedSql.Statement.Declaration
import AnnotatedSql.Statement.Kind
import AnnotatedSql.Text.Lines

/-!
# Statement headers

A block starts with a header of comment lines. Its first directive gives the statement's name
and kind; after it come declarations of parameters and remarks, which document the statement.
The first line that is neither blank nor a comment starts the body, which goes on to the end.
-/

namespace AnnotatedSql

open Text

/-- The parsed header of a block, with the body it leads to. -/
structure Header where
  /-- What the statement is called. -/
  name : String
  /-- What running the statement gives back. -/
  kind : StatementKind
  /-- The declared parameters, in order. -/
  declarations : List Declaration
  /-- The remarks of the header. -/
  doc : String
  /-- The SQL text. -/
  body : String
  /-- The line the body starts on. -/
  bodyLine : Int
  /-- The block. -/
  block : Block

/-- What a line can be to a header. -/
inductive HeaderLine where
  /-- Nothing but blanks. -/
  | blank
  /-- A comment without a directive, and its text. -/
  | remark (text : String)
  /-- A comment with a directive. -/
  | directive (directive : Directive)
  /-- No comment: part of the body. -/
  | sql
  deriving DecidableEq

namespace HeaderLine

/-- The text of a remark: what follows the hyphens, without one blank in front and without the
blanks at the end. -/
def remarkText : List Char → List Char
  | [] => []
  | c :: rest => trimRight (if isBlank c then rest else c :: rest)

/-- What a line is. -/
def ofLine (line : String) : HeaderLine :=
  let cs := line.toList
  if isBlankText cs then blank
  else match commentText? cs with
    | none => sql
    | some text =>
      match Directive.ofLine? cs with
      | some d => directive d
      | none => remark (String.ofList (remarkText text))

/-- The line may stand before the name header. -/
def isPreamble : HeaderLine → Bool
  | blank | remark _ => true
  | directive _ | sql => false

end HeaderLine

namespace Header

/-- What the lines between the name header and the body hold. -/
structure Contents where
  /-- The declarations, in order. -/
  declarations : List Declaration
  /-- The remarks, in order. -/
  remarks : List String

/-- The name and the kind on a name header. -/
def nameAndKind? (line : String) : Option (String × StatementKind) := do
  let argument ← Directive.argument? .name line.toList
  let (name, rest) ← headerName? argument
  let kind ← StatementKind.ofSelector? (String.ofList (trim rest))
  pure (String.ofList name, kind)

/-- Reads the header lines after the name header, the first of which is the given number of
lines into the block. A parameter is declared once. -/
def contents (block : Block) (name : String) :
    (offset : Nat) → (declared : List String) → List String → Except CompileError Contents
  | _, _, [] => .ok ⟨[], []⟩
  | offset, declared, line :: rest =>
    let location := some (block.lineLocation offset)
    match HeaderLine.ofLine line with
    | .blank | .sql => contents block name (offset + 1) declared rest
    | .remark text =>
      (contents block name (offset + 1) declared rest).map fun c =>
        { c with remarks := text :: c.remarks }
    | .directive .name => .error ⟨.secondHeader, some name, location⟩
    | .directive .param =>
      match Declaration.parse line location with
      | .error e => .error e
      | .ok d =>
        if declared.contains d.name then
          .error ⟨.repeatedDeclaration d.name, some name, location⟩
        else
          (contents block name (offset + 1) (d.name :: declared) rest).map fun c =>
            { c with declarations := d :: c.declarations }

/-- The line belongs to the body. -/
def startsBody (line : String) : Bool :=
  HeaderLine.ofLine line == .sql

/-- Reads the header and the body that follow the preamble. The first of the lines is the given
number of lines into the block. -/
def parseFrom (block : Block) (offset : Nat) : List String → Except CompileError Header
  | [] => .error ⟨.missingHeader, none, some block.location⟩
  | line :: rest =>
    let location := some (block.lineLocation offset)
    match HeaderLine.ofLine line with
    | .directive .name =>
      match nameAndKind? line with
      | none => .error ⟨.malformedHeader (strip line), none, location⟩
      | some (name, kind) =>
        let headerLines := rest.takeWhile (!startsBody ·)
        let bodyLines := rest.dropWhile (!startsBody ·)
        match contents block name (offset + 1) [] headerLines with
        | .error e => .error e
        | .ok c =>
          if bodyLines.isEmpty then .error ⟨.emptyBody, some name, some block.location⟩
          else .ok {
            name := name
            kind := kind
            declarations := c.declarations
            doc := strip (unlines c.remarks)
            body := stripRight (unlines bodyLines)
            bodyLine := block.startLine + (offset + 1 + headerLines.length : Nat)
            block := block }
    | .directive .param => .error ⟨.declarationBeforeHeader, none, location⟩
    | _ => .error ⟨.textBeforeHeader (strip line), none, location⟩

/-- Reads the header of a block. Only blank lines and remarks may stand before it. -/
def parse (block : Block) : Except CompileError Header :=
  let all := lines block.text
  let preamble := all.takeWhile fun line => (HeaderLine.ofLine line).isPreamble
  parseFrom block preamble.length (all.drop preamble.length)

/-- The place of the first line of the body. -/
def bodyLocation (header : Header) : String :=
  header.block.sourceName ++ ":" ++ toString header.bodyLine

end Header

end AnnotatedSql
