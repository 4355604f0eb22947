import AnnotatedSql.Compilation
import AnnotatedSql.Engine.Run
import AnnotatedSql.Registry

/-!
# Containers from texts

A text is compiled, and its statements are made into the operations of a container.
-/

namespace AnnotatedSql

namespace Run

/-- Logs records. -/
def log (records : List Log.Record) : Run Unit :=
  fun events => (.ok (), events ++ records.map .logged)

end Run

namespace Loading

/-- What compiles texts, in descriptions. -/
def describe (adapter : Adapter) (settings : Settings) : String :=
  "SQLCompiler(config=" ++ settings.describe ++ ", adapter=" ++ adapter.describe ++ ")"

/-- Resolves the parameters of a statement and logs those that are not used. -/
def parameters (name : String) (kind : StatementKind) (declarations : List Declaration)
    (tokens : List Token) (unused : UnusedPolicy) (location : Option String) :
    Run (List Parameter) := do
  let found ← Run.ofExcept <|
    (Resolution.resolve name kind declarations tokens unused location).mapError
      Failure.ofCompileError
  Run.log (Log.unusedParameters unused name found location)
  pure found

/-- Compiles one block and logs what there is to say about it. -/
def statement (unused : UnusedPolicy) (block : Block) : Run Statement := do
  let header ← Run.ofExcept ((Header.parse block).mapError Failure.ofCompileError)
  let found ← Run.ofExcept ((header.resolve unused).mapError Failure.ofCompileError)
  Run.log (Log.unusedParameters unused found.name found.parameters (some header.bodyLocation))
  pure found

/-- Compiles a text and logs what there is to say about it. -/
def statements (settings : Settings) (text sourceName : String) : Run (List Statement) := do
  let compilation := compile settings text sourceName
  Run.log (compilation.records settings sourceName)
  Run.ofExcept (compilation.result.mapError Failure.ofCompileError)

/-- Makes the operations of statements in a container. -/
def into (registry : Registry) (statements : List Statement) : Run Registry :=
  match registry.loadAll statements with
  | (loaded, none) => .result loaded
  | (_, some e) => .fail e

/-- The container of the operations of a text. -/
def text (adapter : Adapter) (settings : Settings) (text sourceName : String) : Run Registry := do
  let found ← statements settings text sourceName
  into (.empty adapter settings) found

end Loading

end AnnotatedSql
