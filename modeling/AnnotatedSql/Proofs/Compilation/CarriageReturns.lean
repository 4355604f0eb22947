import AnnotatedSql.Proofs.Compilation
import AnnotatedSql.Proofs.Statement.ReturnedHeader

/-!
# Compiling a text with carriage returns

A text with a carriage return in front of every newline gives the statements of the text without,
with the carriage returns in their literal text, or the same error.
-/

set_option autoImplicit false

namespace AnnotatedSql

open Text

namespace Compilation

/-- Blocks with carriage returns are compiled to the statements of the blocks without, with the
carriage returns, or to the same error. -/
theorem result_ofBlocks_map_returned (settings : Settings) (unterminated : Option CompileError)
    (earlier : List (String × String)) (blocks : List Block) :
    (ofBlocks settings unterminated earlier (blocks.map Block.returned)).result =
      (ofBlocks settings unterminated earlier blocks).result.map
        (List.map Statement.returned) := by
  induction blocks generalizing earlier with
  | nil =>
    rw [List.map_nil, result_ofBlocks_nil]
    cases settings.onSyntaxError <;> cases unterminated <;> rfl
  | cons block rest ih =>
    have hlocation : block.returned.location = block.location := rfl
    rw [List.map_cons, result_ofBlocks_cons, result_ofBlocks_cons, Header.parse_returned, hlocation]
    cases Header.parse block with
    | error e =>
      cases settings.onSyntaxError with
      | abort => rfl
      | skip => exact ih earlier
    | ok header =>
      have hname : header.returned.name = header.name := rfl
      simp only [Except.map, hname, Header.resolve_returned]
      cases earlier.lookup header.name with
      | some location => rfl
      | none =>
        cases header.resolve settings.unused with
        | error e => rfl
        | ok s =>
          simp only [Except.map, ih]
          cases (ofBlocks settings unterminated ((header.name, block.location) :: earlier)
            rest).result <;> rfl

end Compilation

/-- A text with carriage returns compiles to the statements of the text without, with the carriage
returns in their literal text and at the ends of the lines of their blocks, or to the same error. -/
theorem result_compile_withReturns (settings : Settings) (text sourceName : String) :
    (compile settings (withReturns text) sourceName).result =
      (compile settings text sourceName).result.map (List.map Statement.returned) := by
  unfold compile
  simp only [segment_withReturns]
  exact Compilation.result_ofBlocks_map_returned settings _ [] _

end AnnotatedSql
