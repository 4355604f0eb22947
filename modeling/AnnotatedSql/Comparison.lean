import AnnotatedSql.Query.Dynamic
import AnnotatedSql.Settings

/-!
# Comparing what is described

Blocks, declarations, parameters, tokens, settings and values are compared by their contents and
have hash codes made of these; what is of different sorts is never equal. An assembled query is
compared too, but it has no hash code.
-/

namespace AnnotatedSql

/-- Something that can be compared. -/
inductive Subject where
  | block (b : Block)
  | declaration (d : Declaration)
  | parameter (p : Parameter)
  | token (t : Token)
  /-- A query: its text and what is given as the values bound to it. -/
  | query (sql : String) (parameters : Value)
  | settings (s : Settings)
  | value (v : Value)

namespace Subject

/-- A sigil as a value. -/
def sigilValue (m : Multiplicity) : Value :=
  .text m.sigil.toString

/-- The subject in descriptions. -/
def describe : Subject → String
  | block b => b.describe
  | declaration d => d.describe
  | parameter p => p.describe
  | token t => t.describe
  | query sql parameters => BoundQuery.describeParts sql parameters
  | settings s => s.describe
  | value v => v.describe

/-- The two are equal. -/
def equal : Subject → Subject → Bool
  | block a, block b => a == b
  | declaration a, declaration b => a == b
  | parameter a, parameter b => a == b
  | token a, token b => a == b
  | query s v, query t w => s == t && v.equal w
  | settings a, settings b => a.key.equal b.key
  | value a, value b => a.equal b
  | _, _ => false

/-- The value whose hash code a subject has, if it has one. A parameter's hash code does not
depend on whether it is referenced. -/
def hashed? : Subject → Option Value
  | block b => some (.tuple [.text b.text, .int b.startLine, .int b.endLine, .text b.sourceName])
  | declaration d => some (.tuple [.text d.name, .text d.declaredType, sigilValue d.multiplicity])
  | parameter p =>
    some (.tuple [.text p.name, sigilValue p.multiplicity, .int p.position,
      .ofText? p.declaredType])
  | token (.literal text) => some (.tuple [.text "literal", .text text])
  | token (.marker m) => some (.tuple [.text "param", .text m.name, sigilValue m.multiplicity])
  | query .. => none
  | settings s => some s.key
  | value v => some v

/-- The hash code of a subject, or the name of the type that has none. -/
def hashCode (s : Subject) : Except String Value.HashCode :=
  match s.hashed? with
  | some v => v.hashCode
  | none => .error "AssembledQuery"

/-- The hash codes of two subjects are the same, unless one has none. -/
def sameHash (a b : Subject) : Except Failure Bool :=
  match a.hashCode, b.hashCode with
  | .ok x, .ok y => .ok (x.same y)
  | .error type, _ | .ok _, .error type =>
    .error (.plain .type ("unhashable type: '" ++ type ++ "'"))

end Subject

end AnnotatedSql
