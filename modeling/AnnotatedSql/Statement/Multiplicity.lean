/-!
# Multiplicity

A parameter stands for one value or for a list of values. The sigil in front of its name in the
SQL text, and the sign after its name in a declaration, say which.
-/

namespace AnnotatedSql

/-- How many values a parameter stands for. -/
inductive Multiplicity where
  /-- One value. -/
  | scalar
  /-- A list of values. -/
  | list
  deriving DecidableEq, Repr

namespace Multiplicity

/-- The sign that marks a parameter of this multiplicity. -/
def sigil : Multiplicity → Char
  | scalar => ':'
  | list => '#'

/-- The multiplicity a sigil stands for. -/
def ofSigil? (c : Char) : Option Multiplicity :=
  if c = ':' then some scalar else if c = '#' then some list else none

/-- The name in descriptions. -/
def label : Multiplicity → String
  | scalar => "SCALAR"
  | list => "LIST"

/-- The name with its article, as messages put it. -/
def phrase : Multiplicity → String
  | scalar => "a scalar"
  | list => "a list"

/-- Every multiplicity is read back from its sigil. -/
@[simp] theorem ofSigil?_sigil (m : Multiplicity) : ofSigil? m.sigil = some m := by
  cases m <;> rfl

/-- A sigil stands for the multiplicity it marks. -/
theorem sigil_of_ofSigil? {c : Char} {m : Multiplicity} (h : ofSigil? c = some m) :
    m.sigil = c := by
  unfold ofSigil? at h
  split at h
  · cases h
    simp_all [sigil]
  · split at h
    · cases h
      simp_all [sigil]
    · simp at h

end Multiplicity

end AnnotatedSql
