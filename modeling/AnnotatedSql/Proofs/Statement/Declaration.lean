import AnnotatedSql.Proofs.Statement.Grammar

/-!
# Directives as they are written

A directive that is written with one blank after the hyphens and after the colon is read back: its
word from the start of the line, a name up to its last word character, and a declaration from the
line that it is written on.
-/

set_option autoImplicit false

namespace AnnotatedSql

open Text

/-- No name holds a newline. -/
theorem newline_not_mem_of_isHeaderName {name : String} (h : IsHeaderName name) :
    '\n' ∉ name.toList := by
  obtain ⟨c, rest, hname, hstart, hword⟩ := h
  rw [hname, List.mem_cons, not_or]
  constructor
  · rintro rfl
    revert hstart
    decide
  · intro hmem
    have hnewline := List.all_eq_true.mp hword '\n' hmem
    revert hnewline
    decide

/-- A name is read up to the first character that is no word character. -/
theorem headerName?_append {name : String} {c : Char} (after : List Char)
    (h : IsHeaderName name) (hc : isWord c = false) :
    headerName? (' ' :: (name.toList ++ c :: after)) = some (name.toList, c :: after) := by
  have hspace : Blanks [' '] := List.forall_mem_singleton.mpr (by decide)
  refine headerName?_eq_some_iff.mpr ⟨by rwa [String.ofList_toList], ?_, [' '], hspace, rfl⟩
  intro d hd
  obtain rfl : c = d := Option.some.inj hd
  exact hc

/-- What follows the colon of a directive is read as its argument. -/
theorem Directive.argument?_written (directive : Directive) (argument : List Char) :
    argument? directive ('-' :: '-' :: ' ' :: (directive.word ++ ':' :: argument)) =
      some argument := by
  cases directive <;> rfl

/-- A line with a directive is read as a line with that directive. -/
theorem HeaderLine.ofLine_written {line : String} (directive : Directive) (argument : List Char)
    (hline : line.toList = '-' :: '-' :: ' ' :: (directive.word ++ ':' :: argument)) :
    HeaderLine.ofLine line = .directive directive := by
  have hwritten : DirectiveOf directive line.toList argument := by
    rw [← Directive.argument?_eq_some_iff, hline]
    exact Directive.argument?_written directive argument
  exact HeaderLine.ofLine_eq_iff.mpr (.directive hwritten)

/-- A declaration can be written on one line. -/
structure Declaration.Writable (d : Declaration) : Prop where
  /-- The parameter is called by a name. -/
  name : IsHeaderName d.name
  /-- There is a type. -/
  type_ne_empty : d.declaredType ≠ ""
  /-- The type has no blanks around it. -/
  type_stripped : strip d.declaredType = d.declaredType
  /-- The type is one line. -/
  type_line : '\n' ∉ d.declaredType.toList

/-- The line that declares a parameter. -/
def Declaration.line (d : Declaration) : String :=
  match d.multiplicity with
  | .scalar => "-- param: " ++ d.name ++ " : " ++ d.declaredType
  | .list => "-- param: " ++ d.name ++ " # (" ++ d.declaredType ++ ")"

namespace Declaration

/-- The characters of a declaration's line. -/
theorem toList_line (d : Declaration) : d.line.toList =
    '-' :: '-' :: ' ' :: (Directive.param.word ++ ':' :: ' ' :: (d.name.toList ++
      match d.multiplicity with
      | .scalar => ' ' :: ':' :: ' ' :: d.declaredType.toList
      | .list => ' ' :: '#' :: ' ' :: '(' :: (d.declaredType.toList ++ [')']))) := by
  unfold line
  split <;> simp [Directive.word]

/-- Nothing is trimmed off a type that can be written. -/
theorem Writable.trim_type {d : Declaration} (h : d.Writable) :
    trim d.declaredType.toList = d.declaredType.toList := by
  have hstripped := congrArg String.toList h.type_stripped
  rwa [strip, String.toList_ofList] at hstripped

/-- The type of a scalar is read back. -/
theorem Writable.scalarType?_eq {d : Declaration} (h : d.Writable) :
    scalarType? (' ' :: d.declaredType.toList) = some d.declaredType.toList := by
  have htrim : trim (' ' :: d.declaredType.toList) = d.declaredType.toList := h.trim_type
  have hline : d.declaredType.toList.contains '\n' = false := by simpa using h.type_line
  unfold scalarType?
  rw [htrim]
  split
  · next hempty => exact absurd (String.toList_eq_nil_iff.mp hempty) h.type_ne_empty
  · simp only [hline, Bool.false_eq_true, if_false]

/-- The element type of a list is read back. -/
theorem Writable.elementType?_eq {d : Declaration} (h : d.Writable) :
    elementType? (' ' :: '(' :: (d.declaredType.toList ++ [')'])) =
      some d.declaredType.toList := by
  have hline : d.declaredType.toList.contains '\n' = false := by simpa using h.type_line
  have hright : trimRight (d.declaredType.toList ++ [')']) = d.declaredType.toList ++ [')'] :=
    trimRight_concat _ (by decide)
  change parenthesized? (d.declaredType.toList ++ [')']) = some d.declaredType.toList
  unfold parenthesized?
  rw [hright, List.reverse_append]
  simp only [List.reverse_cons, List.reverse_nil, List.nil_append, List.singleton_append,
    List.reverse_reverse, h.trim_type, hline, Bool.false_eq_true, if_false]

/-- What is read on the line of a scalar is its name, and the type that follows the colon. -/
theorem parts?_scalar {name : String} (hname : IsHeaderName name) (text : List Char) :
    parts? ('-' :: '-' :: ' ' ::
        (Directive.param.word ++ ':' :: ' ' :: (name.toList ++ ' ' :: ':' :: text))) =
      (scalarType? text).map fun type => (name.toList, .scalar, type) := by
  have hspace : isWord ' ' = false := by decide
  rw [parts?, Directive.argument?_written]
  simp only [Option.bind_eq_bind, Option.bind_some, headerName?_append _ hname hspace]
  rfl

/-- What is read on the line of a list is its name, and the element type that follows the number
sign. -/
theorem parts?_list {name : String} (hname : IsHeaderName name) (text : List Char) :
    parts? ('-' :: '-' :: ' ' ::
        (Directive.param.word ++ ':' :: ' ' :: (name.toList ++ ' ' :: '#' :: text))) =
      (elementType? text).map fun type => (name.toList, .list, type) := by
  have hspace : isWord ' ' = false := by decide
  rw [parts?, Directive.argument?_written]
  simp only [Option.bind_eq_bind, Option.bind_some, headerName?_append _ hname hspace]
  rfl

/-- A declaration is made of what is read on its line. -/
theorem parse_of_parts? {line : String} {d : Declaration} (hne : d.declaredType ≠ "")
    (hparts : parts? line.toList = some (d.name.toList, d.multiplicity, d.declaredType.toList))
    (location : Option String) : parse line location = .ok d := by
  unfold parse
  rw [hparts]
  cases htype : d.declaredType.toList with
  | nil => exact absurd (String.toList_eq_nil_iff.mp htype) hne
  | cons c rest => simp only [← htype, String.ofList_toList]

/-- A declaration is read back from its line. -/
theorem parse_line {d : Declaration} (h : d.Writable) (location : Option String) :
    parse d.line location = .ok d := by
  apply parse_of_parts? h.type_ne_empty
  rw [toList_line]
  cases hmultiplicity : d.multiplicity with
  | scalar => exact (parts?_scalar h.name _).trans (by rw [h.scalarType?_eq, Option.map_some])
  | list => exact (parts?_list h.name _).trans (by rw [h.elementType?_eq, Option.map_some])

end Declaration

end AnnotatedSql
