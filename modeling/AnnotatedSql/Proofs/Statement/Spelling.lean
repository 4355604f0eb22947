import AnnotatedSql.Proofs.Statement.Declaration

/-!
# The two spellings of lists

The element type of a list is declared between parentheses or between brackets. Parentheses take
every type that a scalar can be declared with. Brackets end at the first closing bracket, so that
they take the same types but for those that hold one.
-/

set_option autoImplicit false

namespace AnnotatedSql

open Text

namespace Declaration

/-- The line that declares a list with its element type between brackets. -/
def bracketLine (name type : String) : String :=
  "-- param: " ++ name ++ " # [" ++ type ++ "]"

/-- The characters of a line with brackets. -/
theorem toList_bracketLine (name type : String) : (bracketLine name type).toList =
    '-' :: '-' :: ' ' :: (Directive.param.word ++ ':' :: ' ' ::
      (name.toList ++ ' ' :: '#' :: ' ' :: '[' :: (type.toList ++ [']']))) := by
  unfold bracketLine
  simp [Directive.word]

/-- There are no blanks around a line with brackets. -/
theorem strip_bracketLine (name type : String) :
    strip (bracketLine name type) = bracketLine name type := by
  have hstarts : StartsVisible (bracketLine name type).toList := by
    rw [toList_bracketLine]
    rintro c ⟨⟩
    decide
  have hends : EndsVisible (bracketLine name type).toList := by
    rw [bracketLine, String.toList_append]
    intro c hc
    rw [show "]".toList = [']'] from rfl, List.getLast?_concat, Option.mem_some_iff] at hc
    subst hc
    decide
  have htrim : trim (bracketLine name type).toList = (bracketLine name type).toList :=
    trim_eq_iff.mpr ⟨hstarts, hends, [], [], blanks_nil, blanks_nil, (List.append_nil _).symm⟩
  rw [strip, htrim, String.ofList_toList]

/-- A text is read up to its first closing bracket. -/
theorem span_closing {before : List Char} (h : ']' ∉ before) (after : List Char) :
    (before ++ ']' :: after).takeWhile (· != ']') = before ∧
      (before ++ ']' :: after).dropWhile (· != ']') = ']' :: after := by
  have hinside : ∀ c ∈ before, (c != ']') = true := by
    intro c hc
    rw [bne_iff_ne]
    rintro rfl
    exact h hc
  rw [List.takeWhile_append_of_pos hinside, List.dropWhile_append_of_pos hinside]
  simp

/-- A type without closing brackets is read between brackets. -/
theorem bracketed?_of_not_mem {type : List Char} (h : ']' ∉ type) :
    bracketed? (type ++ [']']) = some (trim type) := by
  obtain ⟨htake, hdrop⟩ := span_closing h []
  rw [bracketed?, hdrop, htake]
  rfl

/-- A type with a closing bracket is not read between brackets: the first one closes, and the last
one comes after it. -/
theorem bracketed?_of_mem {type : List Char} (h : ']' ∈ type) :
    bracketed? (type ++ [']']) = none := by
  obtain ⟨before, after, rfl, hbefore⟩ := List.eq_append_cons_of_mem h
  have hdrop := (span_closing hbefore (after ++ [']'])).2
  have hrest : isBlankText (after ++ [']']) = false := by
    rw [Bool.eq_false_iff, Ne, isBlankText_iff]
    intro hblanks
    have hbracket := hblanks ']' (by simp)
    revert hbracket
    decide
  rw [bracketed?, List.append_assoc, List.cons_append, hdrop]
  simp only [hrest, Bool.false_eq_true, if_false]

/-- What is read on a line with brackets. -/
theorem parts?_bracketLine {name : String} (hname : IsHeaderName name) (type : String) :
    parts? (bracketLine name type).toList =
      (bracketed? (type.toList ++ [']'])).map fun found => (name.toList, .list, found) := by
  rw [toList_bracketLine, parts?_list hname]
  rfl

/-- The type that is read after a colon is one line, without blanks around it. -/
theorem of_scalarType? {text type : List Char} (h : scalarType? text = some type) :
    type ≠ [] ∧ trim type = type ∧ '\n' ∉ type := by
  unfold scalarType? at h
  split at h
  · cases h
  · next hne =>
    split at h
    · cases h
    · next hline =>
      cases h
      exact ⟨hne, trim_trim text, by simpa using hline⟩

/-- The types that a scalar can be declared with, so that they are read back, are those that can be
written. -/
theorem writable_iff_parse_line {name type : String} (location : Option String) :
    Writable ⟨name, type, .scalar⟩ ↔
      parse (line ⟨name, type, .scalar⟩) location = .ok ⟨name, type, .scalar⟩ := by
  refine ⟨fun h => parse_line h location, ?_⟩
  intro h
  have hname : IsHeaderName name := isHeaderName_of_declaration h
  unfold parse at h
  rw [toList_line, parts?_scalar hname] at h
  cases hscalar : scalarType? (' ' :: type.toList) with
  | none => simp [hscalar] at h
  | some found =>
    obtain ⟨hne, htrim, hline⟩ := of_scalarType? hscalar
    have htype : String.ofList found = type := by
      cases found with
      | nil => exact absurd rfl hne
      | cons c rest =>
        simp only [hscalar, Option.map_some, Except.ok.injEq, mk.injEq] at h
        exact h.2.1
    subst htype
    refine ⟨hname, ?_, ?_, ?_⟩
    · intro hempty
      exact hne (by simpa using congrArg String.toList hempty)
    · rw [strip, String.toList_ofList, htrim]
    · rwa [String.toList_ofList]

/-- A scalar can be declared with a type exactly when the type can be written. A list can be
declared with each of these between parentheses, but between brackets only with those without a
closing bracket: with others the line is malformed. -/
theorem parse_spellings (name type : String) (location : Option String) :
    (Writable ⟨name, type, .scalar⟩ ↔
      parse (line ⟨name, type, .scalar⟩) location = .ok ⟨name, type, .scalar⟩) ∧
    (Writable ⟨name, type, .list⟩ →
      parse (line ⟨name, type, .list⟩) location = .ok ⟨name, type, .list⟩ ∧
      parse (bracketLine name type) location =
        if ']' ∈ type.toList then
          .error ⟨.malformedDeclaration (bracketLine name type), none, location⟩
        else .ok ⟨name, type, .list⟩) := by
  refine ⟨writable_iff_parse_line location, fun h => ⟨parse_line h location, ?_⟩⟩
  have hparts := parts?_bracketLine h.name type
  split
  · next hmem =>
    rw [bracketed?_of_mem hmem] at hparts
    rw [parse, hparts, strip_bracketLine]
    rfl
  · next hmem =>
    rw [bracketed?_of_not_mem hmem, h.trim_type] at hparts
    exact parse_of_parts? h.type_ne_empty hparts location

/-- A list of byte strings can be declared. -/
theorem writable_bytes : Writable ⟨"parts", "&[u8]", .list⟩ where
  name := ⟨'p', _, rfl, by decide, by decide⟩
  type_ne_empty := by decide
  type_stripped := by decide
  type_line := by decide

/-- A type with brackets of its own can be written, and is read between parentheses alone. -/
theorem parse_spellings_bytes :
    Writable ⟨"parts", "&[u8]", .list⟩ ∧
      parse "-- param: parts # (&[u8])" none = .ok ⟨"parts", "&[u8]", .list⟩ ∧
      parse "-- param: parts # [&[u8]]" none =
        .error ⟨.malformedDeclaration "-- param: parts # [&[u8]]", none, none⟩ := by
  exact ⟨writable_bytes, (parse_spellings "parts" "&[u8]" none).2 writable_bytes⟩

/-- The two spellings do not take the same types. -/
theorem parse_spellings_differ :
    ¬ ∀ (name type : String) (location : Option String), Writable ⟨name, type, .list⟩ →
      parse (line ⟨name, type, .list⟩) location = .ok ⟨name, type, .list⟩ ∧
        parse (bracketLine name type) location = .ok ⟨name, type, .list⟩ := by
  intro h
  have hparse := (h _ _ none writable_bytes).2
  revert hparse
  decide +kernel

end Declaration

end AnnotatedSql
