import AnnotatedSql.Operation.Signature
import AnnotatedSql.Proofs.Failure.Foreign
import AnnotatedSql.Proofs.Statement.Header

/-!
# Which names arguments can have

The names of parameters go on with any word characters, those of arguments only with the parts of
identifiers, and some words are no names of arguments at all. A statement has a signature exactly
when the names of its parameters are names of arguments and none of them is an argument that every
operation may have.
-/

set_option autoImplicit false

namespace AnnotatedSql

/-- An argument can have the name: it is an identifier and no reserved word. -/
def IsArgumentName (name : String) : Prop :=
  name ∉ Text.reservedWords ∧ Text.isIdentifier name.toList = true

instance (name : String) : Decidable (IsArgumentName name) :=
  inferInstanceAs (Decidable (_ ∧ _))

namespace Signature

/-- The arguments of operations that no parameter stands for. -/
def ownArguments : List String :=
  [connectionName, callbackName]

/-- One of some names cannot be that of an argument, and those before it are none of the arguments
that no parameter stands for. -/
def Misnamed (names : List String) : Prop :=
  ∃ before name after, names = before ++ name :: after ∧
    (∀ n ∈ before, n ∉ ownArguments) ∧ ¬ IsArgumentName name

/-- A name in a header is not empty, and no argument that is passed by position alone. -/
theorem implicitName?_eq_none {name : String} (h : IsHeaderName name) :
    name ≠ "" ∧ implicitName? name.toList = none := by
  obtain ⟨c, rest, hname, hstart, _⟩ := h
  constructor
  · rintro rfl
    cases hname
  · rw [hname]
    unfold implicitName?
    split
    · next heq =>
      cases heq
      exact absurd hstart (by decide)
    · rfl

/-- A parameter that is called like an argument of every operation is a problem with the
statement. -/
theorem nameError?_own (s : Statement) {name : String} (h : name ∈ ownArguments) :
    nameError? s name =
      some (.reserved ⟨.reservedParameter name, some s.name, s.block.map Block.location⟩) := by
  have hown : name = connectionName ∨ name = callbackName := by simpa [ownArguments] using h
  unfold nameError?
  rw [if_pos (by simpa using hown)]

/-- Any other name of a header is judged as the name of an argument. -/
theorem nameError?_other (s : Statement) {name : String} (hname : IsHeaderName name)
    (hother : name ∉ ownArguments) :
    nameError? s name = if IsArgumentName name then none else some (.invalidName name) := by
  obtain ⟨hne, himplicit⟩ := implicitName?_eq_none hname
  have hown : ¬ (name = connectionName ∨ name = callbackName) := by
    simpa [ownArguments] using hother
  unfold nameError?
  rw [if_neg (by simpa using hown), if_neg hne, himplicit]
  by_cases hvalid : IsArgumentName name
  · obtain ⟨hword, hidentifier⟩ := hvalid
    have hvalid : IsArgumentName name := ⟨hword, hidentifier⟩
    simp [hvalid, hword, hidentifier]
  · simp only [if_neg hvalid]
    rw [if_pos]
    simp only [IsArgumentName, not_and_or, not_not] at hvalid
    simpa [List.contains_iff_mem] using hvalid

/-- Different names of headers without that of the connection are in order. -/
theorem orderError?_eq_none {seen names : List String} (hnames : ∀ name ∈ names, IsHeaderName name)
    (hnodup : names.Nodup) (hnew : ∀ name ∈ names, name ∉ seen) :
    orderError? seen names = none := by
  induction names generalizing seen with
  | nil => rfl
  | cons name rest ih =>
    obtain ⟨hfirst, hrest⟩ := List.nodup_cons.mp hnodup
    have himplicit := (implicitName?_eq_none (hnames name List.mem_cons_self)).2
    have hfree : seen.contains name = false := by
      simpa [List.contains_iff_mem] using hnew name List.mem_cons_self
    unfold orderError?
    simp only [himplicit, Option.isSome_none, Bool.false_eq_true, if_false, hfree]
    apply ih (fun n hn => hnames n (List.mem_cons_of_mem _ hn)) hrest
    intro n hn hmem
    rcases List.mem_cons.mp hmem with rfl | hmem
    · exact hfirst hn
    · exact hnew n (List.mem_cons_of_mem _ hn) hmem

/-- The arguments that no parameter stands for have names of arguments. -/
theorem isArgumentName_of_mem_ownArguments {name : String} (h : name ∈ ownArguments) :
    IsArgumentName name := by
  have hown : name = connectionName ∨ name = callbackName := by simpa [ownArguments] using h
  rcases hown with rfl | rfl
  · decide
  · decide

/-- There is no name among none. -/
theorem not_misnamed_nil : ¬ Misnamed [] := by
  rintro ⟨before, name, after, hsplit, _, _⟩
  cases before <;> cases hsplit

/-- Either the first name cannot be that of an argument, or a later one. -/
theorem misnamed_cons_iff {name : String} {rest : List String} :
    Misnamed (name :: rest) ↔ ¬ IsArgumentName name ∨ name ∉ ownArguments ∧ Misnamed rest := by
  constructor
  · rintro ⟨before, bad, after, hsplit, hbefore, hbad⟩
    cases before with
    | nil =>
      obtain ⟨rfl, rfl⟩ := List.cons.inj hsplit
      exact Or.inl hbad
    | cons first others =>
      obtain ⟨rfl, hrest⟩ := List.cons.inj hsplit
      right
      refine ⟨hbefore _ List.mem_cons_self, others, bad, after, hrest, ?_, hbad⟩
      intro n hn
      exact hbefore n (List.mem_cons_of_mem _ hn)
  · rintro (hbad | ⟨hfirst, before, bad, after, rfl, hbefore, hbad⟩)
    · exact ⟨[], name, rest, rfl, by simp, hbad⟩
    · refine ⟨name :: before, bad, after, rfl, ?_, hbad⟩
      intro n hn
      rcases List.mem_cons.mp hn with rfl | hn
      · exact hfirst
      · exact hbefore n hn

/-- Where no name is that of an own argument, any name that no argument can have is misplaced. -/
theorem isArgumentName_of_not_misnamed {names : List String} (h : ¬ Misnamed names)
    (hother : ∀ name ∈ names, name ∉ ownArguments) : ∀ name ∈ names, IsArgumentName name := by
  intro name hmem
  by_contra hbad
  obtain ⟨before, after, rfl⟩ := List.append_of_mem hmem
  apply h
  refine ⟨before, name, after, rfl, ?_, hbad⟩
  intro n hn
  exact hother n (List.mem_append_left _ hn)

/-- No name is refused when all of them are names of arguments that parameters can stand for. -/
theorem findSome?_nameError?_eq_none_iff {s : Statement} {names : List String}
    (hnames : ∀ name ∈ names, IsHeaderName name) :
    names.findSome? (nameError? s) = none ↔
      ∀ name ∈ names, name ∉ ownArguments ∧ IsArgumentName name := by
  rw [List.findSome?_eq_none_iff]
  constructor
  · intro h name hmem
    have hnone := h name hmem
    by_cases hown : name ∈ ownArguments
    · rw [nameError?_own s hown] at hnone
      cases hnone
    · rw [nameError?_other s (hnames name hmem) hown] at hnone
      refine ⟨hown, ?_⟩
      by_contra hbad
      rw [if_neg hbad] at hnone
      cases hnone
  · intro h name hmem
    obtain ⟨hown, hvalid⟩ := h name hmem
    rw [nameError?_other s (hnames name hmem) hown, if_pos hvalid]

/-- The first name that is refused makes a foreign failure when some name is misplaced. -/
theorem findSome?_nameError?_foreign_iff {s : Statement} {names : List String}
    (hnames : ∀ name ∈ names, IsHeaderName name) :
    (∃ e, names.findSome? (nameError? s) = some e ∧ e.failure.kind.isLibrary = false) ↔
      Misnamed names := by
  induction names with
  | nil => simp [not_misnamed_nil]
  | cons name rest ih =>
    have hrest := ih fun n hn => hnames n (List.mem_cons_of_mem _ hn)
    rw [misnamed_cons_iff, List.findSome?_cons]
    by_cases hown : name ∈ ownArguments
    · simp only [nameError?_own s hown]
      constructor
      · rintro ⟨_, heq, hkind⟩
        cases heq
        simp [SignatureError.failure, isLibrary_ofCompileError] at hkind
      · rintro (hbad | ⟨hother, _⟩)
        · exact absurd (isArgumentName_of_mem_ownArguments hown) hbad
        · exact absurd hown hother
    · rw [nameError?_other s (hnames name List.mem_cons_self) hown]
      by_cases hvalid : IsArgumentName name
      · simp only [if_pos hvalid]
        rw [hrest]
        tauto
      · simp only [if_neg hvalid]
        constructor
        · intro _
          exact Or.inl hvalid
        · intro _
          exact ⟨_, rfl, rfl⟩

/-- With different names of headers the order of the arguments is no problem. -/
theorem orderError?_parameterNames {s : Statement}
    (hnames : ∀ name ∈ s.parameterNames, IsHeaderName name) (hnodup : s.parameterNames.Nodup)
    (hother : ∀ name ∈ s.parameterNames, name ∉ ownArguments) :
    orderError? [connectionName] s.parameterNames = none := by
  apply orderError?_eq_none hnames hnodup
  intro name hmem hconnection
  have heq : name = connectionName := by simpa using hconnection
  exact hother name hmem (by simp [heq, ownArguments])

/-- A statement has a signature exactly when its parameters have names of arguments, none of them
one of its own. -/
theorem ofStatement_ok_iff {s : Statement}
    (hnames : ∀ name ∈ s.parameterNames, IsHeaderName name) (hnodup : s.parameterNames.Nodup) :
    (∃ g, ofStatement s = .ok g) ↔
      ∀ name ∈ s.parameterNames, name ∉ ownArguments ∧ IsArgumentName name := by
  rw [← findSome?_nameError?_eq_none_iff hnames]
  unfold ofStatement
  cases hfirst : s.parameterNames.findSome? (nameError? s) with
  | some e => simp
  | none =>
    have hgood := (findSome?_nameError?_eq_none_iff hnames).mp hfirst
    have horder := orderError?_parameterNames hnames hnodup fun n hn => (hgood n hn).1
    simp [horder]

/-- A signature fails foreign exactly when a name that no argument can have comes before any that
is called like one of its own. -/
theorem failsForeign_ofStatement_iff {s : Statement}
    (hnames : ∀ name ∈ s.parameterNames, IsHeaderName name) (hnodup : s.parameterNames.Nodup) :
    FailsForeign ((ofStatement s).mapError SignatureError.failure) ↔ Misnamed s.parameterNames := by
  rw [← findSome?_nameError?_foreign_iff (s := s) hnames]
  unfold ofStatement
  cases hfirst : s.parameterNames.findSome? (nameError? s) with
  | some e => simp [Outcome.mapError_error]
  | none =>
    have hgood := (findSome?_nameError?_eq_none_iff hnames).mp hfirst
    have horder := orderError?_parameterNames hnames hnodup fun n hn => (hgood n hn).1
    simp [horder, Outcome.mapError_ok]

end Signature

end AnnotatedSql
