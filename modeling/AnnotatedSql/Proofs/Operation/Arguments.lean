import AnnotatedSql.Operation.Arguments
import AnnotatedSql.Proofs.Entries
import AnnotatedSql.Proofs.Outcome
import AnnotatedSql.Proofs.Query.Filling
import AnnotatedSql.Proofs.Statement.Resolution

/-!
# What arguments come to

An argument is given by position or by name. When a call is accepted every name of the signature
has the argument that was given for it, and the values to bind are these arguments, lists with
their elements read.
-/

set_option autoImplicit false

namespace AnnotatedSql

/-- The names of the arguments of a statement's operation: the connection, the parameters, and the
callback if rows are handed to one. -/
def Statement.argumentNames (s : Statement) : List String :=
  connectionName :: s.parameterNames ++ if s.kind.takesCallback then [callbackName] else []

/-- A signature has the names of the arguments of its statement. -/
theorem Signature.argumentNames_of_ofStatement {s : Statement} {g : Signature}
    (h : ofStatement s = .ok g) : g.arguments.map Argument.name = s.argumentNames := by
  unfold ofStatement at h
  split at h
  · cases h
  · split at h
    · cases h
    · cases h
      unfold Statement.argumentNames Statement.parameterNames callbackArgument?
      cases s.kind <;> simp [StatementKind.takesCallback, Function.comp_def]

namespace Arguments

/-- The value given for a name: the one in its place, or the one under it. -/
def given (names : List String) (positional : List Value) (named : List (String × Value))
    (name : String) : Option Value :=
  ((names.zip positional).lookup name).or (named.lookup name)

/-- What is left to names is taken from them. -/
theorem lookup_of_bindNamed {named arguments : List (String × Value)} {names : List String}
    (h : bindNamed named names = .ok arguments) :
    arguments.map Prod.fst = names ∧
      ∀ name ∈ names, arguments.lookup name = named.lookup name := by
  induction names generalizing arguments with
  | nil =>
    cases h
    simp
  | cons first rest ih =>
    unfold bindNamed at h
    cases hfirst : named.lookup first with
    | none => simp [hfirst] at h
    | some v =>
      simp only [hfirst] at h
      obtain ⟨later, hrest, rfl⟩ := Outcome.map_eq_ok_iff.mp h
      obtain ⟨hnames, hlookup⟩ := ih hrest
      refine ⟨by simp [hnames], ?_⟩
      intro name hname
      rw [Entries.lookup_cons_ite]
      by_cases heq : name = first
      · rw [if_pos heq, heq, hfirst]
      · rw [if_neg heq]
        exact hlookup name (by simpa [heq] using hname)

/-- What is given by position goes to the first names, and the others are left to names. -/
theorem lookup_of_bindPositional {named arguments : List (String × Value)} {names : List String}
    {positional : List Value} (h : bindPositional named names positional = .ok arguments) :
    arguments.map Prod.fst = names ∧
      ∀ name ∈ names, arguments.lookup name = given names positional named name := by
  induction positional generalizing names arguments with
  | nil =>
    have hnamed : bindNamed named names = .ok arguments := by
      cases names <;> simpa [bindPositional] using h
    obtain ⟨hnames, hlookup⟩ := lookup_of_bindNamed hnamed
    refine ⟨hnames, ?_⟩
    intro name hname
    simpa [given] using hlookup name hname
  | cons v others ih =>
    cases names with
    | nil => cases h
    | cons first rest =>
      unfold bindPositional at h
      split at h
      · cases h
      · obtain ⟨later, hrest, rfl⟩ := Outcome.map_eq_ok_iff.mp h
        obtain ⟨hnames, hlookup⟩ := ih hrest
        refine ⟨by simp [hnames], ?_⟩
        intro name hname
        unfold given at hlookup ⊢
        rw [List.zip_cons_cons, Entries.lookup_cons_ite, Entries.lookup_cons_ite]
        by_cases heq : name = first
        · simp [heq]
        · rw [if_neg heq, if_neg heq]
          exact hlookup name (by simpa [heq] using hname)

/-- When a call is accepted every name has the value that was given for it. -/
theorem lookup_of_bind {names : List String} {positional : List Value}
    {named arguments : List (String × Value)} (h : bind names positional named = .ok arguments) :
    arguments.map Prod.fst = names ∧
      ∀ name ∈ names, arguments.lookup name = given names positional named name := by
  unfold bind at h
  split at h
  · cases h
  · next hpositional =>
    split at h
    · cases h
    · cases h
      exact lookup_of_bindPositional hpositional

end Arguments

namespace Parameter

/-- A value that is taken for a parameter is bound as it is, and a list as its elements. -/
theorem check_ok {statement : String} {checkTypes : Bool} {p : Parameter} {v w : Value}
    (h : p.check statement checkTypes v = .ok w) :
    match p.multiplicity with
    | .scalar => w = v
    | .list => ∃ elements, listElements? v = some elements ∧ w = .list elements := by
  unfold check isList at h
  cases hmultiplicity : p.multiplicity with
  | scalar =>
    have hscalar : (Multiplicity.scalar == Multiplicity.list) = false := rfl
    simp only [hmultiplicity, hscalar, Bool.false_eq_true, if_false] at h
    split at h
    · cases h
      rfl
    · cases h
  | list =>
    have hlist : (Multiplicity.list == Multiplicity.list) = true := rfl
    simp only [hmultiplicity, hlist, if_true] at h
    split at h
    · cases h
    · next elements helements =>
      split at h
      · cases h
      · cases h
        exact ⟨elements, helements, rfl⟩

/-- The values to bind are those of the parameters, each checked. -/
theorem checkAll_ok {statement : String} {checkTypes : Bool} {parameters : List Parameter}
    {arguments values : List (String × Value)}
    (h : checkAll statement checkTypes arguments parameters = .ok values) :
    values.map Prod.fst = parameters.map Parameter.name ∧
      ((parameters.map Parameter.name).Nodup → ∀ p ∈ parameters,
        ∃ w, p.check statement checkTypes ((arguments.lookup p.name).getD .none) = .ok w ∧
          values.lookup p.name = some w) := by
  induction parameters generalizing values with
  | nil =>
    cases h
    simp
  | cons first rest ih =>
    unfold checkAll at h
    cases hfirst : first.check statement checkTypes ((arguments.lookup first.name).getD .none) with
    | error e => simp [hfirst] at h
    | ok v =>
      simp only [hfirst] at h
      obtain ⟨later, hrest, rfl⟩ := Outcome.map_eq_ok_iff.mp h
      obtain ⟨hnames, hlater⟩ := ih hrest
      refine ⟨by simp [hnames], ?_⟩
      intro hnodup p hp
      obtain ⟨hnew, hothers⟩ := List.nodup_cons.mp hnodup
      rw [Entries.lookup_cons_ite]
      rcases List.mem_cons.mp hp with rfl | hp
      · exact ⟨v, hfirst, by simp⟩
      · have hne : p.name ≠ first.name := by
          intro heq
          apply hnew
          exact List.mem_map.mpr ⟨p, hp, heq⟩
        rw [if_neg hne]
        exact hlater hothers p hp

end Parameter

end AnnotatedSql
