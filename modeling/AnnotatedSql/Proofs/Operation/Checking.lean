import AnnotatedSql.Proofs.Operation.Arguments

/-!
# Which arguments are refused

Arguments match a signature when each of its names has one argument and each argument has a name.
A value is refused for a list if it has no elements of its own, and where types are checked if it,
or one of its elements, is no instance of the declared type. Checking stops at the first parameter
whose value is refused.
-/

set_option autoImplicit false

namespace AnnotatedSql

namespace Arguments

variable {names : List String} {positional : List Value} {named : List (String × Value)}

/-- Arguments by position and by name match the names of a signature. -/
structure Match (names : List String) (positional : List Value) (named : List (String × Value)) :
    Prop where
  /-- There is a name for every argument by position. -/
  room : positional.length ≤ names.length
  /-- What is given by position is not given by name as well. -/
  once : ∀ name ∈ names.take positional.length, name ∉ named.map Prod.fst
  /-- What is not given by position is given by name. -/
  complete : ∀ name ∈ names.drop positional.length, name ∈ named.map Prod.fst
  /-- Every argument by name is one of the signature. -/
  known : ∀ name ∈ named.map Prod.fst, name ∈ names

/-- Names are taken from what is given by name when all of them are given. -/
theorem bindNamed_ok_iff :
    (∃ arguments, bindNamed named names = .ok arguments) ↔
      ∀ name ∈ names, name ∈ named.map Prod.fst := by
  induction names with
  | nil => simp [bindNamed]
  | cons first rest ih =>
    unfold bindNamed
    rw [List.forall_mem_cons, ← ih]
    cases hfirst : named.lookup first with
    | none =>
      have hmissing := Entries.lookup_eq_none_iff.mp hfirst
      simp [hmissing]
    | some v =>
      have hthere : first ∈ named.map Prod.fst := by
        by_contra hmissing
        rw [Entries.lookup_eq_none_iff.mpr hmissing] at hfirst
        cases hfirst
      simp only [Outcome.map_eq_ok_iff, hthere, true_and]
      constructor
      · rintro ⟨_, later, hlater, _⟩
        exact ⟨later, hlater⟩
      · rintro ⟨later, hlater⟩
        exact ⟨_, later, hlater, rfl⟩

/-- The first names take what is given by position if none of them is given by name, and the others
are taken from what is given by name. -/
theorem bindPositional_ok_iff :
    (∃ arguments, bindPositional named names positional = .ok arguments) ↔
      positional.length ≤ names.length ∧
        (∀ name ∈ names.take positional.length, name ∉ named.map Prod.fst) ∧
          ∀ name ∈ names.drop positional.length, name ∈ named.map Prod.fst := by
  induction positional generalizing names with
  | nil =>
    have hnamed : bindPositional named names [] = bindNamed named names := by
      cases names <;> rfl
    rw [hnamed, bindNamed_ok_iff]
    simp
  | cons v others ih =>
    cases names with
    | nil => simp [bindPositional]
    | cons first rest =>
      have hbind :
          (∃ arguments, bindPositional named (first :: rest) (v :: others) = .ok arguments) ↔
            first ∉ named.map Prod.fst ∧
              ∃ arguments, bindPositional named rest others = .ok arguments := by
        rw [← Entries.lookup_eq_none_iff, bindPositional]
        cases named.lookup first with
        | some w => simp
        | none => simp [Outcome.map_eq_ok_iff]
      rw [hbind, ih]
      simp only [List.length_cons, List.take_succ_cons, List.drop_succ_cons, List.forall_mem_cons,
        Nat.add_le_add_iff_right]
      tauto

/-- Arguments are accepted when they match the names of the signature. -/
theorem bind_ok_iff :
    (∃ arguments, bind names positional named = .ok arguments) ↔ Match names positional named := by
  have hunknown : (named.find? fun e => !names.contains e.1) = none ↔
      ∀ name ∈ named.map Prod.fst, name ∈ names := by
    simp [List.find?_eq_none, List.mem_map]
  have hbind : (∃ arguments, bind names positional named = .ok arguments) ↔
      (∃ arguments, bindPositional named names positional = .ok arguments) ∧
        (named.find? fun e => !names.contains e.1) = none := by
    unfold bind
    cases bindPositional named names positional with
    | error e => simp
    | ok arguments =>
      cases named.find? fun e => !names.contains e.1 with
      | some e => simp
      | none => simp
  rw [hbind, bindPositional_ok_iff, hunknown]
  constructor
  · rintro ⟨⟨hroom, honce, hcomplete⟩, hknown⟩
    exact ⟨hroom, honce, hcomplete, hknown⟩
  · rintro ⟨hroom, honce, hcomplete, hknown⟩
    exact ⟨⟨hroom, honce, hcomplete⟩, hknown⟩

/-- When arguments match the names of a signature, every name has the value that was given for
it. -/
theorem bind_of_match (h : Match names positional named) :
    ∃ arguments, bind names positional named = .ok arguments ∧
      ∀ name ∈ names, ∃ v, arguments.lookup name = some v ∧
        given names positional named name = some v := by
  obtain ⟨arguments, hbind⟩ := bind_ok_iff.mpr h
  obtain ⟨hnames, hgiven⟩ := lookup_of_bind hbind
  refine ⟨arguments, hbind, ?_⟩
  intro name hname
  obtain ⟨v, hv⟩ := Entries.lookup_isSome_of_mem (hnames ▸ hname)
  exact ⟨v, hv, (hgiven name hname).symm.trans hv⟩

end Arguments

namespace Value

/-- A value is an instance of a type. Truth values are also integers. -/
def IsInstance (v : Value) (t : ValueType) : Prop :=
  v.typeName = t.label ∨ t = .int ∧ v.typeName = ValueType.bool.label

/-- A value stands for a list of elements: it has them, and is neither a text nor bytes. -/
def StandsForList (v : Value) (elements : List Value) : Prop :=
  v.elements? = some elements ∧ ¬ v.IsInstance .text ∧ ¬ v.IsInstance .bytes

end Value

namespace ValueType

/-- A value is not one of those that a type allows: it is something, an instance of another type,
and no integer for a float. A type that is not known allows every value. -/
def Disallows (t : ValueType) (v : Value) : Prop :=
  t ≠ .any ∧ v ≠ .none ∧ ¬ v.IsInstance t ∧ ¬ (t = .float ∧ v.IsInstance .int)

/-- What is not accepted is not allowed. -/
theorem accepts_eq_false_iff {t : ValueType} {v : Value} :
    t.accepts v = false ↔ t.Disallows v := by
  unfold Disallows Value.IsInstance
  cases t <;> cases v <;> simp [accepts, Value.typeName, label]

end ValueType

namespace Parameter

variable {statement : String} {checkTypes : Bool} {p : Parameter} {v : Value} {e : ValueError}

/-- A value is refused for a parameter with an error. -/
inductive Refuses (statement : String) (checkTypes : Bool) (p : Parameter) (v : Value) :
    ValueError → Prop
  /-- The value does not stand for a list. -/
  | noList (hlist : p.isList = true) (hnone : ¬ ∃ elements, v.StandsForList elements) :
      Refuses statement checkTypes p v (.noList statement p v.typeName)
  /-- An element of the list is not allowed, and it is the first. -/
  | element (hlist : p.isList = true) (hchecked : checkTypes = true) {before after : List Value}
      {w : Value} (helements : v.StandsForList (before ++ w :: after))
      (hbefore : ∀ x ∈ before, ¬ p.valueType.Disallows x) (hw : p.valueType.Disallows w) :
      Refuses statement checkTypes p v (.wrongType statement p w.typeName)
  /-- The one value is not allowed. -/
  | scalar (hscalar : p.isList = false) (hchecked : checkTypes = true)
      (hv : p.valueType.Disallows v) :
      Refuses statement checkTypes p v (.wrongType statement p v.typeName)

/-- The elements that are read are those of what stands for a list. -/
theorem listElements?_eq_some_iff {elements : List Value} :
    listElements? v = some elements ↔ v.StandsForList elements := by
  unfold Value.StandsForList Value.IsInstance
  cases v <;> simp [listElements?, Value.elements?, Value.typeName, ValueType.label]

/-- Nothing is read of what does not stand for a list. -/
theorem listElements?_eq_none_iff :
    listElements? v = none ↔ ¬ ∃ elements, v.StandsForList elements := by
  simp only [← listElements?_eq_some_iff]
  cases listElements? v <;> simp

/-- A value that is not taken is not allowed, and types are checked. -/
theorem not_taken_iff {t : ValueType} :
    (!(!checkTypes || t.accepts v)) = true ↔ checkTypes = true ∧ t.Disallows v := by
  rw [← ValueType.accepts_eq_false_iff]
  cases checkTypes <;> simp

/-- The first element that is not taken is the first that is not allowed, and types are checked. -/
theorem find?_not_taken_eq_some_iff {t : ValueType} {elements : List Value} {w : Value} :
    (elements.find? fun x => !(!checkTypes || t.accepts x)) = some w ↔
      checkTypes = true ∧ t.Disallows w ∧ ∃ before after, elements = before ++ w :: after ∧
        ∀ x ∈ before, ¬ t.Disallows x := by
  rw [List.find?_eq_some_iff_append, not_taken_iff, and_assoc]
  apply and_congr_right
  intro hchecked
  simp [hchecked, ← ValueType.accepts_eq_false_iff]

/-- A check fails with the error that the value is refused with. -/
theorem check_eq_error_iff :
    p.check statement checkTypes v = .error e ↔ p.Refuses statement checkTypes v e := by
  constructor
  · intro h
    simp only [check] at h
    split at h
    · next hlist =>
      split at h
      · next hnone =>
        cases h
        exact .noList hlist (listElements?_eq_none_iff.mp hnone)
      · next elements helements =>
        split at h
        · next w hfound =>
          cases h
          obtain ⟨hchecked, hw, before, after, rfl, hbefore⟩ :=
            find?_not_taken_eq_some_iff.mp hfound
          exact .element hlist hchecked (listElements?_eq_some_iff.mp helements) hbefore hw
        · cases h
    · next hscalar =>
      split at h
      · cases h
      · next htaken =>
        cases h
        obtain ⟨hchecked, hv⟩ := not_taken_iff.mp (by simpa using htaken)
        exact .scalar (by simpa using hscalar) hchecked hv
  · intro h
    cases h with
    | noList hlist hnone =>
      simp only [check, hlist, if_true, listElements?_eq_none_iff.mpr hnone]
    | @element hlist hchecked before after w helements hbefore hw =>
      have hfound := find?_not_taken_eq_some_iff.mpr
        ⟨hchecked, hw, before, after, rfl, hbefore⟩
      simp only [check, hlist, if_true, listElements?_eq_some_iff.mpr helements, hfound]
    | scalar hscalar hchecked hv =>
      have htaken := not_taken_iff.mpr ⟨hchecked, hv⟩
      rw [Bool.not_eq_true'] at htaken
      simp only [check, hscalar, htaken, Bool.false_eq_true, if_false]

/-- The value that is given for a parameter is refused with an error. -/
def RefusesGiven (statement : String) (checkTypes : Bool) (given : String → Option Value)
    (p : Parameter) (e : ValueError) : Prop :=
  ∃ v, given p.name = some v ∧ p.Refuses statement checkTypes v e

/-- Among the values that are given for some parameters, that of one of them is the first to be
refused. -/
def RefusesFirst (statement : String) (checkTypes : Bool) (given : String → Option Value)
    (parameters : List Parameter) (p : Parameter) (e : ValueError) : Prop :=
  ∃ before after, parameters = before ++ p :: after ∧
    (∀ q ∈ before, ¬ ∃ e', q.RefusesGiven statement checkTypes given e') ∧
      p.RefusesGiven statement checkTypes given e

variable {given : String → Option Value} {arguments : List (String × Value)}
  {parameters : List Parameter}

/-- The check of an argument fails with the error that the value given is refused with. -/
theorem check_lookup_eq_error_iff
    (hgiven : ∃ v, arguments.lookup p.name = some v ∧ given p.name = some v) :
    p.check statement checkTypes ((arguments.lookup p.name).getD .none) = .error e ↔
      p.RefusesGiven statement checkTypes given e := by
  obtain ⟨v, hargument, hv⟩ := hgiven
  unfold RefusesGiven
  simp [hargument, hv, check_eq_error_iff]

/-- The checks succeed when no value that is given is refused. -/
theorem checkAll_ok_iff
    (hgiven : ∀ p ∈ parameters, ∃ v, arguments.lookup p.name = some v ∧ given p.name = some v) :
    (∃ values, checkAll statement checkTypes arguments parameters = .ok values) ↔
      ∀ p ∈ parameters, ¬ ∃ e, p.RefusesGiven statement checkTypes given e := by
  induction parameters with
  | nil => simp [checkAll]
  | cons first rest ih =>
    obtain ⟨hfirst, hrest⟩ := List.forall_mem_cons.mp hgiven
    simp only [List.forall_mem_cons, ← ih hrest, ← check_lookup_eq_error_iff hfirst]
    rw [checkAll]
    cases first.check statement checkTypes ((arguments.lookup first.name).getD .none) with
    | error e => simp
    | ok v => simp [Outcome.map_eq_ok_iff]

/-- The checks fail with the error of the first parameter whose value is refused. -/
theorem checkAll_of_refusesFirst
    (hgiven : ∀ p ∈ parameters, ∃ v, arguments.lookup p.name = some v ∧ given p.name = some v)
    (h : RefusesFirst statement checkTypes given parameters p e) :
    checkAll statement checkTypes arguments parameters = .error e := by
  obtain ⟨before, after, rfl, hbefore, hp⟩ := h
  -- Each parameter before the refused one passes its own check and leaves the error as it is.
  induction before with
  | nil =>
    have hcheck := (check_lookup_eq_error_iff (hgiven p List.mem_cons_self)).mpr hp
    rw [List.nil_append, checkAll, hcheck]
  | cons first rest ih =>
    obtain ⟨hfirst, hrest⟩ := List.forall_mem_cons.mp hbefore
    obtain ⟨hargument, harguments⟩ := List.forall_mem_cons.mp hgiven
    rw [List.cons_append, checkAll, ih harguments hrest]
    cases hcheck : first.check statement checkTypes
        ((arguments.lookup first.name).getD .none) with
    | error e' => exact absurd ⟨e', (check_lookup_eq_error_iff hargument).mp hcheck⟩ hfirst
    | ok v => rfl

/-- If the value given for some parameter is refused, there is a first such parameter. -/
theorem exists_refusesFirst
    (h : ∃ p ∈ parameters, ∃ e, p.RefusesGiven statement checkTypes given e) :
    ∃ p e, RefusesFirst statement checkTypes given parameters p e := by
  induction parameters with
  | nil => simp at h
  | cons first rest ih =>
    by_cases hfirst : ∃ e, first.RefusesGiven statement checkTypes given e
    · obtain ⟨e, he⟩ := hfirst
      exact ⟨first, e, [], rest, rfl, by simp, he⟩
    · have hrest : ∃ p ∈ rest, ∃ e, p.RefusesGiven statement checkTypes given e := by
        obtain ⟨p, hp, hrefused⟩ := h
        rcases List.mem_cons.mp hp with rfl | hp
        · exact absurd hrefused hfirst
        · exact ⟨p, hp, hrefused⟩
      obtain ⟨p, e, before, after, rfl, hbefore, hp⟩ := ih hrest
      exact ⟨p, e, first :: before, after, rfl, List.forall_mem_cons.mpr ⟨hfirst, hbefore⟩, hp⟩

end Parameter

end AnnotatedSql
