import AnnotatedSql.Proofs.Entries
import AnnotatedSql.Proofs.Outcome
import AnnotatedSql.Registry

/-!
# What a container keeps through changes

A container is changed by adding operations, containers and the operations of statements. Each
addition writes twice, to the attributes and to what is registered, and the two never part. The
adapter and the settings are attributes as well: each of them is kept exactly as long as nothing
is registered under its own name.
-/

namespace AnnotatedSql

namespace Attribute

/-- The operation that an attribute is. -/
def operation? {Container : Type} : Attribute Container → Option Operation
  | operation op => some op
  | adapter _ | settings _ | container _ => none

/-- The container that an attribute is. -/
def container? {Container : Type} : Attribute Container → Option Container
  | container child => some child
  | adapter _ | settings _ | operation _ => none

end Attribute

namespace Registry

/-- A change asked of a container. -/
inductive Change where
  /-- To add an operation under a name. -/
  | operation (name : String) (op : Operation)
  /-- To add a container under a name. -/
  | container (name : String) (child : Registry)
  /-- To make and add the operations of statements. -/
  | statements (list : List Statement)

/-- The container after a change, and the failure of the change if it was refused. -/
def change (r : Registry) : Change → Registry × Option Failure
  | .operation name op =>
    match r.addOperation name op with
    | .ok later => (later, none)
    | .error e => (r, some (.ofCompileError e))
  | .container name child =>
    match r.addChild name child with
    | .ok later => (later, none)
    | .error e => (r, some (.ofCompileError e))
  | .statements list => r.loadAll list

/-- The container after changes in order, some of which may have been refused. -/
def changeAll (r : Registry) : List Change → Registry
  | [] => r
  | c :: rest => (r.change c).1.changeAll rest

/-- The change adds under one name, which it does altogether or not at all. -/
def Change.isAddition : Change → Bool
  | .operation .. | .container .. => true
  | .statements _ => false

/-- What a change added is registered, and it is the attribute of its name. -/
def Change.Stands (c : Change) (r : Registry) : Prop :=
  match c with
  | .operation name op =>
    r.operation? name = some op ∧ r.attribute? name = some (.operation op)
  | .container name child =>
    r.child? name = some child ∧ r.attribute? name = some (.container child)
  | .statements _ => True

/-- What is registered under a name is the attribute of that name, and operations and containers
have different names. -/
structure Coherent (r : Registry) : Prop where
  operation_eq : ∀ name op, r.operation? name = some op →
    r.attribute? name = some (.operation op)
  child_eq : ∀ name child, r.child? name = some child →
    r.attribute? name = some (.container child)
  disjoint : ∀ name, r.operation? name = none ∨ r.child? name = none

/-- A later container still has what was registered, and under a name that is not registered it
has the attribute from before. -/
structure Grows (r later : Registry) : Prop where
  operation_kept : ∀ name op, r.operation? name = some op → later.operation? name = some op
  child_kept : ∀ name child, r.child? name = some child → later.child? name = some child
  attribute_kept : ∀ name, later.isTaken name = false → later.attribute? name = r.attribute? name

/-- One addition under a free name: attributes, operations and containers change at that name
alone. -/
structure Registers (r : Registry) (name : String) (value : Attribute Registry)
    (later : Registry) : Prop where
  free : r.isTaken name = false
  added : value.operation?.isSome ∨ value.container?.isSome
  attribute_eq : ∀ key, later.attribute? key = if key = name then some value else r.attribute? key
  operation_eq : ∀ key,
    later.operation? key = if key = name then value.operation? else r.operation? key
  child_eq : ∀ key, later.child? key = if key = name then value.container? else r.child? key

/-- A name is free when it belongs neither to an operation nor to a container within. -/
theorem isTaken_eq_false_iff {r : Registry} {name : String} :
    r.isTaken name = false ↔ r.operation? name = none ∧ r.child? name = none := by
  simp [isTaken]

/-- An attribute is found under the name it was set under, and all others as before. -/
theorem attribute?_setAttribute (r : Registry) (name key : String) (value : Attribute Registry) :
    (r.setAttribute name value).attribute? key =
      if key = name then some value else r.attribute? key := by
  unfold attribute? setAttribute
  rw [Entries.lookup_cons_ite, Entries.lookup_filter_ne]
  by_cases hkey : key = name <;> simp [hkey]

/-- A name is accepted exactly when it is free and means nothing else on a container. -/
theorem checkFree_eq_ok_iff {r : Registry} {name : String} :
    r.checkFree name = .ok () ↔ r.isTaken name = false ∧ isClash name = false := by
  unfold checkFree nameProblem?
  cases htaken : r.isTaken name with
  | true => simp
  | false => cases hclash : isClash name <;> simp

/-- An operation that is accepted is registered under its name. -/
theorem registers_of_addOperation {r later : Registry} {name : String} {op : Operation}
    (h : r.addOperation name op = .ok later) : r.Registers name (.operation op) later := by
  unfold addOperation at h
  obtain ⟨_, hcheck, rfl⟩ := Outcome.map_eq_ok_iff.mp h
  have hfree := (checkFree_eq_ok_iff.mp hcheck).1
  obtain ⟨hop, hchild⟩ := isTaken_eq_false_iff.mp hfree
  refine ⟨hfree, Or.inl rfl, fun key => attribute?_setAttribute r name key _,
    Entries.lookup_concat hop, ?_⟩
  intro key
  by_cases hkey : key = name
  · subst hkey
    simpa [Attribute.container?, setAttribute, child?] using hchild
  · simp [hkey, setAttribute, child?]

/-- A container that is accepted is registered under its name. -/
theorem registers_of_addChild {r later child : Registry} {name : String}
    (h : r.addChild name child = .ok later) : r.Registers name (.container child) later := by
  unfold addChild at h
  obtain ⟨_, hcheck, rfl⟩ := Outcome.map_eq_ok_iff.mp h
  have hfree := (checkFree_eq_ok_iff.mp hcheck).1
  obtain ⟨hop, hchild⟩ := isTaken_eq_false_iff.mp hfree
  refine ⟨hfree, Or.inr rfl, fun key => attribute?_setAttribute r name key _, ?_,
    Entries.lookup_concat hchild⟩
  intro key
  by_cases hkey : key = name
  · subst hkey
    simpa [Attribute.operation?, setAttribute, operation?] using hop
  · simp [hkey, setAttribute, operation?]

/-- An addition keeps attributes and registrations together: the name is free, so that the only
attribute that is replaced is one that nothing was registered under. -/
theorem Registers.coherent {r later : Registry} {name : String} {value : Attribute Registry}
    (h : r.Registers name value later) (hr : r.Coherent) : later.Coherent := by
  refine ⟨?_, ?_, ?_⟩
  · intro key op hop
    rw [h.operation_eq] at hop
    rw [h.attribute_eq]
    by_cases hkey : key = name
    · rw [if_pos hkey] at hop ⊢
      cases value <;> simp_all [Attribute.operation?]
    · rw [if_neg hkey] at hop ⊢
      exact hr.operation_eq key op hop
  · intro key child hchild
    rw [h.child_eq] at hchild
    rw [h.attribute_eq]
    by_cases hkey : key = name
    · rw [if_pos hkey] at hchild ⊢
      cases value <;> simp_all [Attribute.container?]
    · rw [if_neg hkey] at hchild ⊢
      exact hr.child_eq key child hchild
  · intro key
    rw [h.operation_eq, h.child_eq]
    by_cases hkey : key = name
    · rw [if_pos hkey, if_pos hkey]
      cases value <;> simp [Attribute.operation?, Attribute.container?]
    · rw [if_neg hkey, if_neg hkey]
      exact hr.disjoint key

/-- After an addition its name is taken. -/
theorem Registers.isTaken {r later : Registry} {name : String} {value : Attribute Registry}
    (h : r.Registers name value later) : later.isTaken name = true := by
  unfold Registry.isTaken
  rw [h.operation_eq, h.child_eq, if_pos rfl, if_pos rfl]
  simpa using h.added

/-- An addition only adds. -/
theorem Registers.grows {r later : Registry} {name : String} {value : Attribute Registry}
    (h : r.Registers name value later) : r.Grows later := by
  obtain ⟨hop, hchild⟩ := isTaken_eq_false_iff.mp h.free
  refine ⟨?_, ?_, ?_⟩
  · intro key op hkey
    have hne : key ≠ name := by
      rintro rfl
      rw [hop] at hkey
      cases hkey
    rw [h.operation_eq, if_neg hne, hkey]
  · intro key child hkey
    have hne : key ≠ name := by
      rintro rfl
      rw [hchild] at hkey
      cases hkey
    rw [h.child_eq, if_neg hne, hkey]
  · intro key hkey
    have hne : key ≠ name := by
      rintro rfl
      rw [h.isTaken] at hkey
      cases hkey
    rw [h.attribute_eq, if_neg hne]

/-- A container has grown out of itself. -/
theorem Grows.refl (r : Registry) : r.Grows r :=
  ⟨fun _ _ h => h, fun _ _ h => h, fun _ _ => rfl⟩

/-- A name that is free in the end was free all along. -/
theorem Grows.free {r later : Registry} {name : String} (h : r.Grows later)
    (hfree : later.isTaken name = false) : r.isTaken name = false := by
  obtain ⟨hop, hchild⟩ := isTaken_eq_false_iff.mp hfree
  rw [isTaken_eq_false_iff]
  constructor
  · cases hbefore : r.operation? name with
    | none => rfl
    | some op => simp [h.operation_kept name op hbefore] at hop
  · cases hbefore : r.child? name with
    | none => rfl
    | some child => simp [h.child_kept name child hbefore] at hchild

/-- Growing twice is growing. -/
theorem Grows.trans {r middle later : Registry} (h : r.Grows middle) (h' : middle.Grows later) :
    r.Grows later := by
  refine ⟨?_, ?_, ?_⟩
  · intro name op hop
    exact h'.operation_kept name op (h.operation_kept name op hop)
  · intro name child hchild
    exact h'.child_kept name child (h.child_kept name child hchild)
  · intro name hfree
    rw [h'.attribute_kept name hfree, h.attribute_kept name (h'.free hfree)]

/-- The operation of a statement is registered under the statement's name. -/
theorem registers_of_load {r later : Registry} {s : Statement} (h : r.load s = .ok later) :
    ∃ op, r.Registers s.name (.operation op) later := by
  unfold load at h
  obtain ⟨op, _, hadd⟩ := Outcome.bind_eq_ok_iff.mp h
  exact ⟨op, registers_of_addOperation (Outcome.mapError_eq_ok_iff.mp hadd)⟩

/-- Loading statements keeps a container coherent, also where it stops at a failure. -/
theorem loadAll_keeps (r : Registry) (list : List Statement) (hr : r.Coherent) :
    (r.loadAll list).1.Coherent ∧ r.Grows (r.loadAll list).1 := by
  induction list generalizing r with
  | nil => exact ⟨hr, Grows.refl r⟩
  | cons s rest ih =>
    cases hload : r.load s with
    | error e =>
      simp only [loadAll, hload]
      exact ⟨hr, Grows.refl r⟩
    | ok middle =>
      obtain ⟨op, hop⟩ := registers_of_load hload
      obtain ⟨hcoherent, hgrows⟩ := ih middle (hop.coherent hr)
      simp only [loadAll, hload]
      exact ⟨hcoherent, hop.grows.trans hgrows⟩

/-- One change, refused or not, keeps a container coherent. -/
theorem change_keeps (r : Registry) (c : Change) (hr : r.Coherent) :
    (r.change c).1.Coherent ∧ r.Grows (r.change c).1 := by
  cases c with
  | operation name op =>
    cases hadd : r.addOperation name op with
    | error e =>
      simp only [change, hadd]
      exact ⟨hr, Grows.refl r⟩
    | ok later =>
      have h := registers_of_addOperation hadd
      simp only [change, hadd]
      exact ⟨h.coherent hr, h.grows⟩
  | container name child =>
    cases hadd : r.addChild name child with
    | error e =>
      simp only [change, hadd]
      exact ⟨hr, Grows.refl r⟩
    | ok later =>
      have h := registers_of_addChild hadd
      simp only [change, hadd]
      exact ⟨h.coherent hr, h.grows⟩
  | statements list => exact loadAll_keeps r list hr

/-- Any run of changes keeps a container coherent. -/
theorem changeAll_keeps (r : Registry) (list : List Change) (hr : r.Coherent) :
    (r.changeAll list).Coherent ∧ r.Grows (r.changeAll list) := by
  induction list generalizing r with
  | nil => exact ⟨hr, Grows.refl r⟩
  | cons c rest ih =>
    obtain ⟨hstep, hgrow⟩ := change_keeps r c hr
    obtain ⟨hrun, hgrow'⟩ := ih _ hstep
    exact ⟨hrun, hgrow.trans hgrow'⟩

/-- Nothing is registered in an empty container. -/
theorem coherent_empty (adapter : Adapter) (settings : Settings) :
    (empty adapter settings).Coherent := by
  refine ⟨?_, ?_, ?_⟩
  · intro name op h
    simp [operation?, empty] at h
  · intro name child h
    simp [child?, empty] at h
  · intro name
    exact Or.inl rfl

/-- The changes before one of them, and then that one and those after it. -/
theorem changeAll_append (r : Registry) (before after : List Change) :
    r.changeAll (before ++ after) = (r.changeAll before).changeAll after := by
  induction before generalizing r with
  | nil => rfl
  | cons c rest ih => exact ih _

/-- What a change has added stands at once. -/
theorem stands_change {r : Registry} {c : Change} (hok : (r.change c).2 = none) :
    c.Stands (r.change c).1 := by
  cases c with
  | operation name op =>
    cases hadd : r.addOperation name op with
    | error e => simp [change, hadd] at hok
    | ok later =>
      have h := registers_of_addOperation hadd
      simp only [change, hadd, Change.Stands]
      rw [h.operation_eq, h.attribute_eq, if_pos rfl, if_pos rfl]
      exact ⟨rfl, rfl⟩
  | container name child =>
    cases hadd : r.addChild name child with
    | error e => simp [change, hadd] at hok
    | ok later =>
      have h := registers_of_addChild hadd
      simp only [change, hadd, Change.Stands]
      rw [h.child_eq, h.attribute_eq, if_pos rfl, if_pos rfl]
      exact ⟨rfl, rfl⟩
  | statements list => trivial

/-- What stands goes on to stand in a coherent container that has grown. -/
theorem Grows.stands {r later : Registry} {c : Change} (h : r.Grows later)
    (hlater : later.Coherent) (hc : c.Stands r) : c.Stands later := by
  cases c with
  | operation name op =>
    have hop := h.operation_kept name op hc.1
    exact ⟨hop, hlater.operation_eq name op hop⟩
  | container name child =>
    have hchild := h.child_kept name child hc.1
    exact ⟨hchild, hlater.child_eq name child hchild⟩
  | statements list => trivial

/-- A refused addition leaves everything as it was. -/
theorem change_eq_of_refused {r : Registry} {c : Change} (hadds : c.isAddition = true)
    (hrefused : (r.change c).2 ≠ none) : (r.change c).1 = r := by
  cases c with
  | operation name op =>
    cases hadd : r.addOperation name op with
    | error e => simp [change, hadd]
    | ok later => simp [change, hadd] at hrefused
  | container name child =>
    cases hadd : r.addChild name child with
    | error e => simp [change, hadd]
    | ok later => simp [change, hadd] at hrefused
  | statements list => cases hadds

/-- In a coherent container the attribute of a registered name is an operation or a container. -/
theorem Coherent.attribute_of_isTaken {r : Registry} {name : String} (h : r.Coherent)
    (htaken : r.isTaken name = true) :
    (∃ op, r.attribute? name = some (.operation op)) ∨
      ∃ child, r.attribute? name = some (.container child) := by
  cases hop : r.operation? name with
  | some op => exact Or.inl ⟨op, h.operation_eq name op hop⟩
  | none =>
    cases hchild : r.child? name with
    | some child => exact Or.inr ⟨child, h.child_eq name child hchild⟩
    | none => simp [isTaken, hop, hchild] at htaken

/-- What was set before any change is kept exactly where nothing is registered under its name. -/
theorem Coherent.kept_iff {r later : Registry} {name : String} {value : Attribute Registry}
    (hlater : later.Coherent) (hgrows : r.Grows later) (hset : r.attribute? name = some value)
    (hop : value.operation? = none) (hchild : value.container? = none) :
    later.attribute? name = some value ↔ later.isTaken name = false := by
  constructor
  · intro hkept
    cases htaken : later.isTaken name with
    | false => rfl
    | true =>
      rcases hlater.attribute_of_isTaken htaken with ⟨op, h⟩ | ⟨child, h⟩
      · rw [hkept] at h
        cases h
        cases hop
      · rw [hkept] at h
        cases h
        cases hchild
  · intro hfree
    rw [hgrows.attribute_kept name hfree, hset]

/-- Whatever changes are asked of a new container: its adapter and its settings are kept exactly
as long as nothing is registered under their names, what is registered is the attribute of its
name, operations and containers have different names, what was accepted stands to the end, and a
refused addition leaves the container as it was. -/
theorem attributes_changeAll_empty (adapter : Adapter) (settings : Settings) (list : List Change) :
    let r := (empty adapter settings).changeAll list
    (r.attribute? adapterName = some (.adapter adapter) ↔ r.isTaken adapterName = false) ∧
      (r.attribute? settingsName = some (.settings settings) ↔
        r.isTaken settingsName = false) ∧
      r.Coherent ∧
      ∀ before c after, list = before ++ c :: after →
        let earlier := (empty adapter settings).changeAll before
        ((earlier.change c).2 = none → c.Stands r) ∧
          (c.isAddition = true → (earlier.change c).2 ≠ none → (earlier.change c).1 = earlier) := by
  intro r
  have hempty := coherent_empty adapter settings
  obtain ⟨hcoherent, hgrows⟩ := changeAll_keeps _ list hempty
  refine ⟨hcoherent.kept_iff hgrows rfl rfl rfl, hcoherent.kept_iff hgrows rfl rfl rfl,
    hcoherent, ?_⟩
  intro before c after hlist earlier
  refine ⟨?_, fun hadds hrefused => change_eq_of_refused hadds hrefused⟩
  intro hok
  have hearlier : earlier.Coherent := (changeAll_keeps _ before hempty).1
  have hafter := (changeAll_keeps _ after (change_keeps earlier c hearlier).1).2
  have hr : r = (earlier.change c).1.changeAll after := by
    simp only [r, hlist, changeAll_append]
    rfl
  change c.Stands r
  rw [hr]
  exact hafter.stands (hr ▸ hcoherent) (stands_change hok)

/-- A statement that is called like the settings takes their place. -/
theorem changeAll_loses_settings :
    ¬ ∀ (adapter : Adapter) (settings : Settings) (list : List Change),
      ((empty adapter settings).changeAll list).attribute? settingsName =
        some (.settings settings) := by
  intro h
  have hkept := h .standard .standard
    [.statements [⟨"config", .execute, [], [.literal "select 1"], "", none⟩]]
  have htype : (((empty .standard .standard).changeAll
      [.statements [⟨"config", .execute, [], [.literal "select 1"], "", none⟩]]).attribute?
        settingsName).map attributeTypeName = some "function" := rfl
  rw [hkept] at htype
  simp [attributeTypeName] at htype

end Registry

end AnnotatedSql
