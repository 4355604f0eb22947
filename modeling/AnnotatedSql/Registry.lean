import AnnotatedSql.Operation.Call

/-!
# Containers of operations

A container holds operations by name, and containers within it by name. What is added is also
set as an attribute of the container, beside its adapter and its settings, which are attributes
too. Names are taken once, and some are refused because they mean something else on a container.
The names `adapter` and `config` are accepted although they take the place of what operations are
made from. Where a container stands in a slot, it is asked for its own operations and for the
containers within it, as they are at that time.
-/

namespace AnnotatedSql

/-- What is set as an attribute of a container. -/
inductive Attribute (Container : Type) where
  /-- What runs the operations. -/
  | adapter (adapter : Adapter)
  /-- How operations are made. -/
  | settings (settings : Settings)
  /-- An operation that was added. -/
  | operation (op : Operation)
  /-- A container within. -/
  | container (child : Container)

/-- A container of operations. -/
structure Registry where
  /-- The attributes by name, each name once. -/
  attributes : List (String × Attribute Registry)
  /-- The operations by name, in the order they were added. -/
  operations : List (String × Operation)
  /-- The containers within, in the order they were added. -/
  children : List (String × Registry)

namespace Registry

/-- The name that the adapter is set under. -/
def adapterName : String := "adapter"

/-- The name that the settings are set under. -/
def settingsName : String := "config"

/-- An empty container. -/
def empty (adapter : Adapter) (settings : Settings) : Registry :=
  ⟨[(adapterName, .adapter adapter), (settingsName, .settings settings)], [], []⟩

/-- The attribute set under a name. -/
def attribute? (r : Registry) (name : String) : Option (Attribute Registry) :=
  r.attributes.lookup name

/-- The name of an attribute's type. -/
def attributeTypeName : Attribute Registry → String
  | .adapter a => a.typeName
  | .settings _ => "CompilerConfig"
  | .operation _ => "function"
  | .container _ => "SQLOperations"

/-- Sets an attribute, in place of what was set under the name before. -/
def setAttribute (r : Registry) (name : String) (value : Attribute Registry) : Registry :=
  { r with attributes := (name, value) :: r.attributes.filter fun e => e.1 != name }

/-- What stands where the adapter was set. -/
def adapter (r : Registry) : Slot Adapter :=
  match r.attribute? adapterName with
  | some (.adapter a) => .held a
  | some (.container _) => .container adapterName []
  | some (.settings _) | some (.operation _) | none => .operation

/-- What stands where the settings were set. -/
def settings (r : Registry) : Slot Settings :=
  match r.attribute? settingsName with
  | some (.settings s) => .held s
  | some (.container _) => .container settingsName []
  | some (.adapter _) | some (.operation _) | none => .operation

/-- The own operation of a name. -/
def operation? (r : Registry) (name : String) : Option Operation :=
  r.operations.lookup name

/-- The container within of a name. -/
def child? (r : Registry) (name : String) : Option Registry :=
  r.children.lookup name

/-- A name belongs to an operation or a container within. -/
def isTaken (r : Registry) (name : String) : Bool :=
  (r.operation? name).isSome || (r.child? name).isSome

/-- The names that mean something else on a container. -/
def ownNames : List String :=
  ["get", "add_operation", "add_child_operations", "load_from_list", "available_operations",
    "descriptors", "mro"]

/-- A name clashes with the names of a container's own attributes. -/
def isClash (name : String) : Bool :=
  ownNames.contains name || name.toList.head? == some '_'

/-- What is wrong with adding a name. -/
def nameProblem? (r : Registry) (name : String) : Option Problem :=
  if r.isTaken name then some (.operationTaken name)
  else if isClash name then some (.clashingName name)
  else none

/-- The error of adding a name, if it is refused. -/
def checkFree (r : Registry) (name : String) : Except CompileError Unit :=
  match r.nameProblem? name with
  | some problem => .error ⟨problem, some name, none⟩
  | none => .ok ()

/-- Adds an operation under a name. -/
def addOperation (r : Registry) (name : String) (op : Operation) :
    Except CompileError Registry :=
  (r.checkFree name).map fun _ =>
    { r.setAttribute name (.operation op) with operations := r.operations ++ [(name, op)] }

/-- Adds a container within under a name. -/
def addChild (r : Registry) (name : String) (child : Registry) : Except CompileError Registry :=
  (r.checkFree name).map fun _ =>
    { r.setAttribute name (.container child) with children := r.children ++ [(name, child)] }

/-- The container that names lead to. -/
def descend : Registry → List String → Except Failure Registry
  | r, [] => .ok r
  | r, name :: rest =>
    match r.child? name with
    | some child => child.descend rest
    | none => .error (missingAttribute "SQLOperations" name)

/-- What a name belongs to is in the list. -/
theorem mem_of_lookup {α : Type} {name : String} {a : α} :
    {entries : List (String × α)} → entries.lookup name = some a → (name, a) ∈ entries
  | [], h => by simp at h
  | (key, b) :: rest, h => by
    by_cases hk : name = key
    · subst hk
      simp at h
      simp [h]
    · have hk' : (name == key) = false := by simp [hk]
      simp only [List.lookup_cons, hk'] at h
      exact List.mem_cons_of_mem _ (mem_of_lookup h)

/-- A container within is smaller. -/
theorem sizeOf_child {r child : Registry} {name : String} (h : r.child? name = some child) :
    sizeOf child < sizeOf r := by
  have hmem := List.sizeOf_lt_of_mem (mem_of_lookup h)
  cases r
  simp only [Registry.mk.sizeOf_spec, Prod.mk.sizeOf_spec] at hmem ⊢
  omega

/-- A container that names lead to is not greater. -/
theorem sizeOf_descend : {path : List String} → {r d : Registry} → r.descend path = .ok d →
    sizeOf d ≤ sizeOf r
  | [], r, d, h => by
    simp only [descend, Except.ok.injEq] at h
    exact Nat.le_of_eq (h ▸ rfl)
  | name :: rest, r, d, h => by
    simp only [descend] at h
    split at h
    · next child hchild =>
      exact Nat.le_of_lt (Nat.lt_of_le_of_lt (sizeOf_descend h) (sizeOf_child hchild))
    · cases h

/-- A container that at least one name leads to is smaller. -/
theorem sizeOf_descend_cons {r d : Registry} {name : String} {below : List String}
    (h : r.descend (name :: below) = .ok d) : sizeOf d < sizeOf r := by
  simp only [descend] at h
  split at h
  · next child hchild => exact Nat.lt_of_le_of_lt (sizeOf_descend h) (sizeOf_child hchild)
  · cases h

/-- How a container answers in a slot, where its own operations are run in a given way. A
container without operations of its own counts as false. -/
def replacement (d : Registry) (run : Operation → List Value → Run Value) : Replacement :=
  { typeName := "SQLOperations"
    isTrue := !d.operations.isEmpty
    call := fun name arguments =>
      match d.attribute? name with
      | some (.operation op) => run op arguments
      | some other => .fail (notCallable (attributeTypeName other))
      | none => .fail (missingAttribute "SQLOperations" name) }

/-- Calls an operation of a container. A container in a slot of the operation is called the same
way. -/
def call (r : Registry) (op : Operation) (surroundings : Surroundings) (positional : List Value)
    (named : List (String × Value)) : Run Value :=
  op.call
    (fun name below =>
      match h : r.descend (name :: below) with
      | .ok d =>
        have := sizeOf_descend_cons h
        d.replacement fun inner arguments => d.call inner surroundings arguments []
      | .error _ => .operation)
    surroundings positional named
termination_by sizeOf r

/-- The containers in slots, where nothing surrounds what they run. -/
def containers (r : Registry) : Operation.Containers := fun name below =>
  match r.descend (name :: below) with
  | .ok d => d.replacement fun inner arguments => d.call inner .empty arguments []
  | .error _ => .operation

/-- What a container that stands in a slot has under a name, as a slot. -/
def attributeSlot {α : Type} (r : Registry) (name : String) (below : List String)
    (own : String) : Except Failure (Slot α) := do
  let d ← r.descend (name :: below)
  match d.attribute? own with
  | some (.operation _) => pure .operation
  | some (.container _) => pure (.container name (below ++ [own]))
  | some (.adapter _) | some (.settings _) | none => throw (missingAttribute "SQLOperations" own)

/-- What stands in a slot counts as true. -/
def isTrueSlot {α : Type} (r : Registry) (slot : Slot α) : Bool :=
  match slot.resolve r.containers with
  | .ok _ => true
  | .error replacement => replacement.isTrue

/-- The settings that operations are made from. What counts as false in their place gives way to
the standard settings. -/
def currentSettings (r : Registry) : Slot Settings :=
  if r.isTrueSlot r.settings then r.settings else .held .standard

/-- The style of the adapter. -/
def adapterStyle (r : Registry) : Except Failure (Slot PlaceholderStyle) :=
  match r.adapter with
  | .held adapter => .ok (.held adapter.style)
  | .operation => .error (missingAttribute "function" "placeholder_style")
  | .container name below => r.attributeSlot name below "placeholder_style"

/-- The style of placeholders: that of the settings, unless they leave it to the adapter. -/
def styleSlot (r : Registry) : Except Failure (Slot PlaceholderStyle) :=
  match r.currentSettings with
  | .held settings =>
    match settings.style with
    | some style => .ok (.held style)
    | none => r.adapterStyle
  | .operation => .error (missingAttribute "function" "placeholder_style")
  | .container name below => do
    let slot ← r.attributeSlot name below "placeholder_style"
    if r.isTrueSlot slot then pure slot else r.adapterStyle

/-- Whether types are checked. -/
def checkTypesSlot (r : Registry) : Except Failure (Slot Bool) :=
  match r.currentSettings with
  | .held settings => .ok (.held settings.checkTypes.isTrue)
  | .operation => .error (missingAttribute "function" "check_types")
  | .container name below => r.attributeSlot name below "check_types"

/-- The query of a statement whose text is fixed, with the style of a slot. What stands in place of
a style is asked to render the first placeholder, if one is needed. -/
def staticQuery (r : Registry) (s : Statement) (style : Slot PlaceholderStyle) :
    Except Failure StaticQuery :=
  let build (style : PlaceholderStyle) : Except Failure StaticQuery :=
    (StaticQuery.build s style).mapError AssemblyError.failure
  match style.resolve r.containers with
  | .ok style => build style
  | .error replacement => do
    match ← (StaticQuery.firstIndex? s).mapError AssemblyError.failure with
    | some index => (replacement.refuseRendering index []).1
    | none => build .standard

/-- Makes the operation of a statement. -/
def synthesize (r : Registry) (s : Statement) : Except Failure Operation := do
  let style ← r.styleSlot
  Operation.build s style (r.staticQuery s style) r.checkTypesSlot r.adapter

/-- Makes and adds the operation of a statement. -/
def load (r : Registry) (s : Statement) : Except Failure Registry := do
  let op ← r.synthesize s
  (r.addOperation s.name op).mapError Failure.ofCompileError

/-- Makes and adds the operations of statements, in order. Those before the first failure
stay. -/
def loadAll (r : Registry) : List Statement → Registry × Option Failure
  | [] => (r, none)
  | s :: rest =>
    match r.load s with
    | .ok later => later.loadAll rest
    | .error e => (r, some e)

mutual

/-- The names of all operations, those of the containers within after the name of the container
and a point. -/
def names : Registry → List String
  | ⟨_, operations, children⟩ => operations.map Prod.fst ++ childNames children

/-- The names of the operations of containers. -/
def childNames : List (String × Registry) → List String
  | [] => []
  | (name, child) :: rest => (names child).map (name ++ "." ++ ·) ++ childNames rest

end

/-- The names of all operations in alphabetical order, each once. -/
def available (r : Registry) : List String :=
  (r.names.mergeSort fun a b => decide (a ≤ b)).eraseReps

/-- The operation that the parts of a name lead to: all but the last part name containers. The
error is the name that is not found. -/
def getPath : Registry → List String → Except String Operation
  | _, [] => .error ""
  | r, [name] =>
    match r.operation? name with
    | some op => .ok op
    | none => .error name
  | r, [name, ""] =>
    match r.operation? (name ++ ".") with
    | some op => .ok op
    | none => .error (name ++ ".")
  | r, head :: rest =>
    match r.child? head with
    | some child => (child.getPath rest).map (Operation.within head)
    | none => .error (String.intercalate "." (head :: rest))

/-- The operation of a name, which may lead through containers, with points between. -/
def get (r : Registry) (name : String) : Except String Operation :=
  r.getPath ((name.toList.splitOn '.').map String.ofList)

/-- The operation of a name, or the failure that there is none. -/
def require (r : Registry) (name : String) : Except Failure Operation :=
  (r.get name).mapError (.plain .key)

/-- The container with another one in place of that which names lead to. A container within is
the same thing among the attributes. -/
def putAt (r changed : Registry) : List String → Registry
  | [] => changed
  | name :: rest =>
    let put (key : String) (child : Registry) : Registry :=
      if key = name then child.putAt changed rest else child
    { r with
      attributes := r.attributes.map fun (key, value) =>
        (key, match value with
          | .container child => .container (put key child)
          | other => other)
      children := r.children.map fun (key, child) => (key, put key child) }

/-- A name is among those of all operations. -/
def contains (r : Registry) (name : String) : Bool :=
  r.available.contains name

/-- The container in descriptions. -/
def describe (r : Registry) : String :=
  "SQLOperations(" ++ (Value.list (r.available.map Value.text)).describe ++ ")"

/-- The types of what a container has by itself, without its attributes being set. -/
def ownAttributes : List (String × String) :=
  [("get", "method"), ("add_operation", "method"), ("add_child_operations", "method"),
    ("load_from_list", "method"), ("available_operations", "list"), ("descriptors", "list"),
    ("_operations", "dict"), ("_children", "dict"), ("_check_free", "method")]

/-- The names that every object has something under, by the type of what that is. -/
def commonAttributes : List (String × List String) :=
  [("type", ["__class__"]), ("dict", ["__dict__"]), ("str", ["__doc__", "__module__"]),
    ("NoneType", ["__weakref__"]),
    ("method", ["__init__", "__repr__", "__contains__", "__iter__", "__len__"]),
    ("method-wrapper",
      ["__delattr__", "__eq__", "__ge__", "__getattribute__", "__gt__", "__hash__", "__le__",
        "__lt__", "__ne__", "__setattr__", "__str__"]),
    ("builtin_function_or_method",
      ["__dir__", "__format__", "__getstate__", "__init_subclass__", "__new__", "__reduce__",
        "__reduce_ex__", "__sizeof__", "__subclasshook__"])]

/-- The type of what a container has under a name. -/
def attributeType? (r : Registry) (name : String) : Option String :=
  match r.attribute? name with
  | some value => some (attributeTypeName value)
  | none =>
    (ownAttributes.lookup name).or
      ((commonAttributes.find? fun e => e.2.contains name).map Prod.fst)

end Registry

end AnnotatedSql
