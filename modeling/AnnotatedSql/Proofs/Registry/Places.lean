import AnnotatedSql.Proofs.Registry.Changes
import AnnotatedSql.Proofs.Statement.Header

/-!
# Where operations stand in a container

The operations of a container are its own and those of the containers within. Each has a place: the
names of the containers that lead to it, and its own name. Names are taken once, and so every place
leads to one operation.
-/

set_option autoImplicit false

namespace AnnotatedSql

/-- An operation as it is seen from outside of the containers that lead to it. -/
def Operation.withinAll (path : List String) (op : Operation) : Operation :=
  path.foldr within op

namespace Registry

mutual

/-- The operations of a container and of the containers within, with their places. -/
def placed : Registry → List (List String × Operation)
  | ⟨_, operations, children⟩ =>
    operations.map (fun e => ([e.1], e.2)) ++ placedWithin children

/-- The operations of containers with their places. -/
def placedWithin : List (String × Registry) → List (List String × Operation)
  | [] => []
  | (outer, child) :: rest => (placed child).map (fun e => (outer :: e.1, e.2)) ++ placedWithin rest

end

/-- The names of containers and then a name lead to an operation. -/
def Leads (r : Registry) (path : List String) (name : String) (op : Operation) : Prop :=
  ∃ d, r.descend path = .ok d ∧ d.operation? name = some op

/-- Names are taken once, here and in all containers within, and those of operations are names of
headers. -/
inductive Tidy : Registry → Prop where
  | mk {r : Registry} (operations_nodup : (r.operations.map Prod.fst).Nodup)
    (children_nodup : (r.children.map Prod.fst).Nodup)
    (named : ∀ e ∈ r.operations, IsHeaderName e.1) (tidy_within : ∀ e ∈ r.children, Tidy e.2) :
    Tidy r

variable {r : Registry} {path : List String} {name outer : String} {op : Operation}

/-- The operations of containers are those of each of them. -/
theorem placedWithin_eq_flatMap (children : List (String × Registry)) :
    placedWithin children =
      children.flatMap fun c => c.2.placed.map fun e => (c.1 :: e.1, e.2) := by
  induction children with
  | nil => rfl
  | cons c rest ih => rw [placedWithin, ih, List.flatMap_cons]

/-- The operations of a container are its own and those of the containers within. -/
theorem placed_eq (r : Registry) :
    r.placed = r.operations.map (fun e => ([e.1], e.2)) ++
      r.children.flatMap fun c => c.2.placed.map fun e => (c.1 :: e.1, e.2) := by
  cases r
  rw [placed, placedWithin_eq_flatMap]

/-- An operation is the container's own or one of a container within. -/
theorem mem_placed_iff {place : List String} :
    (place, op) ∈ r.placed ↔
      (∃ name, place = [name] ∧ (name, op) ∈ r.operations) ∨
        ∃ outer child inner, place = outer :: inner ∧ (outer, child) ∈ r.children ∧
          (inner, op) ∈ child.placed := by
  rw [placed_eq, List.mem_append, List.mem_map, List.mem_flatMap]
  constructor
  · rintro (⟨⟨name, own⟩, hmem, heq⟩ | ⟨⟨outer, child⟩, hmem, hinner⟩)
    · obtain ⟨rfl, rfl⟩ := Prod.mk.inj heq
      exact Or.inl ⟨name, rfl, hmem⟩
    · obtain ⟨⟨inner, own⟩, hown, heq⟩ := List.mem_map.mp hinner
      obtain ⟨rfl, rfl⟩ := Prod.mk.inj heq
      exact Or.inr ⟨outer, child, inner, rfl, hmem, hown⟩
  · rintro (⟨name, rfl, hmem⟩ | ⟨outer, child, inner, rfl, hmem, hown⟩)
    · exact Or.inl ⟨(name, op), hmem, rfl⟩
    · exact Or.inr ⟨(outer, child), hmem, List.mem_map.mpr ⟨(inner, op), hown, rfl⟩⟩

/-- The places of a container are the names of its own operations, and the places of the containers
within after their names. -/
theorem map_fst_placed (r : Registry) :
    r.placed.map Prod.fst = (r.operations.map Prod.fst).map (fun name => [name]) ++
      r.children.flatMap fun c => (c.2.placed.map Prod.fst).map fun inner => c.1 :: inner := by
  rw [placed_eq]
  simp only [List.map_append, List.map_map, List.map_flatMap, Function.comp_def]

/-- A place has at least the name of the operation. -/
theorem ne_nil_of_mem_placed {e : List String × Operation} (h : e ∈ r.placed) : e.1 ≠ [] := by
  obtain ⟨place, op⟩ := e
  rcases mem_placed_iff.mp h with ⟨name, rfl, _⟩ | ⟨outer, child, inner, rfl, _⟩
  · exact List.cons_ne_nil _ _
  · exact List.cons_ne_nil _ _

/-- A name alone leads to an own operation. -/
theorem leads_nil_iff : r.Leads [] name op ↔ r.operation? name = some op := by
  unfold Leads
  simp [descend]

/-- The first of several names leads to a container within, and the others lead on from there. -/
theorem leads_cons_iff :
    r.Leads (outer :: path) name op ↔
      ∃ child, r.child? outer = some child ∧ child.Leads path name op := by
  unfold Leads
  simp only [descend]
  cases r.child? outer with
  | none => simp
  | some child => simp

namespace Tidy

/-- Nothing is registered in an empty container. -/
theorem empty (adapter : Adapter) (settings : Settings) : (Registry.empty adapter settings).Tidy :=
  .mk List.nodup_nil List.nodup_nil (by simp [Registry.empty]) (by simp [Registry.empty])

/-- An operation with the name of a header is added under a free name. -/
theorem addOperation {later : Registry} (h : r.Tidy) (hname : IsHeaderName name)
    (hadd : r.addOperation name op = .ok later) : later.Tidy := by
  obtain ⟨hoperations, hchildren, hnamed, hwithin⟩ := h
  obtain ⟨_, hcheck, rfl⟩ := Outcome.map_eq_ok_iff.mp hadd
  have hfree := (isTaken_eq_false_iff.mp (checkFree_eq_ok_iff.mp hcheck).1).1
  refine ⟨Entries.nodup_concat hoperations hfree, hchildren, ?_, hwithin⟩
  intro e he
  rcases List.mem_append.mp he with he | he
  · exact hnamed e he
  · obtain rfl := List.mem_singleton.mp he
    exact hname

/-- A tidy container is added under a free name. -/
theorem addChild {child later : Registry} (h : r.Tidy) (hchild : child.Tidy)
    (hadd : r.addChild name child = .ok later) : later.Tidy := by
  obtain ⟨hoperations, hchildren, hnamed, hwithin⟩ := h
  obtain ⟨_, hcheck, rfl⟩ := Outcome.map_eq_ok_iff.mp hadd
  have hfree := (isTaken_eq_false_iff.mp (checkFree_eq_ok_iff.mp hcheck).1).2
  refine ⟨hoperations, Entries.nodup_concat hchildren hfree, hnamed, ?_⟩
  intro e he
  rcases List.mem_append.mp he with he | he
  · exact hwithin e he
  · obtain rfl := List.mem_singleton.mp he
    exact hchild

/-- A tidy container takes the place of one within. -/
theorem putAt {changed : Registry} (h : r.Tidy) (hchanged : changed.Tidy) (name : String) :
    (r.putAt changed [name]).Tidy := by
  obtain ⟨hoperations, hchildren, hnamed, hwithin⟩ := h
  refine ⟨?_, ?_, ?_, ?_⟩
  · simpa [Registry.putAt] using hoperations
  · simpa [Registry.putAt, List.map_map, Function.comp_def] using hchildren
  · simpa [Registry.putAt] using hnamed
  · intro e he
    simp only [Registry.putAt, List.mem_map] at he
    obtain ⟨c, hc, rfl⟩ := he
    by_cases heq : c.1 = name
    · simpa [heq] using hchanged
    · simpa [heq] using hwithin c hc

/-- The operations of statements are added under free names. -/
theorem loadAll {list : List Statement} (h : r.Tidy)
    (hnamed : ∀ s ∈ list, IsHeaderName s.name) : (r.loadAll list).1.Tidy := by
  induction list generalizing r with
  | nil => exact h
  | cons s rest ih =>
    cases hload : r.load s with
    | error e =>
      simp only [Registry.loadAll, hload]
      exact h
    | ok later =>
      obtain ⟨op, _, hadd⟩ := Outcome.bind_eq_ok_iff.mp hload
      have hlater := h.addOperation (hnamed s List.mem_cons_self)
        (Outcome.mapError_eq_ok_iff.mp hadd)
      simp only [Registry.loadAll, hload]
      exact ih hlater fun t ht => hnamed t (List.mem_cons_of_mem _ ht)

/-- Own operations have names of headers. -/
theorem isHeaderName (h : r.Tidy) (hop : r.operation? name = some op) : IsHeaderName name := by
  obtain ⟨_, _, hnamed, _⟩ := h
  exact hnamed _ (mem_of_lookup hop)

/-- The containers within are tidy. -/
theorem of_child? {child : Registry} (h : r.Tidy) (hchild : r.child? name = some child) :
    child.Tidy := by
  obtain ⟨_, _, _, hwithin⟩ := h
  exact hwithin _ (mem_of_lookup hchild)

/-- What a place leads to has the name of a header. -/
theorem isHeaderName_of_leads (h : r.Tidy) (hleads : r.Leads path name op) :
    IsHeaderName name := by
  induction path generalizing r with
  | nil => exact h.isHeaderName (leads_nil_iff.mp hleads)
  | cons outer rest ih =>
    obtain ⟨child, hchild, hrest⟩ := leads_cons_iff.mp hleads
    exact ih (h.of_child? hchild) hrest

/-- What stands at a place is what the place leads to. -/
theorem mem_placed_iff_leads (h : r.Tidy) :
    (path ++ [name], op) ∈ r.placed ↔ r.Leads path name op := by
  induction path generalizing r with
  | nil =>
    obtain ⟨hoperations, _, _, _⟩ := h
    rw [leads_nil_iff, operation?, Entries.lookup_eq_some_iff hoperations, mem_placed_iff]
    constructor
    · rintro (⟨own, heq, hmem⟩ | ⟨outer, child, inner, heq, _, hinner⟩)
      · obtain ⟨rfl, _⟩ := List.cons.inj heq
        exact hmem
      · obtain ⟨_, rfl⟩ := List.cons.inj heq
        exact absurd rfl (ne_nil_of_mem_placed hinner)
    · intro hmem
      exact Or.inl ⟨name, rfl, hmem⟩
  | cons outer rest ih =>
    have hwithin := fun child (hchild : r.child? outer = some child) => ih (h.of_child? hchild)
    obtain ⟨_, hchildren, _, _⟩ := h
    rw [leads_cons_iff, mem_placed_iff]
    constructor
    · rintro (⟨own, heq, _⟩ | ⟨first, child, inner, heq, hmem, hinner⟩)
      · obtain ⟨_, hrest⟩ := List.cons.inj heq
        simp at hrest
      · obtain ⟨rfl, rfl⟩ := List.cons.inj heq
        have hchild := (Entries.lookup_eq_some_iff hchildren).mpr hmem
        exact ⟨child, hchild, (hwithin child hchild).mp hinner⟩
    · rintro ⟨child, hchild, hleads⟩
      exact Or.inr ⟨outer, child, rest ++ [name], rfl, mem_of_lookup hchild,
        (hwithin child hchild).mpr hleads⟩

/-- No two operations have the same place. -/
theorem places_nodup (h : r.Tidy) : (r.placed.map Prod.fst).Nodup := by
  induction h with
  | @mk r hoperations hchildren _ _ ih =>
    rw [map_fst_placed, List.nodup_append]
    refine ⟨hoperations.map fun _ _ heq => (List.cons.inj heq).1, ?_, ?_⟩
    · rw [List.nodup_flatMap]
      constructor
      · intro c hc
        exact (ih c hc).map fun _ _ heq => (List.cons.inj heq).2
      · -- The first name of a place says which container it leads through.
        have hkeys : r.children.Pairwise fun c d => c.1 ≠ d.1 := List.pairwise_map.mp hchildren
        apply hkeys.imp
        intro c d hne place hc hd
        obtain ⟨_, _, rfl⟩ := List.mem_map.mp hc
        obtain ⟨_, _, heq⟩ := List.mem_map.mp hd
        exact hne (List.cons.inj heq).1.symm
    · intro own hown place hplace heq
      obtain ⟨name, _, rfl⟩ := List.mem_map.mp hown
      obtain ⟨c, _, hinner⟩ := List.mem_flatMap.mp hplace
      obtain ⟨inner, hmem, rfl⟩ := List.mem_map.mp hinner
      obtain ⟨e, he, rfl⟩ := List.mem_map.mp hmem
      exact ne_nil_of_mem_placed he (List.cons.inj heq).2.symm

end Tidy

end Registry

end AnnotatedSql
