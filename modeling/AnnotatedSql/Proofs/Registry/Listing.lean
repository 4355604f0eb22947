import AnnotatedSql.Proofs.Registry.Places
import AnnotatedSql.Proofs.Text.Lines

/-!
# Listing names and looking them up

Listing puts the names of containers and of an operation together, with points between. Looking a
name up takes it apart at its points. What is found is listed, and what is listed is found unless a
container on the way has a point in its name.
-/

set_option autoImplicit false

namespace AnnotatedSql

namespace Registry

/-- Names with points between. -/
def dotted (names : List String) : String :=
  String.intercalate "." names

/-- What lies between the points of a name. -/
def undotted (name : String) : List String :=
  (name.toList.splitOn '.').map String.ofList

/-- Names without points are read back from what they are put together to. -/
theorem undotted_dotted {names : List String} (hne : names ≠ [])
    (h : ∀ name ∈ names, '.' ∉ name.toList) : undotted (dotted names) = names :=
  Text.splitOn_intercalate rfl hne h

/-- A name is put together of what lies between its points. -/
theorem dotted_undotted (name : String) : dotted (undotted name) = name :=
  Text.intercalate_splitOn rfl name

/-- Some names are one name after others. -/
theorem exists_of_ne_nil {names : List String} (h : names ≠ []) :
    ∃ path name, names = path ++ [name] :=
  ⟨names.dropLast, names.getLast h, (List.dropLast_concat_getLast h).symm⟩

/-- What lies between points has none. -/
theorem point_not_mem_of_mem_undotted {name part : String} (h : part ∈ undotted name) :
    '.' ∉ part.toList := by
  obtain ⟨cs, hcs, rfl⟩ := List.mem_map.mp h
  rw [String.toList_ofList]
  exact Text.not_mem_of_mem_splitOn hcs

/-- There is always something between the points of a name, or where there are none. -/
theorem undotted_ne_nil (name : String) : undotted name ≠ [] := by
  rw [undotted, Ne, List.map_eq_nil_iff]
  exact List.splitOn_ne_nil '.' name.toList

/-- Listing and looking up agree: the names that are listed are those that are found, a name that is
not listed is reported as missing, the listing is in order and has one name for every operation, and
what is found under the name of an operation is what its place leads to. -/
structure Agrees (r : Registry) : Prop where
  listed_iff : ∀ name, name ∈ r.available ↔ ∃ op, r.get name = .ok op
  contains_iff : ∀ name, r.contains name = true ↔ name ∈ r.available
  missing : ∀ name, name ∉ r.available → ∃ text, r.require name = .error (.plain .key text)
  sorted : r.available.Pairwise (· < ·)
  listed_once : r.available.Perm (r.placed.map fun e => dotted e.1)
  reached : ∀ path name op, r.Leads path name op →
    r.get (dotted (path ++ [name])) = .ok (op.withinAll path)

/-- No container that leads to an operation has a point in its name. -/
def Undivided (r : Registry) : Prop :=
  ∀ path name op, r.Leads path name op → ∀ outer ∈ path, '.' ∉ outer.toList

section Sorted

variable {name first : String} {rest seen : List String}

/-- Leaving out repetitions leaves out no name. -/
theorem mem_eraseRepsLoop_iff :
    name ∈ List.eraseRepsBy.loop (· == ·) first rest seen ↔
      name ∈ seen ∨ name = first ∨ name ∈ rest := by
  induction rest generalizing first seen with
  | nil => simp [List.eraseRepsBy.loop, or_comm]
  | cons next rest ih =>
    rw [List.eraseRepsBy.loop]
    by_cases heq : first = next
    · simp [heq, ih]
    · have hne : (first == next) = false := by simp [heq]
      simp only [hne, ih, List.mem_cons]
      tauto

/-- Names in order increase strictly when repetitions are left out. Those that were gone through
before are kept in reverse. -/
theorem pairwise_eraseRepsLoop (hsorted : (first :: rest).Pairwise (· ≤ ·))
    (hseen : (first :: seen).Pairwise (· > ·)) :
    (List.eraseRepsBy.loop (· == ·) first rest seen).Pairwise (· < ·) := by
  induction rest generalizing first seen with
  | nil =>
    rw [List.eraseRepsBy.loop, List.pairwise_reverse]
    exact hseen
  | cons next rest ih =>
    obtain ⟨hfirst, hrest⟩ := List.pairwise_cons.mp hsorted
    rw [List.eraseRepsBy.loop]
    by_cases heq : first = next
    · subst heq
      simpa using ih hrest hseen
    · have hne : (first == next) = false := by simp [heq]
      have hlt : first < next := Std.lt_of_le_of_ne (hfirst next List.mem_cons_self) heq
      simp only [hne]
      apply ih hrest
      refine List.pairwise_cons.mpr ⟨?_, hseen⟩
      intro name hname
      rcases List.mem_cons.mp hname with rfl | hname
      · exact hlt
      · exact String.lt_trans ((List.pairwise_cons.mp hseen).1 name hname) hlt

end Sorted

/-- A name is listed exactly when it is among those of the operations. -/
theorem mem_available_iff_mem_names {r : Registry} {name : String} :
    name ∈ r.available ↔ name ∈ r.names := by
  have hsort := (r.names.mergeSort_perm fun a b => decide (a ≤ b)).mem_iff (a := name)
  rw [← hsort, available, List.eraseReps]
  cases r.names.mergeSort fun a b => decide (a ≤ b) with
  | nil => simp [List.eraseRepsBy]
  | cons first rest => simp [List.eraseRepsBy, mem_eraseRepsLoop_iff]

/-- The listing is in alphabetical order without repetition. -/
theorem pairwise_available (r : Registry) : r.available.Pairwise (· < ·) := by
  have hsorted : (r.names.mergeSort fun a b => decide (a ≤ b)).Pairwise (· ≤ ·) := by
    have htrans : ∀ a b c : String, decide (a ≤ b) → decide (b ≤ c) → decide (a ≤ c) := by
      simpa using fun a b c : String => String.le_trans
    have htotal : ∀ a b : String, decide (a ≤ b) || decide (b ≤ a) := by
      simpa using String.le_total
    simpa using List.pairwise_mergeSort htrans htotal r.names
  rw [available, List.eraseReps]
  cases hnames : r.names.mergeSort fun a b => decide (a ≤ b) with
  | nil => exact List.Pairwise.nil
  | cons first rest =>
    rw [hnames] at hsorted
    exact pairwise_eraseRepsLoop hsorted (List.pairwise_singleton _ _)

/-- No name is listed twice. -/
theorem nodup_available (r : Registry) : r.available.Nodup :=
  (pairwise_available r).imp Std.ne_of_lt

variable {r : Registry} {path : List String} {name : String} {found op : Operation}

/-- A name of its own has no point and is not empty. -/
theorem isHeaderName_undotted (h : IsHeaderName name) : '.' ∉ name.toList ∧ name ≠ "" := by
  obtain ⟨c, rest, hname, hstart, hword⟩ := h
  constructor
  · rw [hname, List.mem_cons, not_or]
    constructor
    · rintro rfl
      revert hstart
      decide
    · intro hmem
      have hpoint := List.all_eq_true.mp hword '.' hmem
      revert hpoint
      decide
  · rintro rfl
    cases hname

/-- The names of a container are its own and those of the containers within after their names. -/
theorem names_eq (r : Registry) :
    r.names = r.operations.map Prod.fst ++
      r.children.flatMap fun c => c.2.names.map (c.1 ++ "." ++ ·) := by
  have hchildren : ∀ children : List (String × Registry),
      childNames children = children.flatMap fun c => c.2.names.map (c.1 ++ "." ++ ·) := by
    intro children
    induction children with
    | nil => rfl
    | cons c rest ih => rw [childNames, ih, List.flatMap_cons]
  cases r
  rw [names, hchildren]

/-- The names of a container are the places of its operations, put together. -/
theorem Tidy.names_eq_map_placed (h : r.Tidy) : r.names = r.placed.map fun e => dotted e.1 := by
  induction h with
  | @mk r _ _ _ _ ih =>
    have hwithin : ∀ c ∈ r.children, c.2.names.map (c.1 ++ "." ++ ·) =
        c.2.placed.map fun e => dotted (c.1 :: e.1) := by
      intro c hc
      rw [ih c hc, List.map_map]
      apply List.map_congr_left
      intro e he
      exact (String.intercalate_cons_of_ne_nil (ne_nil_of_mem_placed he)).symm
    have hown : r.operations.map Prod.fst = r.operations.map fun e => dotted [e.1] :=
      List.map_congr_left fun _ _ => String.intercalate_singleton.symm
    rw [names_eq, placed_eq, List.map_append, List.map_map, List.map_flatMap, hown,
      List.flatMap_congr hwithin]
    simp only [List.map_map, Function.comp_def]

/-- No own operation has an empty name, or one with a point in it. -/
theorem Tidy.operation?_eq_none (h : r.Tidy) (hname : '.' ∈ name.toList ∨ name = "") :
    r.operation? name = none := by
  cases hop : r.operation? name with
  | none => rfl
  | some op =>
    obtain ⟨hpoint, hne⟩ := isHeaderName_undotted (h.isHeaderName hop)
    rcases hname with hmem | rfl
    · exact absurd hmem hpoint
    · exact absurd rfl hne

/-- Several names lead through the container of the first, unless the last of two is empty. -/
theorem getPath_cons {outer : String} {rest : List String} (hrest : rest ≠ [])
    (hlast : rest ≠ [""]) :
    r.getPath (outer :: rest) =
      match r.child? outer with
      | some child => (child.getPath rest).map (Operation.within outer)
      | none => .error (dotted (outer :: rest)) := by
  rw [getPath]
  · rfl
  · exact hrest
  · exact hlast

/-- The parts of a name lead to an operation exactly when the containers that all but the last part
name lead to it. -/
theorem Tidy.getPath_eq_ok_iff (h : r.Tidy) :
    r.getPath (path ++ [name]) = .ok found ↔
      ∃ op, r.Leads path name op ∧ op.withinAll path = found := by
  induction path generalizing r found with
  | nil =>
    simp only [List.nil_append, getPath, leads_nil_iff]
    cases r.operation? name with
    | none => simp
    | some op => simp [Operation.withinAll]
  | cons outer rest ih =>
    have hwithin : r.getPath (outer :: (rest ++ [name])) = .ok found ↔
        ∃ child, r.child? outer = some child ∧ (child.getPath (rest ++ [name])).map
          (Operation.within outer) = .ok found := by
      by_cases hlast : rest ++ [name] = [""]
      · obtain ⟨rfl, rfl⟩ : rest = [] ∧ name = "" := by
          cases rest <;> simp_all
        have hpoint : '.' ∈ (outer ++ ".").toList := by simp
        simp only [List.nil_append, getPath, h.operation?_eq_none (Or.inl hpoint)]
        constructor
        · intro hfound
          cases hfound
        · rintro ⟨child, hchild, hfound⟩
          rw [(h.of_child? hchild).operation?_eq_none (Or.inr rfl)] at hfound
          cases hfound
      · rw [getPath_cons (by simp) hlast]
        cases r.child? outer <;> simp
    simp only [List.cons_append, hwithin, leads_cons_iff, Outcome.map_eq_ok_iff]
    constructor
    · rintro ⟨child, hchild, inner, hinner, rfl⟩
      obtain ⟨op, hleads, rfl⟩ := (ih (h.of_child? hchild)).mp hinner
      exact ⟨op, ⟨child, hchild, hleads⟩, rfl⟩
    · rintro ⟨op, ⟨child, hchild, hleads⟩, rfl⟩
      exact ⟨child, hchild, _, (ih (h.of_child? hchild)).mpr ⟨op, hleads, rfl⟩, rfl⟩

/-- A name is listed exactly when it is put together of a place that leads to an operation. -/
theorem Tidy.mem_available_iff (h : r.Tidy) {listed : String} :
    listed ∈ r.available ↔
      ∃ path name op, r.Leads path name op ∧ dotted (path ++ [name]) = listed := by
  rw [mem_available_iff_mem_names, h.names_eq_map_placed, List.mem_map]
  constructor
  · rintro ⟨⟨place, op⟩, hmem, rfl⟩
    obtain ⟨path, name, rfl⟩ := exists_of_ne_nil (ne_nil_of_mem_placed hmem)
    exact ⟨path, name, op, h.mem_placed_iff_leads.mp hmem, rfl⟩
  · rintro ⟨path, name, op, hleads, rfl⟩
    exact ⟨(path ++ [name], op), h.mem_placed_iff_leads.mpr hleads, rfl⟩

/-- A place without points in the names of its containers is read back from the name that it is put
together to. -/
theorem Tidy.undotted_dotted_of_leads (h : r.Tidy) (hleads : r.Leads path name op)
    (hpath : ∀ outer ∈ path, '.' ∉ outer.toList) :
    undotted (dotted (path ++ [name])) = path ++ [name] := by
  apply undotted_dotted (by simp)
  intro part hpart
  rcases List.mem_append.mp hpart with hpart | hpart
  · exact hpath part hpart
  · obtain rfl := List.mem_singleton.mp hpart
    exact (isHeaderName_undotted (h.isHeaderName_of_leads hleads)).1

/-- A name is found exactly when it is put together of a place that leads to an operation through
containers without points in their names. -/
theorem Tidy.get_eq_ok_iff (h : r.Tidy) {listed : String} :
    r.get listed = .ok found ↔
      ∃ path name op, r.Leads path name op ∧ dotted (path ++ [name]) = listed ∧
        (∀ outer ∈ path, '.' ∉ outer.toList) ∧ op.withinAll path = found := by
  constructor
  · intro hget
    obtain ⟨path, name, hparts⟩ := exists_of_ne_nil (undotted_ne_nil listed)
    have hpath : r.getPath (path ++ [name]) = .ok found := hparts ▸ hget
    obtain ⟨op, hleads, hfound⟩ := h.getPath_eq_ok_iff.mp hpath
    refine ⟨path, name, op, hleads, ?_, ?_, hfound⟩
    · rw [← hparts, dotted_undotted]
    · intro outer houter
      have hmem : outer ∈ undotted listed := by
        rw [hparts]
        exact List.mem_append_left _ houter
      exact point_not_mem_of_mem_undotted hmem
  · rintro ⟨path, name, op, hleads, rfl, hpath, hfound⟩
    change r.getPath (undotted (dotted (path ++ [name]))) = .ok found
    rw [h.undotted_dotted_of_leads hleads hpath, h.getPath_eq_ok_iff]
    exact ⟨op, hleads, hfound⟩

/-- Whether a container divides a name can be told from the places of the operations. -/
theorem Tidy.undivided_iff (h : r.Tidy) :
    r.Undivided ↔
      ∀ place ∈ r.placed.map Prod.fst, ∀ outer ∈ place.dropLast, '.' ∉ outer.toList := by
  constructor
  · intro hplain place hplace outer houter
    obtain ⟨⟨_, op⟩, he, rfl⟩ := List.mem_map.mp hplace
    obtain ⟨path, name, rfl⟩ := exists_of_ne_nil (ne_nil_of_mem_placed he)
    rw [List.dropLast_concat] at houter
    exact hplain path name op (h.mem_placed_iff_leads.mp he) outer houter
  · intro hplaces path name op hleads outer houter
    apply hplaces (path ++ [name])
    · exact List.mem_map.mpr ⟨_, h.mem_placed_iff_leads.mpr hleads, rfl⟩
    · rwa [List.dropLast_concat]

/-- Where no container divides a name, no two operations have the same name in the listing. -/
theorem Tidy.dotted_nodup (h : r.Tidy) (hplain : r.Undivided) :
    (r.placed.map fun e => dotted e.1).Nodup := by
  have hback : ∀ e ∈ r.placed, undotted (dotted e.1) = e.1 := by
    rintro ⟨place, op⟩ he
    obtain ⟨path, name, rfl⟩ := exists_of_ne_nil (ne_nil_of_mem_placed he)
    have hleads := h.mem_placed_iff_leads.mp he
    exact h.undotted_dotted_of_leads hleads (hplain path name op hleads)
  have hsame : ((r.placed.map fun e => dotted e.1).map undotted) = r.placed.map Prod.fst := by
    rw [List.map_map]
    exact List.map_congr_left hback
  exact List.Nodup.of_map undotted (hsame ▸ h.places_nodup)

/-- Where no container divides a name, listing and looking up agree. -/
theorem Tidy.agrees (h : r.Tidy) (hplain : r.Undivided) : r.Agrees := by
  have hlisted : ∀ listed, listed ∈ r.available ↔ ∃ op, r.get listed = .ok op := by
    intro listed
    rw [h.mem_available_iff]
    constructor
    · rintro ⟨path, name, op, hleads, heq⟩
      exact ⟨_, h.get_eq_ok_iff.mpr
        ⟨path, name, op, hleads, heq, hplain path name op hleads, rfl⟩⟩
    · rintro ⟨found, hfound⟩
      obtain ⟨path, name, op, hleads, heq, _⟩ := h.get_eq_ok_iff.mp hfound
      exact ⟨path, name, op, hleads, heq⟩
  refine ⟨hlisted, ?_, ?_, pairwise_available r, ?_, ?_⟩
  · intro name
    simp [contains]
  · intro name hnot
    cases hget : r.get name with
    | ok op => exact absurd ((hlisted name).mpr ⟨op, hget⟩) hnot
    | error text => exact ⟨text, by rw [require, hget]; rfl⟩
  · rw [List.perm_ext_iff_of_nodup (nodup_available r) (h.dotted_nodup hplain)]
    intro listed
    rw [mem_available_iff_mem_names, h.names_eq_map_placed]
  · intro path name op hleads
    exact h.get_eq_ok_iff.mpr ⟨path, name, op, hleads, rfl, hplain path name op hleads, rfl⟩

/-- Listing and looking up agree exactly where no container divides a name. -/
theorem Tidy.agrees_iff (h : r.Tidy) : r.Agrees ↔ r.Undivided := by
  refine ⟨?_, h.agrees⟩
  intro hagrees path name op hleads
  -- The name is found as well, but by a place without points, and it is listed once.
  have hlisted := h.mem_available_iff.mpr ⟨path, name, op, hleads, rfl⟩
  obtain ⟨found, hfound⟩ := (hagrees.listed_iff _).mp hlisted
  obtain ⟨path', name', op', hleads', heq, hplain, _⟩ := h.get_eq_ok_iff.mp hfound
  have honce := hagrees.listed_once.nodup_iff.mp (nodup_available r)
  have hsame := List.inj_on_of_nodup_map honce (h.mem_placed_iff_leads.mpr hleads')
    (h.mem_placed_iff_leads.mpr hleads) heq
  obtain ⟨hplace, _⟩ := Prod.mk.inj hsame
  have hpath : path' = path := by simpa using congrArg List.dropLast hplace
  exact hpath ▸ hplain

end Registry

end AnnotatedSql
