import AnnotatedSql.Statement.Resolution
import Mathlib.Data.Int.Notation
import Mathlib.Data.List.Nodup
import Mathlib.Data.Nat.Notation

/-!
# What resolving guarantees

Resolving either finds a problem or gives parameters that fit the body: no two have one name,
each stands at its position, and every marker has a parameter of its name and multiplicity.
These are the facts that assembling queries and making operations rely on.
-/

set_option autoImplicit false

namespace AnnotatedSql

namespace Resolution

/-- Every marker of a body is met by the first uses of the names, which have different names. -/
structure FirstUses (markers uses : List Marker) : Prop where
  covered : ∀ m ∈ markers, ∃ u ∈ uses, u.name = m.name ∧ u.multiplicity = m.multiplicity
  used : ∀ u ∈ uses, u ∈ markers
  names_nodup : (uses.map Marker.name).Nodup

/-- A marker of a new name is a first use. -/
theorem FirstUses.add {seen uses : List Marker} {m : Marker} (h : FirstUses seen uses)
    (hnew : ∀ u ∈ uses, u.name ≠ m.name) : FirstUses (seen ++ [m]) (uses ++ [m]) := by
  refine ⟨?_, ?_, ?_⟩
  · intro k hk
    rcases List.mem_append.mp hk with hk | hk
    · obtain ⟨u, hu, heq⟩ := h.covered k hk
      exact ⟨u, List.mem_append_left _ hu, heq⟩
    · have hkm : k = m := by simpa using hk
      exact ⟨m, by simp, by simp [hkm]⟩
  · intro u hu
    rcases List.mem_append.mp hu with hu | hu
    · exact List.mem_append_left _ (h.used u hu)
    · exact List.mem_append_right _ hu
  · rw [List.map_append, List.nodup_append]
    refine ⟨h.names_nodup, by simp, ?_⟩
    intro a ha b hb
    obtain ⟨u, hu, rfl⟩ := List.mem_map.mp ha
    have hbm : b = m.name := by simpa using hb
    exact hbm ▸ hnew u hu

/-- A marker that is used like one before it is no first use. -/
theorem FirstUses.repeated {seen uses : List Marker} {m u : Marker} (h : FirstUses seen uses)
    (hu : u ∈ uses) (hname : u.name = m.name) (hmultiplicity : u.multiplicity = m.multiplicity) :
    FirstUses (seen ++ [m]) uses := by
  refine ⟨?_, ?_, h.names_nodup⟩
  · intro k hk
    rcases List.mem_append.mp hk with hk | hk
    · exact h.covered k hk
    · have hkm : k = m := by simpa using hk
      exact ⟨u, hu, by rw [hkm, hname], by rw [hkm, hmultiplicity]⟩
  · intro v hv
    exact List.mem_append_left _ (h.used v hv)

/-- A successful walk over the markers meets those seen before and those it walks over. -/
theorem firstUses_ok {seen uses rest : List Marker} {found : List Marker}
    (huses : FirstUses seen uses) (hok : firstUses uses rest = .ok found) :
    FirstUses (seen ++ rest) found := by
  induction rest generalizing seen uses with
  | nil =>
    simp only [firstUses, Except.ok.injEq] at hok
    simpa [hok] using huses
  | cons m rest ih =>
    have hassoc : seen ++ m :: rest = (seen ++ [m]) ++ rest := by simp
    rw [hassoc]
    cases hfind : uses.find? fun u => u.name == m.name with
    | none =>
      simp only [firstUses, hfind] at hok
      have hnew : ∀ u ∈ uses, u.name ≠ m.name := by
        intro u hu
        simpa using List.find?_eq_none.mp hfind u hu
      exact ih (huses.add hnew) hok
    | some u =>
      have hu := List.mem_of_find?_eq_some hfind
      have hname : u.name = m.name := by simpa using List.find?_some hfind
      simp only [firstUses, hfind] at hok
      split at hok
      · next hsame => exact ih (huses.repeated hu hname hsame) hok
      · cases hok

/-- Before the walk nothing is seen or in use. -/
theorem firstUses_nil : FirstUses [] [] := ⟨by simp, by simp, by simp⟩

/-- A successful walk over all markers meets them. -/
theorem firstUses_of_ok {markers found : List Marker} (hok : firstUses [] markers = .ok found) :
    FirstUses markers found :=
  firstUses_ok firstUses_nil hok

/-- A declaration that is found has the name that was looked for. -/
theorem declaration?_eq_some {declarations : List Declaration} {name : String} {d : Declaration}
    (h : declaration? declarations name = some d) : d ∈ declarations ∧ d.name = name := by
  have hmem := List.mem_of_find?_eq_some h
  have hname := List.find?_some h
  exact ⟨List.mem_reverse.mp hmem, by simpa using hname⟩

/-- A use without a problem is declared with its multiplicity. -/
theorem misuse?_eq_none {declarations : List Declaration} {use : Marker}
    (h : misuse? declarations use = none) :
    ∃ d ∈ declarations, d.name = use.name ∧ d.multiplicity = use.multiplicity := by
  unfold misuse? at h
  cases hfound : declaration? declarations use.name with
  | none => simp [hfound] at h
  | some d =>
    obtain ⟨hmem, hname⟩ := declaration?_eq_some hfound
    simp only [hfound] at h
    split at h
    · next hsame => exact ⟨d, hmem, hname, hsame⟩
    · cases h

end Resolution

/-- Parameters serve a body: each stands at its position, and every marker has one. -/
structure Serves (parameters : List Parameter) (tokens : List Token) : Prop where
  position_eq : ∀ (i : ℕ) p, parameters[i]? = some p → p.position = (i : ℤ)
  marker_has : ∀ m ∈ Token.markers tokens, ∃ p ∈ parameters,
    p.name = m.name ∧ p.multiplicity = m.multiplicity

/-- Parameters fit a body: different names, each at its position, one for every marker. -/
structure Fit (kind : StatementKind) (parameters : List Parameter) (tokens : List Token) :
    Prop where
  names_nodup : (parameters.map Parameter.name).Nodup
  position_eq : ∀ (i : ℕ) p, parameters[i]? = some p → p.position = (i : ℤ)
  marker_has : ∀ m ∈ Token.markers tokens, ∃ p ∈ parameters,
    p.name = m.name ∧ p.multiplicity = m.multiplicity
  batch_plain : kind = .batch → parameters = [] ∧ Token.markers tokens = []

/-- Parameters that fit a body serve it. -/
theorem Fit.serves {kind : StatementKind} {parameters : List Parameter} {tokens : List Token}
    (h : Fit kind parameters tokens) : Serves parameters tokens :=
  ⟨h.position_eq, h.marker_has⟩

namespace Resolution

/-- What is read of numbered elements and does not depend on the number is read of the elements. -/
theorem map_mapIdx_of_forall {α β γ : Type} {number : ℕ → α → β} {read : β → γ} {same : α → γ}
    (h : ∀ i a, read (number i a) = same a) (list : List α) :
    (list.mapIdx number).map read = list.map same := by
  apply List.ext_getElem?
  intro i
  simp only [List.getElem?_map, List.getElem?_mapIdx, Option.map_map]
  congr 1
  funext a
  exact h i a

/-- The parameters of undeclared markers have their names. -/
theorem map_name_inferred (uses : List Marker) :
    (inferred uses).map Parameter.name = uses.map Marker.name :=
  map_mapIdx_of_forall (by intros; rfl) uses

/-- The parameters of declarations have their names. -/
theorem map_name_declared (uses : List Marker) (declarations : List Declaration) :
    (declared uses declarations).map Parameter.name = declarations.map Declaration.name :=
  map_mapIdx_of_forall (by intros; rfl) declarations

/-- Undeclared markers whose first uses are known serve the body. -/
theorem serves_inferred {tokens : List Token} {uses : List Marker}
    (huses : FirstUses (Token.markers tokens) uses) : Serves (inferred uses) tokens := by
  constructor
  · intro i p hp
    rw [inferred, List.getElem?_mapIdx, Option.map_eq_some_iff] at hp
    obtain ⟨m, _, rfl⟩ := hp
    rfl
  · intro m hm
    obtain ⟨u, hu, hname, hmultiplicity⟩ := huses.covered m hm
    obtain ⟨i, hi, rfl⟩ := List.mem_iff_getElem.mp hu
    exact ⟨_, List.mem_mapIdx.mpr ⟨i, hi, rfl⟩, hname, hmultiplicity⟩

/-- Declarations that every marker agrees with serve the body. -/
theorem serves_declared {declarations : List Declaration} {tokens : List Token}
    {uses : List Marker} (huses : FirstUses (Token.markers tokens) uses)
    (hagree : ∀ u ∈ uses, misuse? declarations u = none) :
    Serves (declared uses declarations) tokens := by
  constructor
  · intro i p hp
    rw [declared, List.getElem?_mapIdx, Option.map_eq_some_iff] at hp
    obtain ⟨d, _, rfl⟩ := hp
    rfl
  · intro m hm
    obtain ⟨u, hu, hname, hmultiplicity⟩ := huses.covered m hm
    obtain ⟨d, hd, hdname, hdmultiplicity⟩ := misuse?_eq_none (hagree u hu)
    obtain ⟨i, hi, rfl⟩ := List.mem_iff_getElem.mp hd
    exact ⟨_, List.mem_mapIdx.mpr ⟨i, hi, rfl⟩, hdname.trans hname,
      hdmultiplicity.trans hmultiplicity⟩

/-- Undeclared markers whose first uses are known fit the body. -/
theorem fit_inferred {kind : StatementKind} {tokens : List Token} {uses : List Marker}
    (huses : FirstUses (Token.markers tokens) uses)
    (hbatch : kind = .batch → Token.markers tokens = []) : Fit kind (inferred uses) tokens := by
  obtain ⟨hposition, hmarkers⟩ := serves_inferred huses
  refine ⟨?_, hposition, hmarkers, ?_⟩
  · rw [map_name_inferred]
    exact huses.names_nodup
  · intro hkind
    have hnone := hbatch hkind
    have hempty : uses = [] := by
      apply List.eq_nil_iff_forall_not_mem.mpr
      intro u hu
      have hmem := huses.used u hu
      rw [hnone] at hmem
      exact List.not_mem_nil hmem
    exact ⟨by rw [hempty]; rfl, hnone⟩

/-- Declarations that every marker agrees with fit the body. -/
theorem fit_declared {kind : StatementKind} {declarations : List Declaration}
    {tokens : List Token} {uses : List Marker} (hnodup : (declarations.map Declaration.name).Nodup)
    (huses : FirstUses (Token.markers tokens) uses)
    (hagree : ∀ u ∈ uses, misuse? declarations u = none) (hkind : kind ≠ .batch) :
    Fit kind (declared uses declarations) tokens := by
  obtain ⟨hposition, hmarkers⟩ := serves_declared huses hagree
  refine ⟨?_, hposition, hmarkers, fun h => absurd h hkind⟩
  rw [map_name_declared]
  exact hnodup

/-- A batch statement that is accepted has neither declarations nor markers. -/
theorem parameters_batch {declarations : List Declaration} {tokens : List Token}
    {unused : UnusedPolicy} {found : List Parameter}
    (hok : parameters .batch declarations tokens unused = .ok found) :
    declarations = [] ∧ Token.markers tokens = [] := by
  unfold parameters at hok
  cases hnames : declarations.map Declaration.name ++
      (Token.markers tokens).map Marker.name with
  | nil => simpa using hnames
  | cons name rest =>
    simp only [hnames] at hok
    cases hok

/-- Apart from batch statements, the kind does not matter to the parameters. -/
theorem parameters_eq_matched {kind : StatementKind} {declarations : List Declaration}
    {tokens : List Token} (unused : UnusedPolicy)
    (hbatch : kind = .batch → declarations = [] ∧ Token.markers tokens = []) :
    parameters kind declarations tokens unused =
      matched declarations (Token.markers tokens) unused := by
  cases kind with
  | batch =>
    obtain ⟨hdeclarations, hmarkers⟩ := hbatch rfl
    unfold parameters
    simp only [hdeclarations, hmarkers, List.map_nil, List.append_nil]
  | query => rfl
  | execute => rfl
  | returning => rfl

/-- Markers are matched either without declarations or in agreement with them. -/
theorem matched_ok {declarations : List Declaration} {markers : List Marker}
    {unused : UnusedPolicy} {found : List Parameter}
    (hok : matched declarations markers unused = .ok found) :
    ∃ uses, firstUses [] markers = .ok uses ∧
      (declarations = [] ∧ found = inferred uses ∨
        declarations ≠ [] ∧ (∀ u ∈ uses, misuse? declarations u = none) ∧
          (unused = .error → unused? (declared uses declarations) = none) ∧
          found = declared uses declarations) := by
  unfold matched at hok
  cases huses : firstUses [] markers with
  | error problem => simp [huses] at hok
  | ok uses =>
    refine ⟨uses, rfl, ?_⟩
    simp only [huses] at hok
    cases declarations with
    | nil =>
      simp only [List.isEmpty_nil, if_true, Except.ok.injEq] at hok
      exact Or.inl ⟨rfl, hok.symm⟩
    | cons d rest =>
      right
      simp only [List.isEmpty_cons, Bool.false_eq_true, if_false] at hok
      cases hmisuse : uses.findSome? (misuse? (d :: rest)) with
      | some problem => simp [hmisuse] at hok
      | none =>
        refine ⟨List.cons_ne_nil d rest, List.findSome?_eq_none_iff.mp hmisuse, ?_⟩
        simp only [hmisuse] at hok
        split at hok
        · cases hok
        · next hused =>
          refine ⟨?_, (Except.ok.inj hok).symm⟩
          intro hpolicy
          cases hfirst : unused? (declared uses (d :: rest)) with
          | none => rfl
          | some p => exact absurd hfirst (hused p hpolicy)

/-- Parameters that resolving accepts come from a walk over the markers, either without
declarations or in agreement with them. -/
theorem parameters_ok {kind : StatementKind} {declarations : List Declaration}
    {tokens : List Token} {unused : UnusedPolicy} {found : List Parameter}
    (hok : parameters kind declarations tokens unused = .ok found) :
    (kind = .batch → declarations = [] ∧ Token.markers tokens = []) ∧
      ∃ uses, firstUses [] (Token.markers tokens) = .ok uses ∧
        (declarations = [] ∧ found = inferred uses ∨
          declarations ≠ [] ∧ (∀ u ∈ uses, misuse? declarations u = none) ∧
            (unused = .error → unused? (declared uses declarations) = none) ∧
            found = declared uses declarations) := by
  have hbatch : kind = .batch → declarations = [] ∧ Token.markers tokens = [] := by
    rintro rfl
    exact parameters_batch hok
  rw [parameters_eq_matched unused hbatch] at hok
  exact ⟨hbatch, matched_ok hok⟩

/-- Parameters that resolving accepts serve the body. -/
theorem serves_of_parameters {kind : StatementKind} {declarations : List Declaration}
    {tokens : List Token} {unused : UnusedPolicy} {found : List Parameter}
    (hok : parameters kind declarations tokens unused = .ok found) : Serves found tokens := by
  obtain ⟨_, uses, huses, hfound⟩ := parameters_ok hok
  rcases hfound with ⟨_, rfl⟩ | ⟨_, hagree, _, rfl⟩
  · exact serves_inferred (firstUses_of_ok huses)
  · exact serves_declared (firstUses_of_ok huses) hagree

/-- Parameters that resolving accepts fit the body, provided that each is declared once. -/
theorem fit_of_parameters {kind : StatementKind} {declarations : List Declaration}
    {tokens : List Token} {unused : UnusedPolicy} {found : List Parameter}
    (hnodup : (declarations.map Declaration.name).Nodup)
    (hok : parameters kind declarations tokens unused = .ok found) : Fit kind found tokens := by
  obtain ⟨hbatch, uses, huses, hfound⟩ := parameters_ok hok
  have hfirst := firstUses_of_ok huses
  rcases hfound with ⟨_, rfl⟩ | ⟨hsome, hagree, _, rfl⟩
  · exact fit_inferred hfirst fun h => (hbatch h).2
  · exact fit_declared hnodup hfirst hagree fun h => hsome (hbatch h).1

/-- Every parameter is named by a declaration or a marker. -/
theorem named_of_parameters {kind : StatementKind} {declarations : List Declaration}
    {tokens : List Token} {unused : UnusedPolicy} {found : List Parameter} {p : Parameter}
    (hok : parameters kind declarations tokens unused = .ok found) (hp : p ∈ found) :
    (∃ d ∈ declarations, d.name = p.name) ∨ ∃ m ∈ Token.markers tokens, m.name = p.name := by
  obtain ⟨_, uses, huses, hfound⟩ := parameters_ok hok
  have hname : p.name ∈ found.map Parameter.name := List.mem_map_of_mem hp
  rcases hfound with ⟨_, rfl⟩ | ⟨_, _, _, rfl⟩
  · right
    rw [map_name_inferred] at hname
    obtain ⟨u, hu, heq⟩ := List.mem_map.mp hname
    exact ⟨u, (firstUses_of_ok huses).used u hu, heq⟩
  · left
    rw [map_name_declared] at hname
    obtain ⟨d, hd, heq⟩ := List.mem_map.mp hname
    exact ⟨d, hd, heq⟩

/-- No name is used with both sigils. -/
def Consistent (markers : List Marker) : Prop :=
  ∀ m ∈ markers, ∀ k ∈ markers, m.name = k.name → m.multiplicity = k.multiplicity

instance (markers : List Marker) : Decidable (Consistent markers) :=
  inferInstanceAs (Decidable (∀ m ∈ markers, ∀ k ∈ markers, _ → _))

/-- Declarations and markers that do not contradict each other. -/
structure Resolvable (kind : StatementKind) (declarations : List Declaration)
    (markers : List Marker) (unused : UnusedPolicy) : Prop where
  /-- A batch statement has neither. -/
  batch_plain : kind = .batch → declarations = [] ∧ markers = []
  /-- Every name has one sigil. -/
  consistent : Consistent markers
  /-- Where there are declarations, every marker is declared. -/
  declared : declarations ≠ [] → ∀ m ∈ markers, ∃ d ∈ declarations,
    d.name = m.name ∧ d.multiplicity = m.multiplicity
  /-- Where this is asked for, every declared parameter is used. -/
  used : unused = .error → ∀ d ∈ declarations, ∃ m ∈ markers, m.name = d.name

/-- The walk over consistent markers succeeds. -/
theorem firstUses_of_consistent {uses rest : List Marker} (h : Consistent (uses ++ rest)) :
    ∃ found, firstUses uses rest = .ok found := by
  induction rest generalizing uses with
  | nil => exact ⟨uses, rfl⟩
  | cons m rest ih =>
    cases hfind : uses.find? fun u => u.name == m.name with
    | none =>
      simp only [firstUses, hfind]
      exact ih (by simpa using h)
    | some u =>
      have hu := List.mem_of_find?_eq_some hfind
      have hname : u.name = m.name := by simpa using List.find?_some hfind
      have hsame := h u (by simp [hu]) m (by simp) hname
      simp only [firstUses, hfind, hsame, if_true]
      apply ih
      intro a ha b hb
      have hgrow : ∀ c ∈ uses ++ rest, c ∈ uses ++ m :: rest := by
        intro c hc
        rcases List.mem_append.mp hc with hc | hc
        · exact List.mem_append_left _ hc
        · exact List.mem_append_right _ (List.mem_cons_of_mem _ hc)
      exact h a (hgrow a ha) b (hgrow b hb)

/-- Among declarations with different names, each is found by its name. -/
theorem declaration?_of_mem {declarations : List Declaration} {d : Declaration}
    (hnodup : (declarations.map Declaration.name).Nodup) (hd : d ∈ declarations) :
    declaration? declarations d.name = some d := by
  cases hfound : declaration? declarations d.name with
  | none =>
    have hnone := List.find?_eq_none.mp hfound d (List.mem_reverse.mpr hd)
    simp at hnone
  | some found =>
    obtain ⟨hmem, hname⟩ := declaration?_eq_some hfound
    rw [List.inj_on_of_nodup_map hnodup hmem hd hname]

/-- A use that is declared with its multiplicity has no problem. -/
theorem misuse?_of_declared {declarations : List Declaration} {use : Marker} {d : Declaration}
    (hnodup : (declarations.map Declaration.name).Nodup) (hd : d ∈ declarations)
    (hname : d.name = use.name) (hmultiplicity : d.multiplicity = use.multiplicity) :
    misuse? declarations use = none := by
  have hfound := declaration?_of_mem hnodup hd
  rw [hname] at hfound
  simp [misuse?, hfound, hmultiplicity]

/-- Parameters of declarations that all have markers are all used. -/
theorem unused?_declared {uses : List Marker} {declarations : List Declaration}
    (h : ∀ d ∈ declarations, ∃ u ∈ uses, u.name = d.name) :
    unused? (declared uses declarations) = none := by
  apply List.find?_eq_none.mpr
  intro p hp
  obtain ⟨i, hi, rfl⟩ := List.mem_mapIdx.mp hp
  obtain ⟨u, hu, hname⟩ := h _ (List.getElem_mem hi)
  have hany : (uses.any fun u => u.name == declarations[i].name) = true := by
    simp only [List.any_eq_true, beq_iff_eq]
    exact ⟨u, hu, hname⟩
  simp [hany]

/-- What does not contradict is resolved: to the declared parameters, or to those of the markers
where nothing is declared. -/
theorem parameters_of_resolvable {kind : StatementKind} {declarations : List Declaration}
    {tokens : List Token} {unused : UnusedPolicy}
    (hnodup : (declarations.map Declaration.name).Nodup)
    (h : Resolvable kind declarations (Token.markers tokens) unused) :
    ∃ uses, parameters kind declarations tokens unused =
      .ok (if declarations.isEmpty then inferred uses else declared uses declarations) := by
  rw [parameters_eq_matched unused h.batch_plain]
  obtain ⟨uses, huses⟩ : ∃ uses, firstUses [] (Token.markers tokens) = .ok uses :=
    firstUses_of_consistent h.consistent
  have hfirst := firstUses_of_ok huses
  refine ⟨uses, ?_⟩
  simp only [matched, huses]
  cases hdeclarations : declarations.isEmpty with
  | true => rfl
  | false =>
    have hsome : declarations ≠ [] := by simpa using hdeclarations
    have hagree : uses.findSome? (misuse? declarations) = none := by
      apply List.findSome?_eq_none_iff.mpr
      intro u hu
      obtain ⟨d, hd, hname, hmultiplicity⟩ := h.declared hsome u (hfirst.used u hu)
      exact misuse?_of_declared hnodup hd hname hmultiplicity
    simp only [Bool.false_eq_true, if_false, hagree]
    cases unused with
    | error =>
      have hused : unused? (declared uses declarations) = none := by
        apply unused?_declared
        intro d hd
        obtain ⟨m, hm, hname⟩ := h.used rfl d hd
        obtain ⟨u, hu, heq, _⟩ := hfirst.covered m hm
        exact ⟨u, hu, heq.trans hname⟩
      simp only [hused]
    | warn => rfl
    | ignore => rfl

end Resolution

end AnnotatedSql
