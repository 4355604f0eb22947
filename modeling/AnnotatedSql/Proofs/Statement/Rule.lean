import AnnotatedSql.Proofs.Outcome
import AnnotatedSql.Proofs.Statement.Resolution

/-!
# The rules of resolution

Declarations and markers are checked against four rules, in a fixed order. They are refused exactly
when they break one of them, with the problem of the first that they break. Otherwise the declared
parameters are those of the statement or, where nothing is declared, the names of the markers.
-/

set_option autoImplicit false

namespace AnnotatedSql

namespace Resolution

/-- A marker is declared as it is used. -/
def Declares (declarations : List Declaration) (m : Marker) : Prop :=
  ∃ d ∈ declarations, d.name = m.name ∧ d.multiplicity = m.multiplicity

/-- Some marker has the name. -/
def Uses (markers : List Marker) (name : String) : Prop :=
  ∃ m ∈ markers, m.name = name

/-- What declarations and markers keep to. -/
inductive Rule where
  /-- A batch statement has neither declarations nor markers. -/
  | plainBatch
  /-- A name is used with one sigil. -/
  | oneSigil
  /-- Where there are declarations, every marker is declared as it is used. -/
  | declared
  /-- Under the policy to refuse what is not used, every declared parameter is used. -/
  | used

namespace Rule

/-- The rules that are checked before a rule. -/
def earlier : Rule → List Rule
  | plainBatch => []
  | oneSigil => [plainBatch]
  | declared => [plainBatch, oneSigil]
  | used => [plainBatch, oneSigil, declared]

/-- A rule is broken. -/
def Broken (kind : StatementKind) (declarations : List Declaration) (markers : List Marker)
    (unused : UnusedPolicy) : Rule → Prop
  | plainBatch => kind = .batch ∧ (declarations ≠ [] ∨ markers ≠ [])
  | oneSigil => ∃ m ∈ markers, ∃ k ∈ markers, m.name = k.name ∧ m.multiplicity ≠ k.multiplicity
  | declared => declarations ≠ [] ∧ ∃ m ∈ markers, ¬ Declares declarations m
  | used => declarations ≠ [] ∧ unused = .error ∧ ∃ d ∈ declarations, ¬ Uses markers d.name

/-- A rule is broken, and none that is checked before it. -/
structure IsFirstBroken (kind : StatementKind) (declarations : List Declaration)
    (markers : List Marker) (unused : UnusedPolicy) (rule : Rule) : Prop where
  broken : rule.Broken kind declarations markers unused
  earlier : ∀ r ∈ rule.earlier, ¬ r.Broken kind declarations markers unused

/-- The problem that is reported of a broken rule, and the kind of its error. -/
inductive Reports (declarations : List Declaration) (markers : List Marker) :
    Rule → Problem → ErrorKind → Prop
  /-- The first declaration of a batch statement or, where nothing is declared, its first marker. -/
  | plainBatch {name : String} {others : List String}
      (names : declarations.map Declaration.name ++ markers.map Marker.name = name :: others) :
      Reports declarations markers .plainBatch (.batchParameter name) .kindMismatch
  /-- The first marker that has the name of one before it, but another sigil. -/
  | oneSigil {before after : List Marker} {m k : Marker} (split : markers = before ++ m :: after)
      (consistent : Consistent before) (mem : k ∈ before) (name_eq : k.name = m.name)
      (multiplicity_ne : k.multiplicity ≠ m.multiplicity) :
      Reports declarations markers .oneSigil (.mixedUse m.name) .mixedMultiplicity
  /-- The first of the names in use that is not declared as it is used: it is not declared. -/
  | undeclared {before after : List Marker} {m : Marker}
      (split : markers.eraseDups = before ++ m :: after)
      (before_declared : ∀ k ∈ before, Declares declarations k)
      (missing : ∀ d ∈ declarations, d.name ≠ m.name) :
      Reports declarations markers .declared (.undeclared m.multiplicity m.name) .unboundParameter
  /-- The first of the names in use that is not declared as it is used: it is declared otherwise. -/
  | contradicted {before after : List Marker} {m : Marker} {d : Declaration}
      (split : markers.eraseDups = before ++ m :: after)
      (before_declared : ∀ k ∈ before, Declares declarations k)
      (mem : d ∈ declarations) (name_eq : d.name = m.name)
      (multiplicity_ne : d.multiplicity ≠ m.multiplicity) :
      Reports declarations markers .declared (.contradiction m.name d.multiplicity m.multiplicity)
        .mixedMultiplicity
  /-- The first declared parameter that is not used. -/
  | unused {before after : List Declaration} {d : Declaration}
      (split : declarations = before ++ d :: after)
      (before_used : ∀ c ∈ before, Uses markers c.name) (missing : ¬ Uses markers d.name) :
      Reports declarations markers .used (.unusedParameter d.name) .unusedParameter

end Rule

/-- A rule is broken and no earlier one, and the problem is that of the rule. -/
def Refused (kind : StatementKind) (declarations : List Declaration) (markers : List Marker)
    (unused : UnusedPolicy) (problem : Problem) : Prop :=
  ∃ rule : Rule, rule.IsFirstBroken kind declarations markers unused ∧
    rule.Reports declarations markers problem problem.kind

/-- The parameters of declarations and markers that break no rule. -/
structure Resolved (declarations : List Declaration) (markers : List Marker)
    (found : List Parameter) : Prop where
  /-- They are declared, in this order and with these types. Where nothing is declared there is one
  for each name in use, in the order of first use, and it has no type. -/
  entries_eq : found.map (fun p => (p.name, p.multiplicity, p.declaredType)) =
    if declarations = [] then markers.eraseDups.map fun m => (m.name, m.multiplicity, none)
    else declarations.map fun d => (d.name, d.multiplicity, some d.declaredType)
  /-- No two have one name. -/
  names_nodup : (found.map Parameter.name).Nodup
  /-- Each stands at its position. -/
  position_eq : ∀ (i : ℕ) p, found[i]? = some p → p.position = (i : ℤ)
  /-- Each says whether it is used. -/
  referenced_iff : ∀ p ∈ found, p.referenced = true ↔ Uses markers p.name
  /-- Every marker has one of its name and multiplicity. -/
  marker_has : ∀ m ∈ markers, ∃ p ∈ found, p.name = m.name ∧ p.multiplicity = m.multiplicity

section Markers

variable {declarations : List Declaration} {markers seen uses rest : List Marker}

/-- The first uses have the names of the markers. -/
theorem FirstUses.uses_iff {name : String} (h : FirstUses markers uses) :
    Uses uses name ↔ Uses markers name := by
  constructor
  · rintro ⟨u, hu, hname⟩
    exact ⟨u, h.used u hu, hname⟩
  · rintro ⟨m, hm, hname⟩
    obtain ⟨u, hu, heq, _⟩ := h.covered m hm
    exact ⟨u, hu, heq.trans hname⟩

/-- Every marker is declared as it is used when the first uses are. -/
theorem declares_of_agree (h : FirstUses markers uses)
    (hagree : ∀ u ∈ uses, misuse? declarations u = none) :
    ∀ m ∈ markers, Declares declarations m := by
  intro m hm
  obtain ⟨u, hu, hname, hmultiplicity⟩ := h.covered m hm
  obtain ⟨d, hd, hdname, hdmultiplicity⟩ := misuse?_eq_none (hagree u hu)
  exact ⟨d, hd, hdname.trans hname, hdmultiplicity.trans hmultiplicity⟩

/-- Markers that are met by different names are consistent. -/
theorem FirstUses.consistent (h : FirstUses markers uses) : Consistent markers := by
  intro m hm k hk hname
  obtain ⟨u, hu, huname, humultiplicity⟩ := h.covered m hm
  obtain ⟨v, hv, hvname, hvmultiplicity⟩ := h.covered k hk
  have hsame : u = v :=
    List.inj_on_of_nodup_map h.names_nodup hu hv (by rw [huname, hvname, hname])
  rw [← humultiplicity, hsame, hvmultiplicity]

/-- One more marker is kept unless it is there already. -/
theorem eraseDups_concat (seen : List Marker) (m : Marker) :
    (seen ++ [m]).eraseDups = if m ∈ seen then seen.eraseDups else seen.eraseDups ++ [m] := by
  rw [List.eraseDups_append]
  by_cases hm : m ∈ seen
  · simp [List.removeAll, hm]
  · simp [List.removeAll, hm, List.eraseDups_cons]

/-- The walk over the markers keeps each of them once. -/
theorem firstUses_eq_eraseDups {found : List Marker} (huses : FirstUses seen uses)
    (hseen : uses = seen.eraseDups) (hok : firstUses uses rest = .ok found) :
    found = (seen ++ rest).eraseDups := by
  induction rest generalizing seen uses with
  | nil =>
    simp only [firstUses, Except.ok.injEq] at hok
    rw [← hok, hseen, List.append_nil]
  | cons m rest ih =>
    rw [List.append_cons]
    cases hfind : uses.find? fun u => u.name == m.name with
    | none =>
      simp only [firstUses, hfind] at hok
      have hnew : ∀ u ∈ uses, u.name ≠ m.name := by
        intro u hu
        simpa using List.find?_eq_none.mp hfind u hu
      have hnotseen : m ∉ seen := by
        intro hm
        exact hnew m (hseen ▸ List.mem_eraseDups.mpr hm) rfl
      refine ih (huses.add hnew) ?_ hok
      rw [eraseDups_concat, if_neg hnotseen, hseen]
    | some u =>
      have hu := List.mem_of_find?_eq_some hfind
      have hname : u.name = m.name := by simpa using List.find?_some hfind
      simp only [firstUses, hfind] at hok
      split at hok
      · next hsame =>
        have hmem : m ∈ seen := by
          have heq : u = m := by
            cases u
            cases m
            simp_all
          rw [← heq]
          exact huses.used u hu
        refine ih (huses.repeated hu hname hsame) ?_ hok
        rw [eraseDups_concat, if_pos hmem, hseen]
      · cases hok

/-- The walk over the markers fails at the first that has the name of one before it, but another
sigil. -/
theorem firstUses_eq_error {problem : Problem} (huses : FirstUses seen uses)
    (herror : firstUses uses rest = .error problem) :
    ∃ before m after k, rest = before ++ m :: after ∧ Consistent (seen ++ before) ∧
      k ∈ seen ++ before ∧ k.name = m.name ∧ k.multiplicity ≠ m.multiplicity ∧
      problem = .mixedUse m.name := by
  induction rest generalizing seen uses with
  | nil => cases herror
  | cons m rest ih =>
    have hlater : ∀ {uses'}, FirstUses (seen ++ [m]) uses' →
        firstUses uses' rest = .error problem → ∃ before m' after k,
          m :: rest = before ++ m' :: after ∧ Consistent (seen ++ before) ∧
            k ∈ seen ++ before ∧ k.name = m'.name ∧ k.multiplicity ≠ m'.multiplicity ∧
            problem = .mixedUse m'.name := by
      intro uses' huses' herror'
      obtain ⟨before, m', after, k, rfl, hconsistent, hk, hfound⟩ := ih huses' herror'
      rw [← List.append_cons] at hconsistent hk
      exact ⟨m :: before, m', after, k, rfl, hconsistent, hk, hfound⟩
    cases hfind : uses.find? fun u => u.name == m.name with
    | none =>
      simp only [firstUses, hfind] at herror
      have hnew : ∀ u ∈ uses, u.name ≠ m.name := by
        intro u hu
        simpa using List.find?_eq_none.mp hfind u hu
      exact hlater (huses.add hnew) herror
    | some u =>
      have hu := List.mem_of_find?_eq_some hfind
      have hname : u.name = m.name := by simpa using List.find?_some hfind
      simp only [firstUses, hfind] at herror
      split at herror
      · next hsame => exact hlater (huses.repeated hu hname hsame) herror
      · next hother =>
        cases herror
        refine ⟨[], m, rest, u, rfl, ?_, ?_, hname, hother, rfl⟩
        · rw [List.append_nil]
          exact huses.consistent
        · rw [List.append_nil]
          exact huses.used u hu

/-- What is wrong with the use of a marker: its name is not declared, or declared otherwise. -/
theorem misuse?_eq_some {m : Marker} {problem : Problem}
    (h : misuse? declarations m = some problem) :
    (∀ d ∈ declarations, d.name ≠ m.name) ∧ problem = .undeclared m.multiplicity m.name ∨
      ∃ d ∈ declarations, d.name = m.name ∧ d.multiplicity ≠ m.multiplicity ∧
        problem = .contradiction m.name d.multiplicity m.multiplicity := by
  unfold misuse? at h
  cases hfound : declaration? declarations m.name with
  | none =>
    simp only [hfound, Option.some.injEq] at h
    refine Or.inl ⟨?_, h.symm⟩
    intro d hd
    simpa using List.find?_eq_none.mp hfound d (List.mem_reverse.mpr hd)
  | some d =>
    obtain ⟨hmem, hname⟩ := declaration?_eq_some hfound
    simp only [hfound] at h
    split at h
    · cases h
    · next hother => exact Or.inr ⟨d, hmem, hname, hother, (Option.some.inj h).symm⟩

/-- The first parameter that is not used comes from the first declaration that is not used. -/
theorem unused?_declared_eq_some {p : Parameter}
    (h : unused? (declared uses declarations) = some p) :
    ∃ before d after, declarations = before ++ d :: after ∧ p.name = d.name ∧
      (∀ c ∈ before, Uses uses c.name) ∧ ¬ Uses uses d.name := by
  have hany : ∀ name, (uses.any fun u => u.name == name) = true ↔ Uses uses name := by
    simp [Uses]
  -- The walk over the parameters asks nothing of them but what is known of the declarations.
  have hflags : (declared uses declarations).map (fun p => (p.name, p.referenced)) =
      declarations.map fun d => (d.name, uses.any fun u => u.name == d.name) :=
    map_mapIdx_of_forall (by intros; rfl) declarations
  have hfirst := congrArg (List.find? fun entry => !entry.2) hflags
  rw [List.find?_map, List.find?_map] at hfirst
  change (unused? _).map _ = _ at hfirst
  rw [h, Option.map_some, eq_comm, Option.map_eq_some_iff] at hfirst
  obtain ⟨d, hfind, hd⟩ := hfirst
  obtain ⟨hmissing, before, after, hsplit, hbefore⟩ := List.find?_eq_some_iff_append.mp hfind
  refine ⟨before, d, after, hsplit, (congrArg Prod.fst hd).symm, ?_, ?_⟩
  · intro c hc
    have hused := hbefore c hc
    simp only [Function.comp_apply, Bool.not_not] at hused
    exact (hany c.name).mp hused
  · intro hused
    have hreferenced := (hany d.name).mpr hused
    simp [hreferenced] at hmissing

end Markers

section Parameters

variable {kind : StatementKind} {declarations : List Declaration} {tokens : List Token}
  {markers : List Marker} {unused : UnusedPolicy}

/-- The rule for batch statements is not broken where those have neither. -/
theorem not_broken_plainBatch (h : kind = .batch → declarations = [] ∧ markers = []) :
    ¬ Rule.plainBatch.Broken kind declarations markers unused := by
  rintro ⟨hkind, hsome⟩
  obtain ⟨hdeclarations, hmarkers⟩ := h hkind
  rcases hsome with hsome | hsome
  · exact hsome hdeclarations
  · exact hsome hmarkers

/-- The rule for sigils is not broken by consistent markers. -/
theorem not_broken_oneSigil (h : Consistent markers) :
    ¬ Rule.oneSigil.Broken kind declarations markers unused := by
  rintro ⟨m, hm, k, hk, hname, hother⟩
  exact hother (h m hm k hk hname)

/-- The rule for declarations is not broken where all markers are declared as they are used. -/
theorem not_broken_declared (h : declarations ≠ [] → ∀ m ∈ markers, Declares declarations m) :
    ¬ Rule.declared.Broken kind declarations markers unused := by
  rintro ⟨hsome, m, hm, hmissing⟩
  exact hmissing (h hsome m hm)

/-- Nothing is resolvable that breaks a rule. -/
theorem Resolvable.not_broken (h : Resolvable kind declarations markers unused) (rule : Rule) :
    ¬ rule.Broken kind declarations markers unused := by
  cases rule with
  | plainBatch => exact not_broken_plainBatch h.batch_plain
  | oneSigil => exact not_broken_oneSigil h.consistent
  | declared => exact not_broken_declared h.declared
  | used =>
    rintro ⟨_, hpolicy, d, hd, hmissing⟩
    exact hmissing (h.used hpolicy d hd)

/-- A batch statement is refused for the first of its names. -/
theorem refused_of_batch {name : String} {others : List String}
    (hnames : declarations.map Declaration.name ++ markers.map Marker.name = name :: others) :
    Refused .batch declarations markers unused (.batchParameter name) := by
  refine ⟨.plainBatch, ⟨⟨rfl, ?_⟩, List.forall_mem_nil _⟩, .plainBatch hnames⟩
  by_contra hnone
  push Not at hnone
  obtain ⟨rfl, rfl⟩ := hnone
  cases hnames

/-- Markers that the walk fails at are refused for one that another sigil came before. -/
theorem refused_of_mixed {problem : Problem}
    (hbatch : kind = .batch → declarations = [] ∧ markers = [])
    (herror : firstUses [] markers = .error problem) :
    Refused kind declarations markers unused problem := by
  obtain ⟨before, m, after, k, rfl, hconsistent, hk, hname, hother, rfl⟩ :=
    firstUses_eq_error firstUses_nil herror
  refine ⟨.oneSigil, ⟨⟨k, ?_, m, ?_, hname, hother⟩, ?_⟩, .oneSigil rfl hconsistent hk hname hother⟩
  · exact List.mem_append_left _ hk
  · exact List.mem_append_right _ List.mem_cons_self
  · exact List.forall_mem_singleton.mpr (not_broken_plainBatch hbatch)

/-- Markers that are not all declared as they are used are refused for the first that is not. -/
theorem refused_of_misuse {uses : List Marker} {problem : Problem}
    (hnodup : (declarations.map Declaration.name).Nodup)
    (hbatch : kind = .batch → declarations = [] ∧ markers = [])
    (huses : firstUses [] markers = .ok uses) (hsome : declarations ≠ [])
    (hmisuse : uses.findSome? (misuse? declarations) = some problem) :
    Refused kind declarations markers unused problem := by
  have hfirst := firstUses_of_ok huses
  obtain ⟨before, m, after, hsplit, hm, hbefore⟩ := List.findSome?_eq_some_iff.mp hmisuse
  have hmem : m ∈ markers := hfirst.used m (by simp [hsplit])
  have herased : markers.eraseDups = before ++ m :: after := by
    rw [← hsplit]
    exact (firstUses_eq_eraseDups firstUses_nil rfl huses).symm
  have hdeclared : ∀ k ∈ before, Declares declarations k :=
    fun k hk => misuse?_eq_none (hbefore k hk)
  have hearlier : ∀ r ∈ Rule.declared.earlier, ¬ r.Broken kind declarations markers unused :=
    List.forall_mem_cons.mpr ⟨not_broken_plainBatch hbatch,
      List.forall_mem_singleton.mpr (not_broken_oneSigil hfirst.consistent)⟩
  rcases misuse?_eq_some hm with ⟨hmissing, rfl⟩ | ⟨d, hd, hname, hother, rfl⟩
  · refine ⟨.declared, ⟨⟨hsome, m, hmem, ?_⟩, hearlier⟩, .undeclared herased hdeclared hmissing⟩
    rintro ⟨d, hd, hname, _⟩
    exact hmissing d hd hname
  · refine ⟨.declared, ⟨⟨hsome, m, hmem, ?_⟩, hearlier⟩,
      .contradicted herased hdeclared hd hname hother⟩
    rintro ⟨c, hc, hcname, hcmultiplicity⟩
    have hsame : c = d := List.inj_on_of_nodup_map hnodup hc hd (hcname.trans hname.symm)
    exact hother (hsame ▸ hcmultiplicity)

/-- Declarations that are not all used are refused for the first that is not. -/
theorem refused_of_unused {uses : List Marker} {p : Parameter}
    (hbatch : kind = .batch → declarations = [] ∧ markers = [])
    (huses : firstUses [] markers = .ok uses) (hsome : declarations ≠ [])
    (hagree : ∀ u ∈ uses, misuse? declarations u = none)
    (hunused : unused? (declared uses declarations) = some p) :
    Refused kind declarations markers .error (.unusedParameter p.name) := by
  have hfirst := firstUses_of_ok huses
  obtain ⟨before, d, after, rfl, hname, hbefore, hmissing⟩ := unused?_declared_eq_some hunused
  have hmissing' : ¬ Uses markers d.name := by rwa [← hfirst.uses_iff]
  have hbefore' : ∀ c ∈ before, Uses markers c.name :=
    fun c hc => hfirst.uses_iff.mp (hbefore c hc)
  rw [hname]
  refine ⟨.used, ⟨⟨hsome, rfl, d, by simp, hmissing'⟩, ?_⟩, .unused rfl hbefore' hmissing'⟩
  refine List.forall_mem_cons.mpr ⟨not_broken_plainBatch hbatch, List.forall_mem_cons.mpr
    ⟨not_broken_oneSigil hfirst.consistent, List.forall_mem_singleton.mpr ?_⟩⟩
  exact not_broken_declared fun _ => declares_of_agree hfirst hagree

/-- Resolving fails with the problem of the first rule that is broken. -/
theorem parameters_eq_error {problem : Problem}
    (hnodup : (declarations.map Declaration.name).Nodup)
    (herror : parameters kind declarations tokens unused = .error problem) :
    Refused kind declarations (Token.markers tokens) unused problem := by
  by_cases hbatch : kind = .batch → declarations = [] ∧ Token.markers tokens = []
  · rw [parameters_eq_matched unused hbatch] at herror
    unfold matched at herror
    cases huses : firstUses [] (Token.markers tokens) with
    | error problem' =>
      simp only [huses, Except.error.injEq] at herror
      exact herror ▸ refused_of_mixed hbatch huses
    | ok uses =>
      simp only [huses] at herror
      split at herror
      · cases herror
      · next hempty =>
        have hsome : declarations ≠ [] := by simpa using hempty
        cases hmisuse : uses.findSome? (misuse? declarations) with
        | some problem' =>
          simp only [hmisuse, Except.error.injEq] at herror
          exact herror ▸ refused_of_misuse hnodup hbatch huses hsome hmisuse
        | none =>
          simp only [hmisuse] at herror
          split at herror
          · next hunused =>
            cases herror
            have hagree := List.findSome?_eq_none_iff.mp hmisuse
            exact refused_of_unused hbatch huses hsome hagree hunused
          · cases herror
  · obtain ⟨rfl, hsome⟩ := Classical.not_imp.mp hbatch
    cases hnames : declarations.map Declaration.name ++
        (Token.markers tokens).map Marker.name with
    | nil => exact absurd (by simpa using hnames) hsome
    | cons name others =>
      unfold parameters at herror
      simp only [hnames, Except.error.injEq] at herror
      exact herror ▸ refused_of_batch hnames

/-- What resolving accepts is resolvable. -/
theorem resolvable_of_parameters {found : List Parameter}
    (hok : parameters kind declarations tokens unused = .ok found) :
    Resolvable kind declarations (Token.markers tokens) unused := by
  obtain ⟨hbatch, uses, huses, hfound⟩ := parameters_ok hok
  have hfirst := firstUses_of_ok huses
  refine ⟨hbatch, hfirst.consistent, ?_, ?_⟩
  · intro hsome
    rcases hfound with ⟨hnone, _⟩ | ⟨_, hagree, _, _⟩
    · exact absurd hnone hsome
    · exact declares_of_agree hfirst hagree
  · intro hpolicy d hd
    rcases hfound with ⟨hnone, _⟩ | ⟨_, _, hused, _⟩
    · simp [hnone] at hd
    · obtain ⟨i, hi, rfl⟩ := List.mem_iff_getElem.mp hd
      have hreferenced := List.find?_eq_none.mp (hused hpolicy) _ (List.mem_mapIdx.mpr ⟨i, hi, rfl⟩)
      simp only [Bool.not_eq_eq_eq_not, Bool.not_true, Bool.not_eq_false, List.any_eq_true,
        beq_iff_eq] at hreferenced
      exact hfirst.uses_iff.mp hreferenced

/-- What resolving accepts has the parameters that the rules ask for. -/
theorem resolved_of_parameters {found : List Parameter}
    (hnodup : (declarations.map Declaration.name).Nodup)
    (hok : parameters kind declarations tokens unused = .ok found) :
    Resolved declarations (Token.markers tokens) found := by
  have hfit := fit_of_parameters hnodup hok
  obtain ⟨hbatch, uses, huses, hfound⟩ := parameters_ok hok
  have hfirst := firstUses_of_ok huses
  refine ⟨?_, hfit.names_nodup, hfit.position_eq, ?_, hfit.marker_has⟩
  · rcases hfound with ⟨rfl, rfl⟩ | ⟨hsome, _, _, rfl⟩
    · rw [if_pos rfl, ← List.nil_append (Token.markers tokens),
        ← firstUses_eq_eraseDups firstUses_nil rfl huses]
      exact map_mapIdx_of_forall (by intros; rfl) uses
    · rw [if_neg hsome]
      exact map_mapIdx_of_forall (by intros; rfl) declarations
  · intro p hp
    rcases hfound with ⟨_, rfl⟩ | ⟨_, _, _, rfl⟩
    · obtain ⟨i, hi, rfl⟩ := List.mem_mapIdx.mp hp
      exact iff_of_true rfl ⟨uses[i], hfirst.used _ (List.getElem_mem hi), rfl⟩
    · obtain ⟨i, hi, rfl⟩ := List.mem_mapIdx.mp hp
      rw [← hfirst.uses_iff]
      simp [Uses]

end Parameters

/-- How the rules decide on declarations and markers. -/
structure DecidedByRules (name : String) (kind : StatementKind) (declarations : List Declaration)
    (markers : List Marker) (unused : UnusedPolicy) (location : Option String)
    (outcome : Except CompileError (List Parameter)) : Prop where
  /-- They are refused exactly when a rule is broken. -/
  refused_iff : (∃ e, outcome = .error e) ↔
    ∃ rule : Rule, rule.Broken kind declarations markers unused
  /-- The error is that of the first rule that is broken. -/
  error_of_first : ∀ e, outcome = .error e → e.statement = some name ∧ e.location = location ∧
    ∃ rule : Rule, rule.IsFirstBroken kind declarations markers unused ∧
      rule.Reports declarations markers e.problem e.kind
  /-- Otherwise the parameters are those of the declarations or of the markers. -/
  resolved_of_ok : ∀ found, outcome = .ok found → Resolved declarations markers found

/-- Resolving declarations and markers is decided by the rules alone. -/
theorem resolve_decided (name : String) (kind : StatementKind) (declarations : List Declaration)
    (tokens : List Token) (unused : UnusedPolicy) (location : Option String)
    (hnodup : (declarations.map Declaration.name).Nodup) :
    DecidedByRules name kind declarations (Token.markers tokens) unused location
      (resolve name kind declarations tokens unused location) := by
  cases hfound : parameters kind declarations tokens unused with
  | error problem =>
    obtain ⟨rule, hfirst, hreports⟩ := parameters_eq_error hnodup hfound
    simp only [resolve, hfound, Outcome.mapError_error]
    refine ⟨iff_of_true ⟨_, rfl⟩ ⟨rule, hfirst.broken⟩, ?_, ?_⟩
    · rintro e he
      cases he
      exact ⟨rfl, rfl, rule, hfirst, hreports⟩
    · rintro found hok
      cases hok
  | ok found =>
    have hnone := (resolvable_of_parameters hfound).not_broken
    simp only [resolve, hfound, Outcome.mapError_ok]
    refine ⟨iff_of_false ?_ ?_, ?_, ?_⟩
    · rintro ⟨e, he⟩
      cases he
    · rintro ⟨rule, hbroken⟩
      exact hnone rule hbroken
    · rintro e he
      cases he
    · rintro found' hok
      cases hok
      exact resolved_of_parameters hnodup hfound

/-- Two declared parameters are used and one is not: it is refused for the third rule, as one of
the two is used otherwise than it is declared. -/
theorem resolve_decided_list_of_scalar :
    ∃ rule : Rule, rule.IsFirstBroken .query
        [⟨"since", "date", .scalar⟩, ⟨"until", "date", .scalar⟩, ⟨"ids", "int", .list⟩]
        [⟨"ids", .list⟩, ⟨"since", .list⟩, ⟨"ids", .list⟩] .error ∧
      rule.Reports [⟨"since", "date", .scalar⟩, ⟨"until", "date", .scalar⟩, ⟨"ids", "int", .list⟩]
        [⟨"ids", .list⟩, ⟨"since", .list⟩, ⟨"ids", .list⟩]
        (.contradiction "since" .scalar .list) .mixedMultiplicity :=
  have h := resolve_decided "audit" .query
    [⟨"since", "date", .scalar⟩, ⟨"until", "date", .scalar⟩, ⟨"ids", "int", .list⟩]
    [.marker ⟨"ids", .list⟩, .literal ", ", .marker ⟨"since", .list⟩, .marker ⟨"ids", .list⟩]
    .error none (by decide)
  (h.error_of_first ⟨.contradiction "since" .scalar .list, some "audit", none⟩ (by decide)).2.2

end Resolution

end AnnotatedSql
