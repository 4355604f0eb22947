import AnnotatedSql.Proofs.Loading.Text

/-!
# Loading statements again

Statements that were loaded into some container have what it takes to be loaded, but for the style
of placeholders, which that container may have had from containers within. They can be loaded into
a new container as well exactly when the style is known there until the last of them.
-/

set_option autoImplicit false

namespace AnnotatedSql

namespace Registry

variable {r later : Registry} {s : Statement} {list : List Statement}

/-- A statement that is loaded is added with its own name and its own statement. -/
theorem exists_of_load (h : r.load s = .ok later) :
    ∃ op, op.statement = s ∧ r.synthesize s = .ok op ∧ r.addOperation s.name op = .ok later := by
  obtain ⟨op, hop, hadd⟩ := Outcome.bind_eq_ok_iff.mp h
  obtain ⟨style, _, hbuild⟩ := Outcome.bind_eq_ok_iff.mp hop
  obtain ⟨_, _, _, _, _, _, _, rfl⟩ := Operation.build_eq_ok_iff.mp hbuild
  exact ⟨_, rfl, hop, Outcome.mapError_eq_ok_iff.mp hadd⟩

/-- The own operations, by their places, with their statements. -/
def ownStatements (r : Registry) : List (List String × Statement) :=
  r.operations.map fun e => ([e.1], e.2.statement)

/-- Statements that are loaded are added at the end, and the containers within stay. -/
theorem of_loadAll (h : r.loadAll list = (later, none)) :
    later.ownStatements = r.ownStatements ++ list.map (fun s => ([s.name], s)) ∧
      later.children = r.children := by
  induction list generalizing r with
  | nil =>
    obtain ⟨rfl, _⟩ := Prod.mk.inj h
    simp
  | cons s rest ih =>
    cases hload : r.load s with
    | error e => simp [loadAll, hload] at h
    | ok middle =>
      simp only [loadAll, hload] at h
      obtain ⟨hrest, hchildren⟩ := ih h
      obtain ⟨op, rfl, _, hadd⟩ := exists_of_load hload
      obtain ⟨_, _, rfl⟩ := Outcome.map_eq_ok_iff.mp hadd
      refine ⟨?_, hchildren⟩
      rw [hrest]
      simp [ownStatements]

/-- A statement that is loaded has parameters with names of arguments, a line that is not too great,
and a name that is not refused. -/
theorem of_load (h : r.load s = .ok later) (hs : s.WellFormed) :
    (∀ name ∈ s.parameterNames, name ∉ Signature.ownArguments ∧ IsArgumentName name) ∧
      (∀ b, s.block = some b → b.startLine ≤ Operation.lastLine) ∧ isClash s.name = false := by
  obtain ⟨op, _, hop, hadd⟩ := exists_of_load h
  obtain ⟨style, _, hbuild⟩ := Outcome.bind_eq_ok_iff.mp hop
  obtain ⟨g, _, _, hg, _, _, hline, _⟩ := Operation.build_eq_ok_iff.mp hbuild
  obtain ⟨_, hfree, _⟩ := Outcome.map_eq_ok_iff.mp hadd
  exact ⟨(Signature.ofStatement_ok_iff hs.named hs.fit.names_nodup).mp ⟨g, hg⟩,
    (lineFault?_eq_none_iff hs).mp hline, (checkFree_eq_ok_iff.mp hfree).2⟩

/-- Where an operation stands in place of the settings, no statement is loaded. -/
theorem load_ne_ok (hsettings : ∃ op, r.attribute? settingsName = some (.operation op)) :
    r.load s ≠ .ok later := by
  obtain ⟨replacing, hop⟩ := hsettings
  have hcurrent : r.currentSettings = .operation := by
    unfold currentSettings isTrueSlot Registry.settings
    rw [hop]
    rfl
  intro h
  obtain ⟨op, hmade, _⟩ := Outcome.bind_eq_ok_iff.mp h
  obtain ⟨style, hstyle, _⟩ := Outcome.bind_eq_ok_iff.mp hmade
  unfold styleSlot at hstyle
  rw [hcurrent] at hstyle
  cases hstyle

/-- Of statements that are loaded only the last can be called like the settings. -/
theorem settingsName_not_mem_of_loadAll (h : r.loadAll list = (later, none)) :
    settingsName ∉ (list.map Statement.name).dropLast := by
  induction list generalizing r with
  | nil => simp
  | cons s rest ih =>
    cases hload : r.load s with
    | error e => simp [loadAll, hload] at h
    | ok middle =>
      simp only [loadAll, hload] at h
      cases rest with
      | nil => simp
      | cons t others =>
        rw [List.map_cons, List.map_cons, List.dropLast_cons_cons, List.mem_cons, not_or]
        refine ⟨?_, ih h⟩
        intro heq
        obtain ⟨op, hop⟩ := registers_of_load hload
        have hreplaced : middle.attribute? settingsName = some (.operation op) := by
          rw [hop.attribute_eq, if_pos heq]
        cases hnext : middle.load t with
        | error e => simp [loadAll, hnext] at h
        | ok last => exact load_ne_ok ⟨op, hreplaced⟩ hnext

/-- Each of the statements that are loaded is loaded into some container. -/
theorem exists_load_of_mem (h : r.loadAll list = (later, none)) (hs : s ∈ list) :
    ∃ before after, load before s = .ok after := by
  induction list generalizing r with
  | nil => cases hs
  | cons t rest ih =>
    cases hload : r.load t with
    | error e => simp [loadAll, hload] at h
    | ok middle =>
      simp only [loadAll, hload] at h
      rcases List.mem_cons.mp hs with rfl | hs
      · exact ⟨r, middle, hload⟩
      · exact ih h hs

/-- A name comes before some statement of a list exactly when it is one of all but the last. -/
theorem forall_split_iff {name : String} :
    (∀ before s after, list = before ++ s :: after → name ∉ before.map Statement.name) ↔
      name ∉ (list.map Statement.name).dropLast := by
  constructor
  · intro h
    rcases List.eq_nil_or_concat list with rfl | ⟨before, s, hlast⟩
    · simp
    · rw [List.concat_eq_append] at hlast
      simpa [hlast] using h before s [] hlast
  · rintro h before s after rfl hmem
    apply h
    rw [List.map_append, List.map_cons, List.dropLast_append_cons]
    exact List.mem_append_left _ hmem

section Fresh

variable {adapter : Adapter} {settings : Settings} {taken : List String}

/-- Well-formed statements with new names are all loaded exactly when each is ready after those
before it. -/
theorem Holds.loadAll_ok_iff (h : Holds adapter settings taken r)
    (hlist : ∀ s ∈ list, s.WellFormed) (hnodup : (list.map Statement.name).Nodup)
    (hnew : ∀ s ∈ list, s.name ∉ taken) :
    (∃ later, r.loadAll list = (later, none)) ↔ ReadyAll settings taken list := by
  induction list generalizing r taken with
  | nil =>
    constructor
    · intro _ before s after hsplit
      cases before <;> cases hsplit
    · intro _
      exact ⟨r, rfl⟩
  | cons s rest ih =>
    have hok := h.load_ok_iff (hlist s List.mem_cons_self) (hnew s List.mem_cons_self)
    rw [readyAll_cons_iff, ← hok]
    cases hload : r.load s with
    | error e => simp [loadAll, hload]
    | ok later =>
      obtain ⟨hfirst, hrest⟩ := List.nodup_cons.mp hnodup
      have hlater := ih (h.load hload) (fun t ht => hlist t (List.mem_cons_of_mem _ ht)) hrest
      simp only [loadAll, hload, Except.ok.injEq, exists_eq', true_and]
      apply hlater
      intro t ht
      have hne : t.name ≠ s.name := fun heq => hfirst (List.mem_map.mpr ⟨t, ht, heq⟩)
      simp [hnew t (List.mem_cons_of_mem _ ht), hne]

/-- Statements that were loaded into some container can be loaded into a new one exactly when the
settings fix the style or none but the last is called like the adapter. -/
theorem loadAll_empty_iff (adapter : Adapter) (settings : Settings)
    (h : r.loadAll list = (later, none)) (hlist : ∀ s ∈ list, s.WellFormed)
    (hnodup : (list.map Statement.name).Nodup) :
    (∃ fresh, (empty adapter settings).loadAll list = (fresh, none)) ↔
      settings.style.isSome = true ∨ adapterName ∉ (list.map Statement.name).dropLast := by
  rw [(holds_empty adapter settings).loadAll_ok_iff hlist hnodup (by simp)]
  constructor
  · intro hready
    cases hstyle : settings.style.isSome with
    | true => exact Or.inl rfl
    | false =>
      refine Or.inr (forall_split_iff.mp ?_)
      intro before s after hsplit
      simpa [hstyle] using (hready before s after hsplit).style.2
  · intro hknown before s after hsplit
    have hs : s ∈ list := by simp [hsplit]
    obtain ⟨_, _, hload⟩ := exists_load_of_mem h hs
    obtain ⟨hnamed, hline, hfree⟩ := of_load hload (hlist s hs)
    have hsettings :=
      forall_split_iff.mpr (settingsName_not_mem_of_loadAll h) before s after hsplit
    refine ⟨⟨by simpa using hsettings, ?_⟩, hnamed, hline, hfree⟩
    rcases hknown with hstyle | hadapter
    · exact Or.inl hstyle
    · have hbefore := forall_split_iff.mpr hadapter before s after hsplit
      exact Or.inr (by simpa using hbefore)

end Fresh

end Registry

end AnnotatedSql
