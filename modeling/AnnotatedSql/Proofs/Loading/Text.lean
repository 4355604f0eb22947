import AnnotatedSql.Loading.Text
import AnnotatedSql.Proofs.Compilation
import AnnotatedSql.Proofs.Registry.Loading

/-!
# When loading a text fails foreign

Compiling a text never fails foreign, so that everything depends on its statements. They are
loaded in order, and the first that cannot be loaded decides how loading fails.
-/

set_option autoImplicit false

namespace AnnotatedSql

/-- Statements that are compiled are well-formed. -/
theorem wellFormed_of_result_compile {settings : Settings} {text sourceName : String}
    {list : List Statement} (h : (compile settings text sourceName).result = .ok list) :
    ∀ s ∈ list, s.WellFormed := by
  intro s hs
  obtain ⟨block, hblock, header, hcompiles⟩ := (of_result_compile h).1 s hs
  refine ⟨hcompiles.fit, ?_, ?_⟩
  · intro name hname
    obtain ⟨p, hp, rfl⟩ := List.mem_map.mp hname
    exact hcompiles.named p hp
  · intro b hb
    rw [hcompiles.block_eq] at hb
    cases hb
    exact one_le_startLine hblock

namespace Registry

/-- Statements can be loaded one after another once some names are taken. -/
def ReadyAll (settings : Settings) (taken : List String) (list : List Statement) : Prop :=
  ∀ before s after, list = before ++ s :: after →
    Ready settings (taken ++ before.map Statement.name) s

/-- Loading statements one after another fails foreign at one of them. -/
def EscapesAmong (settings : Settings) (taken : List String) (list : List Statement) : Prop :=
  ∃ before s after, list = before ++ s :: after ∧ ReadyAll settings taken before ∧
    Escapes settings (taken ++ before.map Statement.name) s

section Run

variable {adapter : Adapter} {settings : Settings} {taken : List String} {r : Registry}
  {s : Statement} {rest list : List Statement}

/-- The first statement is loaded before the others. -/
theorem readyAll_cons_iff :
    ReadyAll settings taken (s :: rest) ↔
      Ready settings taken s ∧ ReadyAll settings (taken ++ [s.name]) rest := by
  constructor
  · intro h
    refine ⟨by simpa using h [] s rest rfl, ?_⟩
    rintro before t after rfl
    simpa using h (s :: before) t after rfl
  · rintro ⟨hfirst, hrest⟩ before t after hsplit
    cases before with
    | nil =>
      obtain ⟨rfl, _⟩ := List.cons.inj hsplit
      simpa using hfirst
    | cons first others =>
      obtain ⟨rfl, hlater⟩ := List.cons.inj hsplit
      simpa using hrest others t after hlater

/-- Loading fails foreign at the first statement, or after it at a later one. -/
theorem escapesAmong_cons_iff :
    EscapesAmong settings taken (s :: rest) ↔
      Escapes settings taken s ∨
        Ready settings taken s ∧ EscapesAmong settings (taken ++ [s.name]) rest := by
  constructor
  · rintro ⟨before, t, after, hsplit, hbefore, hescapes⟩
    cases before with
    | nil =>
      obtain ⟨rfl, _⟩ := List.cons.inj hsplit
      exact Or.inl (by simpa using hescapes)
    | cons first others =>
      obtain ⟨rfl, hlater⟩ := List.cons.inj hsplit
      obtain ⟨hfirst, hothers⟩ := readyAll_cons_iff.mp hbefore
      exact Or.inr ⟨hfirst, others, t, after, hlater, hothers, by simpa using hescapes⟩
  · rintro (hescapes | ⟨hfirst, before, t, after, rfl, hbefore, hescapes⟩)
    · refine ⟨[], s, rest, rfl, ?_, by simpa using hescapes⟩
      intro before t after hsplit
      cases before <;> cases hsplit
    · exact ⟨s :: before, t, after, rfl, readyAll_cons_iff.mpr ⟨hfirst, hbefore⟩,
        by simpa using hescapes⟩

/-- Loading well-formed statements with new names fails foreign exactly when one of them does
after those before it. -/
theorem Holds.loadAll_foreign_iff (h : Holds adapter settings taken r)
    (hlist : ∀ s ∈ list, s.WellFormed) (hnodup : (list.map Statement.name).Nodup)
    (hnew : ∀ s ∈ list, s.name ∉ taken) :
    (∃ e, (r.loadAll list).2 = some e ∧ e.kind.isLibrary = false) ↔
      EscapesAmong settings taken list := by
  induction list generalizing r taken with
  | nil =>
    constructor
    · rintro ⟨e, he, _⟩
      cases he
    · rintro ⟨before, t, after, hsplit, _⟩
      cases before <;> cases hsplit
  | cons s rest ih =>
    have hs := hlist s List.mem_cons_self
    have hok := h.load_ok_iff hs (hnew s List.mem_cons_self)
    rw [escapesAmong_cons_iff]
    cases hload : r.load s with
    | error e =>
      have hforeign := h.failsForeign_load_iff hs
      rw [hload, failsForeign_error] at hforeign
      have hnot : ¬ Ready settings taken s := by
        intro hready
        obtain ⟨later, hlater⟩ := hok.mpr hready
        rw [hload] at hlater
        cases hlater
      simp only [loadAll, hload, Option.some.injEq, exists_eq_left', hnot, false_and, or_false]
      exact hforeign
    | ok later =>
      have hready := hok.mp ⟨later, hload⟩
      have hnot : ¬ Escapes settings taken s := by
        rw [← h.failsForeign_load_iff hs, hload]
        exact not_failsForeign_ok later
      obtain ⟨hfirst, hrest⟩ := List.nodup_cons.mp hnodup
      simp only [loadAll, hload, hnot, hready, false_or, true_and]
      apply ih (h.load hload) (fun t ht => hlist t (List.mem_cons_of_mem _ ht)) hrest
      intro t ht
      have hold := hnew t (List.mem_cons_of_mem _ ht)
      have hne : t.name ≠ s.name := by
        intro heq
        apply hfirst
        exact List.mem_map.mpr ⟨t, ht, heq⟩
      simp [hold, hne]

end Run

end Registry

namespace Loading

/-- What comes of loading a text into a new container. -/
theorem text_eq (adapter : Adapter) (settings : Settings) (source sourceName : String)
    (events : List Event) :
    (text adapter settings source sourceName events).1 =
      match (compile settings source sourceName).result with
      | .error e => .error (.ofCompileError e)
      | .ok list =>
        match (Registry.empty adapter settings).loadAll list with
        | (loaded, none) => .ok loaded
        | (_, some e) => .error e := by
  cases hresult : (compile settings source sourceName).result with
  | error e =>
    simp only [text, statements, Run.log, hresult, Bind.bind, Run.andThen,
      Outcome.mapError_error, Run.ofExcept, Run.fail]
  | ok list =>
    simp only [text, statements, Run.log, hresult, Bind.bind, Run.andThen, Outcome.mapError_ok,
      Run.ofExcept, Run.result, into]
    rcases (Registry.empty adapter settings).loadAll list with ⟨loaded, _ | e⟩ <;> rfl

/-- Loading a text fails with a failure that is none of the library's own exactly when the text
compiles and one of its statements, after those before it were loaded, meets one of three faults:
the style of placeholders is not known any more, a name that no argument can have comes before any
parameter that is called like one of an operation's own arguments, or there is no such parameter
and the first line has too great a number. -/
theorem failsForeign_text_iff (adapter : Adapter) (settings : Settings)
    (source sourceName : String) (events : List Event) :
    FailsForeign (text adapter settings source sourceName events).1 ↔
      ∃ list, (compile settings source sourceName).result = .ok list ∧
        Registry.EscapesAmong settings [] list := by
  rw [text_eq]
  cases hresult : (compile settings source sourceName).result with
  | error e => simp [isLibrary_ofCompileError]
  | ok list =>
    have hholds := Registry.holds_empty adapter settings
    have hrun := hholds.loadAll_foreign_iff (wellFormed_of_result_compile hresult)
      (of_result_compile hresult).2 (by simp)
    simp only [Except.ok.injEq, exists_eq_left']
    rw [← hrun]
    rcases (Registry.empty adapter settings).loadAll list with ⟨loaded, _ | e⟩
    · simp
    · simp

/-- A marker may be called by a word that no argument can be called by. -/
theorem text_can_fail_foreign :
    ¬ ∀ (adapter : Adapter) (settings : Settings) (source sourceName : String)
      (events : List Event), ¬ FailsForeign (text adapter settings source sourceName events).1 := by
  intro h
  apply h .standard .standard "-- name: a!\nselect :from\n/\n" "<string>" []
  decide +kernel

end Loading

end AnnotatedSql
