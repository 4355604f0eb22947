import AnnotatedSql.Proofs.Operation.Basic
import AnnotatedSql.Proofs.Registry.Changes

/-!
# Loading statements into a new container

A statement is made into an operation from what the container has at that time, so that the names
of the statements before it matter. Every failure of loading is either a problem with the
statement, of the library's own kinds, or one of three faults that are foreign: the style of
placeholders cannot be found any more, a parameter has a name that no argument can have, or the
first line has too great a number.
-/

set_option autoImplicit false

namespace AnnotatedSql

/-- What loading relies on in a statement: parameters with names of headers that fit the body, and
lines that are counted from one. -/
structure Statement.WellFormed (s : Statement) : Prop where
  fit : Fit s.kind s.parameters s.tokens
  named : ∀ name ∈ s.parameterNames, IsHeaderName name
  one_le_startLine : ∀ b, s.block = some b → 1 ≤ b.startLine

namespace Registry

/-- In the container of an adapter and settings operations were added under some names, and
nothing else has changed. -/
structure Holds (adapter : Adapter) (settings : Settings) (taken : List String) (r : Registry) :
    Prop where
  kept : ∀ name, name ∉ taken → r.attribute? name = (empty adapter settings).attribute? name
  replaced : ∀ name ∈ taken, ∃ op, r.attribute? name = some (.operation op)
  free : ∀ name, name ∉ taken → r.isTaken name = false

/-- The style of placeholders can be found once some names are taken. -/
def StyleKnown (settings : Settings) (taken : List String) : Prop :=
  settingsName ∉ taken ∧ (settings.style.isSome = true ∨ adapterName ∉ taken)

/-- A statement can be loaded once some names are taken by other statements. -/
structure Ready (settings : Settings) (taken : List String) (s : Statement) : Prop where
  style : StyleKnown settings taken
  named : ∀ name ∈ s.parameterNames, name ∉ Signature.ownArguments ∧ IsArgumentName name
  line : ∀ b, s.block = some b → b.startLine ≤ Operation.lastLine
  free : isClash s.name = false

/-- Loading a statement fails foreign once some names are taken by other statements. -/
def Escapes (settings : Settings) (taken : List String) (s : Statement) : Prop :=
  ¬ StyleKnown settings taken ∨ Signature.Misnamed s.parameterNames ∨
    (∀ name ∈ s.parameterNames, name ∉ Signature.ownArguments) ∧
      ∃ b, s.block = some b ∧ Operation.lastLine < b.startLine

/-- A new container holds nothing. -/
theorem holds_empty (adapter : Adapter) (settings : Settings) :
    Holds adapter settings [] (empty adapter settings) := by
  refine ⟨fun _ _ => rfl, ?_, fun _ _ => rfl⟩
  intro name h
  cases h

section Style

variable {adapter : Adapter} {settings : Settings} {taken : List String} {r : Registry}

/-- The settings stay until their name is taken. -/
theorem Holds.settings_eq (h : Holds adapter settings taken r) :
    r.settings = if settingsName ∈ taken then .operation else .held settings := by
  unfold Registry.settings
  by_cases htaken : settingsName ∈ taken
  · obtain ⟨op, hop⟩ := h.replaced _ htaken
    rw [hop, if_pos htaken]
  · rw [h.kept _ htaken, if_neg htaken]
    rfl

/-- The adapter stays until its name is taken. -/
theorem Holds.adapter_eq (h : Holds adapter settings taken r) :
    r.adapter = if adapterName ∈ taken then .operation else .held adapter := by
  unfold Registry.adapter
  by_cases htaken : adapterName ∈ taken
  · obtain ⟨op, hop⟩ := h.replaced _ htaken
    rw [hop, if_pos htaken]
  · rw [h.kept _ htaken, if_neg htaken]
    rfl

/-- What stands in the place of the settings counts as true. -/
theorem Holds.currentSettings_eq (h : Holds adapter settings taken r) :
    r.currentSettings = if settingsName ∈ taken then .operation else .held settings := by
  unfold currentSettings isTrueSlot
  rw [h.settings_eq]
  by_cases htaken : settingsName ∈ taken
  · simp [htaken, Slot.resolve, Replacement.operation]
  · simp [htaken, Slot.resolve]

/-- While the style is known, it is that of the settings or of the adapter, and the settings still
say whether types are checked. -/
theorem Holds.styleSlot_known (h : Holds adapter settings taken r)
    (hknown : StyleKnown settings taken) :
    r.styleSlot = .ok (.held (settings.style.getD adapter.style)) ∧
      r.checkTypesSlot = .ok (.held settings.checkTypes.isTrue) := by
  obtain ⟨hsettings, hadapter⟩ := hknown
  unfold styleSlot checkTypesSlot
  rw [h.currentSettings_eq, if_neg hsettings]
  refine ⟨?_, rfl⟩
  cases hstyle : settings.style with
  | some style => simp [hstyle]
  | none =>
    have hfree : adapterName ∉ taken := by simpa [hstyle] using hadapter
    simp only [hstyle, adapterStyle]
    rw [h.adapter_eq, if_neg hfree]
    rfl

/-- Once the style is not known any more, looking for it fails foreign. -/
theorem Holds.styleSlot_unknown (h : Holds adapter settings taken r)
    (hunknown : ¬ StyleKnown settings taken) :
    ∃ e, r.styleSlot = .error e ∧ e.kind.isLibrary = false := by
  unfold styleSlot
  rw [h.currentSettings_eq]
  by_cases hsettings : settingsName ∈ taken
  · rw [if_pos hsettings]
    exact ⟨_, rfl, rfl⟩
  · have hstyle : settings.style = none ∧ adapterName ∈ taken := by
      simpa [StyleKnown, hsettings] using hunknown
    rw [if_neg hsettings]
    simp only [hstyle.1, adapterStyle]
    rw [h.adapter_eq, if_pos hstyle.2]
    exact ⟨_, rfl, rfl⟩

end Style

section Load

variable {adapter : Adapter} {settings : Settings} {taken : List String} {r : Registry}
  {s : Statement}

/-- The first line is no fault when its number is not too great. -/
theorem lineFault?_eq_none_iff (hs : s.WellFormed) :
    (s.block.bind fun b => Operation.lineFault? b.startLine) = none ↔
      ∀ b, s.block = some b → b.startLine ≤ Operation.lastLine := by
  cases hblock : s.block with
  | none => simp
  | some b =>
    rw [Option.bind_some, Operation.lineFault?_of_pos (hs.one_le_startLine b hblock)]
    by_cases hline : Operation.lastLine < b.startLine
    · simp [hline]
    · have hle : b.startLine ≤ Operation.lastLine := by omega
      simp [hline, hle]

/-- The first line is a foreign fault when its number is too great. -/
theorem lineFault?_foreign_iff (hs : s.WellFormed) :
    (∃ fault, (s.block.bind fun b => Operation.lineFault? b.startLine) = some fault ∧
      fault.kind.isLibrary = false) ↔
        ∃ b, s.block = some b ∧ Operation.lastLine < b.startLine := by
  cases hblock : s.block with
  | none => simp
  | some b =>
    rw [Option.bind_some, Operation.lineFault?_of_pos (hs.one_le_startLine b hblock)]
    by_cases hline : Operation.lastLine < b.startLine
    · rw [if_pos hline]
      constructor
      · intro _
        exact ⟨b, rfl, hline⟩
      · intro _
        exact ⟨_, rfl, rfl⟩
    · simp [hline]

/-- While the style is known, the operation of a statement is built from it. -/
theorem Holds.synthesize_eq (h : Holds adapter settings taken r)
    (hknown : StyleKnown settings taken) :
    r.synthesize s =
      Operation.build s (.held (settings.style.getD adapter.style))
        (r.staticQuery s (.held (settings.style.getD adapter.style)))
        (.ok (.held settings.checkTypes.isTrue)) r.adapter := by
  obtain ⟨hstyle, hchecks⟩ := h.styleSlot_known hknown
  unfold synthesize
  rw [hstyle, hchecks]
  rfl

/-- A statement without lists whose parameters fit its body has a query. -/
theorem staticQuery_ok (r : Registry) (hs : s.WellFormed) (style : PlaceholderStyle)
    (hstatic : s.isDynamic = false) : ∃ q, r.staticQuery s (.held style) = .ok q := by
  unfold staticQuery
  simp only [Slot.resolve, StaticQuery.build_of_serves hs.fit.serves hstatic style]
  exact ⟨_, rfl⟩

/-- An operation can be made of a statement while the style is known, exactly when its parameters
have names of arguments other than its own and its first line is not too great. -/
theorem Holds.synthesize_ok_iff (h : Holds adapter settings taken r) (hs : s.WellFormed)
    (hknown : StyleKnown settings taken) :
    (∃ op, r.synthesize s = .ok op) ↔
      (∀ name ∈ s.parameterNames, name ∉ Signature.ownArguments ∧ IsArgumentName name) ∧
        ∀ b, s.block = some b → b.startLine ≤ Operation.lastLine := by
  rw [h.synthesize_eq hknown, Operation.build_ok_iff (staticQuery_ok r hs _),
    Signature.ofStatement_ok_iff hs.named hs.fit.names_nodup, lineFault?_eq_none_iff hs]

/-- Making an operation of a statement fails foreign exactly when loading it does. -/
theorem Holds.failsForeign_synthesize_iff (h : Holds adapter settings taken r)
    (hs : s.WellFormed) : FailsForeign (r.synthesize s) ↔ Escapes settings taken s := by
  unfold Escapes
  by_cases hknown : StyleKnown settings taken
  · rw [h.synthesize_eq hknown, Operation.failsForeign_build_iff (staticQuery_ok r hs _),
      Signature.failsForeign_ofStatement_iff hs.named hs.fit.names_nodup,
      Signature.ofStatement_ok_iff hs.named hs.fit.names_nodup, lineFault?_foreign_iff hs]
    by_cases hbad : Signature.Misnamed s.parameterNames
    · simp [hbad]
    · have hgood := Signature.isArgumentName_of_not_misnamed hbad
      simp only [hbad, hknown, not_true, false_or, and_congr_left_iff]
      intro _
      constructor
      · intro hnames name hmem
        exact (hnames name hmem).1
      · intro hother name hmem
        exact ⟨hother name hmem, hgood hother name hmem⟩
  · obtain ⟨e, he, hkind⟩ := h.styleSlot_unknown hknown
    simp only [hknown, not_false_eq_true, true_or, iff_true]
    refine ⟨e, ?_, hkind⟩
    unfold synthesize
    rw [he]
    rfl

/-- Loading a statement fails foreign only in making its operation. -/
theorem Holds.failsForeign_load_iff (h : Holds adapter settings taken r) (hs : s.WellFormed) :
    FailsForeign (r.load s) ↔ Escapes settings taken s := by
  unfold load
  rw [failsForeign_bind, h.failsForeign_synthesize_iff hs]
  constructor
  · rintro (hescapes | ⟨op, _, hadd⟩)
    · exact hescapes
    · exact absurd hadd (not_failsForeign_mapError _)
  · exact Or.inl

/-- A statement with a new name is loaded exactly when it is ready. -/
theorem Holds.load_ok_iff (h : Holds adapter settings taken r) (hs : s.WellFormed)
    (hnew : s.name ∉ taken) : (∃ later, r.load s = .ok later) ↔ Ready settings taken s := by
  have hcheck : r.checkFree s.name = .ok () ↔ isClash s.name = false := by
    rw [checkFree_eq_ok_iff, h.free _ hnew]
    simp
  constructor
  · rintro ⟨later, hload⟩
    by_cases hknown : StyleKnown settings taken
    · obtain ⟨op, hop, hadd⟩ := Outcome.bind_eq_ok_iff.mp hload
      obtain ⟨hnamed, hline⟩ := (h.synthesize_ok_iff hs hknown).mp ⟨op, hop⟩
      obtain ⟨_, hfree, _⟩ := Outcome.map_eq_ok_iff.mp (Outcome.mapError_eq_ok_iff.mp hadd)
      exact ⟨hknown, hnamed, hline, hcheck.mp hfree⟩
    · obtain ⟨e, he, _⟩ := h.styleSlot_unknown hknown
      simp [load, synthesize, he, Bind.bind, Except.bind] at hload
  · intro hready
    obtain ⟨op, hop⟩ := (h.synthesize_ok_iff hs hready.style).mpr ⟨hready.named, hready.line⟩
    unfold load addOperation
    rw [hop, hcheck.mpr hready.free]
    exact ⟨_, rfl⟩

/-- A statement that is loaded takes its name, and nothing else changes. -/
theorem Holds.load {later : Registry} (h : Holds adapter settings taken r)
    (hload : r.load s = .ok later) : Holds adapter settings (taken ++ [s.name]) later := by
  obtain ⟨op, hop⟩ := registers_of_load hload
  refine ⟨?_, ?_, ?_⟩
  · intro name hname
    obtain ⟨hold, hne⟩ : name ∉ taken ∧ name ≠ s.name := by simpa using hname
    rw [hop.attribute_eq, if_neg hne, h.kept name hold]
  · intro name hname
    rw [hop.attribute_eq]
    by_cases heq : name = s.name
    · exact ⟨op, by simp [heq]⟩
    · have hold : name ∈ taken := by simpa [heq] using hname
      rw [if_neg heq]
      exact h.replaced name hold
  · intro name hname
    obtain ⟨hold, hne⟩ : name ∉ taken ∧ name ≠ s.name := by simpa using hname
    rw [isTaken_eq_false_iff, hop.operation_eq, hop.child_eq, if_neg hne, if_neg hne]
    exact isTaken_eq_false_iff.mp (h.free name hold)

end Load

end Registry

end AnnotatedSql
