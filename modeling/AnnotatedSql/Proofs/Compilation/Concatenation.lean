import AnnotatedSql.Proofs.Compilation
import AnnotatedSql.Proofs.Statement.Shifting

/-!
# One text after another

Compiling is local. A text that comes after another one gives the statements or the error that it
gives alone, with all lines so many further down, if nothing of the other text is left over and no
name of the other text is used again.
-/

set_option autoImplicit false

namespace AnnotatedSql

open Text

namespace Compilation

variable {settings : Settings} {earlier : List (String × String)}

/-- Blocks that come after others are compiled as they are alone, but for the names of the other
statements, which are taken. -/
theorem result_ofBlocks_append {blocks : List Block} {list : List Statement}
    (unterminated : Option CompileError) (later : List Block)
    (h : (ofBlocks settings none earlier blocks).result = .ok list) :
    ∃ seen, (∀ name, (∀ s ∈ list, s.name ≠ name) → seen.lookup name = earlier.lookup name) ∧
      (ofBlocks settings unterminated earlier (blocks ++ later)).result =
        (ofBlocks settings unterminated seen later).result.map (list ++ ·) := by
  induction blocks generalizing earlier list with
  | nil =>
    have hnil : list = [] := by
      rw [result_ofBlocks_nil] at h
      split at h
      · cases h
      · cases h
        rfl
    subst hnil
    refine ⟨earlier, fun _ _ => rfl, ?_⟩
    rw [List.nil_append]
    cases (ofBlocks settings unterminated earlier later).result <;> rfl
  | cons block rest ih =>
    rw [List.cons_append, result_ofBlocks_cons]
    rcases result_ofBlocks_cons_ok h with
      ⟨_, hparse, hpolicy, hrest⟩ | ⟨header, s, found, hparse, hnew, hresolve, hfound, rfl⟩
    · simp only [hparse, hpolicy]
      exact ih hrest
    · simp only [hparse, hnew, hresolve]
      have hname := (Header.compiles_of_resolve hparse hresolve).name_eq
      obtain ⟨seen, hseen, hresult⟩ := ih hfound
      refine ⟨seen, ?_, ?_⟩
      · intro name hne
        have hother : name ≠ header.name := by
          rw [← hname]
          exact (hne s List.mem_cons_self).symm
        rw [hseen name fun t ht => hne t (List.mem_cons_of_mem _ ht), Entries.lookup_cons_ite,
          if_neg hother]
      · rw [hresult]
        cases (ofBlocks settings unterminated seen later).result <;> rfl

/-- Blocks are compiled alike wherever they stand, if the names of earlier statements that matter to
them are taken alike. -/
theorem shifts_ofBlocks {sourceName : String} {n : ℕ}
    {unterminated unterminated' : Option CompileError} {earlier' : List (String × String)}
    {blocks : List Block}
    (htail : Option.Rel (CompileError.Shifts sourceName n) unterminated unterminated')
    (hsource : ∀ b ∈ blocks, b.sourceName = sourceName)
    (hearlier : ∀ b ∈ blocks, ∀ header, Header.parse b = .ok header →
      Option.Rel (PlaceShifts sourceName n) (earlier.lookup header.name)
        (earlier'.lookup header.name)) :
    Outcome.Shifts sourceName n (List.map (Statement.shift n))
      (ofBlocks settings unterminated earlier blocks).result
      (ofBlocks settings unterminated' earlier' (blocks.map (Block.shift n))).result := by
  induction blocks generalizing earlier earlier' with
  | nil =>
    rw [List.map_nil, result_ofBlocks_nil, result_ofBlocks_nil]
    cases settings.onSyntaxError with
    | skip => exact .ok []
    | abort =>
      cases htail with
      | none => exact .ok []
      | some he => exact .error he
  | cons block rest ih =>
    have hblock : block.sourceName = sourceName := hsource block List.mem_cons_self
    have hrest : ∀ b ∈ rest, b.sourceName = sourceName := fun b hb =>
      hsource b (List.mem_cons_of_mem _ hb)
    have hlater : ∀ b ∈ rest, ∀ header, Header.parse b = .ok header →
        Option.Rel (PlaceShifts sourceName n) (earlier.lookup header.name)
          (earlier'.lookup header.name) := fun b hb => hearlier b (List.mem_cons_of_mem _ hb)
    have hplace := block.shifts_location n
    rw [List.map_cons, result_ofBlocks_cons, result_ofBlocks_cons]
    rcases (Header.shifts_parse n block).ok_or_error with
      ⟨header, hparse, hparse'⟩ | ⟨e, e', he, he', hshifts⟩
    · have hrel := hearlier block List.mem_cons_self header hparse
      simp only [hparse, hparse', Header.name_shift]
      generalize earlier.lookup header.name = found, earlier'.lookup header.name = found' at hrel ⊢
      cases hrel with
      | some hfound => exact .error (CompileError.shifts _ (.nameTaken hfound) (hblock ▸ hplace))
      | none =>
        have hsame : header.block.sourceName = sourceName := by
          rw [(Header.parseFrom_ok hparse).1, hblock]
        rcases (header.shifts_resolve n settings.unused).ok_or_error with
          ⟨s, hs, hs'⟩ | ⟨e, e', he, he', hshifts⟩
        · simp only [hs, hs']
          refine (ih hrest ?_).map fun _ => rfl
          intro b hb other hother
          rw [Entries.lookup_cons_ite, Entries.lookup_cons_ite]
          split
          · exact .some (hblock ▸ hplace)
          · exact hlater b hb other hother
        · simp only [he, he']
          exact .error (hsame ▸ hshifts)
    · simp only [he, he']
      cases settings.onSyntaxError with
      | abort => exact .error (hblock ▸ hshifts)
      | skip => exact ih hrest hlater

end Compilation

section Texts

variable {settings : Settings} {a b sourceName : String} {list : List Statement}

/-- What comes of a text after another one is the statements of that one and, further down, what
comes of it alone. -/
theorem shifts_compile_append
    (hended : (segment a settings.terminator sourceName).unterminated = none)
    (hlist : (compile settings a sourceName).result = .ok list)
    (hnames : ∀ block ∈ (segment b settings.terminator sourceName).blocks, ∀ header,
      Header.parse block = .ok header → ∀ s ∈ list, s.name ≠ header.name) :
    ∃ moved, (compile settings (a ++ "\n" ++ b) sourceName).result = moved.map (list ++ ·) ∧
      Outcome.Shifts sourceName (lines a).length (List.map (Statement.shift (lines a).length))
        (compile settings b sourceName).result moved := by
  unfold compile at hlist ⊢
  simp only [hended] at hlist
  obtain ⟨seen, hseen, hresult⟩ := Compilation.result_ofBlocks_append
    (segment (a ++ "\n" ++ b) settings.terminator sourceName).unterminated
    ((segment b settings.terminator sourceName).blocks.map (Block.shift (lines a).length)) hlist
  have htaken : ∀ block ∈ (segment b settings.terminator sourceName).blocks, ∀ header,
      Header.parse block = .ok header →
        Option.Rel (PlaceShifts sourceName (lines a).length) (List.lookup header.name [])
          (seen.lookup header.name) := by
    intro block hblock header hparse
    rw [hseen header.name (hnames block hblock header hparse)]
    exact .none
  refine ⟨_, ?_, Compilation.shifts_ofBlocks (unterminated_segment_append b hended)
    (fun _ => sourceName_of_mem_blocks) htaken⟩
  simp only [blocks_segment_append b hended, hresult]

/-- A text after another one, of which nothing is left over and no name is used again, gives what it
gives alone, as many lines further down as the other text has. -/
theorem result_compile_append
    (hended : (segment a settings.terminator sourceName).unterminated = none)
    (hlist : (compile settings a sourceName).result = .ok list)
    (hnames : ∀ block ∈ (segment b settings.terminator sourceName).blocks, ∀ header,
      Header.parse block = .ok header → ∀ s ∈ list, s.name ≠ header.name) :
    (∀ later, (compile settings b sourceName).result = .ok later →
      (compile settings (a ++ "\n" ++ b) sourceName).result =
        .ok (list ++ later.map (Statement.shift (lines a).length))) ∧
      ∀ e, (compile settings b sourceName).result = .error e →
        ∃ e', (compile settings (a ++ "\n" ++ b) sourceName).result = .error e' ∧
          e'.kind = e.kind ∧ CompileError.Shifts sourceName (lines a).length e e' := by
  obtain ⟨moved, hresult, hshifts⟩ := shifts_compile_append hended hlist hnames
  rw [hresult]
  constructor
  · intro later hlater
    rw [hlater] at hshifts
    cases hshifts
    rfl
  · intro e he
    rw [he] at hshifts
    cases hshifts with
    | error h => exact ⟨_, rfl, h.problem.kind_eq, h⟩

end Texts

/-- A text of one statement. -/
def singleText : String := "-- name: one!\nselect 1\n/"

/-- A text of another statement. -/
def otherText : String := "-- name: two!\nselect 2\n/"

/-- A text of two statements of one name. -/
def doubledText : String := "-- name: two!\nselect 2\n/\n-- name: two!\nselect 3\n/"

/-- A statement after another one stands three lines further down, and so does the error about a
name that is used twice. -/
theorem result_compile_append_single :
    ∃ one two e e',
      (compile .standard singleText "<string>").result = .ok [one] ∧
      (compile .standard otherText "<string>").result = .ok [two] ∧
      (compile .standard (singleText ++ "\n" ++ otherText) "<string>").result =
        .ok [one, two.shift 3] ∧
      (compile .standard doubledText "<string>").result = .error e ∧
      (compile .standard (singleText ++ "\n" ++ doubledText) "<string>").result = .error e' ∧
      e'.kind = e.kind ∧ CompileError.Shifts "<string>" 3 e e' := by
  let one : Statement :=
    { name := "one", kind := .execute, parameters := [], tokens := [.literal "select 1"], doc := ""
      block := some ⟨"-- name: one!\nselect 1", 1, 2, "<string>"⟩ }
  let two : Statement :=
    { name := "two", kind := .execute, parameters := [], tokens := [.literal "select 2"], doc := ""
      block := some ⟨"-- name: two!\nselect 2", 1, 2, "<string>"⟩ }
  let repeated : CompileError := ⟨.nameTaken "<string>:1", some "two", some "<string>:4"⟩
  have hended : (segment singleText Settings.standard.terminator "<string>").unterminated =
      none := by decide +kernel
  have hone : (compile .standard singleText "<string>").result = .ok [one] := by decide +kernel
  have htwo : (compile .standard otherText "<string>").result = .ok [two] := by decide +kernel
  have hrepeated : (compile .standard doubledText "<string>").result = .error repeated := by
    decide +kernel
  have hlines : (lines singleText).length = 3 := by decide +kernel
  have hnames : ∀ text, (∀ block ∈ (segment text Settings.standard.terminator "<string>").blocks,
      (Header.parse block).map Header.name = .ok "two") →
        ∀ block ∈ (segment text Settings.standard.terminator "<string>").blocks, ∀ header,
          Header.parse block = .ok header → ∀ s ∈ [one], s.name ≠ header.name := by
    intro text htwo block hblock header hparse s hs
    have hname := htwo block hblock
    rw [hparse] at hname
    rw [List.mem_singleton.mp hs, Except.ok.inj hname]
    decide
  have hother := result_compile_append hended hone (hnames otherText (by decide +kernel))
  have hdoubled := result_compile_append hended hone (hnames doubledText (by decide +kernel))
  rw [hlines] at hother hdoubled
  obtain ⟨e', he', hkind, hshifts⟩ := hdoubled.2 repeated hrepeated
  exact ⟨one, two, repeated, e', hone, htwo, hother.1 [two] htwo, hrepeated, he', hkind, hshifts⟩

end AnnotatedSql
