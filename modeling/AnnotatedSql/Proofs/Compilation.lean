import AnnotatedSql.Compilation
import AnnotatedSql.Proofs.Entries
import AnnotatedSql.Proofs.Statement.Header
import AnnotatedSql.Proofs.Statement.Segmentation

/-!
# The statements of a text

The result of a compilation is read off block by block. Every statement comes from a block of the
text, and no two statements of one text have the same name.
-/

set_option autoImplicit false

namespace AnnotatedSql

namespace Compilation

/-- The statement of a block comes before those of the blocks after it. -/
theorem result_compiled (later : Compilation) (header : Header) (s : Statement) :
    ({ later with outcomes := .compiled header s :: later.outcomes } : Compilation).result =
      later.result.map (s :: ·) := by
  unfold result
  cases later.failure <;> rfl

/-- Where there are no blocks, only the end of the text can fail. -/
theorem result_ofBlocks_nil (settings : Settings) (unterminated : Option CompileError)
    (earlier : List (String × String)) :
    (ofBlocks settings unterminated earlier []).result =
      match settings.onSyntaxError, unterminated with
      | .abort, some e => .error e
      | _, _ => .ok [] := by
  unfold ofBlocks ofTail
  cases settings.onSyntaxError <;> cases unterminated <;> rfl

/-- The result of a block and those after it. -/
theorem result_ofBlocks_cons (settings : Settings) (unterminated : Option CompileError)
    (earlier : List (String × String)) (block : Block) (rest : List Block) :
    (ofBlocks settings unterminated earlier (block :: rest)).result =
      match Header.parse block with
      | .error e =>
        match settings.onSyntaxError with
        | .abort => .error e
        | .skip => (ofBlocks settings unterminated earlier rest).result
      | .ok header =>
        match earlier.lookup header.name with
        | some location => .error ⟨.nameTaken location, some header.name, some block.location⟩
        | none =>
          match header.resolve settings.unused with
          | .error e => .error e
          | .ok s =>
            (ofBlocks settings unterminated ((header.name, block.location) :: earlier)
              rest).result.map (s :: ·) := by
  rw [ofBlocks]
  cases Header.parse block with
  | error e => cases settings.onSyntaxError <;> rfl
  | ok header =>
    cases hname : earlier.lookup header.name with
    | some location => simp only [hname]; rfl
    | none =>
      cases hresolve : header.resolve settings.unused with
      | error e => simp only [hname, hresolve]; rfl
      | ok s =>
        simp only [hname, hresolve]
        exact result_compiled _ header s

/-- Where there is a result, the first block is left out, or its statement comes first. -/
theorem result_ofBlocks_cons_ok {settings : Settings} {unterminated : Option CompileError}
    {earlier : List (String × String)} {block : Block} {rest : List Block} {list : List Statement}
    (h : (ofBlocks settings unterminated earlier (block :: rest)).result = .ok list) :
    (∃ e, Header.parse block = .error e ∧ settings.onSyntaxError = .skip ∧
        (ofBlocks settings unterminated earlier rest).result = .ok list) ∨
      ∃ header s later, Header.parse block = .ok header ∧ earlier.lookup header.name = none ∧
        header.resolve settings.unused = .ok s ∧
        (ofBlocks settings unterminated ((header.name, block.location) :: earlier)
          rest).result = .ok later ∧ list = s :: later := by
  rw [result_ofBlocks_cons] at h
  split at h
  · next e hparse =>
    split at h
    · cases h
    · next hpolicy => exact Or.inl ⟨e, hparse, hpolicy, h⟩
  · next header hparse =>
    split at h
    · cases h
    · next hnew =>
      split at h
      · cases h
      · next s hresolve =>
        obtain ⟨later, hlater, rfl⟩ := Outcome.map_eq_ok_iff.mp h
        exact Or.inr ⟨header, s, later, hparse, hnew, hresolve, hlater, rfl⟩

/-- Statements come from blocks, and their names are different, also from those of earlier
statements. -/
structure ComeFrom (earlier : List (String × String)) (blocks : List Block)
    (list : List Statement) : Prop where
  /-- Every statement comes from a block. -/
  compiles : ∀ s ∈ list, ∃ block ∈ blocks, ∃ header, Header.Compiles block header s
  /-- No earlier statement has the name. -/
  names_new : ∀ s ∈ list, earlier.lookup s.name = none
  /-- No two have one name. -/
  names_nodup : (list.map Statement.name).Nodup

/-- Statements may come from more blocks. -/
theorem ComeFrom.skip {earlier : List (String × String)} {blocks : List Block}
    {list : List Statement} (h : ComeFrom earlier blocks list) (block : Block) :
    ComeFrom earlier (block :: blocks) list := by
  refine ⟨?_, h.names_new, h.names_nodup⟩
  intro s hs
  obtain ⟨b, hb, hcompiles⟩ := h.compiles s hs
  exact ⟨b, List.mem_cons_of_mem _ hb, hcompiles⟩

/-- The statement of a block comes before those of the blocks after it, which know its name. -/
theorem ComeFrom.cons {earlier : List (String × String)} {location : String} {block : Block}
    {blocks : List Block} {header : Header} {s : Statement} {list : List Statement}
    (h : ComeFrom ((s.name, location) :: earlier) blocks list)
    (hcompiles : Header.Compiles block header s) (hnew : earlier.lookup s.name = none) :
    ComeFrom earlier (block :: blocks) (s :: list) := by
  have hlater : ∀ t ∈ list, t.name ≠ s.name ∧ earlier.lookup t.name = none := fun t ht =>
    Entries.lookup_cons_eq_none_iff.mp (h.names_new t ht)
  refine ⟨?_, ?_, ?_⟩
  · intro t ht
    rcases List.mem_cons.mp ht with rfl | ht
    · exact ⟨block, List.mem_cons_self, header, hcompiles⟩
    · exact (h.skip block).compiles t ht
  · intro t ht
    rcases List.mem_cons.mp ht with rfl | ht
    · exact hnew
    · exact (hlater t ht).2
  · rw [List.map_cons, List.nodup_cons]
    refine ⟨?_, h.names_nodup⟩
    intro hmem
    obtain ⟨t, ht, heq⟩ := List.mem_map.mp hmem
    exact (hlater t ht).1 heq

/-- The statements of blocks come from them. -/
theorem comeFrom_of_result {settings : Settings} {unterminated : Option CompileError}
    {earlier : List (String × String)} {blocks : List Block} {list : List Statement}
    (h : (ofBlocks settings unterminated earlier blocks).result = .ok list) :
    ComeFrom earlier blocks list := by
  induction blocks generalizing earlier list with
  | nil =>
    rw [result_ofBlocks_nil] at h
    split at h
    · cases h
    · cases h
      exact ⟨by simp, by simp, List.nodup_nil⟩
  | cons block rest ih =>
    rcases result_ofBlocks_cons_ok h with
      ⟨_, _, _, hrest⟩ | ⟨header, s, later, hparse, hnew, hresolve, hlater, rfl⟩
    · exact (ih hrest).skip block
    · have hcompiles := Header.compiles_of_resolve hparse hresolve
      rw [← hcompiles.name_eq] at hnew hlater
      exact (ih hlater).cons hcompiles hnew

end Compilation

/-- Every statement of a text comes from a block of it, and their names are different. -/
theorem of_result_compile {settings : Settings} {text sourceName : String} {list : List Statement}
    (h : (compile settings text sourceName).result = .ok list) :
    (∀ s ∈ list, ∃ block ∈ (segment text settings.terminator sourceName).blocks, ∃ header,
      Header.Compiles block header s) ∧
      (list.map Statement.name).Nodup := by
  have hfrom := Compilation.comeFrom_of_result h
  exact ⟨hfrom.compiles, hfrom.names_nodup⟩

end AnnotatedSql
