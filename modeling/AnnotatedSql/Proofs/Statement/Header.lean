import AnnotatedSql.Proofs.Outcome
import AnnotatedSql.Proofs.Statement.Canonical
import AnnotatedSql.Proofs.Statement.Resolution

/-!
# What reading a header guarantees

A header that is read gives declarations with different names. All names, those of declarations
and those of the markers in the body, start like a name and go on with word characters. So the
statement of a header has parameters that fit its body.
-/

set_option autoImplicit false

namespace AnnotatedSql

open Text

/-- A text starts like a name in a header and goes on with word characters. -/
def IsHeaderName (name : String) : Prop :=
  ∃ c rest, name.toList = c :: rest ∧ isHeaderNameStart c = true ∧ rest.all isWord = true

/-- What is read as a name in a header is one. -/
theorem isHeaderName_of_headerName? {text name rest : List Char}
    (h : headerName? text = some (name, rest)) : IsHeaderName (String.ofList name) := by
  unfold headerName? at h
  split at h
  · cases h
  · next c after _ =>
    split at h
    · next hstart =>
      simp only [Option.some.injEq, Prod.mk.injEq] at h
      obtain ⟨rfl, _⟩ := h
      refine ⟨c, after.takeWhile isWord, String.toList_ofList, hstart, ?_⟩
      exact List.all_takeWhile
    · cases h

/-- The name of a declaration is a name. -/
theorem isHeaderName_of_declaration {line : String} {location : Option String} {d : Declaration}
    (h : Declaration.parse line location = .ok d) : IsHeaderName d.name := by
  unfold Declaration.parse at h
  cases hparts : Declaration.parts? line.toList with
  | none => simp [hparts] at h
  | some parts =>
    obtain ⟨name, multiplicity, type⟩ := parts
    have hd : d.name = String.ofList name := by
      cases type with
      | nil => simp [hparts] at h
      | cons c rest =>
        simp only [hparts, Except.ok.injEq] at h
        rw [← h]
    rw [hd]
    unfold Declaration.parts? at hparts
    obtain ⟨argument, _, hrest⟩ := Option.bind_eq_some_iff.mp hparts
    obtain ⟨⟨found, after⟩, hname, htype⟩ := Option.bind_eq_some_iff.mp hrest
    have hfound : found = name := by
      simp only at htype
      split at htype
      · obtain ⟨_, _, heq⟩ := Option.map_eq_some_iff.mp htype
        exact congrArg Prod.fst heq
      · obtain ⟨_, _, heq⟩ := Option.map_eq_some_iff.mp htype
        exact congrArg Prod.fst heq
      · cases htype
    rw [← hfound]
    exact isHeaderName_of_headerName? hname

/-- The names that start markers also start names in headers. -/
theorem isHeaderNameStart_of_isNameStart {c : Char} (h : Lexeme.isNameStart c = true) :
    isHeaderNameStart c = true := by
  simp only [Lexeme.isNameStart, Bool.or_eq_true] at h
  simp only [isHeaderNameStart, Bool.or_eq_true]
  tauto

/-- The name of a marker is a name. -/
theorem IsMarkerName.isHeaderName {name : String} (h : IsMarkerName name) : IsHeaderName name := by
  obtain ⟨c, rest, hname, hstart, hword⟩ := h
  exact ⟨c, rest, hname, isHeaderNameStart_of_isNameStart hstart, hword⟩

namespace Header

/-- The declarations among header lines have different names, which are names, and none of those
declared before. -/
theorem contents_ok {block : Block} {name : String} {offset : ℕ} {declared lines : List String}
    {c : Contents} (h : contents block name offset declared lines = .ok c) :
    (c.declarations.map Declaration.name).Nodup ∧
      ∀ d ∈ c.declarations, d.name ∉ declared ∧ IsHeaderName d.name := by
  induction lines generalizing offset declared c with
  | nil =>
    simp only [contents, Except.ok.injEq] at h
    subst h
    simp
  | cons line rest ih =>
    unfold contents at h
    simp only at h
    split at h
    · exact ih h
    · exact ih h
    · obtain ⟨later, hrest, rfl⟩ := Outcome.map_eq_ok_iff.mp h
      have hlater := ih hrest
      exact hlater
    · cases h
    · split at h
      · cases h
      · next d hd =>
        split at h
        · cases h
        · next hnew =>
          obtain ⟨later, hrest, rfl⟩ := Outcome.map_eq_ok_iff.mp h
          obtain ⟨hnodup, hlater⟩ := ih hrest
          constructor
          · rw [List.map_cons, List.nodup_cons]
            refine ⟨?_, hnodup⟩
            intro hmem
            obtain ⟨d', hd', heq⟩ := List.mem_map.mp hmem
            have hnot := (hlater d' hd').1
            rw [heq] at hnot
            exact hnot List.mem_cons_self
          · intro d' hd'
            rcases List.mem_cons.mp hd' with rfl | hd'
            · exact ⟨by simpa using hnew, isHeaderName_of_declaration hd⟩
            · obtain ⟨hnot, hname⟩ := hlater d' hd'
              exact ⟨fun hmem => hnot (List.mem_cons_of_mem _ hmem), hname⟩

/-- A header is read from a name header, the lines below it and those of the body. -/
structure ReadFrom (block : Block) (offset : ℕ) (nameLine : String) (between : List String)
    (first : String) (others : List String) (c : Contents) (header : Header) : Prop where
  name_line : HeaderLine.ofLine nameLine = .directive .name
  nameAndKind_eq : nameAndKind? nameLine = some (header.name, header.kind)
  between_header : ∀ l ∈ between, startsBody l = false
  first_body : startsBody first = true
  contents_eq : contents block header.name (offset + 1) [] between = .ok c
  declarations_eq : header.declarations = c.declarations
  doc_eq : header.doc = strip (unlines c.remarks)
  body_eq : header.body = stripRight (unlines (first :: others))
  bodyLine_eq : header.bodyLine = block.startLine + (offset + 1 + between.length : ℕ)
  block_eq : header.block = block

/-- What is read after the preamble is a name header, header lines, and the lines of a body. -/
theorem parseFrom_eq_ok_iff {block : Block} {offset : ℕ} {rest : List String} {header : Header} :
    parseFrom block offset rest = .ok header ↔ ∃ nameLine between first others c,
      rest = nameLine :: (between ++ first :: others) ∧
        ReadFrom block offset nameLine between first others c header := by
  constructor
  · intro h
    cases rest with
    | nil => cases h
    | cons line later =>
      have hsplit := List.takeWhile_append_dropWhile (p := (!startsBody ·)) (l := later)
      have htake : ∀ l ∈ later.takeWhile (!startsBody ·), startsBody l = false := by
        intro l hl
        simpa using List.all_eq_true.mp List.all_takeWhile l hl
      have hhead := List.head?_dropWhile_not (!startsBody ·) later
      unfold parseFrom at h
      simp only at h
      split at h
      · next hname =>
        split at h
        · cases h
        · next name kind hparts =>
          split at h
          · cases h
          · next c hcontents =>
            split at h
            · cases h
            · next hsome =>
              cases h
              cases hbody : later.dropWhile (!startsBody ·) with
              | nil => simp [hbody] at hsome
              | cons first others =>
                rw [hbody] at hsplit hhead
                have hfirst : startsBody first = true := by simpa using hhead
                exact ⟨line, _, first, others, c, by rw [hsplit], hname, hparts, htake, hfirst,
                  hcontents, rfl, rfl, rfl, rfl, rfl⟩
      · cases h
      · cases h
  · rintro ⟨nameLine, between, first, others, c, rfl, h⟩
    obtain rfl := h.block_eq
    have hnot : ∀ l ∈ between, (!startsBody l) = true := fun l hl => by
      simp [h.between_header l hl]
    have htake : (between ++ first :: others).takeWhile (!startsBody ·) = between := by
      simp [List.takeWhile_append_of_pos hnot, h.first_body]
    have hdrop : (between ++ first :: others).dropWhile (!startsBody ·) = first :: others := by
      simp [List.dropWhile_append_of_pos hnot, h.first_body]
    simp only [parseFrom, h.name_line, h.nameAndKind_eq, htake, hdrop, h.contents_eq,
      List.isEmpty_cons, Bool.false_eq_true, if_false]
    rw [← h.declarations_eq, ← h.doc_eq, ← h.body_eq, ← h.bodyLine_eq]

/-- A header that is read keeps its block, and its declarations have different names. -/
theorem parseFrom_ok {block : Block} {offset : ℕ} {lines : List String} {header : Header}
    (h : parseFrom block offset lines = .ok header) :
    header.block = block ∧ (header.declarations.map Declaration.name).Nodup ∧
      ∀ d ∈ header.declarations, IsHeaderName d.name := by
  obtain ⟨_, _, _, _, c, _, hread⟩ := parseFrom_eq_ok_iff.mp h
  obtain ⟨hnodup, hnames⟩ := contents_ok hread.contents_eq
  rw [hread.declarations_eq]
  exact ⟨hread.block_eq, hnodup, fun d hd => (hnames d hd).2⟩

/-- What is read as a name and a kind has a name. -/
theorem isHeaderName_of_nameAndKind? {line name : String} {kind : StatementKind}
    (h : nameAndKind? line = some (name, kind)) : IsHeaderName name := by
  unfold nameAndKind? at h
  obtain ⟨argument, _, hrest⟩ := Option.bind_eq_some_iff.mp h
  obtain ⟨⟨found, after⟩, hname, hkind⟩ := Option.bind_eq_some_iff.mp hrest
  obtain ⟨_, _, hpair⟩ := Option.bind_eq_some_iff.mp hkind
  have heq : String.ofList found = name := by
    simpa using congrArg (Option.map Prod.fst) hpair
  exact heq ▸ isHeaderName_of_headerName? hname

/-- The name of a header that is read is a name. -/
theorem isHeaderName_of_parseFrom {block : Block} {offset : ℕ} {lines : List String}
    {header : Header} (h : parseFrom block offset lines = .ok header) :
    IsHeaderName header.name := by
  obtain ⟨_, _, _, _, _, _, hread⟩ := parseFrom_eq_ok_iff.mp h
  exact isHeaderName_of_nameAndKind? hread.nameAndKind_eq

/-- What the statement of a header that is read has to do with the header and its block. -/
structure Compiles (block : Block) (header : Header) (s : Statement) : Prop where
  parse_eq : parse block = .ok header
  name_eq : s.name = header.name
  kind_eq : s.kind = header.kind
  tokens_eq : s.tokens = Token.scan header.body
  doc_eq : s.doc = header.doc
  block_eq : s.block = some block
  fit : Fit s.kind s.parameters s.tokens
  named : ∀ p ∈ s.parameters, IsHeaderName p.name

/-- The name of the statement of a header that is read is a name. -/
theorem Compiles.isHeaderName {block : Block} {header : Header} {s : Statement}
    (h : Compiles block header s) : IsHeaderName s.name := by
  rw [h.name_eq]
  exact isHeaderName_of_parseFrom h.parse_eq

/-- The statement of a header that is read has parameters with names, and they fit its body. -/
theorem compiles_of_resolve {block : Block} {header : Header} {unused : UnusedPolicy}
    {s : Statement} (hparse : parse block = .ok header) (hresolve : header.resolve unused = .ok s) :
    Compiles block header s := by
  obtain ⟨hblock, hnodup, hnames⟩ := parseFrom_ok hparse
  unfold Header.resolve Resolution.resolve at hresolve
  obtain ⟨found, hresolved, rfl⟩ := Outcome.map_eq_ok_iff.mp hresolve
  have hfound := Outcome.mapError_eq_ok_iff.mp hresolved
  refine ⟨hparse, rfl, rfl, rfl, rfl, congrArg some hblock,
    Resolution.fit_of_parameters hnodup hfound, ?_⟩
  intro p hp
  rcases Resolution.named_of_parameters hfound hp with ⟨d, hd, heq⟩ | ⟨m, hm, heq⟩
  · rw [← heq]
    exact hnames d hd
  · rw [← heq]
    exact (Token.isMarkerName_of_mem_markers hm).isHeaderName

end Header

end AnnotatedSql
