import AnnotatedSql.Proofs.Statement.Header
import AnnotatedSql.Proofs.Text.Blanks

/-!
# The grammar of header lines

What a line of a header looks like, as it is written: a comment, a directive, a name header or a
remark. Reading a line finds out which of these it is, and there is one answer for every line.
-/

set_option autoImplicit false

namespace AnnotatedSql

open Text

/-- A line is a comment with some text: two hyphens stand before it, and only blanks before
these. -/
def CommentOf (line text : List Char) : Prop :=
  ∃ lead, Blanks lead ∧ line = lead ++ '-' :: '-' :: text

/-- A line is a directive with some argument: a comment that starts with its word, in any case,
and a colon. -/
def DirectiveOf (directive : Directive) (line argument : List Char) : Prop :=
  ∃ lead word gap, Blanks lead ∧ word.map asciiLower = directive.word ∧ Blanks gap ∧
    CommentOf line (lead ++ word ++ gap ++ ':' :: argument)

/-- A line is a name header: a directive with a name and the selector of a kind. -/
def NameHeaderOf (line : List Char) (name : String) (kind : StatementKind) : Prop :=
  IsHeaderName name ∧ ∃ lead gap trail, Blanks lead ∧ Blanks gap ∧ Blanks trail ∧
    DirectiveOf .name line (lead ++ name.toList ++ gap ++ kind.selector.toList ++ trail)

/-- The text of a comment says something: it is without one blank in front, if there is one, and
without the blanks at the end. -/
def Says (text said : List Char) : Prop :=
  ∃ lead trail, text = lead ++ said ++ trail ∧ Blanks lead ∧ Blanks trail ∧ lead.length ≤ 1 ∧
    (lead = [] → StartsVisible said) ∧ EndsVisible said

/-- What a line of a header can be, as it is written. -/
inductive HeaderLine.Describes : HeaderLine → String → Prop
  /-- A line of blanks. -/
  | blank {line : String} (blanks : Blanks line.toList) : Describes .blank line
  /-- A comment that is no directive, and what it says. -/
  | remark {line said : String} {text : List Char} (comment : CommentOf line.toList text)
      (plain : ∀ directive argument, ¬ DirectiveOf directive line.toList argument)
      (content : Says text said.toList) : Describes (.remark said) line
  /-- A directive. -/
  | directive {line : String} {directive : Directive} {argument : List Char}
      (written : DirectiveOf directive line.toList argument) : Describes (.directive directive) line
  /-- Neither blank nor a comment. -/
  | sql {line : String} (visible : ¬ Blanks line.toList)
      (plain : ∀ text, ¬ CommentOf line.toList text) : Describes .sql line

section Lines

variable {line text argument said : List Char} {directive : Directive}

/-- What is read after the hyphens of a comment is its text. -/
theorem commentText?_eq_some_iff : commentText? line = some text ↔ CommentOf line text := by
  unfold commentText?
  constructor
  · intro h
    split at h
    · next hyphens htrim =>
      obtain ⟨lead, hlead, hline, _⟩ := exists_trimLeft line
      cases h
      rw [htrim] at hline
      exact ⟨lead, hlead, hline⟩
    · cases h
  · rintro ⟨lead, hlead, rfl⟩
    have hvisible : StartsVisible ('-' :: '-' :: text) := by
      intro c hc
      cases hc
      decide
    rw [trimLeft_append hlead, trimLeft_eq_self hvisible]
    rfl

/-- What is read after a word is what follows it, when it is written in any case. -/
theorem afterWord?_eq_some_iff {word rest : List Char} :
    afterWord? word text = some rest ↔
      ∃ written, written.map asciiLower = word ∧ text = written ++ rest := by
  induction word generalizing text with
  | nil => simp [afterWord?, eq_comm]
  | cons w word ih =>
    cases text with
    | nil => simp [afterWord?]
    | cons c text =>
      rw [afterWord?]
      constructor
      · intro h
        split at h
        · next hc =>
          obtain ⟨written, hwritten, rfl⟩ := ih.mp h
          exact ⟨c :: written, by rw [List.map_cons, hc, hwritten], rfl⟩
        · cases h
      · rintro ⟨written, hwritten, htext⟩
        cases written with
        | nil => cases hwritten
        | cons d written =>
          obtain ⟨hd, hrest⟩ := List.cons.inj hwritten
          obtain ⟨rfl, hlater⟩ := List.cons.inj htext
          rw [if_pos hd, ih.mpr ⟨written, hrest, hlater⟩]

/-- The words of directives have no blank in front, in any case. -/
theorem startsVisible_of_word {written : List Char} (h : written.map asciiLower = directive.word)
    (rest : List Char) : StartsVisible (written ++ rest) := by
  have hword : StartsVisible directive.word := by
    cases directive <;> simp [StartsVisible, Directive.word, isBlank]
  cases written with
  | nil => cases directive <;> cases h
  | cons c others =>
    intro d hd
    obtain rfl : c = d := Option.some.inj hd
    refine isBlank_of_asciiLower (hword _ ?_)
    rw [← h]
    rfl

/-- What is read after the colon of a directive is its argument. -/
theorem Directive.argument?_eq_some_iff :
    argument? directive line = some argument ↔ DirectiveOf directive line argument := by
  unfold argument?
  constructor
  · intro h
    obtain ⟨text, htext, hrest⟩ := Option.bind_eq_some_iff.mp h
    obtain ⟨after, hafter, hcolon⟩ := Option.bind_eq_some_iff.mp hrest
    obtain ⟨word, hword, hwritten⟩ := afterWord?_eq_some_iff.mp hafter
    obtain ⟨lead, hlead, hsplit, _⟩ := exists_trimLeft text
    obtain ⟨gap, hgap, hgapsplit, _⟩ := exists_trimLeft after
    split at hcolon
    · next found htrim =>
      cases hcolon
      refine ⟨lead, word, gap, hlead, hword, hgap, ?_⟩
      rw [← htrim, List.append_assoc, ← hgapsplit, List.append_assoc, ← hwritten, ← hsplit]
      exact commentText?_eq_some_iff.mp htext
    · cases hcolon
  · rintro ⟨lead, word, gap, hlead, hword, hgap, hcomment⟩
    have hcolon : StartsVisible (':' :: argument) := by
      intro c hc
      cases hc
      decide
    have hafter : afterWord? directive.word (word ++ (gap ++ ':' :: argument)) =
        some (gap ++ ':' :: argument) :=
      afterWord?_eq_some_iff.mpr ⟨word, hword, rfl⟩
    rw [List.append_assoc, List.append_assoc] at hcomment
    rw [commentText?_eq_some_iff.mpr hcomment]
    simp only [Option.bind_eq_bind, Option.bind_some, trimLeft_append hlead,
      trimLeft_eq_self (startsVisible_of_word hword _), hafter, trimLeft_append hgap,
      trimLeft_eq_self hcolon]

/-- No line is two directives. -/
theorem DirectiveOf.directive_unique {directive' : Directive} {argument' : List Char}
    (h : DirectiveOf directive line argument) (h' : DirectiveOf directive' line argument') :
    directive = directive' := by
  have hread := Directive.argument?_eq_some_iff.mpr h
  have hread' := Directive.argument?_eq_some_iff.mpr h'
  obtain ⟨text, htext, hrest⟩ := Option.bind_eq_some_iff.mp hread
  obtain ⟨text', htext', hrest'⟩ := Option.bind_eq_some_iff.mp hread'
  obtain rfl := Option.some.inj (htext.symm.trans htext')
  obtain ⟨after, hafter, _⟩ := Option.bind_eq_some_iff.mp hrest
  obtain ⟨after', hafter', _⟩ := Option.bind_eq_some_iff.mp hrest'
  obtain ⟨word, hword, hsplit⟩ := afterWord?_eq_some_iff.mp hafter
  obtain ⟨word', hword', hsplit'⟩ := afterWord?_eq_some_iff.mp hafter'
  have hfirst : (word.map asciiLower).head? = (word'.map asciiLower).head? := by
    have hne : word ≠ [] := by rintro rfl; cases directive <;> cases hword
    have hne' : word' ≠ [] := by rintro rfl; cases directive' <;> cases hword'
    have hhead := congrArg List.head? (hsplit.symm.trans hsplit')
    rw [List.head?_append_of_ne_nil _ hne, List.head?_append_of_ne_nil _ hne'] at hhead
    rw [List.head?_map, List.head?_map, hhead]
  rw [hword, hword'] at hfirst
  cases directive <;> cases directive' <;> first | rfl | exact absurd hfirst (by decide)

/-- The directive that is read on a line is the one it is. -/
theorem Directive.ofLine?_eq_some_iff :
    ofLine? line = some directive ↔ ∃ argument, DirectiveOf directive line argument := by
  have hsome : ∀ directive, (argument? directive line).isSome = true ↔
      ∃ argument, DirectiveOf directive line argument := by
    intro directive
    rw [Option.isSome_iff_exists]
    exact exists_congr fun _ => argument?_eq_some_iff
  unfold ofLine?
  constructor
  · intro h
    split at h
    · next hname => cases h; exact (hsome _).mp hname
    · split at h
      · next hparam => cases h; exact (hsome _).mp hparam
      · cases h
  · rintro ⟨argument, h⟩
    cases directive with
    | name => rw [if_pos ((hsome _).mpr ⟨argument, h⟩)]
    | param =>
      have hnot : ¬ (argument? .name line).isSome = true := by
        intro hname
        obtain ⟨_, hname⟩ := (hsome _).mp hname
        cases hname.directive_unique h
      rw [if_neg hnot, if_pos ((hsome _).mpr ⟨argument, h⟩)]

/-- A letter that may start a name is not blank. -/
theorem isBlank_of_isHeaderNameStart {c : Char} (h : isHeaderNameStart c = true) :
    isBlank c = false := by
  simp only [isHeaderNameStart, isAsciiLetter, Bool.or_eq_true, Bool.and_eq_true,
    decide_eq_true_eq, beq_iff_eq] at h
  rcases h with (((((hlower | hupper) | rfl) | rfl) | rfl) | rfl) | rfl
  · have hlow : 97 ≤ c.toNat := hlower.1
    exact isBlank_of_visible (by omega) hlower.2
  · have hhigh : c.toNat ≤ 90 := hupper.2
    exact isBlank_of_visible hupper.1 (by omega)
  all_goals decide

/-- A name is read up to the first character that is no word character. -/
theorem headerName?_eq_some_iff {name rest : List Char} :
    headerName? text = some (name, rest) ↔ IsHeaderName (String.ofList name) ∧
      (∀ c ∈ rest.head?, isWord c = false) ∧ ∃ lead, Blanks lead ∧ text = lead ++ name ++ rest := by
  constructor
  · intro h
    refine ⟨isHeaderName_of_headerName? h, ?_⟩
    obtain ⟨lead, hlead, htext, _⟩ := exists_trimLeft text
    unfold headerName? at h
    split at h
    · cases h
    · next c after htrim =>
      split at h
      · simp only [Option.some.injEq, Prod.mk.injEq] at h
        obtain ⟨rfl, rfl⟩ := h
        constructor
        · intro d hd
          have hhead := List.head?_dropWhile_not isWord after
          rw [hd] at hhead
          exact hhead
        · refine ⟨lead, hlead, ?_⟩
          rw [List.append_assoc, List.cons_append, List.takeWhile_append_dropWhile, ← htrim]
          exact htext
      · cases h
  · rintro ⟨⟨c, others, hname, hstart, hword⟩, hrest, lead, hlead, rfl⟩
    rw [String.toList_ofList] at hname
    subst hname
    have hvisible : StartsVisible (c :: (others ++ rest)) := by
      intro d hd
      obtain rfl : c = d := Option.some.inj hd
      exact isBlank_of_isHeaderNameStart hstart
    have hothers : ∀ d ∈ others, isWord d = true := List.all_eq_true.mp hword
    rw [headerName?, List.append_assoc, List.cons_append, trimLeft_append hlead,
      trimLeft_eq_self hvisible]
    simp only [hstart, if_true, List.takeWhile_append_of_pos hothers,
      List.dropWhile_append_of_pos hothers]
    cases rest with
    | nil => simp
    | cons d rest =>
      have hd := hrest d rfl
      simp [hd]

/-- A kind is read from its selector. -/
theorem ofSelector?_eq_some_iff {s : String} {kind : StatementKind} :
    StatementKind.ofSelector? s = some kind ↔ s = kind.selector := by
  constructor
  · intro h
    unfold StatementKind.ofSelector? at h
    split_ifs at h with hquery hexecute hbatch hreturning
    all_goals cases h
    all_goals assumption
  · rintro rfl
    exact StatementKind.ofSelector?_selector kind

/-- A selector has no blanks at either end, and does not go on with a name. -/
theorem selector_visible (kind : StatementKind) :
    StartsVisible kind.selector.toList ∧ EndsVisible kind.selector.toList ∧
      ∀ rest, ∀ c ∈ (kind.selector.toList ++ rest).head?, isWord c = false := by
  cases kind
  all_goals
    refine ⟨?_, ?_, ?_⟩
    · rintro c ⟨⟩
      decide
    · rintro c ⟨⟩
      decide
    · rintro rest c ⟨⟩
      decide

/-- A name and a kind are read from their name header. -/
theorem Header.nameAndKind?_eq_some_iff {line name : String} {kind : StatementKind} :
    nameAndKind? line = some (name, kind) ↔ NameHeaderOf line.toList name kind := by
  unfold nameAndKind?
  constructor
  · intro h
    obtain ⟨argument, hargument, hname⟩ := Option.bind_eq_some_iff.mp h
    obtain ⟨⟨found, rest⟩, hfound, hkind⟩ := Option.bind_eq_some_iff.mp hname
    obtain ⟨selected, hselected, hpair⟩ := Option.bind_eq_some_iff.mp hkind
    cases hpair
    obtain ⟨hheader, _, lead, hlead, rfl⟩ := headerName?_eq_some_iff.mp hfound
    have htrim : trim rest = kind.selector.toList := by
      rw [← ofSelector?_eq_some_iff.mp hselected, String.toList_ofList]
    obtain ⟨_, _, gap, trail, hgap, htrail, rfl⟩ := trim_eq_iff.mp htrim
    refine ⟨hheader, lead, gap, trail, hlead, hgap, htrail, ?_⟩
    rw [String.toList_ofList]
    simpa only [List.append_assoc] using Directive.argument?_eq_some_iff.mp hargument
  · rintro ⟨hheader, lead, gap, trail, hlead, hgap, htrail, hdirective⟩
    obtain ⟨hstarts, hends, hword⟩ := selector_visible kind
    have hrest : ∀ c ∈ (gap ++ kind.selector.toList ++ trail).head?, isWord c = false := by
      intro c hc
      cases gap with
      | nil =>
        rw [List.nil_append] at hc
        exact hword trail c hc
      | cons d others =>
        obtain rfl : d = c := Option.some.inj hc
        exact isWord_of_isBlank (hgap d List.mem_cons_self)
    have hname : headerName? (lead ++ name.toList ++ (gap ++ kind.selector.toList ++ trail)) =
        some (name.toList, gap ++ kind.selector.toList ++ trail) :=
      headerName?_eq_some_iff.mpr ⟨by rwa [String.ofList_toList], hrest, lead, hlead, rfl⟩
    have htrim : trim (gap ++ kind.selector.toList ++ trail) = kind.selector.toList :=
      trim_eq_iff.mpr ⟨hstarts, hends, gap, trail, hgap, htrail, rfl⟩
    have hargument := Directive.argument?_eq_some_iff.mpr hdirective
    simp only [List.append_assoc] at hargument hname htrim
    simp only [hargument, Option.bind_eq_bind, Option.bind_some, hname, htrim,
      String.ofList_toList, StatementKind.ofSelector?_selector, Option.pure_def]

/-- What a comment says is its text without one blank in front, and without those at the end. -/
theorem remarkText_eq_iff : HeaderLine.remarkText text = said ↔ Says text said := by
  constructor
  · rintro rfl
    cases text with
    | nil =>
      exact ⟨[], [], rfl, blanks_nil, blanks_nil, by simp, fun _ => startsVisible_nil,
        endsVisible_nil⟩
    | cons c rest =>
      rw [HeaderLine.remarkText]
      split
      · next hc =>
        obtain ⟨trail, htrail, hrest, hends⟩ := exists_trimRight rest
        exact ⟨[c], trail, congrArg (c :: ·) hrest, List.forall_mem_singleton.mpr hc, htrail,
          by simp, fun h => (List.cons_ne_nil _ _ h).elim, hends⟩
      · next hc =>
        obtain ⟨trail, htrail, hrest, hends⟩ := exists_trimRight (c :: rest)
        refine ⟨[], trail, hrest, blanks_nil, htrail, by simp, fun _ => ?_, hends⟩
        have hvisible : StartsVisible (c :: rest) := by
          intro d hd
          obtain rfl : c = d := Option.some.inj hd
          simpa using hc
        rw [hrest] at hvisible
        exact hvisible.of_append
  · rintro ⟨lead, trail, rfl, hlead, htrail, hlength, hstarts, hends⟩
    cases lead with
    | nil =>
      cases said with
      | nil =>
        cases trail with
        | nil => rfl
        | cons c rest =>
          obtain ⟨hc, hrest⟩ := List.forall_mem_cons.mp htrail
          simp only [List.nil_append, HeaderLine.remarkText, hc, if_true,
            trimRight_of_blanks hrest]
      | cons c rest =>
        have hc : isBlank c = false := hstarts rfl c rfl
        simp only [List.nil_append, List.cons_append, HeaderLine.remarkText, hc,
          Bool.false_eq_true, if_false]
        rw [← List.cons_append, trimRight_append htrail, trimRight_eq_self hends]
    | cons c others =>
      obtain rfl : others = [] := by
        rw [List.length_cons] at hlength
        exact List.eq_nil_of_length_eq_zero (by omega)
      have hc : isBlank c = true := hlead c List.mem_cons_self
      simp only [List.cons_append, List.nil_append, HeaderLine.remarkText, hc, if_true,
        trimRight_append htrail, trimRight_eq_self hends]

/-- What is read after the hyphens of a comment is nothing when there is no comment. -/
theorem commentText?_eq_none_iff : commentText? line = none ↔ ∀ text, ¬ CommentOf line text := by
  rw [Option.eq_none_iff_forall_ne_some]
  exact forall_congr' fun _ => commentText?_eq_some_iff.not

/-- No directive is read on a line when there is none. -/
theorem Directive.ofLine?_eq_none_iff :
    ofLine? line = none ↔ ∀ directive argument, ¬ DirectiveOf directive line argument := by
  rw [Option.eq_none_iff_forall_ne_some]
  refine forall_congr' fun directive => ?_
  rw [ne_eq, ofLine?_eq_some_iff, not_exists]

/-- A comment is more than blanks. -/
theorem CommentOf.not_blanks (h : CommentOf line text) : ¬ Blanks line := by
  obtain ⟨lead, _, rfl⟩ := h
  intro hblank
  have hhyphen : isBlank '-' = true := hblank '-' (by simp)
  revert hhyphen
  decide

/-- A directive is a comment. -/
theorem DirectiveOf.exists_commentOf (h : DirectiveOf directive line argument) :
    ∃ text, CommentOf line text := by
  obtain ⟨lead, word, gap, _, _, _, hcomment⟩ := h
  exact ⟨_, hcomment⟩

/-- A line is read as what it is. -/
theorem HeaderLine.ofLine_eq_iff {line : String} {kind : HeaderLine} :
    ofLine line = kind ↔ kind.Describes line := by
  unfold ofLine
  constructor
  · intro h
    simp only at h
    split at h
    · next hblank =>
      cases h
      exact .blank (isBlankText_iff.mp hblank)
    · next hvisible =>
      rw [isBlankText_iff] at hvisible
      split at h
      · next hnone =>
        cases h
        exact .sql hvisible (commentText?_eq_none_iff.mp hnone)
      · next text htext =>
        split at h
        · next hdirective =>
          cases h
          obtain ⟨argument, hwritten⟩ := Directive.ofLine?_eq_some_iff.mp hdirective
          exact .directive hwritten
        · next hplain =>
          cases h
          refine .remark (commentText?_eq_some_iff.mp htext)
            (Directive.ofLine?_eq_none_iff.mp hplain) (remarkText_eq_iff.mp ?_)
          rw [String.toList_ofList]
  · intro h
    cases h with
    | blank hblank => rw [if_pos (isBlankText_iff.mpr hblank)]
    | sql hvisible hplain =>
      rw [if_neg (isBlankText_iff.not.mpr hvisible), commentText?_eq_none_iff.mpr hplain]
    | directive hwritten =>
      obtain ⟨text, hcomment⟩ := hwritten.exists_commentOf
      rw [if_neg (isBlankText_iff.not.mpr hcomment.not_blanks),
        commentText?_eq_some_iff.mpr hcomment, Directive.ofLine?_eq_some_iff.mpr ⟨_, hwritten⟩]
    | remark hcomment hplain hsays =>
      rw [if_neg (isBlankText_iff.not.mpr hcomment.not_blanks),
        commentText?_eq_some_iff.mpr hcomment, Directive.ofLine?_eq_none_iff.mpr hplain]
      simp only [remarkText_eq_iff.mpr hsays, String.ofList_toList]

-- The second blank after the hyphens is a part of what the comment says.
example : HeaderLine.ofLine " --  two blanks " = .remark " two blanks" := by decide

end Lines

end AnnotatedSql
