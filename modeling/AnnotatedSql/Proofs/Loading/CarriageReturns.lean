import AnnotatedSql.Proofs.Compilation.CarriageReturns
import AnnotatedSql.Proofs.Loading.FileTree
import AnnotatedSql.Proofs.Loading.Text

/-!
# Loading a text with carriage returns

The operations of a text with a carriage return in front of every newline are those of the text
without, but for the carriage returns in their SQL text. Reading the same text from a file takes the
carriage returns away.
-/

set_option autoImplicit false

namespace AnnotatedSql

open Text

/-- Carriage returns are put in the SQL text of a query. -/
def StaticQuery.returned (q : StaticQuery) : StaticQuery :=
  { q with sql := withReturns q.sql }

/-- Carriage returns are put in the SQL text of an operation. -/
def Operation.returned (op : Operation) : Operation :=
  { op with
    statement := op.statement.returned
    static := op.static.map StaticQuery.returned }

/-- Carriage returns are put in the SQL text of what is an operation. -/
def Attribute.returned : Attribute Registry → Attribute Registry
  | operation op => operation op.returned
  | adapter a => adapter a
  | settings s => settings s
  | container child => container child

/-- Carriage returns are put in the SQL text of a container's own operations. -/
def Registry.returned (r : Registry) : Registry :=
  { r with
    attributes := r.attributes.map fun e => (e.1, e.2.returned)
    operations := r.operations.map fun e => (e.1, e.2.returned) }

section Statement

/-- A number is written without newlines. -/
theorem newline_not_mem_toString (index : ℤ) : '\n' ∉ (toString index).toList := by
  have hdigits : ∀ n : ℕ, '\n' ∉ n.repr.toList := by
    intro n hmem
    rw [Nat.repr, String.toList_ofList] at hmem
    have hdigit := Nat.isDigit_of_mem_toDigits (by decide) (by decide) hmem
    revert hdigit
    decide
  cases index with
  | ofNat n => exact hdigits n
  | negSucc n =>
    have hsplit : toString (Int.negSucc n) = "-" ++ (n + 1).repr := rfl
    rw [hsplit, String.toList_append, List.mem_append, not_or]
    exact ⟨by decide, hdigits (n + 1)⟩

/-- A placeholder has no newline in it. -/
theorem withReturns_render (style : PlaceholderStyle) (index : ℤ) :
    withReturns (style.render index) = style.render index := by
  apply withReturns_of_not_mem
  rw [PlaceholderStyle.render, PlaceholderStyle.write, String.toList_append, List.mem_append,
    not_or]
  refine ⟨?_, newline_not_mem_toString index⟩
  cases style <;> decide

/-- Carriage returns in joined texts. -/
theorem join_map_withReturns (texts : List String) :
    String.join (texts.map withReturns) = withReturns (String.join texts) := by
  induction texts with
  | nil => rfl
  | cons text rest ih =>
    rw [List.map_cons, String.join_cons, ih, String.join_cons, withReturns_append]

/-- A statement has the same signature with carriage returns. -/
theorem Signature.ofStatement_returned (s : Statement) :
    ofStatement s.returned = ofStatement s := by
  have hlocation : s.returned.block.map Block.location = s.block.map Block.location := by
    cases hblock : s.block <;> simp [Statement.returned, hblock, Block.returned, Block.location]
  have hname : nameError? s.returned = nameError? s := by
    funext name
    simp only [nameError?, hlocation]
    rfl
  simp only [ofStatement, hname]
  rfl

/-- The texts of tokens have the carriage returns. -/
theorem StaticQuery.mapM_tokenText_returned (style : PlaceholderStyle) (s : Statement)
    (tokens : List Token) :
    (tokens.map Token.returned).mapM (tokenText style s.returned) =
      (tokens.mapM (tokenText style s)).map (List.map withReturns) := by
  have htext : ∀ token : Token,
      tokenText style s.returned token.returned = (tokenText style s token).map withReturns := by
    intro token
    cases token with
    | literal text => rfl
    | marker m =>
      have hindex : index? s.returned m.name = index? s m.name := rfl
      simp only [Token.returned, tokenText, hindex]
      cases index? s m.name with
      | none => rfl
      | some index => simp only [Except.map, withReturns_render]
  induction tokens with
  | nil => rfl
  | cons token rest ih =>
    rw [List.map_cons, List.mapM_cons, List.mapM_cons, htext, ih]
    cases tokenText style s token with
    | error e => rfl
    | ok text => cases rest.mapM (tokenText style s) <;> rfl

/-- A query with a fixed text has the carriage returns. -/
theorem StaticQuery.build_returned (s : Statement) (style : PlaceholderStyle) :
    build s.returned style = (build s style).map returned := by
  have hdynamic : s.returned.isDynamic = s.isDynamic := rfl
  have hmarkers : Token.markers s.returned.tokens = Token.markers s.tokens :=
    Token.markers_map_returned s.tokens
  have hindex : ∀ name, index? s.returned name = index? s name := fun _ => rfl
  have hhighest : highest s.returned = highest s := by
    simp only [highest, hmarkers, hindex]
  have hreferenced : isReferenced s.returned = isReferenced s := by
    funext name
    simp only [isReferenced, hmarkers]
  have htexts := mapM_tokenText_returned style s s.tokens
  unfold build
  rw [hdynamic, hhighest, hreferenced]
  split
  · rfl
  · change Except.map _ ((s.tokens.map Token.returned).mapM (tokenText style s.returned)) = _
    rw [htexts]
    cases s.tokens.mapM (tokenText style s) with
    | error e => rfl
    | ok texts => simp only [Except.map, join_map_withReturns]; rfl

/-- An operation has the carriage returns. -/
theorem Operation.build_returned (s : Statement) (style : Slot PlaceholderStyle)
    (query : Except Failure StaticQuery) (checkTypes : Except Failure (Slot Bool))
    (adapter : Slot Adapter) :
    build s.returned style (query.map StaticQuery.returned) checkTypes adapter =
      (build s style query checkTypes adapter).map returned := by
  have hfixed : fixedQuery s.returned (query.map StaticQuery.returned) =
      (fixedQuery s query).map (Option.map StaticQuery.returned) := by
    have hdynamic : s.returned.isDynamic = s.isDynamic := rfl
    unfold fixedQuery
    rw [hdynamic]
    split
    · rfl
    · cases query <;> rfl
  have hline : (s.returned.block.bind fun b => lineFault? b.startLine) =
      s.block.bind fun b => lineFault? b.startLine := by
    cases hblock : s.block <;> simp [Statement.returned, hblock, Block.returned]
  unfold build
  rw [Signature.ofStatement_returned, hfixed, hline]
  cases Signature.ofStatement s with
  | error e => rfl
  | ok signature =>
    cases fixedQuery s query with
    | error e => rfl
    | ok static =>
      cases checkTypes with
      | error e => rfl
      | ok checked => cases s.block.bind fun b => lineFault? b.startLine <;> rfl

end Statement

namespace Registry

variable {adapter : Adapter} {settings : Settings} {taken : List String} {r : Registry}

/-- The attribute of a name has the carriage returns. -/
theorem attribute?_returned (r : Registry) (name : String) :
    r.returned.attribute? name = (r.attribute? name).map Attribute.returned :=
  Entries.lookup_map_snd Attribute.returned name r.attributes

/-- The same names are taken. -/
theorem isTaken_returned (r : Registry) (name : String) :
    r.returned.isTaken name = r.isTaken name := by
  unfold isTaken operation? child?
  simp only [returned, Entries.lookup_map_snd, Option.isSome_map]

/-- Names are refused alike. -/
theorem checkFree_returned (r : Registry) (name : String) :
    r.returned.checkFree name = r.checkFree name := by
  simp only [checkFree, nameProblem?, isTaken_returned]

/-- An operation is added alike. -/
theorem addOperation_returned (r : Registry) (name : String) (op : Operation) :
    r.returned.addOperation name op.returned = (r.addOperation name op).map returned := by
  unfold addOperation
  rw [checkFree_returned]
  cases r.checkFree name with
  | error e => rfl
  | ok _ =>
    simp only [Except.map, setAttribute, returned, List.map_cons, List.map_append, List.map_nil,
      List.filter_map, Function.comp_def]
    rfl

/-- A container in which operations were added has the same names under which they were. -/
theorem Holds.returned (h : Holds adapter settings taken r) :
    Holds adapter settings taken r.returned := by
  refine ⟨?_, ?_, ?_⟩
  · intro name hname
    have hempty : (empty adapter settings).returned = empty adapter settings := rfl
    rw [attribute?_returned, h.kept name hname, ← attribute?_returned, hempty]
  · intro name hname
    obtain ⟨op, hop⟩ := h.replaced name hname
    exact ⟨op.returned, by rw [attribute?_returned, hop]; rfl⟩
  · intro name hname
    rw [isTaken_returned, h.free name hname]

/-- Once the style is not known any more, an operation is asked for it. -/
theorem Holds.styleSlot_eq_error (h : Holds adapter settings taken r)
    (hunknown : ¬ StyleKnown settings taken) :
    r.styleSlot = .error (missingAttribute "function" "placeholder_style") := by
  unfold styleSlot
  rw [h.currentSettings_eq]
  by_cases hsettings : settingsName ∈ taken
  · rw [if_pos hsettings]
  · have hstyle : settings.style = none ∧ adapterName ∈ taken := by
      simpa [StyleKnown, hsettings] using hunknown
    rw [if_neg hsettings]
    simp only [hstyle.1, adapterStyle]
    rw [h.adapter_eq, if_pos hstyle.2]

/-- An operation is made alike in a container in which operations were added. -/
theorem Holds.synthesize_returned (h : Holds adapter settings taken r) (s : Statement) :
    r.returned.synthesize s.returned = (r.synthesize s).map Operation.returned := by
  have hreturned := h.returned
  by_cases hknown : StyleKnown settings taken
  · have hquery : ∀ style, r.returned.staticQuery s.returned (.held style) =
        (r.staticQuery s (.held style)).map StaticQuery.returned := by
      intro style
      simp only [staticQuery, Slot.resolve, StaticQuery.build_returned]
      cases StaticQuery.build s style <;> rfl
    have hadapter : r.returned.adapter = r.adapter := by
      rw [hreturned.adapter_eq, h.adapter_eq]
    rw [h.synthesize_eq hknown, hreturned.synthesize_eq hknown, hquery, hadapter,
      Operation.build_returned]
  · unfold synthesize
    rw [h.styleSlot_eq_error hknown, hreturned.styleSlot_eq_error hknown]
    rfl

/-- A statement is loaded alike into a container in which operations were added. -/
theorem Holds.load_returned (h : Holds adapter settings taken r) (s : Statement) :
    r.returned.load s.returned = (r.load s).map Registry.returned := by
  unfold Registry.load
  rw [h.synthesize_returned]
  cases r.synthesize s with
  | error e => rfl
  | ok op =>
    have hname : s.returned.name = s.name := rfl
    have hadd := addOperation_returned r s.name op
    simp only [Except.map, Bind.bind, Except.bind, hname, hadd]
    cases r.addOperation s.name op <;> rfl

/-- Statements are loaded alike into a container in which operations were added, up to the same
failure. -/
theorem Holds.loadAll_returned (h : Holds adapter settings taken r) (list : List Statement) :
    r.returned.loadAll (list.map Statement.returned) =
      ((r.loadAll list).1.returned, (r.loadAll list).2) := by
  induction list generalizing r taken with
  | nil => rfl
  | cons s rest ih =>
    rw [List.map_cons, loadAll, loadAll, h.load_returned]
    cases hload : r.load s with
    | error e => rfl
    | ok later => exact ih (h.load hload)

end Registry

namespace Loading

/-- A text with carriage returns is loaded into a container like the text without, but for the
carriage returns in the SQL text of the operations. -/
theorem text_withReturns (adapter : Adapter) (settings : Settings) (source sourceName : String)
    (events : List Event) :
    (text adapter settings (withReturns source) sourceName events).1 =
      (text adapter settings source sourceName events).1.map Registry.returned := by
  have hempty : (Registry.empty adapter settings).returned = Registry.empty adapter settings := rfl
  rw [text_eq, text_eq, result_compile_withReturns]
  cases (compile settings source sourceName).result with
  | error e => rfl
  | ok list =>
    have hall := (Registry.holds_empty adapter settings).loadAll_returned list
    rw [hempty] at hall
    simp only [Except.map, hall]
    rcases (Registry.empty adapter settings).loadAll list with ⟨loaded, _ | e⟩ <;> rfl

end Loading

namespace Loader

variable {loader : Loader} {root : FileNode} {path : FilePath} {text : String}

/-- The file at a path holds a text in the encoding of the files. -/
structure Stores (loader : Loader) (root : FileNode) (path : FilePath) (text : String) : Prop where
  /-- The name of the encoding is a name. -/
  named : loader.encoding.toList.contains '\x00' = false
  /-- The bytes of the file decode to the text. -/
  decodes : ∃ bytes encoding, root.readBytes path = .ok bytes ∧
    Encoding.ofName? loader.encoding = some encoding ∧ encoding.decode bytes = .ok text.toList

/-- A file that holds a text is read with every line end as a newline. -/
theorem Stores.read_eq (h : Stores loader root path text) :
    loader.read root path = .ok (String.ofList (normalizeNewlines text.toList)) := by
  obtain ⟨bytes, encoding, hbytes, hencoding, hdecode⟩ := h.decodes
  have htext : root.readText path loader.encoding =
      .ok (String.ofList (normalizeNewlines text.toList)) := by
    unfold FileNode.readText
    rw [h.named, hbytes]
    simp only [Bool.false_eq_true, if_false, Bind.bind, Except.bind, hencoding, hdecode]
    rfl
  rw [read, htext, Outcome.mapError_ok]

/-- A file that holds a text is a file. -/
theorem Stores.isFile_eq (h : Stores loader root path text) : root.isFile path = .ok true := by
  obtain ⟨_, _, hbytes, _, _⟩ := h.decodes
  exact FileNode.isFile_of_lookup (FileNode.lookup_of_readBytes hbytes)

/-- Loading a file is loading the text that is read from it. -/
theorem loadFile_eq (hfile : root.isFile path = .ok true) (hread : loader.read root path = .ok text)
    (events : List Event) :
    (loader.loadFile root path events).1 =
      (Loading.text loader.adapter loader.settings text path.text events).1 := by
  simp only [loadFile, loadInto, Loading.text, hfile, hread, Run.ofExcept, Run.result, Bind.bind,
    Run.andThen, if_true]
  rcases Loading.statements loader.settings text path.text events with ⟨_ | found, later⟩
  · rfl
  · simp only
    rcases Loading.into (.empty loader.adapter loader.settings) found later with ⟨_ | loaded, last⟩
    · rfl
    · rfl

/-- Carriage returns do not matter. A text without any compiles like the text with one in front of
every newline, but for the carriage returns in literal text, and so its operations are the same but
for these. A file with them is read like one without. -/
theorem ignores_returns (loader : Loader) {text : String} (h : '\r' ∉ text.toList) :
    (∀ settings sourceName,
      (compile settings (withReturns text) sourceName).result =
        (compile settings text sourceName).result.map (List.map Statement.returned)) ∧
    (∀ sourceName events,
      (Loading.text loader.adapter loader.settings (withReturns text) sourceName events).1 =
        (Loading.text loader.adapter loader.settings text sourceName events).1.map
          Registry.returned) ∧
    ∀ root path events, Stores loader root path (withReturns text) →
      loader.read root path = .ok text ∧
        (loader.loadFile root path events).1 =
          (Loading.text loader.adapter loader.settings text path.text events).1 := by
  refine ⟨fun settings sourceName => result_compile_withReturns settings text sourceName,
    fun sourceName events => Loading.text_withReturns _ _ text sourceName events, ?_⟩
  intro root path events hstores
  have hread : loader.read root path = .ok text := by
    rw [hstores.read_eq, toList_withReturns, normalizeNewlines_returned h, String.ofList_toList]
  exact ⟨hread, loadFile_eq hstores.isFile_eq hread events⟩

/-- A text whose statement has a comment, a quotation and a body of several lines. -/
def severalLines : String :=
  "-- name: a!\n-- A remark.\ninsert into t values -- one\n('x\ny', :b)\n/\n"

/-- The text in a file, with carriage returns. -/
def returnedFile : FileNode :=
  .folder [("a.sql", .file (withReturns severalLines).toUTF8.toList)]

/-- The quotation and the end of the comment have carriage returns in the one, and the file is read
without them. -/
theorem ignores_returns_several_lines :
    ∃ s,
      (compile .standard severalLines "<string>").result = .ok [s] ∧
      (compile .standard (withReturns severalLines) "<string>").result = .ok [s.returned] ∧
      s.returned.tokens =
        [.literal "insert into t values -- one\r\n('x\r\ny', ", .marker ⟨"b", .scalar⟩,
          .literal ")"] ∧
      read ⟨.standard, .standard, "utf-8"⟩ returnedFile (.ofString "a.sql") =
        .ok severalLines := by
  let loader : Loader := ⟨.standard, .standard, "utf-8"⟩
  let s : Statement :=
    { name := "a"
      kind := .execute
      parameters := [⟨"b", .scalar, 0, none, true⟩]
      tokens := [.literal "insert into t values -- one\n('x\ny', ", .marker ⟨"b", .scalar⟩,
        .literal ")"]
      doc := "A remark."
      block := some ⟨"-- name: a!\n-- A remark.\ninsert into t values -- one\n('x\ny', :b)", 1, 5,
        "<string>"⟩ }
  have hplain : '\r' ∉ severalLines.toList := by decide
  have hcompile : (compile .standard severalLines "<string>").result = .ok [s] := by
    decide +kernel
  have hdecodes : Encoding.decode .utf8 (withReturns severalLines).toUTF8.toList =
      .ok (withReturns severalLines).toList := by decide +kernel
  have hstores : Stores loader returnedFile (.ofString "a.sql") (withReturns severalLines) :=
    ⟨by decide, _, .utf8, rfl, by decide +kernel, hdecodes⟩
  obtain ⟨hsame, _, hfile⟩ := ignores_returns loader hplain
  have hreturned := hsame .standard "<string>"
  rw [hcompile] at hreturned
  exact ⟨s, hcompile, hreturned, by decide +kernel, (hfile _ _ [] hstores).1⟩

end Loader

end AnnotatedSql
