import AnnotatedSql.Operation.Call
import AnnotatedSql.Proofs.Compilation
import AnnotatedSql.Proofs.Engine.Run
import AnnotatedSql.Proofs.Operation.Arguments
import AnnotatedSql.Proofs.Operation.Basic
import AnnotatedSql.Proofs.Query.Dynamic

/-!
# What a call executes

A call of an operation executes one text: the body of its statement, in which every marker has
given way to placeholders for the argument that it names.
-/

set_option autoImplicit false

namespace AnnotatedSql

namespace Operation

/-- What an operation was made of. -/
structure MadeOf (s : Statement) (style : PlaceholderStyle) (adapter : Adapter) (op : Operation) :
    Prop where
  statement_eq : op.statement = s
  names_eq : op.signature.arguments.map Argument.name = s.argumentNames
  style_eq : op.style = .held style
  adapter_eq : op.adapter = .held adapter
  static_eq : op.static =
    if s.isDynamic then none
    else some ⟨String.join (s.tokens.map (StaticQuery.numberedText style s)),
      StaticQuery.bindOrderOf s⟩

/-- An operation that is made of a statement whose parameters fit its body has the style of the
settings or else of the adapter. -/
theorem madeOf_of_make {s : Statement} {adapter : Adapter} {settings : Settings} {op : Operation}
    (hfit : Fit s.kind s.parameters s.tokens) (h : make s adapter settings = .ok op) :
    MadeOf s (settings.style.getD adapter.style) adapter op := by
  obtain ⟨signature, static, checked, hsignature, hstatic, _, _, rfl⟩ := build_eq_ok_iff.mp h
  refine ⟨rfl, Signature.argumentNames_of_ofStatement hsignature, rfl, rfl, ?_⟩
  unfold fixedQuery at hstatic
  cases hdynamic : s.isDynamic with
  | true =>
    rw [hdynamic, if_pos rfl] at hstatic
    rw [if_pos rfl]
    exact (Except.ok.inj hstatic).symm
  | false =>
    rw [hdynamic, StaticQuery.build_of_serves hfit.serves hdynamic] at hstatic
    rw [if_neg (by simp)]
    exact (Except.ok.inj hstatic).symm

variable {s : Statement} {style : PlaceholderStyle} {adapter : Adapter} {op : Operation}
  {containers : Containers} {positional : List Value} {named : List (String × Value)}

/-- The query of a call is filled with the arguments, whether its text is fixed or not. -/
theorem MadeOf.query_filled (h : MadeOf s style adapter op)
    (hfit : Fit s.kind s.parameters s.tokens) (containers : Containers)
    {argument : String → Option Value} {values : List (String × Value)}
    (hnodup : (values.map Prod.fst).Nodup)
    (hsupplied : ∀ m ∈ Token.markers s.tokens, Supplied argument values m) :
    ∃ q texts, op.query containers values = Run.result q ∧ q.sql = String.join texts ∧
      List.Forall₂ (Filled style q.parameters argument) s.tokens texts := by
  unfold query
  rw [h.static_eq, h.style_eq, h.statement_eq]
  cases hdynamic : s.isDynamic with
  | true =>
    obtain ⟨q, texts, hok, hsql, hfilled⟩ :=
      BoundQuery.assembleDynamic_filled style hnodup hsupplied
    refine ⟨q, texts, ?_, hsql, hfilled⟩
    simp only [if_true, Slot.resolve, hok, Outcome.mapError_ok, Run.ofExcept]
  | false =>
    refine ⟨⟨String.join (s.tokens.map (StaticQuery.numberedText style s)),
      StaticQuery.boundOf s values⟩, _, ?_, rfl,
      StaticQuery.filled hfit.serves hdynamic style hsupplied⟩
    simp only [Bool.false_eq_true, if_false, StaticQuery.bind_of_supplied _ hsupplied, Except.map,
      Outcome.mapError_ok, Run.ofExcept]

/-- The parameters of a statement are among the arguments of its operation. -/
theorem mem_argumentNames_of_parameter {p : Parameter} (hp : p ∈ s.parameters) :
    p.name ∈ s.argumentNames := by
  have hname : p.name ∈ s.parameterNames := List.mem_map_of_mem hp
  simp [Statement.argumentNames, hname]

/-- When a call is accepted, its connection is the one that was given, and its values have what
every marker needs of the arguments. -/
theorem MadeOf.bind_ok (h : MadeOf s style adapter op)
    (hfit : Fit s.kind s.parameters s.tokens) {bound : Bound}
    (hbind : op.bind containers positional named = .ok bound) :
    (bound.values.map Prod.fst).Nodup ∧
      Arguments.given s.argumentNames positional named connectionName = some bound.target ∧
      ∀ m ∈ Token.markers s.tokens,
        Supplied (Arguments.given s.argumentNames positional named) bound.values m := by
  unfold bind at hbind
  rw [h.names_eq, h.statement_eq] at hbind
  obtain ⟨arguments, harguments, hrest⟩ := Outcome.bind_eq_ok_iff.mp hbind
  obtain ⟨values, hvalues, hbound⟩ := Outcome.bind_eq_ok_iff.mp hrest
  obtain ⟨hnames, hgiven⟩ := Arguments.lookup_of_bind (Outcome.mapError_eq_ok_iff.mp harguments)
  obtain ⟨hkeys, hchecked⟩ := Parameter.checkAll_ok (Outcome.mapError_eq_ok_iff.mp hvalues)
  cases hbound
  refine ⟨by rw [hkeys]; exact hfit.names_nodup, ?_, ?_⟩
  · have hmem : connectionName ∈ s.argumentNames := List.mem_cons_self
    obtain ⟨target, htarget⟩ := Entries.lookup_isSome_of_mem (hnames ▸ hmem)
    rw [← hgiven connectionName hmem, htarget]
    rfl
  · intro m hm
    obtain ⟨p, hp, hname, hmultiplicity⟩ := hfit.marker_has m hm
    obtain ⟨w, hcheck, hlookup⟩ := hchecked hfit.names_nodup p hp
    have hmem := mem_argumentNames_of_parameter hp
    obtain ⟨v, hv⟩ := Entries.lookup_isSome_of_mem (hnames ▸ hmem)
    have hargument := (hgiven p.name hmem).symm.trans hv
    rw [hv] at hcheck
    have hw := Parameter.check_ok hcheck
    unfold Supplied
    rw [← hname, ← hmultiplicity]
    cases hkind : p.multiplicity with
    | scalar =>
      simp only [hkind, Option.getD_some] at hw
      exact ⟨v, hargument, hw ▸ hlookup⟩
    | list =>
      simp only [hkind, Option.getD_some] at hw
      obtain ⟨elements, helements, rfl⟩ := hw
      exact ⟨v, elements, hargument, helements, hlookup⟩

/-- Handing a row to the callback executes nothing. -/
theorem quiet_invoke (op : Operation) (surroundings : Surroundings) (callback row : Value)
    (rowNumber : ℕ) : (op.invoke surroundings callback row rowNumber).Quiet := by
  intro events
  unfold invoke
  apply Run.Executes.mapFailure
  unfold handRow
  split
  · next number =>
    split
    · next c hc => exact ⟨_, [.row number row], rfl, rfl⟩
    · exact Run.quiet_result _ events
  · exact Run.quiet_fail _ events

/-- Fetching a row executes nothing. -/
theorem quiet_fetch (adapter : Adapter) (connection : Connection) :
    (fetch adapter connection).Quiet := by
  intro events
  exact (Run.quiet_call connection rfl events).mapFailure _

/-- Handing rows to the callback executes nothing. -/
theorem quiet_deliver (op : Operation) (adapter : Adapter) (surroundings : Surroundings)
    (callback : Value) (rowNumber : ℕ) (rows : List Value) :
    (op.deliver adapter surroundings callback rowNumber rows).Quiet := by
  intro events
  induction rows generalizing rowNumber events with
  | nil => exact quiet_fetch adapter surroundings.connection events
  | cons row rest ih =>
    unfold deliver
    apply (quiet_fetch adapter surroundings.connection events).andThen
    intro _ later
    split
    · exact Run.quiet_result _ later
    · apply (quiet_invoke op surroundings callback row rowNumber later).andThen
      intro _ last
      exact ih (rowNumber + 1) last

/-- Handing the first row to the callback executes nothing. -/
theorem quiet_deliverFirst (op : Operation) (adapter : Adapter) (surroundings : Surroundings)
    (callback : Value) : (op.deliverFirst adapter surroundings callback).Quiet := by
  intro events
  unfold deliverFirst
  apply (quiet_fetch adapter surroundings.connection events).andThen
  intro _ later
  split
  · exact Run.quiet_fail _ later
  · exact Run.quiet_fail _ later
  · exact quiet_invoke op surroundings callback _ 1 later

/-- Preparing a query only logs it. -/
theorem executes_prepare {α : Type} {events : List Event} {values : List (String × Value)}
    {q : BoundQuery} {next : BoundQuery → Run α} {list : List (String × List Value)}
    (hquery : op.query containers values = Run.result q)
    (hnext : (next q).Executes (events ++ [.logged (Log.executing op.statement q)]) list) :
    (op.prepare containers values >>= next).Executes events list := by
  have hprepare : op.prepare containers values events =
      (.ok q, events ++ [.logged (Log.executing op.statement q)]) := by
    unfold prepare
    rw [hquery]
    rfl
  apply Run.Executes.after (a := q)
  · exact ⟨_, _, hprepare, rfl⟩
  · rw [hprepare]
  · rw [hprepare]
    exact hnext

/-- The values that the query of a call is made from. A batch statement takes none. -/
def queriedValues (kind : StatementKind) (values : List (String × Value)) :
    List (String × Value) :=
  match kind with
  | .batch => []
  | .query | .execute | .returning => values

/-- The values that are bound when a query is executed. A batch statement has none. -/
def executedValues (kind : StatementKind) (q : BoundQuery) : List Value :=
  match kind with
  | .batch => []
  | .query | .execute | .returning => q.parameters

/-- What a call does with its query once that is prepared. -/
def carryOut (op : Operation) (adapter : Adapter) (surroundings : Surroundings) (bound : Bound)
    (q : BoundQuery) : Run Value :=
  let connection := surroundings.connection
  match op.statement.kind with
  | .query => do
    adapter.select connection bound.target q.sql q.parameters
      (op.deliver adapter surroundings bound.callback 1 connection.rows)
    pure .none
  | .execute => adapter.execute connection bound.target q.sql q.parameters
  | .batch => do
    adapter.executeScript connection bound.target q.sql
    pure .none
  | .returning =>
    adapter.select connection bound.target q.sql q.parameters
      (op.deliverFirst adapter surroundings bound.callback)

/-- Through an adapter a call matches its arguments, prepares its query and carries it out. -/
theorem call_eq (hadapter : op.adapter = .held adapter) (containers : Containers)
    (surroundings : Surroundings) (positional : List Value) (named : List (String × Value)) :
    op.call containers surroundings positional named =
      (Run.ofExcept (op.bind containers positional named) >>= fun bound =>
        op.prepare containers (queriedValues op.statement.kind bound.values) >>=
          op.carryOut adapter surroundings bound) := by
  unfold call carryOut
  rw [hadapter]
  cases op.statement.kind <;> rfl

/-- A call that is accepted executes its query and nothing else on a connection that gives a
cursor. -/
theorem MadeOf.executes_call (h : MadeOf s style adapter op) {surroundings : Surroundings}
    {bound : Bound} {q : BoundQuery} {events : List Event}
    (hbind : op.bind containers positional named = .ok bound) (htarget : bound.target = .connection)
    (hcursor : surroundings.connection.failure? (Event.calls events) .cursor = none)
    (hquery : op.query containers (queriedValues s.kind bound.values) = Run.result q) :
    (op.call containers surroundings positional named).Executes events
      [(q.sql, executedValues s.kind q)] := by
  have hlogged : ∀ record, surroundings.connection.failure?
      (Event.calls (events ++ [.logged record])) .cursor = none := by
    intro record
    have hcalls : Event.calls (events ++ [.logged record]) = Event.calls events := by
      simp [Event.calls, List.filterMap_cons, Event.call?]
    rw [hcalls, hcursor]
  rw [call_eq h.adapter_eq, hbind, h.statement_eq]
  apply Run.Executes.after (Run.quiet_ofExcept _ events) rfl
  apply executes_prepare hquery
  unfold carryOut
  rw [h.statement_eq, htarget]
  cases s.kind with
  | query =>
    apply Run.Executes.andThen
    · exact Adapter.executes_select adapter q.sql q.parameters
        (quiet_deliver op adapter surroundings bound.callback 1 _) (hlogged _)
    · exact fun _ => Run.quiet_result _
  | execute => exact Adapter.executes_execute adapter q.sql q.parameters (hlogged _)
  | batch =>
    apply Run.Executes.andThen
    · exact Adapter.executes_executeScript adapter q.sql (hlogged _)
    · exact fun _ => Run.quiet_result _
  | returning =>
    exact Adapter.executes_select adapter q.sql q.parameters
      (quiet_deliverFirst op adapter surroundings bound.callback) (hlogged _)

/-- The query of a statement is filled with the values that it is executed with. -/
theorem filled_executedValues {kind : StatementKind} {parameters : List Parameter}
    {tokens : List Token} (hfit : Fit kind parameters tokens) {argument : String → Option Value}
    {q : BoundQuery} {texts : List String}
    (hfilled : List.Forall₂ (Filled style q.parameters argument) tokens texts) :
    List.Forall₂ (Filled style (executedValues kind q) argument) tokens texts := by
  cases kind with
  | query => exact hfilled
  | execute => exact hfilled
  | returning => exact hfilled
  | batch => exact filled_of_markers_eq_nil (hfit.batch_plain rfl).2 hfilled

/-- The values of a call supply its query. -/
theorem supplied_queriedValues {kind : StatementKind} {parameters : List Parameter}
    {tokens : List Token} (hfit : Fit kind parameters tokens) {argument : String → Option Value}
    {values : List (String × Value)} (hnodup : (values.map Prod.fst).Nodup)
    (hsupplied : ∀ m ∈ Token.markers tokens, Supplied argument values m) :
    ((queriedValues kind values).map Prod.fst).Nodup ∧
      ∀ m ∈ Token.markers tokens, Supplied argument (queriedValues kind values) m := by
  cases kind with
  | query => exact ⟨hnodup, hsupplied⟩
  | execute => exact ⟨hnodup, hsupplied⟩
  | returning => exact ⟨hnodup, hsupplied⟩
  | batch =>
    refine ⟨List.nodup_nil, ?_⟩
    intro m hm
    rw [(hfit.batch_plain rfl).2] at hm
    cases hm

/-- A call of an operation made of a compiled statement executes one text, and nothing else, on a
connection that gives a cursor. The tokens of the statement together are the body that the header
of its block leads to, and the text has a part for each of them: literal text stays, and a marker
gives way to signs with the decimal digits of numbers at which the arguments given for it are
bound. -/
theorem executes_filled_of_compile {settings settings' : Settings} {text sourceName : String}
    {list : List Statement} {bound : Bound} {surroundings : Surroundings} {events : List Event}
    (hcompile : (compile settings text sourceName).result = .ok list) (hs : s ∈ list)
    (hmake : make s adapter settings' = .ok op)
    (hbind : op.bind containers positional named = .ok bound)
    (htarget : Arguments.given s.argumentNames positional named connectionName = some .connection)
    (hcursor : surroundings.connection.failure? (Event.calls events) .cursor = none) :
    ∃ block ∈ (segment text settings.terminator sourceName).blocks, ∃ header,
      s.block = some block ∧ Header.parse block = .ok header ∧
        s.tokens = Token.scan header.body ∧ s.template = header.body ∧
        ∃ texts values,
          (op.call containers surroundings positional named).Executes events
            [(String.join texts, values)] ∧
          List.Forall₂ (Filled (settings'.style.getD adapter.style) values
            (Arguments.given s.argumentNames positional named)) s.tokens texts := by
  obtain ⟨block, hblock, header, hcompiles⟩ := (of_result_compile hcompile).1 s hs
  have htemplate : s.template = header.body := by
    rw [Statement.template, hcompiles.tokens_eq, Token.template_scan]
  refine ⟨block, hblock, header, hcompiles.block_eq, hcompiles.parse_eq, hcompiles.tokens_eq,
    htemplate, ?_⟩
  have hmade := madeOf_of_make hcompiles.fit hmake
  obtain ⟨hnodup, hgiven, hsupplied⟩ := hmade.bind_ok hcompiles.fit hbind
  obtain ⟨hqueried, hqueriedSupplied⟩ := supplied_queriedValues hcompiles.fit hnodup hsupplied
  obtain ⟨q, texts, hquery, hsql, hfilled⟩ :=
    hmade.query_filled hcompiles.fit containers hqueried hqueriedSupplied
  refine ⟨texts, executedValues s.kind q, ?_, ?_⟩
  · rw [← hsql]
    have hconnection : bound.target = .connection := Option.some.inj (hgiven.symm.trans htarget)
    exact hmade.executes_call hbind hconnection hcursor hquery
  · exact filled_executedValues hcompiles.fit hfilled

/-- The elements of a list that can be read only once, which is given by name before a scalar, are
bound at the numbers between those of the two markers of that scalar. -/
theorem executes_filled_of_stream :
    ∃ (s : Statement) (op : Operation) (bound : Bound) (texts : List String),
      (compile .standard "-- name: pick?\nselect :a where x in (#b) or y = :a\n/\n"
        "<string>").result = .ok [s] ∧
      make s .standard .standard = .ok op ∧
      op.bind (fun _ _ => .operation) [.connection]
        [("b", .stream [.int 1, .int 2]), ("row_callback", .callback 0), ("a", .int 7)] =
          .ok bound ∧
      (op.call (fun _ _ => .operation) .empty [.connection]
        [("b", .stream [.int 1, .int 2]), ("row_callback", .callback 0), ("a", .int 7)]).Executes []
          [(String.join texts, [.int 7, .int 1, .int 2, .int 7])] ∧
      String.join texts = "select ?1 where x in (?2, ?3) or y = ?4" ∧
      List.Forall₂ (Filled .questionMark [.int 7, .int 1, .int 2, .int 7]
        (Arguments.given s.argumentNames [.connection]
          [("b", .stream [.int 1, .int 2]), ("row_callback", .callback 0), ("a", .int 7)]))
            s.tokens texts := by
  let pick : Statement :=
    { name := "pick"
      kind := .query
      parameters := [⟨"a", .scalar, 0, none, true⟩, ⟨"b", .list, 1, none, true⟩]
      tokens := [.literal "select ", .marker ⟨"a", .scalar⟩, .literal " where x in (",
        .marker ⟨"b", .list⟩, .literal ") or y = ", .marker ⟨"a", .scalar⟩]
      doc := ""
      block := some ⟨"-- name: pick?\nselect :a where x in (#b) or y = :a", 1, 2, "<string>"⟩ }
  have hcompile : (compile .standard "-- name: pick?\nselect :a where x in (#b) or y = :a\n/\n"
      "<string>").result = .ok [pick] := by decide +kernel
  have hmake : ∃ op, make pick .standard .standard = .ok op ∧
      (∃ bound, op.bind (fun _ _ => .operation) [.connection]
        [("b", .stream [.int 1, .int 2]), ("row_callback", .callback 0), ("a", .int 7)] =
          .ok bound) ∧
      Event.executions (op.call (fun _ _ => .operation) .empty [.connection]
        [("b", .stream [.int 1, .int 2]), ("row_callback", .callback 0), ("a", .int 7)] []).2 =
          [("select ?1 where x in (?2, ?3) or y = ?4", [.int 7, .int 1, .int 2, .int 7])] :=
    ⟨_, rfl, ⟨_, rfl⟩, rfl⟩
  obtain ⟨op, hop, ⟨bound, hbound⟩, hlist⟩ := hmake
  obtain ⟨_, _, _, _, _, _, _, texts, values, hexecutes, hfilled⟩ :=
    executes_filled_of_compile hcompile List.mem_cons_self hop hbound rfl
      (show Surroundings.empty.connection.failure? (Event.calls []) .cursor = none from rfl)
  obtain ⟨_, new, hcall, hnew⟩ := hexecutes
  rw [hcall, List.nil_append, hnew] at hlist
  obtain ⟨htexts, rfl⟩ := Prod.mk.inj (List.singleton_inj.mp hlist)
  exact ⟨pick, op, bound, texts, hcompile, hop, hbound, ⟨_, new, hcall, hnew⟩, htexts, hfilled⟩

end Operation

end AnnotatedSql
