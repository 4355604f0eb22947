import AnnotatedSql.Proofs.Engine.AtMost
import AnnotatedSql.Proofs.Operation.Call
import AnnotatedSql.Proofs.Query.Shape

/-!
# Values stay out of the text

Two calls of an operation execute the same text if they give each list the same number of elements,
whatever the values are. Where no parameter is a list the text is the one that was fixed when the
operation was made.
-/

set_option autoImplicit false

namespace AnnotatedSql

namespace Operation

variable {s : Statement} {style : PlaceholderStyle} {adapter : Adapter} {op : Operation}
  {containers : Containers} {positional : List Value} {named : List (String × Value)}

/-- The query of a call has the text for the lengths of the lists that are given, and as many
values. -/
theorem MadeOf.query_shaped (h : MadeOf s style adapter op) (containers : Containers)
    {argument : String → Option Value} {values : List (String × Value)}
    (hsupplied : ∀ m ∈ Token.markers s.tokens, Supplied argument values m) :
    ∃ q, op.query containers values = Run.result q ∧
      q.sql = s.queryText style (elementCount argument) ∧
      q.parameters.length = s.querySize (elementCount argument) := by
  unfold query Statement.queryText Statement.querySize
  rw [h.static_eq, h.style_eq, h.statement_eq]
  cases hdynamic : s.isDynamic with
  | true =>
    obtain ⟨bound, hok, hlength⟩ := BoundQuery.assembleFrom_eq_textsFrom style 0 hsupplied
    refine ⟨⟨String.join _, bound⟩, ?_, rfl, hlength⟩
    simp only [if_true, Slot.resolve, BoundQuery.assembleDynamic, hok, Except.map,
      Outcome.mapError_ok, Run.ofExcept]
  | false =>
    refine ⟨⟨String.join (s.tokens.map (StaticQuery.numberedText style s)),
      StaticQuery.boundOf s values⟩, ?_, rfl, by simp [StaticQuery.boundOf]⟩
    simp only [Bool.false_eq_true, if_false, StaticQuery.bind_of_supplied _ hsupplied, Except.map,
      Outcome.mapError_ok, Run.ofExcept]

/-- The text that is fixed when an operation is made is the one of its queries. -/
theorem MadeOf.sql_eq (h : MadeOf s style adapter op) (hstatic : s.isDynamic = false)
    (count : String → ℕ) : op.sql = s.queryText style count := by
  unfold sql Statement.queryText
  rw [h.static_eq, hstatic]
  rfl

/-- Preparing a query executes nothing itself. -/
theorem executesAtMost_prepare {α : Type} {values : List (String × Value)} {q : BoundQuery}
    {next : BoundQuery → Run α} {execution : String × List Value}
    (hquery : op.query containers values = Run.result q)
    (hnext : (next q).ExecutesAtMost execution) :
    (op.prepare containers values >>= next).ExecutesAtMost execution := by
  intro events
  obtain ⟨list, hexecutes, hlist⟩ := hnext (events ++ [.logged (Log.executing op.statement q)])
  exact ⟨list, executes_prepare hquery hexecutes, hlist⟩

/-- A call that is accepted executes nothing but its query, and that once at most. -/
theorem MadeOf.executesAtMost_call (h : MadeOf s style adapter op) (surroundings : Surroundings)
    {bound : Bound} {q : BoundQuery} (hbind : op.bind containers positional named = .ok bound)
    (hquery : op.query containers (queriedValues s.kind bound.values) = Run.result q) :
    (op.call containers surroundings positional named).ExecutesAtMost
      (q.sql, executedValues s.kind q) := by
  rw [call_eq h.adapter_eq, hbind, h.statement_eq, Run.ofExcept_ok_andThen]
  apply executesAtMost_prepare hquery
  unfold carryOut
  rw [h.statement_eq]
  cases s.kind with
  | query =>
    apply Run.ExecutesAtMost.andThen
    · exact Adapter.executesAtMost_select adapter _ _ q.sql q.parameters
        (quiet_deliver op adapter surroundings bound.callback 1 _)
    · exact fun _ => Run.quiet_result _
  | execute => exact Adapter.executesAtMost_execute adapter _ _ q.sql q.parameters
  | batch =>
    apply Run.ExecutesAtMost.andThen
    · exact Adapter.executesAtMost_executeScript adapter _ _ q.sql
    · exact fun _ => Run.quiet_result _
  | returning =>
    exact Adapter.executesAtMost_select adapter _ _ q.sql q.parameters
      (quiet_deliverFirst op adapter surroundings bound.callback)

/-- Queries that bind equally many values are executed with equally many. -/
theorem length_executedValues (kind : StatementKind) {q q' : BoundQuery}
    (h : q.parameters.length = q'.parameters.length) :
    (executedValues kind q).length = (executedValues kind q').length := by
  cases kind with
  | batch => rfl
  | query => exact h
  | execute => exact h
  | returning => exact h

/-- What a call with some arguments hands over, wherever it is made. -/
structure HandsOver (call : Surroundings → Run Value) (target : Value) (sql : String)
    (values : List Value) : Prop where
  /-- It executes nothing but the text with the values, and that once at most. -/
  atMost : ∀ surroundings, (call surroundings).ExecutesAtMost (sql, values)
  /-- It does so on a connection that gives a cursor. -/
  once : target = .connection → ∀ surroundings events,
    surroundings.connection.failure? (Event.calls events) .cursor = none →
      (call surroundings).Executes events [(sql, values)]

/-- A call that is accepted hands over the text of its statement for the lengths of the lists that
are given, and as many values. -/
theorem MadeOf.handsOver (h : MadeOf s style adapter op)
    (hfit : Fit s.kind s.parameters s.tokens) {bound : Bound}
    (hbind : op.bind containers positional named = .ok bound) :
    ∃ q : BoundQuery,
      q.sql = s.queryText style
        (elementCount (Arguments.given s.argumentNames positional named)) ∧
      q.parameters.length =
        s.querySize (elementCount (Arguments.given s.argumentNames positional named)) ∧
      HandsOver (fun surroundings => op.call containers surroundings positional named) bound.target
        q.sql (executedValues s.kind q) := by
  obtain ⟨hnodup, _, hsupplied⟩ := h.bind_ok hfit hbind
  obtain ⟨_, hqueriedSupplied⟩ := supplied_queriedValues hfit hnodup hsupplied
  obtain ⟨q, hquery, hsql, hlength⟩ := h.query_shaped containers hqueriedSupplied
  refine ⟨q, hsql, hlength, ?_, ?_⟩
  · exact fun surroundings => h.executesAtMost_call surroundings hbind hquery
  · exact fun htarget surroundings events hcursor =>
      h.executes_call hbind htarget hcursor hquery

/-- Two calls of an operation made of a compiled statement that give each list the same number of
elements hand over the same text, with equally many values. If no parameter is a list it is the
text that was fixed when the operation was made. -/
theorem handsOver_same_of_compile {settings settings' : Settings} {text sourceName : String}
    {list : List Statement} {containers' : Containers} {positional' : List Value}
    {named' : List (String × Value)} {bound bound' : Bound}
    (hcompile : (compile settings text sourceName).result = .ok list) (hs : s ∈ list)
    (hmake : make s adapter settings' = .ok op)
    (hbind : op.bind containers positional named = .ok bound)
    (hbind' : op.bind containers' positional' named' = .ok bound')
    (hcounts : ∀ p ∈ s.parameters, p.isList = true →
      elementCount (Arguments.given s.argumentNames positional named) p.name =
        elementCount (Arguments.given s.argumentNames positional' named') p.name) :
    ∃ sql values values',
      values.length = values'.length ∧ (s.isDynamic = false → sql = op.sql) ∧
      HandsOver (fun surroundings => op.call containers surroundings positional named)
        bound.target sql values ∧
      HandsOver (fun surroundings => op.call containers' surroundings positional' named')
        bound'.target sql values' := by
  obtain ⟨block, _, header, hcompiles⟩ := (of_result_compile hcompile).1 s hs
  have hmade := madeOf_of_make hcompiles.fit hmake
  obtain ⟨htext, hsize⟩ :=
    Statement.query_congr hcompiles.fit (settings'.style.getD adapter.style) hcounts
  obtain ⟨q, hsql, hlength, hands⟩ := hmade.handsOver hcompiles.fit hbind
  obtain ⟨q', hsql', hlength', hands'⟩ := hmade.handsOver hcompiles.fit hbind'
  have hsame : q'.sql = q.sql := by rw [hsql, hsql', htext]
  rw [hsame] at hands'
  refine ⟨q.sql, _, _, length_executedValues s.kind ?_, ?_, hands, hands'⟩
  · rw [hlength, hlength', hsize]
  · intro hstatic
    rw [hsql, hmade.sql_eq hstatic]

/-- Texts that look like SQL and none at all, in a list and in a stream of two elements, come to one
text. -/
theorem handsOver_same_of_hostile_list :
    ∃ (s : Statement) (op : Operation) (bound bound' : Bound) (sql : String)
      (values values' : List Value),
      (compile .standard "-- name: drop_all!\ndelete from t where x in (#b) or y = :a\n/\n"
        "<string>").result = .ok [s] ∧
      make s .standard .standard = .ok op ∧
      op.bind (fun _ _ => .operation) [.connection, .list [.text "1); drop table t --", .none],
        .text "'' or 1 = 1"] [] = .ok bound ∧
      op.bind (fun _ _ => .operation) [.connection]
        [("a", .none), ("b", .stream [.int 1, .int 2])] = .ok bound' ∧
      values.length = values'.length ∧
      HandsOver (fun surroundings => op.call (fun _ _ => .operation) surroundings
        [.connection, .list [.text "1); drop table t --", .none], .text "'' or 1 = 1"] [])
        bound.target sql values ∧
      HandsOver (fun surroundings => op.call (fun _ _ => .operation) surroundings [.connection]
        [("a", .none), ("b", .stream [.int 1, .int 2])]) bound'.target sql values' := by
  let drop : Statement :=
    { name := "drop_all"
      kind := .execute
      parameters := [⟨"b", .list, 0, none, true⟩, ⟨"a", .scalar, 1, none, true⟩]
      tokens := [.literal "delete from t where x in (", .marker ⟨"b", .list⟩,
        .literal ") or y = ", .marker ⟨"a", .scalar⟩]
      doc := ""
      block := some
        ⟨"-- name: drop_all!\ndelete from t where x in (#b) or y = :a", 1, 2, "<string>"⟩ }
  have hcompile : (compile .standard
      "-- name: drop_all!\ndelete from t where x in (#b) or y = :a\n/\n" "<string>").result =
        .ok [drop] := by decide +kernel
  have hmake : ∃ op, make drop .standard .standard = .ok op ∧
      (∃ bound, op.bind (fun _ _ => .operation)
        [.connection, .list [.text "1); drop table t --", .none], .text "'' or 1 = 1"] [] =
          .ok bound) ∧
      ∃ bound', op.bind (fun _ _ => .operation) [.connection]
        [("a", .none), ("b", .stream [.int 1, .int 2])] = .ok bound' :=
    ⟨_, rfl, ⟨_, rfl⟩, _, rfl⟩
  obtain ⟨op, hop, ⟨bound, hbound⟩, bound', hbound'⟩ := hmake
  obtain ⟨sql, values, values', hlength, _, hands, hands'⟩ :=
    handsOver_same_of_compile hcompile List.mem_cons_self hop hbound hbound' (by decide)
  exact ⟨drop, op, bound, bound', sql, values, values', hcompile, hop, hbound, hbound', hlength,
    hands, hands'⟩

end Operation

end AnnotatedSql
