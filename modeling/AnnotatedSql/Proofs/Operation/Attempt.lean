import AnnotatedSql.Proofs.Engine.Opening
import AnnotatedSql.Proofs.Operation.Checking
import AnnotatedSql.Proofs.Operation.Cursor
import AnnotatedSql.Proofs.Operation.Delivery

/-!
# Bad arguments never reach the engine

A call matches its arguments first, checks the values of its parameters next, and only then logs its
query and turns to its connection. Whatever is refused is refused before anything happens, and
whatever is not refused is attempted.
-/

set_option autoImplicit false

namespace AnnotatedSql

namespace Operation

variable {s : Statement} {style : PlaceholderStyle} {adapter : Adapter} {op : Operation}
  {containers : Containers} {surroundings : Surroundings} {positional : List Value}
  {named : List (String × Value)} {events : List Event} {bound : Bound} {q : BoundQuery}

/-- An operation checks types when the settings that it is made with say so. -/
theorem checksTypes_of_make {settings : Settings} (h : make s adapter settings = .ok op)
    (containers : Containers) : op.checksTypes containers = settings.checkTypes.isTrue := by
  obtain ⟨_, _, _, _, _, hchecked, _, rfl⟩ := build_eq_ok_iff.mp h
  cases hchecked
  rfl

/-- Arguments that do not match the signature are refused. -/
theorem MadeOf.bind_of_not_match (h : MadeOf s style adapter op) (containers : Containers)
    (hmatch : ¬ Arguments.Match s.argumentNames positional named) :
    ∃ e : ArgumentError, op.bind containers positional named = .error e.failure := by
  cases hbind : Arguments.bind s.argumentNames positional named with
  | error e =>
    refine ⟨e, ?_⟩
    simp only [bind, h.names_eq, hbind]
    rfl
  | ok arguments => exact absurd (Arguments.bind_ok_iff.mp ⟨arguments, hbind⟩) hmatch

/-- Arguments that match the signature have the values that are given for the parameters, and these
are checked. -/
theorem MadeOf.bind_of_match (h : MadeOf s style adapter op) (containers : Containers)
    (hmatch : Arguments.Match s.argumentNames positional named) :
    ∃ arguments,
      (∀ p ∈ s.parameters, ∃ v, arguments.lookup p.name = some v ∧
        Arguments.given s.argumentNames positional named p.name = some v) ∧
      op.bind containers positional named =
        ((Parameter.checkAll s.name (op.checksTypes containers) arguments s.parameters).mapError
          ValueError.failure).map fun values =>
            ⟨(arguments.lookup connectionName).getD .none, values,
              (arguments.lookup callbackName).getD .none⟩ := by
  obtain ⟨arguments, hbind, hgiven⟩ := Arguments.bind_of_match hmatch
  refine ⟨arguments, fun p hp => hgiven p.name (mem_argumentNames_of_parameter hp), ?_⟩
  simp only [bind, h.names_eq, hbind, h.statement_eq]
  rfl

/-- Of the values that are refused for parameters, the first one is what a call fails with. -/
theorem MadeOf.bind_of_refusesFirst (h : MadeOf s style adapter op) {p : Parameter}
    {e : ValueError} (hmatch : Arguments.Match s.argumentNames positional named)
    (hfirst : Parameter.RefusesFirst s.name (op.checksTypes containers)
      (Arguments.given s.argumentNames positional named) s.parameters p e) :
    op.bind containers positional named = .error e.failure := by
  obtain ⟨arguments, hgiven, hbind⟩ := h.bind_of_match containers hmatch
  rw [hbind, Parameter.checkAll_of_refusesFirst hgiven hfirst]
  rfl

/-- Arguments that match the signature are accepted when no value is refused. -/
theorem MadeOf.bind_of_not_refused (h : MadeOf s style adapter op)
    (hmatch : Arguments.Match s.argumentNames positional named)
    (hallowed : ∀ p ∈ s.parameters, ¬ ∃ e, p.RefusesGiven s.name (op.checksTypes containers)
      (Arguments.given s.argumentNames positional named) e) :
    ∃ bound, op.bind containers positional named = .ok bound := by
  obtain ⟨arguments, hgiven, hbind⟩ := h.bind_of_match containers hmatch
  obtain ⟨values, hvalues⟩ := (Parameter.checkAll_ok_iff hgiven).mpr hallowed
  rw [hbind, hvalues]
  exact ⟨_, rfl⟩

/-- A call whose arguments are refused fails before anything happens. -/
theorem call_of_bind_eq_error (hadapter : op.adapter = .held adapter)
    (surroundings : Surroundings) (events : List Event) {e : Failure}
    (hbind : op.bind containers positional named = .error e) :
    op.call containers surroundings positional named events = (.error e, events) := by
  rw [call_eq hadapter, hbind]
  rfl

/-- Carrying out a query begins with a call on the connection. -/
theorem begins_carryOut (op : Operation) (adapter : Adapter) (surroundings : Surroundings)
    (q : BoundQuery) (events : List Event) (htarget : bound.target = .connection) :
    (op.carryOut adapter surroundings bound q).Begins events
      (.engine (adapter.opening op.statement.kind q.sql q.parameters)) := by
  unfold carryOut
  rw [htarget]
  cases op.statement.kind with
  | query =>
    rw [adapter.opening_of_takesCallback q.sql q.parameters rfl]
    apply Run.Begins.andThen
    · exact adapter.begins_select q.sql q.parameters
        (quiet_deliver op adapter surroundings bound.callback 1 _)
    · exact fun _ => (Run.quiet_result _).onlyAdds
  | execute => exact adapter.begins_execute q.sql q.parameters
  | batch =>
    apply Run.Begins.andThen
    · exact adapter.begins_executeScript q.sql q.parameters
    · exact fun _ => (Run.quiet_result _).onlyAdds
  | returning =>
    rw [adapter.opening_of_takesCallback q.sql q.parameters rfl]
    exact adapter.begins_select q.sql q.parameters
      (quiet_deliverFirst op adapter surroundings bound.callback)

/-- Carrying out a query on what is no connection fails before anything happens. -/
theorem carryOut_other (op : Operation) (adapter : Adapter) (surroundings : Surroundings)
    (q : BoundQuery) (htarget : bound.target ≠ .connection) :
    op.carryOut adapter surroundings bound q = .fail (adapter.noMethod bound.target
      (adapter.opening op.statement.kind q.sql q.parameters)) := by
  unfold carryOut
  cases op.statement.kind with
  | query =>
    rw [adapter.opening_of_takesCallback q.sql q.parameters rfl]
    simp only [adapter.select_other _ q.sql q.parameters _ htarget]
    rfl
  | execute => exact adapter.execute_other _ q.sql q.parameters htarget
  | batch =>
    simp only [adapter.executeScript_other _ q.sql q.parameters htarget]
    rfl
  | returning =>
    rw [adapter.opening_of_takesCallback q.sql q.parameters rfl]
    exact adapter.select_other _ q.sql q.parameters _ htarget

/-- What a call does about a query on what was passed as its connection. -/
structure Attempts (call : Run Value) (s : Statement) (adapter : Adapter) (connection : Connection)
    (target : Value) (q : BoundQuery) (events : List Event) : Prop where
  /-- The query is logged, and then comes a call on the connection. -/
  begins : target = .connection → ∃ outcome later, call.Ends events outcome
    (.logged (Log.executing s q) :: .engine (adapter.opening s.kind q.sql q.parameters) :: later)
  /-- The query is executed, and nothing else, if the connection gives a cursor. -/
  executes : target = .connection →
    connection.failure? (Event.calls events) .cursor = none →
      call.Executes events [(q.sql, executedValues s.kind q)]
  /-- What is no connection has no method for it. -/
  fails : target ≠ .connection → call.Ends events
    (.error (adapter.noMethod target (adapter.opening s.kind q.sql q.parameters)))
    [.logged (Log.executing s q)]

/-- A call whose arguments are accepted attempts its query. -/
theorem MadeOf.attempts (h : MadeOf s style adapter op) (surroundings : Surroundings)
    (events : List Event) (hbind : op.bind containers positional named = .ok bound)
    (hquery : op.query containers (queriedValues s.kind bound.values) = Run.result q) :
    Attempts (op.call containers surroundings positional named) s adapter surroundings.connection
      bound.target q events := by
  have hprepared : op.query containers (queriedValues op.statement.kind bound.values) =
      Run.result q := by rw [h.statement_eq, hquery]
  constructor
  · intro htarget
    obtain ⟨outcome, later, hends⟩ := begins_carryOut op adapter surroundings q
      (events ++ [.logged (Log.executing op.statement q)]) htarget
    rw [← h.statement_eq]
    exact ⟨outcome, later, ends_call h.adapter_eq hbind hprepared hends⟩
  · exact fun htarget hcursor => h.executes_call hbind htarget hcursor hquery
  · intro htarget
    rw [← h.statement_eq]
    apply ends_call h.adapter_eq hbind hprepared
    rw [carryOut_other op adapter surroundings q htarget]
    exact Run.ends_fail _ _

/-- A call whose arguments do not match the signature fails with a type error. If they match, but
some value is refused for its parameter, the call fails with a parameter type error for the first
such parameter. In neither case does anything happen. If nothing is refused, the call is accepted
and attempts its query on what was passed as the connection. -/
theorem refuses_or_attempts_of_compile {settings settings' : Settings} {text sourceName : String}
    {list : List Statement} (hcompile : (compile settings text sourceName).result = .ok list)
    (hs : s ∈ list) (hmake : make s adapter settings' = .ok op) (containers : Containers)
    (surroundings : Surroundings) (positional : List Value) (named : List (String × Value))
    (events : List Event) :
    let call := op.call containers surroundings positional named
    let given := Arguments.given s.argumentNames positional named
    let checkTypes := settings'.checkTypes.isTrue
    (¬ Arguments.Match s.argumentNames positional named →
      ∃ e : ArgumentError, e.failure.kind = .type ∧ call events = (.error e.failure, events)) ∧
    (Arguments.Match s.argumentNames positional named →
      (∃ p ∈ s.parameters, ∃ e, p.RefusesGiven s.name checkTypes given e) →
        ∃ p e, Parameter.RefusesFirst s.name checkTypes given s.parameters p e ∧
          e.failure.kind = .parameterType ∧ call events = (.error e.failure, events)) ∧
    (Arguments.Match s.argumentNames positional named →
      (∀ p ∈ s.parameters, ¬ ∃ e, p.RefusesGiven s.name checkTypes given e) →
        ∃ bound q, op.bind containers positional named = .ok bound ∧
          given connectionName = some bound.target ∧
          Attempts call s adapter surroundings.connection bound.target q events) := by
  obtain ⟨_, _, _, hcompiles⟩ := (of_result_compile hcompile).1 s hs
  have hmade := madeOf_of_make hcompiles.fit hmake
  intro call given checkTypes
  have hchecks : op.checksTypes containers = checkTypes := checksTypes_of_make hmake containers
  refine ⟨?_, ?_, ?_⟩
  · intro hmatch
    obtain ⟨e, hbind⟩ := hmade.bind_of_not_match containers hmatch
    exact ⟨e, rfl, call_of_bind_eq_error hmade.adapter_eq surroundings events hbind⟩
  · intro hmatch hrefused
    obtain ⟨p, e, hfirst⟩ := Parameter.exists_refusesFirst hrefused
    have hbind := hmade.bind_of_refusesFirst hmatch (hchecks ▸ hfirst)
    exact ⟨p, e, hfirst, rfl, call_of_bind_eq_error hmade.adapter_eq surroundings events hbind⟩
  · intro hmatch hallowed
    obtain ⟨bound, hbind⟩ := hmade.bind_of_not_refused hmatch (hchecks ▸ hallowed)
    obtain ⟨hnodup, htarget, hsupplied⟩ := hmade.bind_ok hcompiles.fit hbind
    obtain ⟨hqueried, hqueriedSupplied⟩ := supplied_queriedValues hcompiles.fit hnodup hsupplied
    obtain ⟨q, _, hquery, _, _⟩ :=
      hmade.query_filled hcompiles.fit containers hqueried hqueriedSupplied
    exact ⟨bound, q, hbind, htarget, hmade.attempts surroundings events hbind hquery⟩

/-- The text of a block that declares a text and a list of integers. -/
def lendText : String :=
  "-- name: lend!\n-- param: who : str\n-- param: books # [int]\nset w = :who, b = (#books)"

/-- The statement of that block. -/
def lend : Statement :=
  { name := "lend"
    kind := .execute
    parameters := [⟨"who", .scalar, 0, some "str", true⟩, ⟨"books", .list, 1, some "int", true⟩]
    tokens := [.literal "set w = ", .marker ⟨"who", .scalar⟩, .literal ", b = (",
      .marker ⟨"books", .list⟩, .literal ")"]
    doc := ""
    block := some ⟨lendText, 1, 4, "<string>"⟩ }

/-- The settings under which types are checked. -/
def strict : Settings :=
  { Settings.standard with checkTypes := .bool true }

/-- Where types are checked, no books at all make a call fail with a type error, and a book that is
a text with a parameter type error. A user that is none and a book that is a truth value do not. -/
theorem refuses_or_attempts_lend :
    (compile .standard (lendText ++ "\n/\n") "<string>").result = .ok [lend] ∧
      ∃ op, make lend .standard strict = .ok op ∧
        (∃ e : ArgumentError, op.call (fun _ _ => .operation) .empty [.connection, .none] [] [] =
          (.error e.failure, [])) ∧
        (∃ e : ValueError, e.failure.kind = .parameterType ∧
          op.call (fun _ _ => .operation) .empty [.connection, .none]
            [("books", .stream [.int 1, .text "two"])] [] = (.error e.failure, [])) ∧
        ∃ q, Attempts (op.call (fun _ _ => .operation) .empty [.connection, .none]
          [("books", .stream [.int 1, .bool true])]) lend .standard Surroundings.empty.connection
            .connection q [] := by
  have hcompile : (compile .standard (lendText ++ "\n/\n") "<string>").result = .ok [lend] := by
    decide +kernel
  have hmake : ∃ op, make lend .standard strict = .ok op := ⟨_, rfl⟩
  obtain ⟨op, hop⟩ := hmake
  have hcall := refuses_or_attempts_of_compile hcompile List.mem_cons_self hop
    (fun _ _ => .operation) .empty [.connection, .none]
  have hmatch : ∀ books, Arguments.Match lend.argumentNames [.connection, .none]
      [("books", books)] := by
    intro books
    have honce : ∀ name ∈ lend.argumentNames.take 2, name ∉ ["books"] := by decide
    have hcomplete : ∀ name ∈ lend.argumentNames.drop 2, name ∈ ["books"] := by decide
    have hknown : ∀ name ∈ ["books"], name ∈ lend.argumentNames := by decide
    exact ⟨by decide, honce, hcomplete, hknown⟩
  refine ⟨hcompile, op, hop, ?_, ?_, ?_⟩
  · have hmissing : ¬ Arguments.Match lend.argumentNames [.connection, .none] [] :=
      fun h => absurd (h.complete "books" (by decide)) (by decide)
    obtain ⟨e, _, hfails⟩ := (hcall [] []).1 hmissing
    exact ⟨e, hfails⟩
  · have hrefused : ∃ p ∈ lend.parameters, ∃ e, p.RefusesGiven lend.name strict.checkTypes.isTrue
        (Arguments.given lend.argumentNames [.connection, .none]
          [("books", .stream [.int 1, .text "two"])]) e :=
      ⟨⟨"books", .list, 1, some "int", true⟩, List.mem_cons_of_mem _ List.mem_cons_self, _,
        .stream [.int 1, .text "two"], rfl, Parameter.check_eq_error_iff.mp rfl⟩
    obtain ⟨_, e, _, hkind, hfails⟩ := (hcall _ []).2.1 (hmatch _) hrefused
    exact ⟨e, hkind, hfails⟩
  · have hallowed : ∀ p ∈ lend.parameters, ¬ ∃ e, p.RefusesGiven lend.name
        strict.checkTypes.isTrue (Arguments.given lend.argumentNames [.connection, .none]
          [("books", .stream [.int 1, .bool true])]) e := by
      rintro p hp ⟨e, v, hv, hrefuses⟩
      have hcheck := Parameter.check_eq_error_iff.mpr hrefuses
      rcases List.mem_cons.mp hp with rfl | hp
      · obtain rfl : Value.none = v := Option.some.inj hv
        cases hcheck
      · obtain rfl := List.mem_singleton.mp hp
        obtain rfl : Value.stream [.int 1, .bool true] = v := Option.some.inj hv
        cases hcheck
    obtain ⟨bound, q, _, htarget, hattempts⟩ := (hcall _ []).2.2 (hmatch _) hallowed
    have hconnection : Value.connection = bound.target := Option.some.inj htarget
    rw [← hconnection] at hattempts
    exact ⟨q, hattempts⟩

end Operation

end AnnotatedSql
