import QueryChain.Proofs.Database.Builder
import QueryChain.Proofs.Schema.Operations

/-!
# What a builder resolves to

Every answer of an executor becomes a result of one shape.  Rows become data, as they are; a
reported error keeps its message, code and details; whatever else was raised is wrapped, and tells
its text, the statement and the table.  An error that refuses its text cannot be wrapped: there is
no result, and the refusal goes on.

## Main definitions

* `Reply.Carries` — the rows of an answer, for each form that an answer may have.

## Main results

* `QueryResult.failure_reported`, `QueryResult.failure_executing` — the results of the two kinds of
  failure.
* `Builder.outcome_resolve` — the result for every answer of the executor, for both ways to fetch.
* `Builder.resolve_oversized` — an error that refuses its text.
-/

set_option relaxedAutoImplicit false
set_option autoImplicit false

namespace QueryChain

/-! ### Answers -/

/-- The forms of an answer, with the rows in it: a driver result, a mapping with a list of rows, a
mapping that lists none, a list of rows, or nothing. -/
inductive Reply.Carries : Reply → List Value → Prop
  | result (r : DriverResult) : Carries (.result r) r.rowValues
  | listed {entries : Value.Entries} {rows : List Value}
      (h : Value.Entries.get? entries (.text "rows") = some (.list rows)) :
      Carries (.value (.map entries)) rows
  | unlisted {entries : Value.Entries}
      (h : Value.Entries.get? entries (.text "rows") = none
        ∨ Value.Entries.get? entries (.text "rows") = some .null) :
      Carries (.value (.map entries)) []
  | list (rows : List Value) : Carries (.value (.list rows)) rows
  | null : Carries (.value .null) []

/-- The elements of a list are taken as they are, also of an empty one. -/
theorem Reply.elementsOf_list (rows : List Value) : elementsOf (.list rows) = .ok rows := by
  cases rows with
  | nil => rfl
  | cons row rows => rfl

/-- The rows of an answer are the ones it carries, in their order. -/
theorem Reply.rows_of_carries {reply : Reply} {rows : List Value} (h : reply.Carries rows) :
    reply.rows = .ok rows := by
  cases h with
  | result r => rfl
  | listed h =>
    rw [Reply.rows, h]
    exact elementsOf_list rows
  | unlisted h =>
    rw [Reply.rows]
    rcases h with h | h
    · rw [h]
      rfl
    · rw [h]
      rfl
  | list => exact elementsOf_list rows
  | null => rfl

/-! ### Failures -/

/-- The error of a reported error is its message, its code and its details. -/
theorem QueryError.ofFailure_reported {e : CodedError} {message : String} {details : Fields}
    (said : e.message = .text message) (kept : e.details = details.toValue)
    (names : (details.map Prod.fst).Nodup) :
    ofFailure (.coded e) = .ok ⟨message, e.code.text, details⟩ := by
  have taken : e.details.entries = .ok (details.map fun field => (.text field.1, field.2)) := by
    rw [kept]
    rfl
  have read : Reader.fields (.map (details.map fun field => (.text field.1, field.2)))
      = .ok details := Fields.read_toValue names
  have detailsRead (m c v : Value) :
      Reader.optional [("message", m), ("code", c), ("details", v)] "details" [] Reader.fields
        = (Reader.fields v).under (.name "details") := rfl
  have messageRead (c d : Value) :
      Reader.required [("message", .text message), ("code", c), ("details", d)] "message"
        Reader.text = .ok message := rfl
  have codeRead (m d : Value) (code : String) :
      Reader.optional [("message", m), ("code", .text code), ("details", d)] "code" defaultCode
        Reader.text = .ok code := rfl
  simp only [ofFailure, taken, said, ofFields, messageRead, codeRead, detailsRead,
    Checked.under_eq_ok.2 read]
  rfl

/-- The result of a reported error. -/
theorem QueryResult.failure_reported {e : CodedError} {message : String} {details : Fields}
    (said : e.message = .text message) (kept : e.details = details.toValue)
    (names : (details.map Prod.fst).Nodup) :
    failure (.coded e) = .ok ⟨.null, some ⟨message, e.code.text, details⟩⟩ := by
  rw [failure, QueryError.ofFailure_reported said kept names]
  rfl

/-- The result of a failure that was wrapped: its text, or its name if the text is empty, with the
beginning of the statement and the table. -/
theorem QueryResult.failure_executing (table : Value) (sql : String) (f : Failure)
    (text : String) :
    failure (Builder.executionFailure table sql f text) =
      .ok ⟨.null, some ⟨f.textOrName text, Code.queryExecution.text,
        [("table", table), ("query", .text (CodedError.statementExcerpt sql))]⟩⟩ :=
  failure_reported rfl rfl (by simp)

namespace Builder

variable {σ : Type}

/-! ### Settling -/

/-- A failure is settled in the same way for both ways to fetch. -/
theorem settle_error (table : Value) (sql : String) (f : Failure) :
    (settle .many table sql (.error f) : Action σ QueryResult)
      = settle .one table sql (.error f) := by
  cases f with
  | coded e => rfl
  | _ => simp only [settle]

/-- Settling emits the same events for both ways to fetch. -/
theorem events_settle (table : Value) (sql : String) (ended : Except Failure Reply) (s : σ) :
    ((settle .many table sql ended).run s).events
      = ((settle .one table sql ended).run s).events := by
  cases ended with
  | ok reply => rfl
  | error f => rw [settle_error]

/-- An answer with rows is settled with the data that are fetched of them. -/
theorem outcome_settle_carries (fetch : Fetch) (table : Value) (sql : String) {reply : Reply}
    {rows : List Value} (h : reply.Carries rows) (s : σ) :
    ((settle fetch table sql (.ok reply)).run s).outcome = .ok ⟨fetch.data rows, none⟩ := by
  rw [settle, Reply.rows_of_carries h]
  rfl

/-- An error that is no reported one is wrapped with its text, or gives way to the refusal of the
text. -/
theorem outcome_settle_error (fetch : Fetch) (table : Value) (sql : String) {f : Failure}
    (unreported : ∀ e, f ≠ .coded e) (error : f.isError = true) (s : σ) :
    ((settle fetch table sql (.error f)).run s).outcome =
      match f.text with
      | .ok text =>
        .ok ⟨.null, some ⟨f.textOrName text, Code.queryExecution.text,
          [("table", table), ("query", .text (CodedError.statementExcerpt sql))]⟩⟩
      | .error r => .error (r.failure.leaving "coroutine") := by
  cases said : f.text with
  | ok text =>
    rw [run_settle_of_text unreported error said]
    exact QueryResult.failure_executing table sql f text
  | error r => rw [run_settle_of_refusal unreported error said]

/-! ### Resolving -/

/-- **Whatever the executor answers, a builder resolves to one shape of result.**  Let a fresh
builder compile.  Both ways to fetch hand the same statement over, and they leave the state as the
executor leaves it.

* If the answer carries rows, the data of one are the rows, all of them in their order, and the data
  of the other are the first of them, or nothing; there is no error.
* If a reported error is raised, with a text for its message and details of different names, there
  are no data, and the error has this message, the code and these details: it is not wrapped again.
* If anything else is raised, cancellations apart, and it tells its text, there are no data, and the
  error has this text, or the name of what was raised if the text is empty, the code of a failed
  execution, and for its details the table and the statement, of which a long one is cut.
* If it refuses its text, there is no result: the refusal goes on.

**Proof sketch.**  The run of a fresh builder is the run of the executor, settled.  What is settled
is known for each form of an answer, and only the data depend on the way to fetch. -/
theorem outcome_resolve (db : Database σ) {b : Builder} {compiled : Compiled}
    (fresh : b.resolved = false) (compiles : b.chain.compile db.rules = .ok compiled) (s : σ) :
    let sql := compiled.sql
    let asked := (db.executor.query sql compiled.params).run s
    let ran (fetch : Fetch) := (b.resolve db fetch).run s
    ((ran .many).events = (ran .one).events ∧ ∀ fetch, (ran fetch).state = asked.state
        ∧ Event.calls (ran fetch).events = Event.calls asked.events)
      ∧ (∀ reply rows, asked.outcome = .ok reply → reply.Carries rows →
        (ran .many).outcome = .ok ⟨.list rows, none⟩
          ∧ (ran .one).outcome = .ok ⟨rows.head?.getD .null, none⟩)
      ∧ (∀ e message details, asked.outcome = .error (.coded e) → e.message = .text message →
        e.details = Fields.toValue details → (details.map Prod.fst).Nodup →
        ∀ fetch, (ran fetch).outcome = .ok ⟨.null, some ⟨message, e.code.text, details⟩⟩)
      ∧ ∀ f, asked.outcome = .error f → (∀ e, f ≠ .coded e) → f.isError = true →
        ∀ fetch, (ran fetch).outcome =
          match f.text with
          | .ok text =>
            .ok ⟨.null, some ⟨if text = "" then f.kindName else text, "EXECUTION_002",
              [("table", b.chain.table), ("query", .text
                (if sql.length ≤ 500 then sql else String.ofList (sql.toList.take 500) ++ "..."))]⟩⟩
          | .error r => .error (r.failure.leaving "coroutine") := by
  intro sql asked ran
  -- what is announced and asked depends on the chain alone, so one operation serves both runs
  obtain ⟨op, recorded, whole⟩ :
      ∃ op, b.chain.toOperation = .ok op ∧ ∀ fetch, ran fetch =
        let settled := (settle fetch b.chain.table sql asked.outcome).run asked.state
        ⟨settled.outcome, asked.state,
          .log (announcement op compiled) :: (asked.events ++ settled.events)⟩ := by
    obtain ⟨op, recorded, many⟩ := run_resolve_of_compile db .many fresh compiles s
    obtain ⟨op', recorded', one⟩ := run_resolve_of_compile db .one fresh compiles s
    obtain rfl : op = op' := Except.ok.inj (recorded.symm.trans recorded')
    exact ⟨op, recorded, fun fetch => by cases fetch <;> assumption⟩
  refine ⟨⟨?_, fun fetch => ⟨?_, ?_⟩⟩, ?_, ?_, ?_⟩
  · rw [whole, whole]
    simp only [events_settle]
  · rw [whole]
  · rw [whole]
    have announced (events : List Event) :
        Event.calls (.log (announcement op compiled) :: events) = Event.calls events := rfl
    rw [announced, Event.calls_append, calls_settle, List.append_nil]
  · intro reply rows answered carries
    rw [whole, whole, answered]
    exact ⟨outcome_settle_carries .many b.chain.table sql carries asked.state,
      outcome_settle_carries .one b.chain.table sql carries asked.state⟩
  · intro e message details raised said kept names fetch
    rw [whole, raised]
    exact QueryResult.failure_reported said kept names
  · intro f raised unreported error fetch
    rw [whole, raised]
    exact outcome_settle_error fetch b.chain.table sql unreported error asked.state

/-- One query, answered with rows in a mapping, with a reported error, and with an error that has
no text. -/
theorem outcome_resolve_answers :
    let db : Database Executor.Script := ⟨Executor.scripted "executor" false, ⟨63, "id"⟩⟩
    let b : Builder := ⟨Chain.run db.rules (Chain.start (.text "users"))
      [.filter .eq (.text "id") (.int 7)], false⟩
    let rows : List Value := [.map [(.text "id", .int 7)], .map [(.text "id", .int 8)]]
    let answered : Executor.Script := [Answer.ok (.value (.map [(.text "rows", .list rows)]))]
    let refused : Executor.Script := [⟨[], .error (.coded ⟨false, .text "No database", .config,
      .map [(.text "config_key", .text "url")], none⟩)⟩]
    let raised : Executor.Script := [⟨[], .error (.raised .runtime [])⟩]
    ((b.resolve db .many).run answered).outcome = .ok ⟨.list rows, none⟩
      ∧ ((b.resolve db .one).run answered).outcome = .ok ⟨.map [(.text "id", .int 7)], none⟩
      ∧ ((b.resolve db .many).run refused).outcome =
        .ok ⟨.null, some ⟨"No database", "CONFIG_001", [("config_key", .text "url")]⟩⟩
      ∧ ((b.resolve db .one).run raised).outcome =
        .ok ⟨.null, some ⟨"RuntimeError", "EXECUTION_002", [("table", .text "users"),
          ("query", .text "SELECT * FROM users WHERE id = $1")]⟩⟩ := by
  have compiles : (Chain.run ⟨63, "id"⟩ (Chain.start (.text "users"))
      [.filter .eq (.text "id") (.int 7)]).compile ⟨63, "id"⟩
      = .ok ⟨"SELECT * FROM users WHERE id = $1", [.int 7]⟩ := by rfl
  intro db b rows answered refused raised
  obtain ⟨-, found, -, -⟩ := outcome_resolve db (b := b) rfl compiles answered
  obtain ⟨-, -, reported, -⟩ := outcome_resolve db (b := b) rfl compiles refused
  obtain ⟨-, -, -, wrapped⟩ := outcome_resolve db (b := b) rfl compiles raised
  obtain ⟨many, one⟩ := found _ rows rfl (.listed rfl)
  refine ⟨many, one, ?_, ?_⟩
  · exact reported _ "No database" [("config_key", .text "url")] rfl rfl rfl (by decide) .many
  · exact wrapped _ rfl (fun e h => by cases h) rfl .one

/-- An error about an integer with too many digits reaches whoever fetches as the refusal of its text,
and not as a result. -/
theorem resolve_oversized :
    let db : Database Executor.Script := ⟨Executor.scripted "executor" false, ⟨63, "id"⟩⟩
    let b : Builder := ⟨Chain.start (.text "users"), false⟩
    let raised : Executor.Script := [⟨[], .error .oversized⟩]
    b.chain.compile db.rules = .ok ⟨"SELECT * FROM users", []⟩
      ∧ Failure.isError .oversized = true
      ∧ ((b.resolve db .many).run raised).outcome = .error (.fault .tooManyDigitsShown)
      ∧ ∀ r, ((b.resolve db .many).run raised).outcome ≠ .ok r := by
  have compiles : (Chain.start (.text "users")).compile ⟨63, "id"⟩
      = .ok ⟨"SELECT * FROM users", []⟩ := by rfl
  intro db b raised
  obtain ⟨op, -, ran⟩ := run_resolve_of_compile db .many (b := b) rfl compiles raised
  have ended : ((b.resolve db .many).run raised).outcome = .error (.fault .tooManyDigitsShown) := by
    rw [ran]
    have settled := outcome_settle_error .many (.text "users") "SELECT * FROM users"
      (f := .oversized) (fun e h => by cases h) rfl ([] : Executor.Script)
    rw [Failure.text_oversized] at settled
    exact settled
  refine ⟨compiles, rfl, ended, fun r h => ?_⟩
  rw [ended] at h
  cases h

end Builder

end QueryChain
