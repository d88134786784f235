import QueryChain.Log.Line
import QueryChain.Proofs.Log.Supply

/-!
# Which record a line is of

A line of the log starts with four fields that tell which record it is of: its time, its level, its
logger and its message.  Extra attributes of the record, and what it takes from its contexts, go
behind them.  There is one exception: an attribute that has the name of one of the first three takes
its place.  The message is safe, because no attribute is shown under its name.

## Main definitions

* `LogRecord.IdentifiedBy` — fields that tell of a record what it tells of itself.
* `LogRecord.given?` — the value that is given under a name, by an extra attribute or a context.
* `LogRecord.firstFields`, `LogRecord.laterFields` — the first four fields of a line, and the rest.

## Main results

* `LogRecord.entry_eq`, `LogRecord.entry_applyTo` — the fields of a line, as they stand in it, of a
  record by itself and in its contexts.
* `LogRecord.identified_iff` — when a line tells which record it is of.
-/

set_option relaxedAutoImplicit false
set_option autoImplicit false

namespace QueryChain.LogRecord

/-- The names of the fields that tell which record a line is of. -/
def identityNames : List String := ["timestamp", "level", "logger", "message"]

/-- Fields that tell of a record what it tells of itself: its time, its level, its logger and its
message. -/
structure IdentifiedBy (r : LogRecord) (fields : Fields) : Prop where
  timestamp : ∃ text, r.timestamp = .ok text ∧ fields.get? "timestamp" = some (.text text)
  level : fields.get? "level" = some r.level
  logger : fields.get? "logger" = some r.logger
  message : ∃ text, r.message = .ok text ∧ fields.get? "message" = some (.text text)

/-- The value that is given under a name: by an extra attribute of the record, else by the context
of the request, else by that of the process. -/
def given? (c : LogContext) (r : LogRecord) (name : String) : Option Value :=
  (r.extra.get? name).or ((c.request.get? name).or (c.process.get? name))

/-- The first four fields of a line, with the values that are given in the place of the record's
own. -/
def firstFields (r : LogRecord) (given : String → Option Value) (timestamp message : String) :
    Fields :=
  [("timestamp", (given "timestamp").getD (.text timestamp)),
    ("level", (given "level").getD r.level), ("logger", (given "logger").getD r.logger),
    ("message", .text message)]

/-- The extra attributes that are shown behind the first four fields. -/
def otherFields (r : LogRecord) : Fields :=
  (r.extra.filter fun field => isShown field.1).filter fun field =>
    !identityNames.contains field.1

/-- The fields of a line behind the first four: the other attributes, those that name the trace, and
the failure. -/
def laterFields (r : LogRecord) (failure : Option String) : Fields :=
  match failure with
  | none => r.otherFields.update r.traceFields
  | some text => (r.otherFields.update r.traceFields).set "exception" (.text text)

variable {r : LogRecord} {c : LogContext} {fields : Fields} {name : String}

/-! ### Names of extra attributes -/

/-- Writing attributes keeps the names of the extra ones different. -/
theorem nodup_assignAll (h : (r.extra.map Prod.fst).Nodup) :
    ((r.assignAll fields).extra.map Prod.fst).Nodup := by
  induction fields generalizing r with
  | nil => exact h
  | cons field fields ih =>
    have next : ((r.assign field.1 field.2).extra.map Prod.fst).Nodup := by
      unfold assign
      repeat' split
      all_goals first | exact h | exact Fields.nodup_set h
    exact ih next

/-- Supplying attributes keeps the names of the extra ones different. -/
theorem nodup_supplyAll (h : (r.extra.map Prod.fst).Nodup) :
    ((fields.foldl supply r).extra.map Prod.fst).Nodup := by
  induction fields generalizing r with
  | nil => exact h
  | cons field fields ih =>
    refine ih ?_
    cases there : r.has field.1 with
    | true =>
      rw [supply_of_has there]
      exact h
    | false =>
      rw [supply_of_not_has there]
      exact Fields.nodup_set h

/-- The names of the extra attributes stay different in the contexts of a record. -/
theorem nodup_applyTo (c : LogContext) (h : (r.extra.map Prod.fst).Nodup) :
    ((c.applyTo r).extra.map Prod.fst).Nodup :=
  nodup_supplyAll (nodup_assignAll (nodup_supplyAll (nodup_assignAll h)))

/-! ### Lines -/

/-- The fields that name the trace have two names. -/
theorem name_of_traceFields {field : String × Value} (h : field ∈ r.traceFields) :
    field.1 = "trace_id" ∨ field.1 = "span_id" := by
  unfold traceFields at h
  split at h
  · cases h
  · split at h
    · simp only [List.mem_cons, List.not_mem_nil, or_false] at h
      rcases h with rfl | rfl
      · exact .inl rfl
      · exact .inr rfl
    · cases h

/-- The fields that name the trace have other names than the first four. -/
theorem notMem_identityNames_of_traceFields {field : String × Value} (h : field ∈ r.traceFields) :
    field.1 ∉ identityNames := by
  rcases name_of_traceFields h with e | e
  all_goals
    rw [e]
    decide

/-- The fields behind the first four have other names. -/
theorem notMem_identityNames_of_laterFields {failure : Option String} {field : String × Value}
    (h : field ∈ r.laterFields failure) : field.1 ∉ identityNames := by
  have named : Fields.has (r.laterFields failure) field.1 = true :=
    Fields.has_iff_mem.2 (List.mem_map_of_mem h)
  have shown : Fields.has (r.otherFields.update r.traceFields) field.1 = true →
      field.1 ∉ identityNames := by
    rw [Fields.has_update, Bool.or_eq_true, Fields.has_iff_mem, Fields.has_iff_mem]
    rintro (mem | mem)
    · obtain ⟨other, hother, e⟩ := List.mem_map.1 mem
      have apart := (List.mem_filter.1 hother).2
      rw [e] at apart
      simpa using apart
    · obtain ⟨other, hother, e⟩ := List.mem_map.1 mem
      exact e ▸ notMem_identityNames_of_traceFields hother
  cases failure with
  | none => exact shown named
  | some text =>
    rw [laterFields, Fields.has_set, Bool.or_eq_true, beq_iff_eq] at named
    rcases named with mem | e
    · exact shown mem
    · rw [e]
      decide

/-- The names of the first four fields, whatever is given. -/
theorem map_fst_firstFields (r : LogRecord) (given : String → Option Value)
    (timestamp message : String) :
    (r.firstFields given timestamp message).map Prod.fst = identityNames := rfl

/-- The extra attributes that are shown, written over the record's own first four fields. -/
theorem update_firstFields (names : (r.extra.map Prod.fst).Nodup) (timestamp message : String) :
    (r.firstFields (fun _ => none) timestamp message).update
        (r.extra.filter fun field => isShown field.1)
      = r.firstFields r.extra.get? timestamp message ++ r.otherFields := by
  have different : ((r.extra.filter fun field => isShown field.1).map Prod.fst).Nodup :=
    names.sublist (List.filter_sublist.map _)
  have value (name : String) : Fields.get? (r.extra.filter fun field => isShown field.1) name
      = if isShown name then r.extra.get? name else none := Fields.get?_filter_name isShown
  have timestamp_shown : isShown "timestamp" = true := by decide +kernel
  have level_shown : isShown "level" = true := by decide +kernel
  have logger_shown : isShown "logger" = true := by decide +kernel
  have message_hidden : isShown "message" = false := rfl
  have first (name : String) :
      Fields.has (r.firstFields (fun _ => none) timestamp message) name
        = identityNames.contains name := by
    rw [Bool.eq_iff_iff, Fields.has_iff_mem, map_fst_firstFields, List.contains_iff_mem]
  rw [Fields.update_eq_append (by rw [map_fst_firstFields]; decide) different]
  congr 1
  · simp [firstFields, value, timestamp_shown, level_shown, logger_shown, message_hidden]
  · simp only [first, otherFields]

/-- **The fields of a line**, as they stand in it.  An extra attribute that has the name of one of
the first three takes its place. -/
theorem entry_eq (names : (r.extra.map Prod.fst).Nodup) :
    r.entry = do
      let timestamp ← r.timestamp
      let message ← r.message
      let failure ← r.failure
      return r.firstFields r.extra.get? timestamp message ++ r.laterFields failure := by
  have traced (timestamp message : String) :
      (Fields.update [("timestamp", .text timestamp), ("level", r.level), ("logger", r.logger),
          ("message", .text message)] (r.extra.filter fun field => isShown field.1)).update
        r.traceFields
      = r.firstFields r.extra.get? timestamp message ++ r.otherFields.update r.traceFields := by
    have own := update_firstFields names timestamp message
    simp only [firstFields, Option.getD_none] at own ⊢
    rw [own]
    exact Fields.update_append_of_notMem fun field hfield =>
      notMem_identityNames_of_traceFields hfield
  unfold entry
  cases r.timestamp with
  | error f => rfl
  | ok timestamp =>
    cases r.message with
    | error f => rfl
    | ok message =>
      cases failure : r.failure with
      | error f => rfl
      | ok text =>
        cases text with
        | none => exact congrArg Except.ok (traced timestamp message)
        | some text =>
          have apart : "exception" ∉ identityNames := by decide
          refine congrArg Except.ok ?_
          rw [traced]
          exact Fields.set_append_of_notMem apart _

/-! ### Records in their contexts -/

/-- A name that no record has of its own, and that no context stamps, has in the contexts of a
record the value that is given for it. -/
theorem get?_applyTo_of_free (c : LogContext) (own : name ∉ ownNames) (known : name ∉ classNames)
    (request : name ∉ LogContext.requestNames)
    (library : name ∉ LogContext.libraryFields.map Prod.fst) :
    (c.applyTo r).extra.get? name = r.given? c name := by
  have unstamped : c.requestFields.get? name = none :=
    Fields.get?_of_notMem (by rwa [LogContext.map_fst_requestFields])
  have free : r.has name = r.extra.has name := by
    simp [has, own, known]
  rw [LogContext.get?_applyTo, Fields.get?_of_notMem library, unstamped, free,
    ← Fields.isSome_get?, given?]
  cases r.extra.get? name <;> rfl

/-- Contexts change neither the time of a record nor its message, nor its failure. -/
theorem own_applyTo (c : LogContext) (r : LogRecord) :
    (c.applyTo r).timestamp = r.timestamp ∧ (c.applyTo r).message = r.message
      ∧ (c.applyTo r).failure = r.failure ∧ (c.applyTo r).level = r.level
      ∧ (c.applyTo r).logger = r.logger := by
  -- what stands where a record is asked for its message is never supplied
  have asked : (c.applyTo r).extra.get? "getMessage" = r.extra.get? "getMessage" := by
    have known : r.has "getMessage" = true := rfl
    have library : LogContext.libraryFields.get? "getMessage" = none := rfl
    have request : c.requestFields.get? "getMessage" = none := rfl
    rw [LogContext.get?_applyTo, library, request, if_pos known]
    rfl
  obtain ⟨extra, e⟩ := LogContext.exists_applyTo_eq c r
  rw [e] at asked ⊢
  refine ⟨rfl, ?_, rfl, rfl, rfl⟩
  simp only [message, asked]

/-- **The fields of a line in the contexts of its record.**  What is given under the name of one of
the first three fields takes its place, by an extra attribute before the request, and by the request
before the process. -/
theorem entry_applyTo (c : LogContext) (names : (r.extra.map Prod.fst).Nodup) :
    (c.applyTo r).entry = do
      let timestamp ← r.timestamp
      let message ← r.message
      let failure ← r.failure
      return r.firstFields (r.given? c) timestamp message
        ++ (c.applyTo r).laterFields failure := by
  obtain ⟨timestamp, message, failure, level, logger⟩ := own_applyTo c r
  have given : ∀ name ∈ ["timestamp", "level", "logger"],
      (c.applyTo r).extra.get? name = r.given? c name := by
    intro name hname
    simp only [List.mem_cons, List.not_mem_nil, or_false] at hname
    rcases hname with rfl | rfl | rfl
    all_goals exact get?_applyTo_of_free c (by decide) (by decide) (by decide) (by decide)
  rw [entry_eq (nodup_applyTo c names), timestamp, message, failure]
  simp only [firstFields, level, logger, given "timestamp" (by decide), given "level" (by decide),
    given "logger" (by decide)]

/-- Fields that start with the first four of a line identify its record when whatever is given in
their place is what the record says itself. -/
theorem identifiedBy_firstFields {given : String → Option Value} {timestamp message : String}
    (time : r.timestamp = .ok timestamp) (text : r.message = .ok message) (rest : Fields) :
    r.IdentifiedBy (r.firstFields given timestamp message ++ rest) ↔
      (∀ v, given "timestamp" = some v → v = .text timestamp)
        ∧ (∀ v, given "level" = some v → v = r.level)
        ∧ ∀ v, given "logger" = some v → v = r.logger := by
  have kept (x : Option Value) (own : Value) : x.getD own = own ↔ ∀ v, x = some v → v = own := by
    cases x <;> simp
  have first : Fields.get? (r.firstFields given timestamp message ++ rest) "timestamp"
      = some ((given "timestamp").getD (.text timestamp)) := rfl
  have second : Fields.get? (r.firstFields given timestamp message ++ rest) "level"
      = some ((given "level").getD r.level) := rfl
  have third : Fields.get? (r.firstFields given timestamp message ++ rest) "logger"
      = some ((given "logger").getD r.logger) := rfl
  have fourth : Fields.get? (r.firstFields given timestamp message ++ rest) "message"
      = some (.text message) := rfl
  constructor
  · rintro ⟨⟨shown, ok, at_first⟩, at_second, at_third, -⟩
    rw [time, Except.ok.injEq] at ok
    subst ok
    rw [first, Option.some.injEq, kept] at at_first
    rw [second, Option.some.injEq, kept] at at_second
    rw [third, Option.some.injEq, kept] at at_third
    exact ⟨at_first, at_second, at_third⟩
  · rintro ⟨at_first, at_second, at_third⟩
    refine ⟨⟨timestamp, time, ?_⟩, ?_, ?_, message, text, fourth⟩
    · rw [first, (kept _ _).2 at_first]
    · rw [second, (kept _ _).2 at_second]
    · rw [third, (kept _ _).2 at_third]

/-- **When a line tells which record it is of.**  Let a record be made and attributes be written to
it, and let the line be written in any contexts.

* The line has first its time, its level, its logger and its message, and then fields under other
  names.  There is a line whenever the record has a time and a message and its failure is one,
  whatever the contexts are.
* The message is always that of the record.  In the place of each of the other three stands what is
  given under its name: by an extra attribute, else by the request, else by the process.
* So the line identifies the record exactly when everything that is given under one of these three
  names is what the record says itself. -/
theorem identified_iff (logger : String) (level : Int) (template : Value) (args : List Value)
    (created : Value) (failure : Option Failure) (attributes : Fields) (c : LogContext) :
    let r := (make logger level template args created failure).assignAll attributes
    ((c.applyTo r).entry = do
        let timestamp ← r.timestamp
        let message ← r.message
        let failure ← r.failure
        return r.firstFields (r.given? c) timestamp message ++ (c.applyTo r).laterFields failure)
      ∧ (∀ failure, ∀ field ∈ (c.applyTo r).laterFields failure, field.1 ∉ identityNames)
      ∧ ∀ fields, (c.applyTo r).entry = .ok fields →
          (r.IdentifiedBy fields ↔
            (∀ v, r.given? c "timestamp" = some v → r.timestamp.map Value.text = .ok v)
              ∧ (∀ v, r.given? c "level" = some v → v = r.level)
              ∧ ∀ v, r.given? c "logger" = some v → v = r.logger) := by
  intro r
  have line := entry_applyTo (r := r) c (nodup_assignAll List.nodup_nil)
  refine ⟨line, fun failure field h => notMem_identityNames_of_laterFields h, ?_⟩
  intro fields ok
  rw [line] at ok
  cases time : r.timestamp with
  | error f =>
    rw [time] at ok
    cases ok
  | ok timestamp =>
    cases text : r.message with
    | error f =>
      rw [time, text] at ok
      cases ok
    | ok message =>
      cases reported : r.failure with
      | error f =>
        rw [time, text, reported] at ok
        cases ok
      | ok failure =>
        rw [time, text, reported] at ok
        cases ok
        rw [identifiedBy_firstFields time text]
        simp only [Except.map, Except.ok.injEq, eq_comm]

/-- An extra attribute, the request and the process each give a value under the name of one of the
first fields: the line tells the level, the logger and the time that were given, and not those of
the record. -/
theorem not_identified_given :
    let r := (make "fleetql" 20 (.text "Executing") [] (.int 0) none).assignAll
      [("level", .text "urgent")]
    let c : LogContext := ⟨[("logger", .text "trip")], [("timestamp", .text "today")]⟩
    ∃ fields, (c.applyTo r).entry = .ok fields ∧ ¬ r.IdentifiedBy fields
      ∧ fields.get? "timestamp" = some (.text "today")
      ∧ fields.get? "level" = some (.text "urgent") ∧ r.level = .text "INFO"
      ∧ fields.get? "logger" = some (.text "trip") ∧ r.logger = .text "fleetql"
      ∧ fields.get? "message" = some (.text "Executing") := by
  intro r c
  have line := entry_applyTo (r := r) c (nodup_assignAll List.nodup_nil)
  have time : r.timestamp = .ok "1970-01-01T00:00:00+00:00" := by decide +kernel
  have text : r.message = .ok "Executing" := rfl
  refine ⟨_, line.trans (by rw [time, text]; rfl), fun same => ?_, rfl, rfl, rfl, rfl, rfl, rfl⟩
  have level : Value.text "urgent" = Value.text "INFO" := Option.some.inj same.level
  exact absurd (Value.text.inj level) (by decide)

end QueryChain.LogRecord
