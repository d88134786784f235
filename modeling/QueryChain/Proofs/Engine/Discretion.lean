import QueryChain.Proofs.Engine.Transaction
import QueryChain.Proofs.Execution.Alike

/-!
# What the run of a statement gives away

Addresses hold passwords, and parameters hold the data of users.  Of an address, only the part in
front of its first colon shows in the outcome of a statement, in the log and on spans; of
parameters, only how many there are.

## Main definitions

* `DatabaseSettings.SameScheme` — settings that differ behind the first colon of their addresses.
* `Pool.Alike` — pools that differ in such settings.

## Main results

* `alike_translate` — of parameters, translation shows how many there are.
* `Pool.alike_query` — statements with as many parameters look alike in pools that are alike.
* `Pool.query_discreet` — the outcome, the log and the spans of a statement are the same.
-/

set_option relaxedAutoImplicit false
set_option autoImplicit false

namespace QueryChain

/-! ### Settings -/

/-- Settings that differ at most in their addresses, and there only behind the first colon. -/
def DatabaseSettings.SameScheme (s t : DatabaseSettings) : Prop :=
  ∃ scheme rest rest' : String, ':' ∉ scheme.toList ∧ s.url = some (scheme ++ ":" ++ rest)
    ∧ t = { s with url := some (scheme ++ ":" ++ rest') }

namespace DatabaseSettings

variable {s t : DatabaseSettings}

/-- What stands in front of the first colon of an address. -/
theorem takeWhile_scheme {scheme : String} (h : ':' ∉ scheme.toList) (rest : String) :
    (scheme ++ ":" ++ rest).toList.takeWhile (· != ':') = scheme.toList := by
  have before : ∀ c ∈ scheme.toList, (c != ':') = true := by
    intro c hc
    exact bne_iff_ne.2 fun e => h (e.subst hc)
  have colon : (":" : String).toList = [':'] := rfl
  rw [String.toList_append, String.toList_append, colon, List.append_assoc, List.singleton_append,
    List.takeWhile_append_of_pos before]
  simp

/-- An address with a colon in it is there. -/
theorem address?_of_url {scheme rest : String} (h : s.url = some (scheme ++ ":" ++ rest)) :
    s.address? = some (scheme ++ ":" ++ rest) := by
  have given : scheme ++ ":" ++ rest ≠ "" := by
    intro empty
    have length := congrArg String.length empty
    simp at length
  rw [address?, h]
  exact if_neg given

namespace SameScheme

/-- Both addresses are there. -/
theorem addresses (h : s.SameScheme t) :
    ∃ url url' : String, s.address? = some url ∧ t.address? = some url' := by
  obtain ⟨scheme, rest, rest', -, url, rfl⟩ := h
  exact ⟨_, _, address?_of_url url, address?_of_url rfl⟩

/-- Both name the same kind of database. -/
theorem system (h : s.SameScheme t) : s.system = t.system := by
  obtain ⟨scheme, rest, rest', plain, url, rfl⟩ := h
  rw [DatabaseSettings.system, DatabaseSettings.system, address?_of_url url, address?_of_url rfl]
  refine systemOf_congr ?_
  exact (takeWhile_scheme plain rest).trans (takeWhile_scheme plain rest').symm

end SameScheme

end DatabaseSettings

/-! ### Translation -/

section Translation

variable {xs ys : List Value}

/-- Lists of the same size are empty together. -/
theorem truthy_list (size : xs.length = ys.length) :
    (Value.list xs).truthy = (Value.list ys).truthy := by
  cases xs with
  | nil =>
    obtain rfl : ys = [] := List.eq_nil_of_length_eq_zero size.symm
    rfl
  | cons x xs =>
    obtain ⟨y, ys, rfl⟩ := List.exists_cons_of_length_eq_add_one size.symm
    rfl

/-- Lists of the same size have elements at the same places. -/
theorem alike_elementAt (size : xs.length = ys.length) (outside : Fault) (i : Int) :
    Ends (fun _ _ => True) ((Value.elementAt outside xs i).mapError .fault)
      ((Value.elementAt outside ys i).mapError .fault) := by
  simp only [Value.elementAt, size]
  split
  · exact .error _
  -- from here on the sizes are the same, and only which elements there are could differ
  generalize (if i < 0 then i + (ys.length : Int) else i) = position
  split
  · exact .error _
  by_cases inside : position.toNat < ys.length
  · rw [List.getElem?_eq_getElem inside, List.getElem?_eq_getElem (size ▸ inside)]
    exact .ok trivial
  · rw [List.getElem?_eq_none (Nat.not_lt.1 inside),
      List.getElem?_eq_none (Nat.not_lt.1 (size ▸ inside))]
    exact .error _

/-- Placeholders find parameters in lists of the same size, or in none of them. -/
theorem alike_lookup (size : xs.length = ys.length) (digits : List Char) :
    Ends (fun _ _ => True) (ParamStyle.lookup (.list xs) digits)
      (ParamStyle.lookup (.list ys) digits) := by
  rw [ParamStyle.lookup, ParamStyle.lookup]
  split
  · exact .error _
  · exact alike_elementAt size _ _

/-- So do all the placeholders of a statement. -/
theorem alike_lookupAll (size : xs.length = ys.length) (marks : List (List Char)) :
    Ends (fun _ _ => True) (ParamStyle.lookupAll (.list xs) marks)
      (ParamStyle.lookupAll (.list ys) marks) := by
  induction marks with
  | nil => exact .ok trivial
  | cons digits marks ih =>
    rw [ParamStyle.lookupAll, ParamStyle.lookupAll]
    refine (alike_lookup size digits).bind fun _ _ _ => ?_
    exact ih.bind fun _ _ _ => .ok trivial

/-- Parameters of the same number are bound together or not at all. -/
theorem alike_bind (size : xs.length = ys.length) (style : ParamStyle) (cs : List Char) :
    Ends (fun _ _ => True) (style.bind cs (.list xs)) (style.bind cs (.list ys)) := by
  cases style with
  | qmark | format => exact (alike_lookupAll size _).map fun _ _ _ => trivial
  | numericDollar | numeric | named | pyformat => exact .ok trivial

/-- Of parameters, translation shows how many there are: the text of the statement, or the failure,
is the same. -/
theorem alike_translate (size : xs.length = ys.length) (sql styleName : String) :
    Ends (fun a b => a.1 = b.1) (translate sql (.list xs) styleName)
      (translate sql (.list ys) styleName) := by
  rw [translate, translate, truthy_list size]
  cases ParamStyle.ofName? styleName with
  | none => exact .error _
  | some style =>
    exact (alike_bind size style sql.toList).bind fun _ _ _ => .ok rfl

end Translation

/-! ### Spans -/

/-- No attribute of a span is null. -/
theorem Statement.isNull_attributes {system sql : String} {count : Nat} {field : String × Value}
    (h : field ∈ Statement.attributes system sql count) : field.2.isNull = false := by
  rcases List.mem_append.1 h with fixed | named
  · simp only [List.mem_cons, List.not_mem_nil, or_false] at fixed
    rcases fixed with rfl | rfl | rfl | rfl | rfl <;> rfl
  · revert named
    cases Statement.table? (Statement.shownWords sql) with
    | none => exact fun named => by cases named
    | some table =>
      intro named
      simp only at named
      split at named
      · cases named
      · rw [List.mem_singleton.1 named]
        rfl

/-! ### Pools -/

/-- Pools that differ at most in addresses, and there only behind the first colon. -/
def Pool.Alike (p q : Pool) : Prop :=
  ∃ t : DatabaseSettings, p.settings.SameScheme t ∧ q = { p with settings := t }

namespace Pool

/-- Attempts to connect look alike: the driver answers by their number. -/
theorem alike_connect : Action.Alike Pool.Alike Eq connect connect := by
  rintro p q ⟨t, schemes, rfl⟩
  exact ⟨.refl _, ⟨t, schemes, rfl⟩, rfl, rfl⟩

/-- Statements look alike to the driver, which answers by their number. -/
theorem alike_execute : Action.Alike Pool.Alike Eq execute execute := by
  rintro p q ⟨t, schemes, rfl⟩
  exact ⟨.refl _, ⟨t, schemes, rfl⟩, rfl, rfl⟩

/-- Creating an engine shows the kind of database that an address names. -/
theorem alike_create : Action.Alike Pool.Alike Eq create create := by
  refine Action.Alike.get.bind ?_
  rintro p q ⟨t, schemes, rfl⟩
  -- an address with a colon is not empty, so neither pool fails for want of one
  obtain ⟨url, url', here, there⟩ := schemes.addresses
  simp only [here, there]
  refine (Action.Alike.call _ _).bind fun _ _ _ => ?_
  refine alike_connect.attempt.bind fun ended ended' same => ?_
  obtain rfl := same.eq
  cases ended with
  | ok engine => exact (Action.Alike.log _).bind fun _ _ _ => .pure rfl
  | error f =>
    simp only [unreachable, schemes.system]
    split
    · exact .fail _
    · exact .ofExcept (.error f)

/-- Acquiring an engine looks alike, whether one is held or not. -/
theorem alike_acquire : Action.Alike Pool.Alike Eq acquire acquire := by
  refine Action.Alike.get.bind ?_
  rintro p q ⟨t, schemes, rfl⟩
  cases held : p.engine with
  | some engine => exact .pure rfl
  | none =>
    refine alike_create.bind ?_
    rintro engine _ rfl
    refine Action.Alike.get.bind ?_
    rintro p q ⟨t, schemes, rfl⟩
    exact (Action.Alike.put ⟨t, schemes, rfl⟩).bind fun _ _ _ => .pure rfl

/-- Transactions look alike, whatever they bind. -/
theorem alike_inTransaction (text : String) (bound bound' : Option BoundParams) :
    Action.Alike Pool.Alike Eq (inTransaction text bound) (inTransaction text bound') := by
  refine (Action.Alike.call _ _).bind fun _ _ _ => ?_
  refine (Action.Alike.call _ _).bind fun _ _ _ => ?_
  have collecting : Action.Alike Pool.Alike Eq
      (do Action.ofExcept (collect (← execute)) : Action Pool (List Value × Int))
      (do Action.ofExcept (collect (← execute))) := by
    refine alike_execute.bind ?_
    rintro produced _ rfl
    exact .ofExcept (.refl _)
  refine collecting.attempt.bind fun ended ended' same => ?_
  exact (Action.Alike.call _ _).bind fun _ _ _ => .ofExcept same

/-- Failed statements with as many parameters look alike: the text of the failure is asked for
once. -/
theorem alike_failStatement (sql : String) {params params' : List Value}
    (size : params.length = params'.length) (f : Failure) :
    Action.Alike Pool.Alike Eq (failStatement sql params f) (failStatement sql params' f) := by
  simp only [failStatement, statementFields, size]
  split
  · refine ((Action.Alike.textOf f).leaving "coroutine").bind ?_
    rintro text _ rfl
    exact (Action.Alike.log _).bind fun _ _ _ => .fail _
  · exact .ofExcept (.error f)

/-- Statements with as many parameters look alike. -/
theorem alike_runStatement (sql : String) {params params' : List Value}
    (size : params.length = params'.length) :
    Action.Alike Pool.Alike Eq (runStatement sql params) (runStatement sql params') := by
  refine alike_acquire.bind ?_
  rintro engine _ rfl
  refine (Action.Alike.check (alike_translate size sql engine.styleName)).bind ?_
  -- the text is the same; what is bound may differ, and only the driver is told
  rintro ⟨text, bound⟩ ⟨_, bound'⟩ rfl
  refine (alike_inTransaction text _ _).attempt.bind fun ended ended' same => ?_
  obtain rfl := same.eq
  cases ended with
  | error f => exact alike_failStatement sql size f
  | ok both =>
    simp only [statementFields, size]
    exact (Action.Alike.log _).bind fun _ _ _ => .ofExcept (.refl _)

/-- The attributes of a span show how many parameters there are, and the kind of database. -/
theorem alike_spanAttributes (sql : String) {params params' : List Value}
    (size : params.length = params'.length) :
    Action.Alike Pool.Alike Eq (spanAttributes sql (.list params))
      (spanAttributes sql (.list params')) := by
  refine Action.Alike.get.bind ?_
  rintro p q ⟨t, schemes, rfl⟩
  have counted : (Value.list params).length = (Value.list params').length :=
    congrArg Except.ok size
  rw [truthy_list size, counted]
  refine (Action.Alike.ofExcept (.refl _)).bind ?_
  rintro count _ rfl
  rw [schemes.system]
  exact .pure rfl

/-- Statements with as many parameters look alike inside their spans. -/
theorem alike_query (sql : String) {params params' : List Value}
    (size : params.length = params'.length) :
    Action.Alike Pool.Alike Eq (query sql (.list params)) (query sql (.list params')) := by
  rw [query_eq_traced, query_eq_traced]
  exact .traced spanLabel (alike_spanAttributes sql size) (alike_runStatement sql size)

/-- A query does what its statement does, whose failure it passes on, and emits its span behind it,
which shows the statement, the kind of database, the number of the parameters, and how the statement
ended. -/
theorem span_query (sql : String) (params : List Value) (pool : Pool) :
    let ran := (query sql (.list params)).run pool
    let inner := (runStatement sql params).run pool
    ran.outcome = inner.outcome.mapError Failure.passing
      ∧ ran.events = inner.events ++ [.span (Span.finish spanLabel
        ((Statement.attributes pool.settings.system sql params.length).map
          fun field => (.text field.1, field.2)) inner.outcome)] := by
  have found : (spanAttributes sql (.list params)).run pool
      = ⟨.ok (Statement.attributes pool.settings.system sql params.length).toValue, pool, []⟩ := by
    cases params <;> rfl
  have given : ∀ entry ∈ (Statement.attributes pool.settings.system sql params.length).map
      (fun field => (Value.text field.1, field.2)), (!entry.2.isNull) = true := by
    intro entry hentry
    obtain ⟨field, hfield, rfl⟩ := List.mem_map.1 hentry
    simp [Statement.isNull_attributes hfield]
  intro ran inner
  have spanned : ran = _ := (congrArg (Action.run · pool) (query_eq_traced sql params)).trans
    (Action.run_traced_of_attributes (Action.run_attributes_of_map found))
  rw [spanned, List.filter_eq_self.2 given]
  exact ⟨rfl, rfl⟩

/-- **A statement gives away neither its parameters nor what an address holds behind its scheme.**
Let a statement run twice, with as many parameters, on the same driver and in the same state, with
settings that differ at most in the part of the address behind the first colon.  Then the outcomes,
the events of the log and the spans are the same, whatever the driver answers.  Behind the events of
the statement there is one span, which shows the statement, the kind of database, how many
parameters there are, and how the statement ended; the query ends so too, unless the text of its
failure is refused.

**Proof sketch.**  Two runs that differ in their calls at most are put together from steps that do.
Of the settings, a step asks whether there is an address and what stands in front of its colon; of
the parameters, translation asks which of them exist. -/
theorem query_discreet (sql : String) {params params' : List Value}
    (size : params.length = params'.length) (pool : Pool) {settings : DatabaseSettings}
    (schemes : pool.settings.SameScheme settings) :
    let ran := (query sql (.list params)).run pool
    let ran' := (query sql (.list params')).run { pool with settings := settings }
    let inner := (runStatement sql params).run pool
    ran.outcome = ran'.outcome ∧ Event.logs ran.events = Event.logs ran'.events
      ∧ Event.spans ran.events = Event.spans ran'.events
      ∧ ran.outcome = inner.outcome.mapError Failure.passing
      ∧ ran.events = inner.events ++ [.span (Span.finish spanLabel
        ((Statement.attributes pool.settings.system sql params.length).map
          fun field => (.text field.1, field.2)) inner.outcome)] := by
  intro ran ran' inner
  obtain ⟨outcome, -, logs, spans⟩ := alike_query sql size pool _ ⟨settings, schemes, rfl⟩
  exact ⟨outcome.eq, logs, spans, span_query sql params pool⟩

/-- Two runs of a query through different accounts and for different users, in which the driver
connects and then fails. -/
theorem query_discreet_failure :
    let failed : Failure := .raised .runtime [.text "connection lost"]
    let driver : Driver :=
      ⟨fun _ => Answer.ok ⟨"qmark", "postgresql"⟩, fun _ => ⟨[], .error failed⟩⟩
    let ada : DatabaseSettings :=
      { DatabaseSettings.default with url := some "postgresql+asyncpg://ada:secret@db/fleet" }
    let bob : DatabaseSettings :=
      { DatabaseSettings.default with url := some "postgresql+asyncpg://bob:hidden@db/fleet" }
    let sql := "SELECT * FROM users WHERE email = $1"
    let ran := (query sql (.list [.text "ada@example.org"])).run (start ada driver)
    let ran' := (query sql (.list [.int 7])).run (start bob driver)
    ada.SameScheme bob
      ∧ (Event.logs ran.events).map LogEvent.message
        = ["Created database engine", "SQL query failed", "connection lost"]
      ∧ ran.outcome = ran'.outcome ∧ Event.logs ran.events = Event.logs ran'.events
      ∧ Event.spans ran.events = Event.spans ran'.events := by
  intro failed driver ada bob sql ran ran'
  have schemes : ada.SameScheme bob :=
    ⟨"postgresql+asyncpg", "//ada:secret@db/fleet", "//bob:hidden@db/fleet", by decide, rfl, rfl⟩
  have size : [Value.text "ada@example.org"].length = [Value.int 7].length := rfl
  obtain ⟨outcome, logs, spans, -⟩ := query_discreet sql size (start ada driver) schemes
  exact ⟨schemes, by decide +kernel, outcome, logs, spans⟩

end Pool

end QueryChain
