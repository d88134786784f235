import QueryChain.Log.Run
import QueryChain.Proofs.Log.Supply

/-!
# What was asked of the contexts

The contexts of a run merge and replace fields step by step.  Here they are compared with a record
of what was asked of them, in the order in which it was asked: a value of the request is the last
one that was given since the request was cleared, and a value of the process is what the last call
says.  An isolated part starts with the record of the part around it, and hands on what it asked of
the process.

## Main definitions

* `LogPast` — what was asked; `LogPast.after`, `LogPast.afterAll` — after one step, and several.
* `LogPast.requestValue?`, `LogPast.processValue?` — the values in force.
* `LogPast.Resolves` — what a record shows.
* `LogStep.at?`, `LogAnswer.at?` — a step of a run, in isolated parts or not, and its answer.

## Main results

* `LogPast.agrees_merge`, …, `LogPast.agrees_runAll` — contexts hold the values in force.
* `LogStep.answer_at?_runAll` — where an answer stands, and in which contexts it was given.
* `LogStep.resolves_runAll` — what every record of a run shows.
-/

set_option relaxedAutoImplicit false
set_option autoImplicit false

namespace QueryChain

/-! ### Merged fields -/

namespace LogContext

variable {given : Fields} {name : String}

/-- The fields of a call in their order, null ones included. -/
def ordered (given : Fields) : Fields :=
  requestNames.filterMap (fun name => (given.get? name).map fun v => (name, v))
    ++ given.filter fun field => !requestNames.contains field.1

/-- Putting fields in order changes no value. -/
theorem get?_ordered : (ordered given).get? name = given.get? name := by
  have split : (ordered given).get? name
      = (Fields.get? (requestNames.filterMap fun n => (given.get? n).map fun v => (n, v)) name).or
        (Fields.get? (given.filter fun field => !requestNames.contains field.1) name) :=
    List.lookup_append
  rw [split, Fields.get?_filterMap,
    Fields.get?_filter_name fun name => !requestNames.contains name]
  by_cases mem : name ∈ requestNames
  · simp [mem]
  · simp [mem]

/-- Fields in order have different names if they had. -/
theorem nodup_ordered (names : (given.map Prod.fst).Nodup) :
    ((ordered given).map Prod.fst).Nodup := by
  have apart : ∀ name ∈ (requestNames.filterMap fun n => (given.get? n).map fun v => (n, v)).map
      Prod.fst, name ∈ requestNames := by
    intro name hname
    obtain ⟨field, hfield, rfl⟩ := List.mem_map.1 hname
    obtain ⟨n, hn, found⟩ := List.mem_filterMap.1 hfield
    obtain ⟨v, -, rfl⟩ := Option.map_eq_some_iff.1 found
    exact hn
  rw [ordered, List.map_append, List.nodup_append]
  refine ⟨Fields.nodup_filterMap (by decide), names.sublist (List.filter_sublist.map _), ?_⟩
  rintro name first _ second rfl
  obtain ⟨field, hfield, rfl⟩ := List.mem_map.1 second
  have other := (List.mem_filter.1 hfield).2
  simp [apart _ first] at other

/-- The fields of a call are those in order that are not null. -/
theorem inOrder_eq (given : Fields) :
    inOrder given = (ordered given).filter fun field => !field.2.isNull := rfl

/-- The value of a name in the context of the request after a call. -/
theorem get?_request_merge (c : LogContext) (names : (given.map Prod.fst).Nodup) :
    (c.merge given).request.get? name
      = ((given.get? name).filter fun v => !v.isNull).or (c.request.get? name) := by
  have different := nodup_ordered names
  have kept : ((inOrder given).map Prod.fst).Nodup := by
    rw [inOrder_eq]
    exact different.sublist (List.filter_sublist.map _)
  have merged : (c.merge given).request = c.request.update (inOrder given) := rfl
  rw [merged, Fields.get?_update kept, inOrder_eq,
    Fields.get?_filter_value (p := fun v => !v.isNull) different, get?_ordered]

end LogContext

/-! ### The past -/

/-- What was asked of the context of a request: to merge fields, or to clear it. -/
inductive RequestChange where
  | given (fields : Fields)
  | cleared
deriving Repr

namespace RequestChange

/-- Whether fields were given. -/
def isGiven : RequestChange → Bool
  | given _ => true
  | cleared => false

/-- The value that was given for a name, if it is not null. -/
def value? (name : String) : RequestChange → Option Value
  | given fields => (fields.get? name).filter fun v => !v.isNull
  | cleared => none

end RequestChange

/-- What was asked of the contexts so far, in the order in which it was asked: of the request in
progress, and of the process, with an environment and further fields. -/
structure LogPast where
  request : List RequestChange
  process : List (Value × Fields)
deriving Repr

namespace LogPast

/-- Nothing was asked. -/
def empty : LogPast := ⟨[], []⟩

mutual

/-- What was asked after one more step.  An isolated part knows of the request what was asked
before it, and what it asks of the request is forgotten when it ends. -/
def after (p : LogPast) : LogStep → LogPast
  | .configure environment extra => { p with process := p.process ++ [(environment, extra)] }
  | .merge given => { p with request := p.request ++ [.given given] }
  | .clear => { p with request := p.request ++ [.cleared] }
  | .isolated steps => { p with process := (afterAll p steps).process }
  | .write _ _ | .refused _ => p

/-- What was asked after more steps. -/
def afterAll (p : LogPast) : List LogStep → LogPast
  | [] => p
  | step :: steps => afterAll (after p step) steps

end

/-- The value of a name that is in force for the request: the last one that was given, and was not
null, since the request was cleared. -/
def requestValue? (p : LogPast) (name : String) : Option Value :=
  (p.request.reverse.takeWhile RequestChange.isGiven).findSome? (RequestChange.value? name)

/-- The value of a name that is in force for the process: what the last call gave, its environment
before a further field of that name. -/
def processValue? (p : LogPast) (name : String) : Option Value :=
  p.process.getLast?.bind fun call =>
    if name = "environment" ∧ call.1.isNull = false then some call.1 else call.2.get? name

/-- Contexts hold the values in force. -/
structure Agrees (p : LogPast) (c : LogContext) : Prop where
  request (name : String) : c.request.get? name = p.requestValue? name
  process (name : String) : c.process.get? name = p.processValue? name

/-- Empty contexts hold what is in force when nothing was asked. -/
theorem agrees_empty : empty.Agrees .empty := ⟨fun _ => rfl, fun _ => rfl⟩

/-! ### Steps -/

variable {p : LogPast} {c : LogContext}

/-- After fields were merged. -/
theorem agrees_merge (h : p.Agrees c) {given : Fields} (names : (given.map Prod.fst).Nodup) :
    (p.after (.merge given)).Agrees (c.merge given) := by
  refine ⟨fun name => ?_, h.process⟩
  have given_first : (p.after (.merge given)).requestValue? name
      = ((given.get? name).filter fun v => !v.isNull).or (p.requestValue? name) := by
    simp only [after, requestValue?, List.reverse_append, List.reverse_singleton,
      List.singleton_append, List.takeWhile_cons, RequestChange.isGiven, if_true,
      List.findSome?_cons, RequestChange.value?]
    cases (given.get? name).filter fun v => !v.isNull <;> rfl
  rw [LogContext.get?_request_merge c names, h.request, given_first]

/-- After the request was cleared. -/
theorem agrees_clear (h : p.Agrees c) : (p.after .clear).Agrees c.clear := by
  refine ⟨fun name => ?_, h.process⟩
  have forgotten : (p.after .clear).requestValue? name = none := by
    simp only [after, requestValue?, List.reverse_append, List.reverse_singleton,
      List.singleton_append, List.takeWhile_cons, RequestChange.isGiven, Bool.false_eq_true,
      if_false, List.findSome?_nil]
  rw [forgotten]
  rfl

/-- After the process was configured. -/
theorem agrees_configure (h : p.Agrees c) (environment : Value) (extra : Fields) :
    (p.after (.configure environment extra)).Agrees (c.configure environment extra) := by
  refine ⟨h.request, fun name => ?_⟩
  have last : (p.after (.configure environment extra)).processValue? name
      = if name = "environment" ∧ environment.isNull = false then some environment
        else extra.get? name := by
    simp [after, processValue?]
  rw [last, LogContext.configure]
  cases null : environment.isNull with
  | true => simp
  | false => simp [Fields.get?_set]

end LogPast

namespace LogStep

mutual

/-- The fields of every call that merges them have different names, also in isolated parts. -/
def Distinct : LogStep → Prop
  | merge given => (given.map Prod.fst).Nodup
  | isolated steps => DistinctAll steps
  | configure _ _ | clear | write _ _ | refused _ => True

/-- The fields of every call in steps that merges them have different names. -/
def DistinctAll : List LogStep → Prop
  | [] => True
  | step :: steps => step.Distinct ∧ DistinctAll steps

end

/-- Steps are distinct together when each of them is. -/
theorem distinctAll_iff {steps : List LogStep} :
    DistinctAll steps ↔ ∀ step ∈ steps, step.Distinct := by
  induction steps with
  | nil => simp [DistinctAll]
  | cons step steps ih => rw [DistinctAll, List.forall_mem_cons, ih]

end LogStep

namespace LogPast

mutual

/-- After one step. -/
theorem agrees_run {p : LogPast} {c : LogContext} (h : p.Agrees c) :
    ∀ step : LogStep, step.Distinct → (p.after step).Agrees (step.run c).1
  | .configure environment extra, _ => agrees_configure h environment extra
  | .merge _, names => agrees_merge h names
  | .clear, _ => agrees_clear h
  | .isolated steps, distinct => ⟨h.request, (agrees_runAll h steps distinct).process⟩
  | .write _ _, _ => h
  | .refused _, _ => h

/-- **Contexts hold the values in force**, whatever the steps of a run are. -/
theorem agrees_runAll {p : LogPast} {c : LogContext} (h : p.Agrees c) :
    ∀ steps : List LogStep, LogStep.DistinctAll steps →
      (p.afterAll steps).Agrees (LogStep.runAll c steps).1
  | [], _ => h
  | step :: steps, distinct => agrees_runAll (agrees_run h step distinct.1) steps distinct.2

end

/-! ### Records -/

/-- The attributes that are always written over. -/
def stampedNames : List String := ["request_id", "user_id", "sdk_name", "sdk_version"]

/-- What a record shows in its contexts, told from what was asked of them.

* Beside its extra attributes, it is the record that it was.
* The request and the user are those in force for the request, or null.
* The name and the version are those of the library.
* Any other attribute is kept if the record has it, and otherwise is in force for the request, or
  else for the process, or absent. -/
structure Resolves (p : LogPast) (r shown : LogRecord) : Prop where
  own : ∃ extra, shown = { r with extra := extra }
  request : ∀ name ∈ ["request_id", "user_id"],
    shown.extra.get? name = some ((p.requestValue? name).getD .null)
  library : shown.extra.get? "sdk_name" = some (.text libraryName)
    ∧ shown.extra.get? "sdk_version" = some (.text libraryVersion)
  kept : ∀ name ∉ stampedNames, r.has name = true → shown.extra.get? name = r.extra.get? name
  supplied : ∀ name ∉ stampedNames, r.has name = false →
    shown.extra.get? name = (p.requestValue? name).or (p.processValue? name)

/-- A record shows in its contexts what is in force. -/
theorem Agrees.resolves {p : LogPast} {c : LogContext} (h : p.Agrees c) (r : LogRecord) :
    p.Resolves r (c.applyTo r) := by
  have free (name : String) (other : name ∉ stampedNames) : (c.applyTo r).extra.get? name
      = if r.has name then r.extra.get? name
        else (p.requestValue? name).or (p.processValue? name) := by
    simp only [stampedNames, List.mem_cons, List.not_mem_nil, or_false, not_or] at other
    have library : LogContext.libraryFields.get? name = none :=
      Fields.get?_of_notMem (by simp [LogContext.libraryFields, other])
    have request : c.requestFields.get? name = none := by
      refine Fields.get?_of_notMem ?_
      rw [LogContext.map_fst_requestFields]
      simp [LogContext.requestNames, other]
    rw [LogContext.get?_applyTo, library, request, h.request, h.process]
    rfl
  refine ⟨LogContext.exists_applyTo_eq c r, ?_, ⟨?_, ?_⟩, ?_, ?_⟩
  · intro name hname
    rw [LogContext.get?_applyTo, ← h.request]
    simp only [List.mem_cons, List.not_mem_nil, or_false] at hname
    rcases hname with rfl | rfl <;> rfl
  · rw [LogContext.get?_applyTo]
    rfl
  · rw [LogContext.get?_applyTo]
    rfl
  · intro name other there
    rw [free name other, if_pos there]
  · intro name other absent
    rw [free name other, if_neg (by simp [absent])]

end LogPast

/-! ### Places -/

/-- The answer at a place: its index, behind the indices of the isolated parts around it. -/
def LogAnswer.at? (answers : List LogAnswer) : List Nat → Nat → Option LogAnswer
  | [], i => answers[i]?
  | j :: parts, i =>
    match answers[j]? with
    | some (.answers inner) => at? inner parts i
    | _ => none

namespace LogStep

/-- The step at a place, behind the steps that run before it. -/
def at? (steps : List LogStep) : List Nat → Nat → Option (List LogStep × LogStep)
  | [], i => steps[i]?.map fun step => (steps.take i, step)
  | j :: parts, i =>
    match steps[j]? with
    | some (.isolated inner) =>
      (at? inner parts i).map fun found => (steps.take j ++ found.1, found.2)
    | _ => none

variable {c : LogContext} {steps before : List LogStep} {step : LogStep} {parts : List Nat}
  {i : Nat}

/-- A step that is found stands in the list, or in an isolated part that does. -/
theorem exists_of_at?_cons {j : Nat} (h : at? steps (j :: parts) i = some (before, step)) :
    ∃ inner earlier, steps[j]? = some (.isolated inner)
      ∧ at? inner parts i = some (earlier, step) ∧ before = steps.take j ++ earlier := by
  rw [at?] at h
  split at h
  · rename_i inner found
    obtain ⟨⟨earlier, _⟩, there, e⟩ := Option.map_eq_some_iff.1 h
    cases e
    exact ⟨inner, earlier, found, there, rfl⟩
  · cases h

/-- The steps before a place are distinct if all steps are. -/
theorem distinctAll_of_at? (distinct : DistinctAll steps)
    (h : at? steps parts i = some (before, step)) : DistinctAll before := by
  rw [distinctAll_iff] at distinct
  induction parts generalizing steps before with
  | nil =>
    obtain ⟨_, -, e⟩ := Option.map_eq_some_iff.1 h
    cases e
    exact distinctAll_iff.2 fun x hx => distinct x (List.mem_of_mem_take hx)
  | cons j parts ih =>
    obtain ⟨inner, earlier, found, there, rfl⟩ := exists_of_at?_cons h
    have inside : DistinctAll inner := distinct _ (List.mem_of_getElem? found)
    have later := distinctAll_iff.1 (ih (distinctAll_iff.1 inside) there)
    refine distinctAll_iff.2 fun x hx => ?_
    rcases List.mem_append.1 hx with hx | hx
    · exact distinct x (List.mem_of_mem_take hx)
    · exact later x hx

/-- Steps that run behind others run in the contexts that these leave behind. -/
theorem context_runAll_append (c : LogContext) (xs ys : List LogStep) :
    (runAll c (xs ++ ys)).1 = (runAll (runAll c xs).1 ys).1 := by
  induction xs generalizing c with
  | nil => rfl
  | cons x xs ih => exact ih (run c x).1

/-- The answer of a step of a list. -/
theorem getElem?_runAll (h : steps[i]? = some step) :
    (runAll c steps).2[i]? = some (run (runAll c (steps.take i)).1 step).2 := by
  induction steps generalizing c i with
  | nil => cases h
  | cons x xs ih =>
    cases i with
    | zero =>
      cases h
      rfl
    | succ i => exact ih h

/-- Where an answer stands, and in which contexts it was given: in those that the steps before its
step leave behind, outside of the isolated parts around it and inside. -/
theorem answer_at?_runAll (h : at? steps parts i = some (before, step)) :
    LogAnswer.at? (runAll c steps).2 parts i = some (run (runAll c before).1 step).2 := by
  induction parts generalizing c steps before with
  | nil =>
    obtain ⟨_, found, e⟩ := Option.map_eq_some_iff.1 h
    cases e
    exact getElem?_runAll found
  | cons j parts ih =>
    obtain ⟨inner, earlier, found, there, rfl⟩ := exists_of_at?_cons h
    -- the steps inside run in the contexts that the steps before the part leave behind
    have part : (runAll c steps).2[j]?
        = some (.answers (runAll (runAll c (steps.take j)).1 inner).2) := getElem?_runAll found
    rw [LogAnswer.at?, part, context_runAll_append]
    exact ih there

/-- **What every record of a run shows.**  Let steps run from empty contexts, with isolated parts
nested to any depth, and let a record be written in its contexts at any place.

* The answer at this place is the line of the record in the contexts that the steps before the place
  leave behind.
* There the record shows what is in force, as it was asked for in these steps.
* Passing the record through the same contexts again changes nothing.
* A further isolated part leaves the context of the request as it is, and hands on the context of
  the process.

**Proof sketch.**  Each step keeps the agreement between contexts and what was asked of them, and
an isolated part starts in agreement with the part around it. -/
theorem resolves_runAll {program : List LogStep} (distinct : DistinctAll program) {r : LogRecord}
    (place : at? program parts i = some (before, .write r true)) :
    let c := (runAll .empty before).1
    LogAnswer.at? (runAll .empty program).2 parts i = some (writeLine c r true)
      ∧ (LogPast.empty.afterAll before).Resolves r (c.applyTo r)
      ∧ c.applyTo (c.applyTo r) = c.applyTo r
      ∧ ∀ inner, (run c (.isolated inner)).1 = ⟨c.request, (runAll c inner).1.process⟩ := by
  intro c
  have agrees : (LogPast.empty.afterAll before).Agrees c :=
    LogPast.agrees_runAll LogPast.agrees_empty before (distinctAll_of_at? distinct place)
  exact ⟨answer_at?_runAll place, agrees.resolves r, LogContext.applyTo_applyTo c r, fun _ => rfl⟩

/-- A record in an isolated part, behind a deeper one that clears the request: the request is the
one around both parts, and the process is as the deeper part left it. -/
theorem resolves_runAll_nested :
    let r := (LogRecord.make "fleetql" 20 (.text "Executing") [] (.int 0) none).assignAll
      [("table", .text "drivers"), ("user_id", .text "nobody")]
    let deeper : LogStep := .isolated [.clear, .merge [("trip", .int 2)],
      .configure (.text "qa") [("environment", .text "dev"), ("table", .text "static")]]
    let before : List LogStep := [.merge [("request_id", .text "req-1"), ("trip", .int 1)],
      .merge [("trip", .null), ("user_id", .text "ada")], deeper]
    let program : List LogStep :=
      [.configure .null [("region", .text "eu")], .isolated (before ++ [.write r true]), .clear]
    let c := (runAll .empty (program.take 1 ++ before)).1
    let shown (name : String) := (c.applyTo r).extra.get? name
    DistinctAll program ∧ at? program [1] 3 = some (program.take 1 ++ before, .write r true)
      ∧ LogAnswer.at? (runAll .empty program).2 [1] 3 = some (writeLine c r true)
      ∧ shown "user_id" = some (.text "ada") ∧ shown "table" = some (.text "drivers")
      ∧ shown "trip" = some (.int 1) ∧ shown "environment" = some (.text "qa")
      ∧ shown "region" = none := by
  intro r deeper before program c shown
  have distinct : DistinctAll program := by
    simp [program, before, deeper, DistinctAll, Distinct]
  have place : at? program [1] 3 = some (program.take 1 ++ before, .write r true) := rfl
  obtain ⟨answer, resolves, -, -⟩ := resolves_runAll distinct place
  refine ⟨distinct, place, answer, resolves.request "user_id" (by decide), ?_, ?_, ?_, ?_⟩
  · exact resolves.kept "table" (by decide) (by decide)
  · exact resolves.supplied "trip" (by decide) (by decide)
  · exact resolves.supplied "environment" (by decide) (by decide)
  · exact resolves.supplied "region" (by decide) (by decide)

end LogStep

end QueryChain
