import QueryChain.Log.Context
import QueryChain.Proofs.Value.Fields

/-!
# What records take from their contexts

A record that passes through its contexts is stamped with four attributes in any case, and supplied
with further ones that it has not.  Here the attributes of the resulting record are told one by one,
from those of the record and those of the contexts.

## Main definitions

* `LogContext.requestFields`, `LogContext.libraryFields` — the attributes that records get in any
  case.
* `LogContext.otherFields` — what the request supplies.

## Main results

* `LogRecord.get?_supplyAll`, `LogRecord.get?_assignAll` — a record after it was supplied or
  stamped.
* `LogContext.get?_applyTo` — the attributes of a record in its contexts.
* `LogContext.applyTo_applyTo` — a second time changes nothing.
-/

set_option relaxedAutoImplicit false
set_option autoImplicit false

namespace QueryChain

/-! ### Stamping -/

namespace LogRecord

variable {r : LogRecord} {fields : Fields} {name : String}

/-- Attributes that are not among a record's own are written among the extra ones. -/
theorem assignAll_of_not_own (h : ∀ field ∈ fields, field.1 ∉ ownNames) :
    r.assignAll fields = { r with extra := r.extra.update fields } := by
  induction fields generalizing r with
  | nil => rfl
  | cons field fields ih =>
    obtain ⟨here, later⟩ := List.forall_mem_cons.1 h
    have next : r.assignAll (field :: fields) = (r.assign field.1 field.2).assignAll fields := rfl
    rw [next, ih later, assign_of_not_own r field.2 here]
    rfl

/-- An extra attribute after attributes of different names were written. -/
theorem get?_assignAll (h : ∀ field ∈ fields, field.1 ∉ ownNames)
    (names : (fields.map Prod.fst).Nodup) :
    (r.assignAll fields).extra.get? name = (fields.get? name).or (r.extra.get? name) := by
  rw [assignAll_of_not_own h]
  exact Fields.get?_update names

/-- A record has what it had, and what was written. -/
theorem has_assignAll : (r.assignAll fields).has name = (r.has name || fields.has name) := by
  induction fields generalizing r with
  | nil => exact (Bool.or_false _).symm
  | cons field fields ih =>
    have next : r.assignAll (field :: fields) = (r.assign field.1 field.2).assignAll fields := rfl
    rw [next, ih, has_assign, Fields.has_cons, Bool.or_assoc]

/-- Writing what is there changes nothing. -/
theorem assignAll_eq_self
    (h : ∀ field ∈ fields, field.1 ∉ ownNames ∧ r.extra.get? field.1 = some field.2) :
    r.assignAll fields = r := by
  induction fields with
  | nil => rfl
  | cons field fields ih =>
    obtain ⟨⟨notOwn, there⟩, later⟩ := List.forall_mem_cons.1 h
    have same : r.assign field.1 field.2 = r := by
      rw [assign_of_not_own r field.2 notOwn, Fields.set_eq_self there]
    have next : r.assignAll (field :: fields) = (r.assign field.1 field.2).assignAll fields := rfl
    rw [next, same, ih later]

/-! ### Supplying -/

/-- What a record has not is not among its extra attributes. -/
theorem get?_of_not_has (h : r.has name = false) : r.extra.get? name = none := by
  refine Fields.get?_eq_none ?_
  rw [has, Bool.or_eq_false_iff] at h
  exact h.2

/-- An attribute that is there is not supplied. -/
theorem supply_of_has {field : String × Value} (h : r.has field.1 = true) : r.supply field = r := by
  rw [supply, if_pos h]

/-- An attribute that is not there is supplied among the extra ones. -/
theorem supply_of_not_has {field : String × Value} (h : r.has field.1 = false) :
    r.supply field = { r with extra := r.extra.set field.1 field.2 } := by
  have notOwn : field.1 ∉ ownNames := by
    intro own
    have listed : ownNames.contains field.1 = true := List.contains_iff_mem.2 own
    rw [has, listed] at h
    cases h
  rw [supply, if_neg (by simp [h])]
  exact assign_of_not_own r field.2 notOwn

/-- A record has what it had, and what it is supplied with. -/
theorem has_supply (field : String × Value) :
    (r.supply field).has name = (r.has name || name == field.1) := by
  cases h : r.has field.1 with
  | true =>
    rw [supply_of_has h]
    by_cases same : name = field.1
    · rw [same, h, Bool.true_or]
    · rw [beq_false_of_ne same, Bool.or_false]
  | false => rw [supply, if_neg (by simp [h]), has_assign]

/-- An extra attribute after one attribute was supplied. -/
theorem get?_supply (field : String × Value) :
    (r.supply field).extra.get? name =
      if r.has name then r.extra.get? name else if name = field.1 then some field.2 else none := by
  cases h : r.has field.1 with
  | true =>
    rw [supply_of_has h]
    cases there : r.has name with
    | true => rfl
    | false =>
      have other : name ≠ field.1 := by
        rintro rfl
        rw [h] at there
        cases there
      simp only [get?_of_not_has there, if_neg other, Bool.false_eq_true, if_false]
  | false =>
    rw [supply_of_not_has h, Fields.get?_set]
    by_cases same : name = field.1
    · simp [same, h]
    · cases there : r.has name with
      | true => simp [same]
      | false => simp [same, get?_of_not_has there]

/-- A record has what it had, and all that it is supplied with. -/
theorem has_supplyAll : (fields.foldl supply r).has name = (r.has name || fields.has name) := by
  induction fields generalizing r with
  | nil => exact (Bool.or_false _).symm
  | cons field fields ih =>
    rw [List.foldl_cons, ih, has_supply, Fields.has_cons, Bool.or_assoc]

/-- An extra attribute after attributes were supplied: of a name that the record has not, the first
one counts. -/
theorem get?_supplyAll :
    (fields.foldl supply r).extra.get? name =
      if r.has name then r.extra.get? name else fields.get? name := by
  induction fields generalizing r with
  | nil =>
    cases there : r.has name with
    | true => rfl
    | false => exact get?_of_not_has there
  | cons field fields ih =>
    obtain ⟨n, v⟩ := field
    rw [List.foldl_cons, ih, has_supply, get?_supply, Fields.get?_cons]
    cases r.has name with
    | true => rfl
    | false =>
      by_cases same : name = n
      · simp [same]
      · simp [same]

/-- Supplying what is there changes nothing. -/
theorem supplyAll_eq_self (h : ∀ field ∈ fields, r.has field.1 = true) :
    fields.foldl supply r = r := by
  induction fields with
  | nil => rfl
  | cons field fields ih =>
    obtain ⟨here, later⟩ := List.forall_mem_cons.1 h
    rw [List.foldl_cons, supply_of_has here, ih later]

/-- Supplying changes extra attributes only. -/
theorem exists_supplyAll_eq : ∃ extra, fields.foldl supply r = { r with extra := extra } := by
  induction fields generalizing r with
  | nil => exact ⟨r.extra, rfl⟩
  | cons field fields ih =>
    obtain ⟨extra, rest⟩ := @ih (r.supply field)
    refine ⟨extra, ?_⟩
    rw [List.foldl_cons, rest]
    cases h : r.has field.1 with
    | true => rw [supply_of_has h]
    | false => rw [supply_of_not_has h]

end LogRecord

/-! ### Contexts -/

namespace LogContext

/-- What the request stamps a record with. -/
def requestFields (c : LogContext) : Fields :=
  requestNames.map fun name => (name, (c.request.get? name).getD .null)

/-- What the library stamps a record with. -/
def libraryFields : Fields :=
  [("sdk_name", .text libraryName), ("sdk_version", .text libraryVersion)]

/-- What the request supplies a record with. -/
def otherFields (c : LogContext) : Fields :=
  c.request.filter fun field => !requestNames.contains field.1

variable {c : LogContext} {r : LogRecord} {name : String}

/-- A record is stamped by the request, supplied by it, stamped by the library, and supplied by the
process. -/
theorem applyTo_eq (c : LogContext) (r : LogRecord) :
    c.applyTo r = c.process.foldl LogRecord.supply
      ((c.otherFields.foldl LogRecord.supply (r.assignAll c.requestFields)).assignAll
        libraryFields) := rfl

/-- The names of what the request stamps a record with. -/
theorem map_fst_requestFields (c : LogContext) : c.requestFields.map Prod.fst = requestNames := rfl

/-- What the request stamps a record with is none of the record's own attributes. -/
theorem not_own_requestFields : ∀ field ∈ c.requestFields, field.1 ∉ LogRecord.ownNames := by
  intro field hfield
  have mem : field.1 ∈ requestNames := by
    rw [← map_fst_requestFields c]
    exact List.mem_map_of_mem hfield
  have apart : ∀ name ∈ requestNames, name ∉ LogRecord.ownNames := by decide
  exact apart field.1 mem

/-- What the library stamps a record with is none of the record's own attributes. -/
theorem not_own_libraryFields : ∀ field ∈ libraryFields, field.1 ∉ LogRecord.ownNames := by
  intro field hfield
  simp only [libraryFields, List.mem_cons, List.not_mem_nil, or_false] at hfield
  rcases hfield with rfl | rfl <;> decide

/-- What the request supplies, apart from what it stamps. -/
theorem get?_otherFields (h : name ∉ requestNames) :
    c.otherFields.get? name = c.request.get? name := by
  have chosen : (!requestNames.contains name) = true := by simpa using h
  exact (Fields.get?_filter_name fun name => !requestNames.contains name).trans (if_pos chosen)

/-- **The attributes of a record in its contexts**: what the library and the request stamp it with,
then what it has, then what the request has, and then what the process has. -/
theorem get?_applyTo (c : LogContext) (r : LogRecord) (name : String) :
    (c.applyTo r).extra.get? name =
      (libraryFields.get? name).or ((c.requestFields.get? name).or
        (if r.has name then r.extra.get? name
          else (c.request.get? name).or (c.process.get? name))) := by
  have stamped {fields : Fields} {v : Value} (h : fields.get? name = some v) :
      fields.has name = true := by
    rw [← Fields.isSome_get?, h]
    rfl
  have unstamped {fields : Fields} (h : fields.get? name = none) : fields.has name = false := by
    rw [← Fields.isSome_get?, h]
    rfl
  have library (r : LogRecord) : (r.assignAll libraryFields).extra.get? name
      = (libraryFields.get? name).or (r.extra.get? name) :=
    LogRecord.get?_assignAll not_own_libraryFields (by decide)
  have request (r : LogRecord) : (r.assignAll c.requestFields).extra.get? name
      = (c.requestFields.get? name).or (r.extra.get? name) :=
    LogRecord.get?_assignAll not_own_requestFields (by rw [map_fst_requestFields]; decide)
  rw [applyTo_eq, LogRecord.get?_supplyAll, LogRecord.has_assignAll, library,
    LogRecord.has_supplyAll, LogRecord.get?_supplyAll, LogRecord.has_assignAll, request]
  cases lib : libraryFields.get? name with
  | some v => simp [stamped lib]
  | none =>
    cases req : c.requestFields.get? name with
    | some v => simp [stamped req]
    | none =>
      have other : name ∉ requestNames := by
        intro mem
        rw [← map_fst_requestFields c, ← Fields.has_iff_mem, unstamped req] at mem
        cases mem
      rw [get?_otherFields other]
      -- nothing stamps the name: what decides is whether the record has it, then the request
      cases there : r.has name with
      | true => simp
      | false =>
        cases given : c.request.get? name with
        | some v =>
          have supplied := stamped ((get?_otherFields other).trans given)
          simp [supplied, unstamped req]
        | none =>
          have absent := unstamped ((get?_otherFields other).trans given)
          simp [absent, unstamped lib, unstamped req]

/-- A record in its contexts has what it had, and all that it is stamped and supplied with. -/
theorem has_applyTo (c : LogContext) (r : LogRecord) (name : String) :
    (c.applyTo r).has name = (r.has name || c.requestFields.has name || c.otherFields.has name
      || libraryFields.has name || c.process.has name) := by
  rw [applyTo_eq, LogRecord.has_supplyAll, LogRecord.has_assignAll, LogRecord.has_supplyAll,
    LogRecord.has_assignAll]

/-- Contexts change extra attributes only. -/
theorem exists_applyTo_eq (c : LogContext) (r : LogRecord) :
    ∃ extra, c.applyTo r = { r with extra := extra } := by
  rw [applyTo_eq, LogRecord.assignAll_of_not_own not_own_requestFields,
    LogRecord.assignAll_of_not_own not_own_libraryFields]
  obtain ⟨first, supplied⟩ := @LogRecord.exists_supplyAll_eq
    { r with extra := r.extra.update c.requestFields } c.otherFields
  rw [supplied]
  obtain ⟨last, supplied⟩ := @LogRecord.exists_supplyAll_eq
    { r with extra := first.update libraryFields } c.process
  exact ⟨last, supplied⟩

/-- **A second time changes nothing.**  Everything that a record is stamped with is there, with the
same value, and everything that it is supplied with is there. -/
theorem applyTo_applyTo (c : LogContext) (r : LogRecord) :
    c.applyTo (c.applyTo r) = c.applyTo r := by
  have request : (c.applyTo r).assignAll c.requestFields = c.applyTo r := by
    refine LogRecord.assignAll_eq_self fun field hfield => ⟨not_own_requestFields field hfield, ?_⟩
    rw [get?_applyTo]
    obtain ⟨name, hname, rfl⟩ := List.mem_map.1 hfield
    simp only [requestNames, List.mem_cons, List.not_mem_nil, or_false] at hname
    rcases hname with rfl | rfl <;> rfl
  have library : (c.applyTo r).assignAll libraryFields = c.applyTo r := by
    refine LogRecord.assignAll_eq_self fun field hfield => ⟨not_own_libraryFields field hfield, ?_⟩
    rw [get?_applyTo]
    simp only [libraryFields, List.mem_cons, List.not_mem_nil, or_false] at hfield
    rcases hfield with rfl | rfl <;> rfl
  have others : c.otherFields.foldl LogRecord.supply (c.applyTo r) = c.applyTo r := by
    refine LogRecord.supplyAll_eq_self fun field hfield => ?_
    have named : c.otherFields.has field.1 = true :=
      Fields.has_iff_mem.2 (List.mem_map_of_mem hfield)
    simp [has_applyTo, named]
  have process : c.process.foldl LogRecord.supply (c.applyTo r) = c.applyTo r := by
    refine LogRecord.supplyAll_eq_self fun field hfield => ?_
    have named : c.process.has field.1 = true :=
      Fields.has_iff_mem.2 (List.mem_map_of_mem hfield)
    simp [has_applyTo, named]
  rw [applyTo_eq c (c.applyTo r), request, others, library, process]

end LogContext

end QueryChain
