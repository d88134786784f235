import Mathlib.Data.List.Perm.Subperm
import QueryChain.Value.Basic

/-!
# Fields by name

Fields of different names can be written one by one into no fields without any change, and a row
whose names are among those of another one of the same size has all of them.  Reading follows what
is written.

## Main results

* `Fields.get?_set`, `Fields.get?_update` — what is read after fields were written.
* `Fields.nodup_set`, `Fields.nodup_update` — writing keeps the names different.
* `Fields.update_eq_append` — where fields that are written into others stand.
* `Fields.update_nil_of_nodup` — fields of different names are what writing them one by one gives.
* `Fields.mem_names_of_subset` — rows of the same size with included names have the same names.
* `Fields.exists_values_of_has` — a row that has given columns has values under all of them.
-/

set_option relaxedAutoImplicit false
set_option autoImplicit false

namespace QueryChain.Fields

variable {fields more row first : Fields} {name : String}

/-- A field of a name is there when the name is one of the names. -/
theorem has_iff_mem : fields.has name = true ↔ name ∈ fields.map Prod.fst := by
  rw [has, List.any_eq_true, List.mem_map]
  refine exists_congr fun field => and_congr_right fun _ => ?_
  rw [beq_iff_eq]

/-- A field has a value when it is there. -/
theorem isSome_get? : (fields.get? name).isSome = fields.has name := by
  rw [Bool.eq_iff_iff, get?, List.lookup_isSome_iff, has, List.any_eq_true]
  refine exists_congr fun field => and_congr_right fun _ => ?_
  rw [beq_iff_eq, beq_iff_eq, eq_comm]

/-- A field that is not there has no value. -/
theorem get?_eq_none (h : fields.has name = false) : fields.get? name = none := by
  rw [← Option.not_isSome_iff_eq_none, isSome_get?, h]
  exact Bool.false_ne_true

/-- A name that is none of the names has no value. -/
theorem get?_of_notMem (h : name ∉ fields.map Prod.fst) : fields.get? name = none :=
  get?_eq_none (Bool.eq_false_iff.2 fun present => h (has_iff_mem.1 present))

/-- A name is there when it is that of the first field or of a later one. -/
theorem has_cons (field : String × Value) (fields : Fields) :
    has (field :: fields) name = (name == field.1 || fields.has name) := by
  rw [has, List.any_cons, Bool.beq_comm]
  rfl

/-- The value of a name is that of the first field of the name. -/
theorem get?_cons (n : String) (v : Value) (fields : Fields) :
    get? ((n, v) :: fields) name = if name = n then some v else fields.get? name := by
  by_cases same : name = n
  · subst same
    simp [get?]
  · have other : (name == n) = false := beq_false_of_ne same
    simp [get?, List.lookup_cons, other, same]

/-- Reading after one field was written. -/
theorem get?_set (n : String) (v : Value) :
    (fields.set n v).get? name = if name = n then some v else fields.get? name := by
  split
  · rename_i same
    rw [same]
    exact get?_set_self fields n v
  · rename_i other
    exact get?_set_of_ne fields v other

/-- Reading after fields of different names were written. -/
theorem get?_update (names : (more.map Prod.fst).Nodup) :
    (fields.update more).get? name = (more.get? name).or (fields.get? name) := by
  induction more generalizing fields with
  | nil => rfl
  | cons field more ih =>
    obtain ⟨n, v⟩ := field
    obtain ⟨new, names⟩ := List.nodup_cons.1 names
    have written : (fields.update ((n, v) :: more)).get? name
        = (get? more name).or ((fields.set n v).get? name) := ih names
    rw [written, get?_set, get?_cons]
    by_cases same : name = n
    · have absent : get? more name = none := get?_of_notMem (same ▸ new)
      rw [if_pos same, if_pos same, absent]
      rfl
    · rw [if_neg same, if_neg same]

/-- Writing the value that is there changes nothing. -/
theorem set_eq_self {v : Value} (h : fields.get? name = some v) : fields.set name v = fields := by
  induction fields with
  | nil => cases h
  | cons field fields ih =>
    obtain ⟨n, x⟩ := field
    rw [get?_cons] at h
    by_cases same : name = n
    · rw [if_pos same] at h
      rw [set, if_pos same.symm, ← same, Option.some.inj h]
    · rw [if_neg same] at h
      rw [set, if_neg (Ne.symm same), ih h]

/-- Fields that are chosen by their names have the values they had. -/
theorem get?_filter_name (p : String → Bool) :
    get? (fields.filter fun field => p field.1) name
      = if p name then fields.get? name else none := by
  induction fields with
  | nil => simp [get?]
  | cons field fields ih =>
    obtain ⟨n, x⟩ := field
    rw [List.filter_cons, get?_cons]
    by_cases same : name = n
    · subst same
      split
      · rw [get?_cons, if_pos rfl, if_pos rfl]
      · rename_i left
        rw [ih, if_neg left]
    · rw [if_neg same, ← ih]
      split
      · rw [get?_cons, if_neg same]
      · rfl

/-- Fields that are chosen by their values, among fields of different names. -/
theorem get?_filter_value {p : Value → Bool} (names : (fields.map Prod.fst).Nodup) :
    get? (fields.filter fun field => p field.2) name = (fields.get? name).filter p := by
  induction fields with
  | nil => rfl
  | cons field fields ih =>
    obtain ⟨n, x⟩ := field
    obtain ⟨new, names⟩ := List.nodup_cons.1 names
    rw [List.filter_cons, get?_cons]
    by_cases same : name = n
    · have absent : get? fields name = none := get?_of_notMem (same ▸ new)
      rw [if_pos same]
      cases kept : p x with
      | true => simp [get?_cons, same, kept, Option.filter]
      | false => simp [ih names, absent, kept, Option.filter]
    · rw [if_neg same, ← ih names]
      split
      · rw [get?_cons, if_neg same]
      · rfl

/-- Fields that are taken under given names have the values they had. -/
theorem get?_filterMap (names : List String) :
    get? (names.filterMap fun n => (fields.get? n).map fun v => (n, v)) name
      = if name ∈ names then fields.get? name else none := by
  induction names with
  | nil => rfl
  | cons n names ih =>
    rw [List.filterMap_cons]
    cases found : fields.get? n with
    | none =>
      by_cases same : name = n
      · subst same
        simp only [Option.map_none, ih, found, ite_self]
      · simp [ih, same]
    | some v =>
      by_cases same : name = n
      · simp [get?_cons, same, found]
      · simp [get?_cons, ih, same]

/-- Fields that are taken under different names have different names. -/
theorem nodup_filterMap {names : List String} (h : names.Nodup) :
    ((names.filterMap fun n => (fields.get? n).map fun v => (n, v)).map Prod.fst).Nodup := by
  have taken : (names.filterMap fun n => (fields.get? n).map fun v => (n, v)).map Prod.fst
      = names.filter fun n => (fields.get? n).isSome := by
    induction names with
    | nil => rfl
    | cons n names ih =>
      have later := ih (List.nodup_cons.1 h).2
      cases found : fields.get? n <;> simp [found, later]
  rw [taken]
  exact h.filter _

/-- A row that has given columns has values under all of them. -/
theorem exists_values_of_has {columns : List String} (h : ∀ name ∈ columns, row.has name = true) :
    ∃ vs : List Value, columns.map row.get? = vs.map some := by
  refine ⟨columns.map fun name => (row.get? name).getD .null, ?_⟩
  rw [List.map_map]
  refine List.map_congr_left fun name hname => ?_
  have found : (row.get? name).isSome = true := isSome_get?.trans (h name hname)
  obtain ⟨v, hv⟩ := Option.isSome_iff_exists.1 found
  rw [hv]
  simp [hv]

/-- If the names of a row are different and all of them names of another one that is not larger,
then it has all names of the other. -/
theorem mem_names_of_subset (names : (row.map Prod.fst).Nodup)
    (subset : ∀ name ∈ row.map Prod.fst, first.has name = true) (size : first.length ≤ row.length)
    (h : name ∈ first.map Prod.fst) : row.has name = true := by
  have included : row.map Prod.fst ⊆ first.map Prod.fst := fun n hn => has_iff_mem.1 (subset n hn)
  have perm := (List.subperm_of_subset names included).perm_of_length_le (by simpa using size)
  exact has_iff_mem.2 (perm.mem_iff.2 h)

/-- A new name goes to the end. -/
theorem set_of_notMem (h : name ∉ fields.map Prod.fst) (v : Value) :
    fields.set name v = fields ++ [(name, v)] := by
  induction fields with
  | nil => rfl
  | cons field fields ih =>
    rw [List.map_cons, List.mem_cons, not_or] at h
    rw [set, if_neg (Ne.symm h.1), ih h.2, List.cons_append]

/-- Fields of new and different names go to the end, in their order. -/
theorem update_of_nodup (h : ((fields ++ more).map Prod.fst).Nodup) :
    fields.update more = fields ++ more := by
  induction more generalizing fields with
  | nil => simp [update]
  | cons field more ih =>
    obtain ⟨name, v⟩ := field
    have new : name ∉ fields.map Prod.fst := fun old => by
      rw [List.map_append, List.nodup_append] at h
      exact h.2.2 name old name (by simp) rfl
    have regrouped : fields ++ (name, v) :: more = fields ++ [(name, v)] ++ more := by simp
    rw [regrouped] at h ⊢
    rw [← ih h, ← set_of_notMem new]
    rfl

/-- Fields of different names are what writing them one by one gives. -/
theorem update_nil_of_nodup (h : (fields.map Prod.fst).Nodup) : update [] fields = fields := by
  have new : update [] fields = [] ++ fields := update_of_nodup h
  rwa [List.nil_append] at new

/-! ### Places of written fields -/

/-- The names after writing one field. -/
theorem map_fst_set {v : Value} : (fields.set name v).map Prod.fst
    = if fields.has name = true then fields.map Prod.fst else fields.map Prod.fst ++ [name] := by
  induction fields with
  | nil => rfl
  | cons field fields ih =>
    obtain ⟨n, x⟩ := field
    by_cases same : n = name
    · simp [set, has, same]
    · have other : has ((n, x) :: fields) name = has fields name := by simp [has, same]
      rw [set, if_neg same, List.map_cons, ih, other]
      split <;> rfl

/-- Writing one field keeps the names different. -/
theorem nodup_set {v : Value} (h : (fields.map Prod.fst).Nodup) :
    ((fields.set name v).map Prod.fst).Nodup := by
  rw [map_fst_set]
  split
  · exact h
  · rename_i absent
    rw [has_iff_mem] at absent
    exact List.nodup_append.2 ⟨h, by simp, fun n hn m hm => by
      rw [List.mem_singleton.1 hm]
      exact fun same => absent (same ▸ hn)⟩

/-- Writing fields one by one keeps the names different. -/
theorem nodup_update (h : (fields.map Prod.fst).Nodup) :
    ((fields.update more).map Prod.fst).Nodup := by
  induction more generalizing fields with
  | nil => exact h
  | cons field more ih => exact ih (nodup_set h)

/-- Writing fields one by one adds their names, and takes none away. -/
theorem has_update : (fields.update more).has name = (fields.has name || more.has name) := by
  induction more generalizing fields with
  | nil => exact (Bool.or_false _).symm
  | cons field more ih =>
    have next : fields.update (field :: more) = (fields.set field.1 field.2).update more := rfl
    rw [next, ih, has_set, has_cons, Bool.or_assoc]

/-- Writing a name that is there changes the value in its place. -/
theorem set_of_has (names : (fields.map Prod.fst).Nodup) (h : fields.has name = true) (v : Value) :
    fields.set name v
      = fields.map fun field => (field.1, if field.1 = name then v else field.2) := by
  induction fields with
  | nil => cases h
  | cons field fields ih =>
    obtain ⟨n, x⟩ := field
    obtain ⟨new, names⟩ := List.nodup_cons.1 names
    by_cases same : n = name
    · subst same
      have others :
          fields = fields.map fun field => (field.1, if field.1 = n then v else field.2) := by
        refine (List.map_id fields).symm.trans (List.map_congr_left fun field hfield => ?_)
        have other : field.1 ≠ n := fun e => new (List.mem_map.2 ⟨field, hfield, e⟩)
        rw [if_neg other, id]
      rw [set, if_pos rfl, List.map_cons, if_pos rfl, ← others]
    · have later : has fields name = true := by
        rw [has_cons, beq_false_of_ne (Ne.symm same), Bool.false_or] at h
        exact h
      rw [set, if_neg same, ih names later, List.map_cons, if_neg same]

/-- **Fields written into others of different names.**  Those whose name is there take the place of
the one that is there, and the others go to the end, in their order.

**Proof sketch.**  Induction on the fields that are written.  The first one either changes a value
in its place or goes to the end, and none of the later ones has its name. -/
theorem update_eq_append (names : (fields.map Prod.fst).Nodup) (new : (more.map Prod.fst).Nodup) :
    fields.update more = (fields.map fun field => (field.1, (more.get? field.1).getD field.2))
      ++ more.filter fun field => !fields.has field.1 := by
  induction more generalizing fields with
  | nil => simp [update, get?]
  | cons field more ih =>
    obtain ⟨n, v⟩ := field
    obtain ⟨fresh, new⟩ := List.nodup_cons.1 new
    have absent : get? more n = none := get?_of_notMem fresh
    have next : fields.update ((n, v) :: more) = (fields.set n v).update more := rfl
    have later : (more.filter fun field => !(fields.set n v).has field.1)
        = more.filter fun field => !fields.has field.1 := by
      refine List.filter_congr fun field hfield => ?_
      have other : field.1 ≠ n := fun e => fresh (List.mem_map.2 ⟨field, hfield, e⟩)
      rw [has_set, beq_false_of_ne other, Bool.or_false]
    rw [next, ih (nodup_set names) new, later, List.filter_cons]
    cases there : fields.has n with
    | true =>
      rw [set_of_has names there, List.map_map, Bool.not_true, if_neg Bool.false_ne_true]
      congr 1
      refine List.map_congr_left fun field _ => ?_
      rw [Function.comp_apply, get?_cons]
      by_cases same : field.1 = n
      · simp [same, absent]
      · simp [same]
    | false =>
      have unwritten : n ∉ fields.map Prod.fst := fun mem => by
        rw [has_iff_mem.2 mem] at there
        cases there
      rw [set_of_notMem unwritten, List.map_append, Bool.not_false, if_pos rfl, List.append_assoc]
      congr 1
      · refine List.map_congr_left fun field hfield => ?_
        have other : field.1 ≠ n := fun e => unwritten (List.mem_map.2 ⟨field, hfield, e⟩)
        rw [get?_cons, if_neg other]
      · simp [absent]

/-- A name that does not stand in front is written behind. -/
theorem set_append_of_notMem (h : name ∉ first.map Prod.fst) (v : Value) :
    set (first ++ fields) name v = first ++ fields.set name v := by
  induction first with
  | nil => rfl
  | cons field first ih =>
    rw [List.map_cons, List.mem_cons, not_or] at h
    rw [List.cons_append, set, if_neg (Ne.symm h.1), ih h.2, List.cons_append]

/-- Names that do not stand in front are written behind. -/
theorem update_append_of_notMem (h : ∀ field ∈ more, field.1 ∉ first.map Prod.fst) :
    update (first ++ fields) more = first ++ fields.update more := by
  induction more generalizing fields with
  | nil => rfl
  | cons field more ih =>
    obtain ⟨here, later⟩ := List.forall_mem_cons.1 h
    have next (fields : Fields) :
        fields.update (field :: more) = (fields.set field.1 field.2).update more := rfl
    rw [next, set_append_of_notMem here, ih later, next]

end QueryChain.Fields
