import QueryChain.Engine.Pool
import QueryChain.Proofs.Chain.Payload

/-!
# Rows of a driver

What a statement produced is collected as mappings while its transaction is open, and handed on as a
driver result when the transaction has ended.  Rows with texts for keys pass from the one to the
other as they are.

## Main definitions

* `Produced.Yields` — the rows that a statement produced, as mappings.
* `Produced.Keyed` — the mappings among the rows have texts for keys.

## Main results

* `Pool.collect_eq_ok` — what is collected is what a statement produced.
* `DriverResult.ofRows_of_keyed` — rows that were collected pass into a driver result as they are.
-/

set_option relaxedAutoImplicit false
set_option autoImplicit false

namespace QueryChain

/-- The rows that a statement produced, as mappings; a statement that counts the rows it touched
produced none. -/
def Produced.Yields (produced : Produced) (rows : List Value) : Prop :=
  match produced with
  | .rows given => ∃ xs : List Value, given.elements = .ok xs
      ∧ xs.map (fun x => x.entries.map Value.map) = rows.map .ok
  | .count _ => rows = []

/-- Entries of a mapping under texts. -/
def Value.Entries.Keyed (entries : Value.Entries) : Prop :=
  entries.Distinct ∧ ∀ entry ∈ entries, ∃ name, entry.1 = .text name

/-- The mappings among the rows that a statement produced have texts for keys. -/
def Produced.Keyed (produced : Produced) : Prop :=
  match produced with
  | .rows given => ∀ xs : List Value, given.elements = .ok xs →
      ∀ x ∈ xs, ∀ entries, x.entries = .ok entries → entries.Keyed
  | .count _ => True

/-- Entries under texts are fields of different names. -/
theorem Value.Entries.Keyed.exists_fields {entries : Value.Entries} (h : entries.Keyed) :
    ∃ fields : Fields, .map entries = fields.toValue ∧ (fields.map Prod.fst).Nodup := by
  have named : ∃ fields : Fields, entries = fields.map fun field => (.text field.1, field.2) := by
    obtain ⟨-, texts⟩ := h
    induction entries with
    | nil => exact ⟨[], rfl⟩
    | cons entry entries ih =>
      obtain ⟨⟨name, e⟩, rest⟩ := List.forall_mem_cons.1 texts
      obtain ⟨fields, rfl⟩ := ih rest
      refine ⟨(name, entry.2) :: fields, ?_⟩
      rw [List.map_cons, ← e]
  obtain ⟨fields, rfl⟩ := named
  exact ⟨fields, rfl, Value.Entries.Distinct.nodup_names h.1⟩

/-- Steps over a list succeed together when each of them does. -/
theorem mapM_eq_ok_iff {ε α β : Type} {f : α → Except ε β} {xs : List α} {ys : List β} :
    xs.mapM f = .ok ys ↔ xs.map f = ys.map .ok := by
  induction xs generalizing ys with
  | nil => cases ys <;> simp [List.mapM_nil, pure, Except.pure]
  | cons x xs ih =>
    rw [List.mapM_cons, bind_eq_ok]
    constructor
    · rintro ⟨y, hy, rest⟩
      obtain ⟨zs, hzs, e⟩ := bind_eq_ok.1 rest
      cases e
      rw [List.map_cons, List.map_cons, hy, ih.1 hzs]
    · intro h
      cases ys with
      | nil => cases h
      | cons y ys =>
        obtain ⟨hy, hys⟩ := List.cons.inj h
        exact ⟨y, hy, bind_eq_ok.2 ⟨ys, ih.2 hys, rfl⟩⟩

/-- What is collected is what a statement produced. -/
theorem Pool.collect_eq_ok {produced : Produced} {rows : List Value} {count : Int}
    (h : collect produced = .ok (rows, count)) : produced.Yields rows := by
  cases produced with
  | count n =>
    cases h
    rfl
  | rows given =>
    obtain ⟨xs, elements, h⟩ := bind_eq_ok.1 (mapError_eq_ok.1 h)
    obtain ⟨maps, each, e⟩ := bind_eq_ok.1 h
    cases e
    exact ⟨xs, elements, mapM_eq_ok_iff.1 each⟩

/-- Rows that texts are the keys of are those of fields of different names. -/
theorem Produced.Keyed.exists_fields {produced : Produced} (keyed : produced.Keyed)
    {rows : List Value} (yields : produced.Yields rows) :
    ∃ fields : List Fields, rows = fields.map Fields.toValue
      ∧ ∀ row ∈ fields, (row.map Prod.fst).Nodup := by
  cases produced with
  | count n =>
    obtain rfl : rows = [] := yields
    exact ⟨[], rfl, fun row hrow => by cases hrow⟩
  | rows given =>
    obtain ⟨xs, elements, each⟩ := yields
    have keyed := keyed xs elements
    clear elements
    induction rows generalizing xs with
    | nil => exact ⟨[], rfl, fun row hrow => by cases hrow⟩
    | cons row rows ih =>
      cases xs with
      | nil => cases each
      | cons x xs =>
        obtain ⟨first, rest⟩ := List.cons.inj each
        obtain ⟨here, later⟩ := List.forall_mem_cons.1 keyed
        obtain ⟨fields, rfl, names⟩ := ih xs rest later
        obtain ⟨entries, found, rfl⟩ := map_eq_ok.1 first
        obtain ⟨field, e, nodup⟩ := (here entries found).exists_fields
        exact ⟨field :: fields, by rw [List.map_cons, e], List.forall_mem_cons.2 ⟨nodup, names⟩⟩

/-- Rows that were collected pass into a driver result as they are. -/
theorem DriverResult.ofRows_of_keyed {produced : Produced} (keyed : produced.Keyed)
    {rows : List Value} (yields : produced.Yields rows) (count : Int) :
    ∃ result, ofRows (.list rows) (some (.int count)) = .ok result ∧ result.rowValues = rows := by
  obtain ⟨fields, rfl, names⟩ := keyed.exists_fields yields
  have each : (fields.map Fields.toValue).map Reader.fields = fields.map .ok := by
    rw [List.map_map]
    exact List.map_congr_left fun row hrow => Fields.read_toValue (names row hrow)
  have read : readRowList (.list (fields.map Fields.toValue)) = .ok fields :=
    Checked.all_numbered_eq_ok_iff.2 each
  have rowsRead (v n : Value) :
      Reader.optional [("rows", v), ("row_count", n)] "rows" [] readRowList
        = (readRowList v).under (.name "rows") := rfl
  have countRead (v : Value) :
      Reader.optional [("rows", v), ("row_count", .int count)] "row_count" 0 Reader.int
        = .ok count := rfl
  refine ⟨⟨fields, count⟩, ?_, rfl⟩
  simp only [ofRows, ofFields, rowsRead, countRead, Checked.under_eq_ok.2 read]
  rfl

end QueryChain
