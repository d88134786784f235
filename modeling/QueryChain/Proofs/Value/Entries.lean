import QueryChain.Value.Basic

/-!
# Entries of mappings

Writing one key after the other keeps the keys of a mapping distinct, and distinct entries can be
written one by one into no entries without any change.

## Main definitions

* `Value.Entries.Distinct` — no two entries of a mapping have the same key.
* `Value.Entries.named` — the entries under texts, as fields.

## Main results

* `Value.Entries.distinct_ofList` — the entries of every mapping that is written one by one.
* `Value.Entries.ofList_of_distinct` — distinct entries are what writing them one by one gives.
-/

set_option relaxedAutoImplicit false
set_option autoImplicit false

namespace QueryChain.Value.Entries

/-- No two entries of a mapping have the same key. -/
def Distinct (entries : Entries) : Prop :=
  (entries.map Prod.fst).Pairwise fun key other => key.sameKey other = false

/-- The entries under texts, as fields. -/
def named (entries : Entries) : Fields :=
  entries.filterMap fun entry => entry.1.text?.map fun name => (name, entry.2)

/-- Writing one entry leaves the keys as they are, or puts a key behind them that differs from all
of them. -/
theorem keys_set (entries : Entries) (key value : Value) :
    (entries.set key value).map Prod.fst = entries.map Prod.fst
      ∨ (entries.set key value).map Prod.fst = entries.map Prod.fst ++ [key]
        ∧ ∀ k ∈ entries.map Prod.fst, k.sameKey key = false := by
  induction entries with
  | nil => exact .inr ⟨rfl, fun k hk => by cases hk⟩
  | cons entry rest ih =>
    obtain ⟨k, v⟩ := entry
    by_cases same : k.sameKey key = true
    · refine .inl ?_
      rw [Entries.set, if_pos same]
      rfl
    · rw [Entries.set, if_neg same, List.map_cons, List.map_cons]
      rcases ih with kept | ⟨added, new⟩
      · exact .inl (by rw [kept])
      · refine .inr ⟨by rw [added, List.cons_append], fun other hother => ?_⟩
        rcases List.mem_cons.1 hother with rfl | hother
        · simpa using same
        · exact new other hother

/-- Writing one entry keeps the keys distinct. -/
theorem Distinct.set {entries : Entries} (h : Distinct entries) (key value : Value) :
    Distinct (entries.set key value) := by
  unfold Distinct
  rcases keys_set entries key value with kept | ⟨added, new⟩
  · rw [kept]
    exact h
  · rw [added]
    refine List.pairwise_append.2 ⟨h, List.pairwise_singleton _ _, fun k hk other hother => ?_⟩
    rw [List.mem_singleton.1 hother]
    exact new k hk

/-- The entries of every mapping that is written one by one are distinct. -/
theorem distinct_ofList (entries : List (Value × Value)) : Distinct (ofList entries) := by
  have run (acc : Entries) (h : Distinct acc) (entries : List (Value × Value)) :
      Distinct (entries.foldl (fun acc entry => acc.set entry.1 entry.2) acc) := by
    induction entries generalizing acc with
    | nil => exact h
    | cons entry entries ih => exact ih _ (h.set entry.1 entry.2)
  exact run [] List.Pairwise.nil entries

/-- A new key goes to the end. -/
theorem set_of_new {entries : Entries} {key : Value} (value : Value)
    (new : ∀ k ∈ entries.map Prod.fst, k.sameKey key = false) :
    entries.set key value = entries ++ [(key, value)] := by
  induction entries with
  | nil => rfl
  | cons entry rest ih =>
    obtain ⟨differs, new⟩ := List.forall_mem_cons.1 new
    rw [Entries.set, if_neg (Bool.eq_false_iff.1 differs), ih new, List.cons_append]

/-- Distinct entries are what writing them one by one gives. -/
theorem ofList_of_distinct {entries : Entries} (h : Distinct entries) :
    ofList entries = entries := by
  have run (acc entries : Entries) (h : Distinct (acc ++ entries)) :
      entries.foldl (fun acc entry => acc.set entry.1 entry.2) acc = acc ++ entries := by
    induction entries generalizing acc with
    | nil => exact (List.append_nil acc).symm
    | cons entry entries ih =>
      have across : ∀ k ∈ acc.map Prod.fst, ∀ other ∈ (entry :: entries).map Prod.fst,
          k.sameKey other = false := by
        rw [Distinct, List.map_append, List.pairwise_append] at h
        exact h.2.2
      have put : acc.set entry.1 entry.2 = acc ++ [entry] :=
        set_of_new entry.2 fun k hk => across k hk entry.1 List.mem_cons_self
      have next : Distinct ((acc ++ [entry]) ++ entries) := by
        rwa [List.append_assoc, List.singleton_append]
      rw [List.foldl_cons, put, ih _ next, List.append_assoc, List.singleton_append]
  exact run [] entries h

/-- Entries under texts are the fields that they were made from. -/
theorem named_of_fields (fields : Fields) :
    named (fields.map fun field => (.text field.1, field.2)) = fields := by
  rw [named, List.filterMap_map]
  exact List.filterMap_some

/-- Distinct entries under texts have different names. -/
theorem Distinct.nodup_names {fields : Fields}
    (h : Distinct (fields.map fun field => (.text field.1, field.2))) :
    (fields.map Prod.fst).Nodup := by
  rw [Distinct, List.map_map, List.pairwise_map] at h
  rw [List.Nodup, List.pairwise_map]
  refine h.imp fun {field other} different same => ?_
  have equal : (Value.text field.1).sameKey (.text other.1) = (field.1 == other.1) := by
    simp [sameKey, sameAtom]
  have different : (Value.text field.1).sameKey (.text other.1) = false := different
  rw [equal, same] at different
  simp at different

end QueryChain.Value.Entries
