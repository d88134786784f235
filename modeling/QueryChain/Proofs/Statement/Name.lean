import QueryChain.Statement.Render

/-!
# What the checks of names accept

Every check of a text answers the text itself or fails.  Here is what each of them asks, and which
characters can stand in a text that passes.

## Main results

* `NameRules.checkPlain_eq_ok_iff`, `checkColumn_eq_ok_iff`, `checkColumnList_eq_ok_iff` — when a
  text passes, and that it is left as it is.
* `NameRules.checkNames_eq_ok_iff`, `rowValues_eq_ok_iff` — the same for lists of names and rows.
* `Name.mem_of_isPlain`, `Name.mem_of_isColumn` — the characters of names.
-/

set_option relaxedAutoImplicit false
set_option autoImplicit false

namespace QueryChain

/-! ### Outcomes of checks -/

section Outcome

variable {ε δ α β : Type}

/-- Two steps succeed exactly when each does. -/
theorem bind_eq_ok {x : Except ε α} {f : α → Except ε β} {b : β} :
    (x >>= f) = .ok b ↔ ∃ a, x = .ok a ∧ f a = .ok b := by
  cases x <;> simp [Bind.bind, Except.bind]

/-- A step without a result, and another one. -/
theorem unit_bind_eq_ok {x : Except ε Unit} {y : Except ε β} {b : β} :
    (x >>= fun _ => y) = .ok b ↔ x = .ok () ∧ y = .ok b := by
  cases x <;> simp [Bind.bind, Except.bind]

/-- A mapped outcome is a success exactly when the outcome is. -/
theorem map_eq_ok {x : Except ε α} {f : α → β} {b : β} :
    x.map f = .ok b ↔ ∃ a, x = .ok a ∧ f a = b := by
  cases x <;> simp [Except.map]

/-- Replacing the error leaves a success alone. -/
theorem mapError_eq_ok {x : Except ε α} {f : ε → δ} {a : α} :
    x.mapError f = .ok a ↔ x = .ok a := by
  constructor
  · intro h
    cases x <;> cases h
    rfl
  · rintro rfl
    rfl

end Outcome

/-! ### Characters of names -/

namespace Name

/-- A text whose characters are all of a kind has none of another. -/
theorem notMem_of_all {p : Char → Bool} {cs : List Char} (h : cs.all p = true) {c : Char}
    (other : p c = false) : c ∉ cs := fun mem => by
  rw [List.all_eq_true.1 h c mem] at other
  cases other

/-- Every character of a list is the separator or lies in a piece. -/
theorem mem_splitAtChar {sep c : Char} {cs : List Char} (h : c ∈ cs) :
    c = sep ∨ ∃ piece ∈ Text.splitAtChar sep cs, c ∈ piece := by
  induction cs with
  | nil => cases h
  | cons d rest ih =>
    by_cases hd : d = sep
    · rcases List.mem_cons.1 h with rfl | h
      · exact .inl hd
      · refine (ih h).imp id fun ⟨piece, hp, hc⟩ => ⟨piece, ?_, hc⟩
        simp [Text.splitAtChar, hd, hp]
    · cases hs : Text.splitAtChar sep rest with
      | nil => exact absurd hs (Text.splitAtChar_ne_nil sep rest)
      | cons first pieces =>
        simp only [Text.splitAtChar, if_neg hd, hs]
        rcases List.mem_cons.1 h with rfl | h
        · exact .inr ⟨_, List.mem_cons_self, List.mem_cons_self⟩
        refine (ih h).imp id fun ⟨piece, hp, hc⟩ => ?_
        rw [hs] at hp
        rcases List.mem_cons.1 hp with rfl | hp
        · exact ⟨_, List.mem_cons_self, List.mem_cons_of_mem _ hc⟩
        · exact ⟨piece, List.mem_cons_of_mem _ hp, hc⟩

/-- Only a line break can be lost in front of the end of a text. -/
theorem mem_withoutFinalNewline {c : Char} {cs : List Char} (h : c ∈ cs) :
    c = '\n' ∨ c ∈ withoutFinalNewline cs := by
  unfold withoutFinalNewline
  split
  · rename_i last
    obtain ⟨front, rfl⟩ := List.getLast?_eq_some_iff.1 last
    rw [List.dropLast_concat]
    rcases List.mem_append.1 h with h | h
    · exact .inr h
    · exact .inl (List.mem_singleton.1 h)
  · exact .inr h

/-- The characters of a plain name. -/
theorem mem_of_isPlain {c : Char} {cs : List Char} (h : isPlain (withoutFinalNewline cs) = true)
    (hc : c ∈ cs) : c = '\n' ∨ isPart c = true :=
  (mem_withoutFinalNewline hc).imp id (isPart_of_mem h)

/-- The characters of a column. -/
theorem mem_of_isColumn {c : Char} {cs : List Char} (h : isColumn (withoutFinalNewline cs) = true)
    (hc : c ∈ cs) : c = '\n' ∨ c = '.' ∨ isPart c = true := by
  refine (mem_withoutFinalNewline hc).imp id fun hc => ?_
  refine (mem_splitAtChar hc).imp id fun ⟨piece, hp, hc⟩ => ?_
  unfold isColumn at h
  split at h
  · rename_i name hs
    rw [hs, List.mem_singleton] at hp
    exact isPart_of_mem h (hp ▸ hc)
  · rename_i relation name hs
    rw [Bool.and_eq_true] at h
    rw [hs, List.mem_cons, List.mem_singleton] at hp
    rcases hp with rfl | rfl
    · exact isPart_of_mem h.1 hc
    · exact isPart_of_mem h.2 hc
  · cases h

/-- A plain name has no point. -/
theorem dot_notMem_of_isPlain {cs : List Char} (h : isPlain (withoutFinalNewline cs) = true) :
    '.' ∉ cs := by
  intro hc
  rcases mem_of_isPlain h hc with e | e
  · cases e
  · revert e
    decide

end Name

namespace NameRules

variable {rules : NameRules} {noun : Value} {s t : String}

/-! ### When a check passes -/

/-- A name is short enough when every piece between its points is. -/
theorem checkLength_eq_ok_iff :
    rules.checkLength noun s = .ok () ↔
      ∀ piece ∈ Text.splitAtChar '.' s.toList, piece.length ≤ rules.maxLength := by
  unfold checkLength
  split
  · rename_i long
    obtain ⟨piece, hp, hl⟩ := List.any_eq_true.1 long
    constructor
    · intro h
      cases h
    · intro h
      have := h piece hp
      have : rules.maxLength < piece.length := by simpa using hl
      omega
  · rename_i short
    refine iff_of_true rfl fun piece hp => ?_
    have : ¬ rules.maxLength < piece.length := fun hl =>
      short (List.any_eq_true.2 ⟨piece, hp, by simpa using hl⟩)
    omega

/-- A plain name is a text of its grammar that is short enough. -/
theorem checkPlain_eq_ok_iff :
    rules.checkPlain noun (.text s) = .ok t ↔
      t = s ∧ Name.isPlain (Name.withoutFinalNewline s.toList) = true
        ∧ rules.checkLength noun s = .ok () := by
  simp only [checkPlain]
  split
  · rename_i plain
    rw [map_eq_ok]
    constructor
    · rintro ⟨⟨⟩, hl, rfl⟩
      exact ⟨rfl, plain, hl⟩
    · rintro ⟨rfl, -, hl⟩
      exact ⟨(), hl, rfl⟩
  · rename_i other
    exact iff_of_false (fun h => by cases h) fun h => other h.2.1

/-- A plain name is short enough when it is no longer than the limit as a whole. -/
theorem checkLength_of_isPlain (plain : Name.isPlain (Name.withoutFinalNewline s.toList) = true) :
    rules.checkLength noun s = .ok () ↔ s.length ≤ rules.maxLength := by
  rw [checkLength_eq_ok_iff, Text.splitAtChar_of_not_mem (Name.dot_notMem_of_isPlain plain),
    List.forall_mem_singleton, String.length_toList]

/-- A column is a text of its grammar that is short enough. -/
theorem checkColumn_eq_ok_iff :
    rules.checkColumn (.text s) = .ok t ↔
      t = s ∧ Name.isColumn (Name.withoutFinalNewline s.toList) = true
        ∧ rules.checkLength (.text "column") s = .ok () := by
  simp only [checkColumn]
  split
  · rename_i column
    rw [map_eq_ok]
    constructor
    · rintro ⟨⟨⟩, hl, rfl⟩
      exact ⟨rfl, column, hl⟩
    · rintro ⟨rfl, -, hl⟩
      exact ⟨(), hl, rfl⟩
  · rename_i other
    exact iff_of_false (fun h => by cases h) fun h => other h.2.1

/-- A column list is not blank and has listed characters only, with no two dashes together. -/
theorem checkColumnList_eq_ok_iff :
    checkColumnList (.text s) = .ok t ↔
      t = s ∧ Text.stripChars s.toList ≠ [] ∧ Name.isColumnList s.toList = true := by
  simp only [checkColumnList, List.isEmpty_iff]
  split
  · rename_i blank
    exact iff_of_false (fun h => by cases h) fun h => h.2.1 blank
  rename_i given
  split
  · rename_i listed
    constructor
    · intro h
      cases h
      exact ⟨rfl, given, listed⟩
    · rintro ⟨rfl, -, -⟩
      rfl
  · rename_i other
    exact iff_of_false (fun h => by cases h) fun h => other h.2.2

/-- Names pass together when each of them does. -/
theorem checkNames_eq_ok_iff {names checked : List String} :
    rules.checkNames names = .ok checked ↔
      checked = names ∧
        ∀ name ∈ names, rules.checkPlain (.text "column") (.text name) = .ok name := by
  induction names generalizing checked with
  | nil => simp [checkNames, eq_comm]
  | cons name names ih =>
    simp only [checkNames, bind_eq_ok, ih, List.forall_mem_cons]
    constructor
    · rintro ⟨head, hhead, tail, ⟨rfl, hrest⟩, htail⟩
      cases htail
      obtain rfl := (checkPlain_eq_ok_iff.1 hhead).1
      exact ⟨rfl, hhead, hrest⟩
    · rintro ⟨rfl, hhead, hrest⟩
      exact ⟨name, hhead, names, ⟨rfl, hrest⟩, rfl⟩

/-- A row has values under the given columns when it has every one of them. -/
theorem rowValues_eq_ok_iff {row : Fields} {columns : List String} {vs : List Value} :
    rowValues row columns = .ok vs ↔ columns.map row.get? = vs.map some := by
  induction columns generalizing vs with
  | nil => cases vs <;> simp [rowValues]
  | cons column columns ih =>
    cases hv : row.get? column with
    | none => cases vs <;> simp [rowValues, hv]
    | some v =>
      simp only [rowValues, hv, map_eq_ok, ih, List.map_cons]
      constructor
      · rintro ⟨rest, hrest, rfl⟩
        simp [hrest]
      · intro h
        cases vs with
        | nil => cases h
        | cons w ws =>
          obtain ⟨hw, hws⟩ := List.cons.inj h
          cases hw
          exact ⟨ws, hws, rfl⟩

end NameRules

end QueryChain
