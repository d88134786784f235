import QueryChain.Proofs.Statement.NameList

/-!
# The grammar of names

A plain name is a letter or an underscore with letters, digits and underscores behind it, and a
column is a plain name or two of them with a point between.  The checks of names take these texts,
up to the limit of their length, and with them the same texts with one line break behind: the
grammars are looked for in front of a final line break, but the text passes with it.

## Main definitions

* `Name.Plain` — the grammar of plain names, character by character.
* `Name.UpToBreak` — a plain name, perhaps with one line break behind it.

## Main results

* `Text.intercalate_splitAtChar` — the pieces of a text between separators give the text back.
* `Name.isColumn_iff` — the grammar of columns in words.
* `NameRules.names_accepted_iff` — which names pass, exactly.
-/

set_option relaxedAutoImplicit false
set_option autoImplicit false

namespace QueryChain

/-- The pieces of a text between separators, with the separator between neighbours, are the text. -/
theorem Text.intercalate_splitAtChar (sep : Char) (cs : List Char) :
    [sep].intercalate (splitAtChar sep cs) = cs := by
  induction cs with
  | nil => rfl
  | cons c cs ih =>
    rw [splitAtChar]
    split
    · rename_i same
      obtain ⟨piece, pieces, split⟩ := List.exists_cons_of_ne_nil (splitAtChar_ne_nil sep cs)
      rw [split] at ih ⊢
      rw [List.intercalate_cons_cons, ih, same]
      rfl
    · split
      · rename_i none
        exact absurd none (splitAtChar_ne_nil sep cs)
      · rename_i piece pieces split
        rw [split] at ih
        cases pieces with
        | nil => simpa using ih
        | cons next pieces =>
          rw [List.intercalate_cons_cons] at ih ⊢
          rw [List.cons_append, List.cons_append, ih]

namespace Name

variable {cs relation : List Char}

/-! ### Grammars -/

/-- A plain name: an ASCII letter or an underscore, and behind it ASCII letters, digits and
underscores. -/
def Plain (cs : List Char) : Prop :=
  ∃ c rest, cs = c :: rest ∧ (c.isAlpha = true ∨ c = '_')
    ∧ ∀ d ∈ rest, d.isAlphanum = true ∨ d = '_'

/-- A plain name, perhaps with one line break behind it. -/
def UpToBreak (cs : List Char) : Prop := Plain cs ∨ ∃ name, cs = name ++ ['\n'] ∧ Plain name

/-- What `isPlain` accepts are the plain names. -/
theorem isPlain_iff_plain : isPlain cs = true ↔ Plain cs := by
  simp only [isPlain_iff, Plain, isStart, isPart, Bool.or_eq_true, beq_iff_eq]

instance (cs : List Char) : Decidable (Plain cs) := decidable_of_iff _ isPlain_iff_plain

/-- A column is a plain name, or two of them with a point between. -/
theorem isColumn_iff :
    isColumn cs = true ↔ isPlain cs = true ∨ ∃ relation name, cs = relation ++ '.' :: name
      ∧ isPlain relation = true ∧ isPlain name = true := by
  have no_point {name : List Char} (h : isPlain name = true) : '.' ∉ name := fun mem =>
    absurd (isPart_of_mem h mem) (by decide)
  constructor
  · intro h
    have joined := Text.intercalate_splitAtChar '.' cs
    unfold isColumn at h
    split at h
    · rename_i name split
      rw [split, List.intercalate_singleton] at joined
      exact .inl (joined ▸ h)
    · rename_i relation name split
      rw [split, List.intercalate_cons_cons, List.intercalate_singleton] at joined
      rw [Bool.and_eq_true] at h
      exact .inr ⟨relation, name, by simpa using joined.symm, h⟩
    · cases h
  · rintro (plain | ⟨relation, name, rfl, first, second⟩)
    · rw [isColumn, Text.splitAtChar_of_not_mem (no_point plain)]
      exact plain
    · rw [isColumn, Text.splitAtChar_append (no_point first),
        Text.splitAtChar_of_not_mem (no_point second)]
      simp [first, second]

/-! ### Final line breaks -/

/-- A text is what stands in front of its final line break, and that line break if it has one. -/
theorem eq_withoutFinalNewline_append (cs : List Char) :
    cs = withoutFinalNewline cs ∨ cs = withoutFinalNewline cs ++ ['\n'] := by
  unfold withoutFinalNewline
  split
  · rename_i last
    obtain ⟨front, rfl⟩ := List.getLast?_eq_some_iff.1 last
    rw [List.dropLast_concat]
    exact .inr rfl
  · exact .inl rfl

/-- A line break at the end is left out. -/
theorem withoutFinalNewline_concat (cs : List Char) : withoutFinalNewline (cs ++ ['\n']) = cs := by
  simp [withoutFinalNewline]

/-- Only the end of a text is looked at. -/
theorem withoutFinalNewline_append_point (last : List Char) :
    withoutFinalNewline (relation ++ '.' :: last)
      = relation ++ '.' :: withoutFinalNewline last := by
  unfold withoutFinalNewline
  cases last with
  | nil => simp
  | cons c last =>
    have ends : (relation ++ '.' :: c :: last).getLast? = (c :: last).getLast? := by
      simp [List.getLast?_cons]
    rw [ends]
    split
    · simp [List.dropLast_append_of_ne_nil]
    · rfl

/-- The grammar of plain names, looked for in front of a final line break. -/
theorem isPlain_withoutFinalNewline_iff :
    isPlain (withoutFinalNewline cs) = true ↔ UpToBreak cs := by
  constructor
  · intro h
    have plain := isPlain_iff_plain.1 h
    rcases eq_withoutFinalNewline_append cs with same | broken
    · exact .inl (same ▸ plain)
    · exact .inr ⟨_, broken, plain⟩
  · rintro (plain | ⟨name, rfl, plain⟩)
    · have unbroken : '\n' ∉ cs := fun mem =>
        absurd (isPart_of_mem (isPlain_iff_plain.2 plain) mem) (by decide)
      rw [withoutFinalNewline_of_forall unbroken]
      exact isPlain_iff_plain.2 plain
    · rw [withoutFinalNewline_concat]
      exact isPlain_iff_plain.2 plain

/-- The grammar of columns, looked for in front of a final line break: only the last name can have
the line break behind it. -/
theorem isColumn_withoutFinalNewline_iff :
    isColumn (withoutFinalNewline cs) = true ↔ UpToBreak cs
      ∨ ∃ relation last, cs = relation ++ '.' :: last ∧ Plain relation ∧ UpToBreak last := by
  rw [isColumn_iff, isPlain_withoutFinalNewline_iff]
  refine or_congr_right ?_
  constructor
  · rintro ⟨relation, name, split, first, second⟩
    obtain ⟨last, rfl⟩ : ∃ last, cs = relation ++ '.' :: last := by
      rcases eq_withoutFinalNewline_append cs with same | broken
      · exact ⟨name, same.trans split⟩
      · exact ⟨name ++ ['\n'], by rw [broken, split, List.append_assoc, List.cons_append]⟩
    rw [withoutFinalNewline_append_point] at split
    have same : withoutFinalNewline last = name :=
      (List.cons.inj (List.append_cancel_left split)).2
    exact ⟨relation, last, rfl, isPlain_iff_plain.1 first,
      isPlain_withoutFinalNewline_iff.1 (same ▸ second)⟩
  · rintro ⟨relation, last, rfl, first, second⟩
    exact ⟨relation, _, withoutFinalNewline_append_point last, isPlain_iff_plain.2 first,
      isPlain_withoutFinalNewline_iff.2 second⟩

end Name

namespace NameRules

open Name

variable {rules : NameRules} {noun : Value} {s : String}

/-- A relation and a column are short enough when each of them is. -/
theorem checkLength_of_pair {relation last : List Char} (first : Plain relation)
    (second : UpToBreak last) (split : s.toList = relation ++ '.' :: last) :
    rules.checkLength noun s = .ok ()
      ↔ relation.length ≤ rules.maxLength ∧ last.length ≤ rules.maxLength := by
  have no_point : '.' ∉ relation := fun mem =>
    absurd (isPart_of_mem (isPlain_iff_plain.2 first) mem) (by decide)
  have pieces : Text.splitAtChar '.' s.toList = [relation, last] := by
    rw [split, Text.splitAtChar_append no_point, Text.splitAtChar_of_not_mem
      (dot_notMem_of_isPlain (isPlain_withoutFinalNewline_iff.2 second))]
  rw [checkLength_eq_ok_iff, pieces, List.forall_mem_cons, List.forall_mem_singleton]

/-- **Which names pass.**  A text passes as a plain name exactly when it is one, up to a line break
at its end, and no longer than the limit with this line break.  It passes as a column exactly when
it passes as a plain name, or is a plain name, a point and a text that passes as a plain name, each
of them no longer than the limit.  What passes is left as it is.

**Proof sketch.**  The grammars are looked for in the text in front of a final line break, which can
only belong to the last name.  The pieces between the points of the whole text are its names, the
last one with the line break, and their lengths are compared with the limit. -/
theorem names_accepted_iff (rules : NameRules) (noun : Value) (s t : String) :
    (rules.checkPlain noun (.text s) = .ok t
        ↔ t = s ∧ UpToBreak s.toList ∧ s.length ≤ rules.maxLength)
      ∧ (rules.checkColumn (.text s) = .ok t
        ↔ t = s ∧ (UpToBreak s.toList ∧ s.length ≤ rules.maxLength
          ∨ ∃ relation last, s.toList = relation ++ '.' :: last
            ∧ Plain relation ∧ relation.length ≤ rules.maxLength
            ∧ UpToBreak last ∧ last.length ≤ rules.maxLength)) := by
  constructor
  · rw [checkPlain_eq_ok_iff]
    refine and_congr_right fun _ => ?_
    rw [isPlain_withoutFinalNewline_iff]
    exact and_congr_right fun plain =>
      checkLength_of_isPlain (isPlain_withoutFinalNewline_iff.2 plain)
  · rw [checkColumn_eq_ok_iff, isColumn_withoutFinalNewline_iff, or_and_right]
    refine and_congr_right fun _ => or_congr ?_ ?_
    · exact and_congr_right fun plain =>
        checkLength_of_isPlain (isPlain_withoutFinalNewline_iff.2 plain)
    · constructor
      · rintro ⟨⟨relation, last, split, first, second⟩, short⟩
        obtain ⟨inside, inside'⟩ := (checkLength_of_pair first second split).1 short
        exact ⟨relation, last, split, first, inside, second, inside'⟩
      · rintro ⟨relation, last, split, first, inside, second, inside'⟩
        exact ⟨⟨relation, last, split, first, second⟩,
          (checkLength_of_pair first second split).2 ⟨inside, inside'⟩⟩

/-- A text that is no name and has a line break passes as a plain name and as a column. -/
theorem not_plain_of_accepted :
    checkPlain ⟨63, "id"⟩ (.text "column") (.text "id\n") = .ok "id\n"
      ∧ checkColumn ⟨63, "id"⟩ (.text "id\n") = .ok "id\n"
      ∧ ¬ Plain "id\n".toList ∧ '\n' ∈ "id\n".toList := by
  refine ⟨by rfl, by rfl, ?_, by decide⟩
  rw [← isPlain_iff_plain]
  decide

end NameRules

end QueryChain
