import Mathlib.Data.List.DropRight
import QueryChain.Text.Blank

/-!
# Stripped texts and words

Stripping takes away what is skipped at the two ends of a text and nothing else.  The words of a
text are the runs between its blanks, so that a blank takes a text apart into the words in front of
it and those behind.

## Main definitions

* `Text.StartsBlank` — a text in front of which every word ends.

## Main results

* `Text.trimBoth_of_forall`, `Text.trimBoth_append` — what stripping leaves.
* `Text.not_skip_of_getLast?_trimBoth` — what a stripped text does not end with.
* `Text.wordsOf_append_blank`, `Text.StartsBlank.wordsOf_append` — the words in front of a blank and
  behind it.
* `Text.wordsOf_append_run`, `Text.exists_run` — the word at the end of a text goes on.
-/

set_option relaxedAutoImplicit false
set_option autoImplicit false

namespace QueryChain.Text

variable {skip : Char → Bool} {c : Char} {cs : List Char}

/-! ### Stripping -/

/-- Stripping drops what is skipped in front and then what is skipped behind. -/
theorem trimBoth_eq_rdropWhile (skip : Char → Bool) (cs : List Char) :
    trimBoth skip cs = (cs.dropWhile skip).rdropWhile skip := rfl

/-- A text without anything to skip is left as it is. -/
theorem trimBoth_of_forall (h : ∀ c ∈ cs, skip c = false) : trimBoth skip cs = cs := by
  have front : cs.dropWhile skip = cs :=
    List.dropWhile_eq_self_iff.2 fun _ => by simp [h _ (List.getElem_mem _)]
  have back : cs.rdropWhile skip = cs :=
    List.rdropWhile_eq_self_iff.2 fun given => by simp [h _ (List.getLast_mem given)]
  rw [trimBoth_eq_rdropWhile, front, back]

/-- A text is stripped to nothing when all of it is skipped. -/
theorem trimBoth_eq_nil_iff : trimBoth skip cs = [] ↔ ∀ c ∈ cs, skip c = true := by
  rw [trimBoth_eq_rdropWhile, List.rdropWhile_eq_nil_iff, ← List.dropWhile_eq_nil_iff,
    List.dropWhile_idempotent, List.dropWhile_eq_nil_iff]

/-- What is skipped in front of a text does not count. -/
theorem trimBoth_cons_of_skip (h : skip c = true) (cs : List Char) :
    trimBoth skip (c :: cs) = trimBoth skip cs := by
  rw [trimBoth, List.dropWhile_cons_of_pos h, trimBoth]

/-- What is skipped behind a text does not count, if the text neither begins nor ends with it. -/
theorem trimBoth_append {front : List Char} (given : front ≠ [])
    (first : skip (front.head given) = false) (last : skip (front.getLast given) = false)
    (cs : List Char) : trimBoth skip (front ++ cs) = front ++ cs.rdropWhile skip := by
  have kept : (front ++ cs).dropWhile skip = front ++ cs := by
    obtain ⟨c, rest, rfl⟩ := List.exists_cons_of_ne_nil given
    exact List.dropWhile_cons_of_neg (by simpa using first)
  have whole : front.rdropWhile skip = front :=
    List.rdropWhile_eq_self_iff.2 fun _ => by simp [last]
  rw [List.rdropWhile] at whole
  rw [trimBoth_eq_rdropWhile, kept, List.rdropWhile, List.rdropWhile, List.reverse_append,
    List.dropWhile_append]
  split
  · rename_i skipped
    rw [whole, List.isEmpty_iff.1 skipped, List.reverse_nil, List.append_nil]
  · rw [List.reverse_append, List.reverse_reverse]

/-- A stripped text does not end with anything to skip. -/
theorem not_skip_of_getLast?_trimBoth (h : (trimBoth skip cs).getLast? = some c) :
    skip c = false := by
  have last := List.head?_dropWhile_not skip (cs.dropWhile skip).reverse
  rw [trimBoth, List.getLast?_reverse] at h
  rw [h] at last
  exact last

/-! ### Words -/

variable {b : Char} {front : List Char}

/-- The words in front of a blank, the first of them begun before, and those behind it. -/
theorem wordsFrom_append_blank (blank : isBlank b = true) (current front behind : List Char) :
    wordsFrom current (front ++ b :: behind) = wordsFrom current front ++ wordsOf behind := by
  induction front generalizing current with
  | nil =>
    rw [List.nil_append, wordsFrom, wordsFrom, if_pos blank]
    split <;> rfl
  | cons c front ih =>
    rw [List.cons_append, wordsFrom, wordsFrom, ih, ih]
    split
    · split <;> rfl
    · rfl

/-- The words in front of a blank and those behind it. -/
theorem wordsOf_append_blank (blank : isBlank b = true) (front behind : List Char) :
    wordsOf (front ++ b :: behind) = wordsOf front ++ wordsOf behind :=
  wordsFrom_append_blank blank [] front behind

/-- A text without blanks goes on with the word that is being read. -/
theorem wordsFrom_of_forall (h : ∀ c ∈ cs, isBlank c = false) (current : List Char) :
    wordsFrom current cs = wordsFrom (cs.reverse ++ current) [] := by
  induction cs generalizing current with
  | nil => rfl
  | cons c cs ih =>
    obtain ⟨first, rest⟩ := List.forall_mem_cons.1 h
    have read : wordsFrom current (c :: cs) = wordsFrom (c :: current) cs := by
      rw [wordsFrom, if_neg (by simp [first])]
    rw [read, ih rest, List.reverse_cons, List.append_assoc]
    rfl

/-- A text without blanks is a word, if it is any. -/
theorem wordsOf_of_forall (h : ∀ c ∈ cs, isBlank c = false) (given : cs ≠ []) :
    wordsOf cs = [cs] := by
  rw [wordsOf, wordsFrom_of_forall h, wordsFrom]
  simp [given]

/-- No word is empty. -/
theorem nil_notMem_wordsOf (cs : List Char) : [] ∉ wordsOf cs := by
  -- A word that is being read has a character at least, or it is not written down.
  have written (current : List Char) (words : List (List Char)) (h : [] ∉ words) :
      [] ∉ if current.isEmpty then words else current.reverse :: words := by
    cases current with
    | nil => exact h
    | cons c current => simpa using h
  have reading (current : List Char) : [] ∉ wordsFrom current cs := by
    induction cs generalizing current with
    | nil => exact written current [] List.not_mem_nil
    | cons c cs ih =>
      rw [wordsFrom]
      split
      · exact written current (wordsFrom [] cs) (ih [])
      · exact ih (c :: current)
  exact reading []

/-! ### Words at the ends of texts -/

/-- A text that is empty or begins with a blank, so that a word in front of it ends there. -/
def StartsBlank (cs : List Char) : Prop := ∀ c ∈ cs.head?, isBlank c = true

namespace StartsBlank

variable {ds : List Char}

/-- One text after the other. -/
theorem append (h : StartsBlank cs) (h' : StartsBlank ds) : StartsBlank (cs ++ ds) := by
  cases cs with
  | nil => exact h'
  | cons c cs => exact h

/-- What a text begins with. -/
theorem of_front (h : StartsBlank cs) (front : ds <+: cs) : StartsBlank ds := by
  obtain ⟨rest, rfl⟩ := front
  cases ds with
  | nil => simp [StartsBlank]
  | cons d ds => exact h

/-- The words of two texts of which the second begins with a blank. -/
theorem wordsOf_append (h : StartsBlank ds) (cs : List Char) :
    wordsOf (cs ++ ds) = wordsOf cs ++ wordsOf ds := by
  cases ds with
  | nil =>
    rw [List.append_nil]
    exact (List.append_nil _).symm
  | cons d ds =>
    have blank : isBlank d = true := h d rfl
    have behind : wordsOf (d :: ds) = wordsOf ds := wordsOf_append_blank blank [] ds
    rw [wordsOf_append_blank blank, behind]

/-- What begins with what is behind a run without blanks. -/
theorem dropWhile (cs : List Char) : StartsBlank (cs.dropWhile fun c => !isBlank c) := by
  intro c hc
  have first := List.head?_dropWhile_not (fun c => !isBlank c) cs
  rw [Option.mem_def.1 hc] at first
  simpa using first

end StartsBlank

/-- A run without blanks goes on until the next blank. -/
theorem wordsOf_append_run {run : List Char} (unbroken : ∀ c ∈ run, isBlank c = false)
    (given : run ≠ []) (cs : List Char) :
    wordsOf (run ++ cs) = (run ++ cs.takeWhile fun c => !isBlank c)
      :: wordsOf (cs.dropWhile fun c => !isBlank c) := by
  have word : ∀ c ∈ run ++ cs.takeWhile fun c => !isBlank c, isBlank c = false := by
    intro c hc
    rcases List.mem_append.1 hc with first | more
    · exact unbroken c first
    · simpa using List.mem_takeWhile_imp more
  have split : run ++ cs = (run ++ cs.takeWhile fun c => !isBlank c)
      ++ cs.dropWhile fun c => !isBlank c := by
    rw [List.append_assoc, List.takeWhile_append_dropWhile]
  rw [split, (StartsBlank.dropWhile cs).wordsOf_append,
    wordsOf_of_forall word (List.append_ne_nil_of_left_ne_nil given _)]
  rfl

/-- Every text ends in a run without blanks, perhaps an empty one, and what stands in front of that
run is read apart from it. -/
theorem exists_run (cs : List Char) :
    ∃ front run, cs = front ++ run ∧ (∀ c ∈ run, isBlank c = false)
      ∧ ∀ ds, wordsOf (front ++ ds) = wordsOf front ++ wordsOf ds := by
  refine ⟨cs.rdropWhile fun c => !isBlank c, cs.rtakeWhile fun c => !isBlank c,
    List.rdropWhile_append_rtakeWhile.symm, fun c hc => ?_, fun ds => ?_⟩
  · simpa using List.mem_rtakeWhile_imp hc
  · rcases List.eq_nil_or_concat (cs.rdropWhile fun c => !isBlank c) with none | ⟨init, b, ends⟩
    · rw [none]
      rfl
    · have blank : isBlank b = true := by
        have last := List.rdropWhile_last_not (fun c => !isBlank c) cs (by simp [ends])
        simpa [ends] using last
      have alone : wordsOf (init ++ [b]) = wordsOf init ++ [] := wordsOf_append_blank blank init []
      rw [ends, List.concat_eq_append, alone, List.append_nil, List.append_assoc]
      exact wordsOf_append_blank blank init ds

end QueryChain.Text
