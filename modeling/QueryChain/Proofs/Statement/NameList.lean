import QueryChain.Proofs.Statement.Name

/-!
# Lists of names

Names are written one after the other with a comma and a blank between neighbours.  A name has no
comma, so that the list can be split again and different lists of names have different texts.

## Main results

* `splitAtChar_commaList` — the pieces of a list of names between its commas.
* `commaList_injective` — lists of names with the same text are the same.
-/

set_option relaxedAutoImplicit false
set_option autoImplicit false

namespace QueryChain

/-- A plain name has no comma. -/
theorem Name.comma_notMem_of_isPlain {cs : List Char}
    (h : isPlain (withoutFinalNewline cs) = true) : ',' ∉ cs := by
  intro hc
  rcases mem_of_isPlain h hc with e | e
  · cases e
  · revert e
    decide

/-- The text in front of the first separator is the first piece. -/
theorem Text.splitAtChar_append {sep : Char} {cs : List Char} (h : sep ∉ cs) (rest : List Char) :
    splitAtChar sep (cs ++ sep :: rest) = cs :: splitAtChar sep rest := by
  induction cs with
  | nil => simp [splitAtChar]
  | cons c cs ih =>
    have hc : c ≠ sep := fun e => h (by simp [e])
    have hcs : sep ∉ cs := fun m => h (List.mem_cons_of_mem _ m)
    rw [List.cons_append, splitAtChar, if_neg hc, ih hcs]

section NameList

variable {names others : List String}

/-- The text of a list of names begins with the first one. -/
theorem toList_commaList_cons (name other : String) (names : List String) :
    (commaList (name :: other :: names)).toList
      = name.toList ++ ',' :: ' ' :: (commaList (other :: names)).toList := by
  rw [commaList, String.intercalate_cons_cons, String.toList_append, String.toList_append,
    List.append_assoc]
  rfl

/-- Between its commas a list of names has the names, with a blank in front of all but the first. -/
theorem splitAtChar_commaList {name : String} (h : ∀ n ∈ name :: names, ',' ∉ n.toList) :
    Text.splitAtChar ',' (commaList (name :: names)).toList
      = name.toList :: names.map fun n => ' ' :: n.toList := by
  induction names generalizing name with
  | nil =>
    have alone : commaList [name] = name := by simp [commaList]
    rw [alone, Text.splitAtChar_of_not_mem (h name List.mem_cons_self), List.map_nil]
  | cons other names ih =>
    obtain ⟨first, rest⟩ := List.forall_mem_cons.1 h
    have later := ih rest
    have blank : (' ' : Char) ≠ ',' := by decide
    rw [toList_commaList_cons, Text.splitAtChar_append first, Text.splitAtChar, if_neg blank, later,
      List.map_cons]

/-- Lists of names with the same text are the same. -/
theorem commaList_injective (hn : ∀ n ∈ names, ',' ∉ n.toList) (ho : ∀ n ∈ others, ',' ∉ n.toList)
    (given : names ≠ []) (given' : others ≠ []) (h : commaList names = commaList others) :
    names = others := by
  obtain ⟨name, names, rfl⟩ := List.exists_cons_of_ne_nil given
  obtain ⟨other, others, rfl⟩ := List.exists_cons_of_ne_nil given'
  have pieces := splitAtChar_commaList hn
  rw [h, splitAtChar_commaList ho] at pieces
  obtain ⟨first, rest⟩ := List.cons.inj pieces
  have injective (a b : String) (e : ' ' :: a.toList = ' ' :: b.toList) : a = b :=
    String.toList_inj.1 (List.cons.inj e).2
  rw [String.toList_inj.1 first, (List.map_inj_right injective).1 rest]

end NameList

end QueryChain
