import QueryChain.Number.Numeral

/-!
# Levels of the log

Levels are numbers; six of them have names, and two names have a second spelling.

## Main definitions

* `Level.name` — the name of a level; `Level.ofName?` — the level of a name.

## Main results

* `Level.ofName?_name` — the name of a named level names it.
-/

set_option relaxedAutoImplicit false
set_option autoImplicit false

namespace QueryChain.Level

/-- The levels with a name. -/
def named : List (Int × String) :=
  [(0, "NOTSET"), (10, "DEBUG"), (20, "INFO"), (30, "WARNING"), (40, "ERROR"), (50, "CRITICAL")]

/-- Second spellings of names. -/
def spellings : List (String × String) := [("WARN", "WARNING"), ("FATAL", "CRITICAL")]

/-- The name of a level; levels without one are shown by number. -/
def name (level : Int) : String := (named.lookup level).getD ("Level " ++ intText level)

/-- The level of a name. -/
def ofName? (s : String) : Option Int :=
  (named.find? fun entry => entry.2 == (spellings.lookup s).getD s).map Prod.fst

/-- The name of a named level names it. -/
theorem ofName?_name {entry : Int × String} (h : entry ∈ named) :
    ofName? (name entry.1) = some entry.1 := by
  revert entry
  decide

end QueryChain.Level
