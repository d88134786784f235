import Mathlib.Data.List.TakeWhile
import QueryChain.Proofs.Placeholder.Style
import QueryChain.Proofs.Statement.Numbering

/-!
# How drivers find markers

A driver reads a statement from left to right and takes what looks like a marker of its style for
one: a sign with a number or a name behind it, a sign alone, or a percent sign with a conversion.
Whatever is no marker is ordinary text.

## Main definitions

* `ParamStyle.marker?` — the marker that a text starts with.
* `Reading`, `ParamStyle.read`, `ParamStyle.markers` — a text as a driver reads it, and its markers.
* `ParamStyle.sigil` — the sign that every marker of a style starts with.
* `ParamStyle.Clashes` — a text that has a colon directly in front of what goes on like a marker.

## Main results

* `ParamStyle.read_append_of_plain` — text without the sign is ordinary.
* `ParamStyle.read_numbered_append` — the mark of a number, with a fence behind it, is one marker.
* `ParamStyle.read_append_of_listed` — a column list is read by itself, with a fence behind it.
* `ParamStyle.read_of_not_clashes`, `ParamStyle.markers_ne_nil_of_clashes` — a column list that does
  not clash is ordinary, and one that clashes has a marker.
-/

set_option relaxedAutoImplicit false
set_option autoImplicit false

namespace QueryChain

/-- A part of a statement as a driver reads it: an ordinary character, or a marker. -/
inductive Reading where
  | plain (c : Char)
  | marker (cs : List Char)
deriving DecidableEq, Repr

/-- The marker of a part. -/
def Reading.marker? : Reading → Option (List Char)
  | plain _ => none
  | marker cs => some cs

namespace ParamStyle

/-! ### Markers -/

/-- A sign, a character that may start a run, and the run that goes on from there. -/
def runMarker? (sign : Char) (first more : Char → Bool) : List Char → Option (List Char)
  | s :: c :: rest => if s = sign ∧ first c = true then some (s :: c :: rest.takeWhile more) else none
  | _ => none

/-- A given marker. -/
def fixedMarker? (m cs : List Char) : Option (List Char) := if m.isPrefixOf cs then some m else none

/-- A percent sign, a name in parentheses, and the conversion to text. -/
def formatMarker? : List Char → Option (List Char)
  | '%' :: '(' :: rest =>
    match rest.dropWhile (· != ')') with
    | ')' :: 's' :: _ => some ('%' :: '(' :: rest.takeWhile (· != ')') ++ [')', 's'])
    | _ => none
  | _ => none

/-- The marker of a style that a text starts with. -/
def marker? (style : ParamStyle) (cs : List Char) : Option (List Char) :=
  match style with
  | numericDollar => runMarker? '$' Char.isDigit Char.isDigit cs
  | qmark => fixedMarker? ['?'] cs
  | numeric => runMarker? ':' Char.isDigit Char.isDigit cs
  | named => runMarker? ':' Name.isStart Name.isPart cs
  | format => fixedMarker? ['%', 's'] cs
  | pyformat => formatMarker? cs

/-- The parts of a text behind characters that belong to a marker which was read already. -/
def readFrom (style : ParamStyle) : Nat → List Char → List Reading
  | _, [] => []
  | skip + 1, _ :: rest => readFrom style skip rest
  | 0, c :: rest =>
    match style.marker? (c :: rest) with
    | some m => .marker m :: readFrom style (m.length - 1) rest
    | none => .plain c :: readFrom style 0 rest

/-- A text as a driver of a style reads it. -/
def read (style : ParamStyle) (cs : List Char) : List Reading := readFrom style 0 cs

/-- The markers that a driver of a style finds in a text. -/
def markers (style : ParamStyle) (cs : List Char) : List (List Char) :=
  (style.read cs).filterMap Reading.marker?

/-- The sign that the markers of a style start with. -/
def sigil : ParamStyle → Char
  | numericDollar => '$'
  | qmark => '?'
  | numeric | named => ':'
  | format | pyformat => '%'

/-- A text has a colon directly in front of a character of a kind. -/
def ColonBefore (first : Char → Bool) (cs : List Char) : Prop :=
  ∃ before c after, cs = before ++ ':' :: c :: after ∧ first c = true

/-- A text has a colon that a style takes for the start of a marker: directly in front of a digit, or
of what may start a name. -/
def Clashes (style : ParamStyle) (cs : List Char) : Prop :=
  match style with
  | numeric => ColonBefore Char.isDigit cs
  | named => ColonBefore Name.isStart cs
  | _ => False

variable {style : ParamStyle} {cs rest : List Char} {c : Char}

/-- A run starts with its sign. -/
theorem runMarker?_of_ne {sign : Char} {first more : Char → Bool} (h : c ≠ sign) :
    runMarker? sign first more (c :: rest) = none := by
  cases rest with
  | nil => rfl
  | cons d rest => exact if_neg fun both => h both.1

/-- A given marker starts with its sign. -/
theorem fixedMarker?_of_ne {sign : Char} {m : List Char} (h : c ≠ sign) :
    fixedMarker? (sign :: m) (c :: rest) = none := by
  have other : (sign :: m).isPrefixOf (c :: rest) = false := by
    rw [List.isPrefixOf_cons_cons, beq_false_of_ne (Ne.symm h), Bool.false_and]
  rw [fixedMarker?, other, if_neg Bool.false_ne_true]

/-- A conversion starts with a percent sign. -/
theorem formatMarker?_of_ne (h : c ≠ '%') : formatMarker? (c :: rest) = none := by
  unfold formatMarker?
  split
  · rename_i same
    exact absurd (List.cons.inj same).1 h
  · rfl

/-- Every marker starts with its sign. -/
theorem marker?_of_ne (h : c ≠ style.sigil) : style.marker? (c :: rest) = none := by
  cases style
  case numericDollar => exact runMarker?_of_ne h
  case qmark => exact fixedMarker?_of_ne h
  case numeric => exact runMarker?_of_ne h
  case named => exact runMarker?_of_ne h
  case format => exact fixedMarker?_of_ne h
  case pyformat => exact formatMarker?_of_ne h

@[simp] theorem read_nil : style.read [] = [] := rfl

/-- Text without the sign is ordinary. -/
theorem read_append_of_plain (h : style.sigil ∉ cs) :
    style.read (cs ++ rest) = cs.map .plain ++ style.read rest := by
  induction cs with
  | nil => rfl
  | cons c cs ih =>
    rw [List.mem_cons, not_or] at h
    have none_here : style.marker? (c :: (cs ++ rest)) = none := marker?_of_ne (Ne.symm h.1)
    rw [List.cons_append, read, readFrom, none_here]
    exact congrArg (Reading.plain c :: ·) (ih h.2)

/-- Text without the sign is ordinary text. -/
theorem read_of_plain (h : style.sigil ∉ cs) : style.read cs = cs.map .plain := by
  have alone : style.read (cs ++ []) = cs.map .plain ++ style.read [] := read_append_of_plain h
  rwa [List.append_nil, read_nil, List.append_nil] at alone

/-- The characters of a marker are skipped. -/
theorem readFrom_length (xs : List Char) : readFrom style xs.length (xs ++ rest) = style.read rest := by
  induction xs with
  | nil => rfl
  | cons x xs ih => exact ih

/-- A marker is read to its end. -/
theorem read_marker_append {m : List Char} (some_char : m ≠ [])
    (h : style.marker? (m ++ rest) = some m) :
    style.read (m ++ rest) = .marker m :: style.read rest := by
  cases m with
  | nil => exact absurd rfl some_char
  | cons c m =>
    rw [List.cons_append] at h ⊢
    rw [read, readFrom, h]
    exact congrArg (Reading.marker (c :: m) :: ·) (readFrom_length m)

/-! ### The marks of numbers -/

/-- A run ends where its characters end. -/
theorem takeWhile_append_of_stop {p : Char → Bool} (stop : ∀ c ∈ rest.head?, p c = false) :
    (cs ++ rest).takeWhile p = cs.takeWhile p := by
  induction cs with
  | nil =>
    cases rest with
    | nil => rfl
    | cons d rest => simp [stop d rfl]
  | cons c cs ih =>
    rw [List.cons_append, List.takeWhile_cons, List.takeWhile_cons, ih]

/-- A run is a marker, with something behind it that it does not go on with. -/
theorem runMarker?_append {sign : Char} {first more : Char → Bool} (hc : first c = true)
    (hcs : ∀ d ∈ cs, more d = true) (stop : ∀ d ∈ rest.head?, more d = false) :
    runMarker? sign first more (sign :: c :: cs ++ rest) = some (sign :: c :: cs) := by
  have run : cs.takeWhile more = cs := List.takeWhile_eq_self_iff.2 hcs
  rw [List.cons_append, List.cons_append, runMarker?, if_pos ⟨rfl, hc⟩,
    takeWhile_append_of_stop stop, run]

/-- A given marker, whatever stands behind it. -/
theorem fixedMarker?_append (m : List Char) : fixedMarker? m (m ++ rest) = some m := by
  have starts : m.isPrefixOf (m ++ rest) = true :=
    List.isPrefixOf_iff_prefix.2 (List.prefix_append m rest)
  rw [fixedMarker?, if_pos starts]

/-- A conversion of a name without a parenthesis. -/
theorem formatMarker?_append (h : ')' ∉ cs) :
    formatMarker? ('%' :: '(' :: cs ++ ')' :: 's' :: rest) = some ('%' :: '(' :: cs ++ [')', 's']) := by
  have inside : ∀ d ∈ cs, (d != ')') = true := fun d hd => by
    simpa using fun same : d = ')' => h (same ▸ hd)
  have name : (cs ++ ')' :: 's' :: rest).takeWhile (· != ')') = cs := by
    rw [takeWhile_append_of_stop (by simp), List.takeWhile_eq_self_iff.2 inside]
  have behind : (cs ++ ')' :: 's' :: rest).dropWhile (· != ')') = ')' :: 's' :: rest := by
    rw [List.dropWhile_append_of_pos inside]
    rfl
  rw [List.cons_append, List.cons_append, formatMarker?, behind, name]
  rfl

/-- The characters of a fence do not go on in a run. -/
theorem more_of_isFence (h : Piece.isFence c = true) :
    c.isDigit = false ∧ Name.isPart c = false := by
  simp only [Piece.isFence, Bool.or_eq_true, beq_iff_eq] at h
  rcases h with (rfl | rfl) | rfl <;> decide

/-- The digits of a number are a first one and others. -/
theorem exists_natChars (n : Nat) : ∃ d ds, natChars n = d :: ds ∧ d.isDigit = true
    ∧ ∀ c ∈ ds, c.isDigit = true := by
  have nonempty : natChars n ≠ [] := by simp [natChars]
  obtain ⟨d, ds, digits⟩ := List.exists_cons_of_ne_nil nonempty
  have all (c : Char) (hc : c ∈ d :: ds) : c.isDigit = true :=
    Text.isDigit_of_mem_natChars (digits ▸ hc)
  exact ⟨d, ds, digits, all d List.mem_cons_self, fun c hc => all c (List.mem_cons_of_mem _ hc)⟩

/-- The mark of a number is a marker, with a fence or nothing behind it. -/
theorem marker?_numbered_append (n : Nat) (stop : ∀ c ∈ rest.head?, Piece.isFence c = true) :
    style.marker? ((style.numbered n).toList ++ rest) = some (style.numbered n).toList := by
  obtain ⟨d, ds, digits, first, others⟩ := exists_natChars n
  have part (c : Char) (hc : c.isDigit = true) : Name.isPart c = true := by
    simp [Name.isPart, Char.isAlphanum, hc]
  rw [toList_numbered, digits]
  cases style
  case numericDollar =>
    exact runMarker?_append first others fun c hc => (more_of_isFence (stop c hc)).1
  case qmark => exact fixedMarker?_append _
  case numeric =>
    exact runMarker?_append first others fun c hc => (more_of_isFence (stop c hc)).1
  case named =>
    have parts : ∀ c ∈ d :: ds, Name.isPart c = true :=
      List.forall_mem_cons.2 ⟨part d first, fun c hc => part c (others c hc)⟩
    have start : Name.isStart 'p' = true := rfl
    show runMarker? ':' Name.isStart Name.isPart (':' :: 'p' :: (d :: ds) ++ rest)
      = some (':' :: 'p' :: (d :: ds))
    exact runMarker?_append start parts fun c hc => (more_of_isFence (stop c hc)).2
  case format => exact fixedMarker?_append _
  case pyformat =>
    have name : ')' ∉ 'p' :: d :: ds := fun mem => by
      rcases List.mem_cons.1 mem with same | mem
      · cases same
      · have digit := Text.isDigit_of_mem_natChars (digits ▸ mem)
        exact absurd digit (by decide)
    have conversion : formatMarker? ('%' :: '(' :: 'p' :: d :: ds ++ ')' :: 's' :: rest)
        = some ('%' :: '(' :: 'p' :: d :: ds ++ [')', 's']) := formatMarker?_append name
    simpa [marker?, mark] using conversion

/-- The mark of a number is one marker, with a fence or nothing behind it. -/
theorem read_numbered_append (n : Nat) (stop : ∀ c ∈ rest.head?, Piece.isFence c = true) :
    style.read ((style.numbered n).toList ++ rest)
      = .marker (style.numbered n).toList :: style.read rest := by
  refine read_marker_append (fun empty => ?_) (marker?_numbered_append n stop)
  rw [toList_numbered] at empty
  cases style <;> simp [mark] at empty

/-! ### Column lists -/

/-- Runs are found in a text without looking at what stands behind it, if no run goes on there. -/
theorem runMarker?_append_of_stop {sign : Char} {first more : Char → Bool}
    (start : ∀ d ∈ rest.head?, first d = false) (stop : ∀ d ∈ rest.head?, more d = false) :
    runMarker? sign first more (c :: cs ++ rest) = runMarker? sign first more (c :: cs) := by
  cases cs with
  | nil =>
    cases rest with
    | nil => rfl
    | cons d rest =>
      have other : ¬ (c = sign ∧ first d = true) := fun both => by
        rw [start d rfl] at both
        cases both.2
      exact if_neg other
  | cons d cs =>
    rw [List.cons_append, List.cons_append, runMarker?, runMarker?, takeWhile_append_of_stop stop]

/-- A run is no longer than the text that it is found in. -/
theorem length_runMarker?_le {sign : Char} {first more : Char → Bool} {m : List Char}
    (h : runMarker? sign first more cs = some m) : m.length ≤ cs.length := by
  unfold runMarker? at h
  split at h
  · rename_i s c rest
    split at h
    · cases h
      have run : (rest.takeWhile more).length ≤ rest.length :=
        (List.takeWhile_prefix more).length_le
      simp only [List.length_cons]
      omega
    · cases h
  · cases h

/-- A text is read by itself, if its markers are found without looking at what stands behind it. -/
theorem readFrom_append
    (append : ∀ c cs, style.marker? (c :: cs ++ rest) = style.marker? (c :: cs))
    (fits : ∀ cs m, style.marker? cs = some m → m.length ≤ cs.length) {skip : Nat}
    (h : skip ≤ cs.length) :
    readFrom style skip (cs ++ rest) = readFrom style skip cs ++ style.read rest := by
  induction cs generalizing skip with
  | nil =>
    obtain rfl := Nat.le_zero.1 h
    rfl
  | cons c cs ih =>
    cases skip with
    | succ skip => exact ih (Nat.le_of_succ_le_succ h)
    | zero =>
      have here := append c cs
      rw [List.cons_append] at here
      rw [List.cons_append, readFrom, readFrom, here]
      cases found : style.marker? (c :: cs) with
      | none => exact congrArg (Reading.plain c :: ·) (ih (Nat.zero_le _))
      | some m =>
        have inside : m.length - 1 ≤ cs.length := by
          have bound := fits _ _ found
          rw [List.length_cons] at bound
          omega
        exact congrArg (Reading.marker m :: ·) (ih inside)

/-- No sign but the colon stands in a column list. -/
theorem sigil_notMem_of_listed (h : cs.all Name.isListed = true) (other : style.sigil ≠ ':') :
    style.sigil ∉ cs := by
  have foreign : style.sigil ≠ ':' → Name.isListed style.sigil = false := by
    cases style <;> decide
  exact Name.notMem_of_all h (foreign other)

/-- **A column list is read by itself**, with a fence or nothing behind it. -/
theorem read_append_of_listed (h : cs.all Name.isListed = true)
    (stop : ∀ c ∈ rest.head?, Piece.isFence c = true) :
    style.read (cs ++ rest) = style.read cs ++ style.read rest := by
  have plain (other : style.sigil ≠ ':') :
      style.read (cs ++ rest) = style.read cs ++ style.read rest := by
    have none_there := sigil_notMem_of_listed h other
    rw [read_append_of_plain none_there, read_of_plain none_there]
  have digit : ∀ c ∈ rest.head?, c.isDigit = false := fun c hc => (more_of_isFence (stop c hc)).1
  have part : ∀ c ∈ rest.head?, Name.isPart c = false := fun c hc => (more_of_isFence (stop c hc)).2
  have start : ∀ c ∈ rest.head?, Name.isStart c = false := fun c hc => by
    refine Bool.eq_false_iff.2 fun starts => ?_
    have goes_on := Name.isPart_of_isStart starts
    rw [part c hc] at goes_on
    cases goes_on
  cases style
  case numeric =>
    have append (c : Char) (cs : List Char) :
        numeric.marker? (c :: cs ++ rest) = numeric.marker? (c :: cs) :=
      runMarker?_append_of_stop digit digit
    have fits (cs m : List Char) (hm : numeric.marker? cs = some m) : m.length ≤ cs.length :=
      length_runMarker?_le hm
    exact readFrom_append append fits (Nat.zero_le _)
  case named =>
    have append (c : Char) (cs : List Char) :
        named.marker? (c :: cs ++ rest) = named.marker? (c :: cs) :=
      runMarker?_append_of_stop start part
    have fits (cs m : List Char) (hm : named.marker? cs = some m) : m.length ≤ cs.length :=
      length_runMarker?_le hm
    exact readFrom_append append fits (Nat.zero_le _)
  all_goals exact plain (by decide)

/-! ### Clashes -/

/-- A colon in front of a character of a kind comes first or later. -/
theorem colonBefore_cons {first : Char → Bool} :
    ColonBefore first (c :: cs) ↔ (c = ':' ∧ ∃ d ∈ cs.head?, first d = true) ∨ ColonBefore first cs := by
  constructor
  · rintro ⟨before, d, after, e, hd⟩
    cases before with
    | nil =>
      obtain ⟨rfl, rfl⟩ := List.cons.inj e
      exact .inl ⟨rfl, d, rfl, hd⟩
    | cons b before =>
      obtain ⟨rfl, rfl⟩ := List.cons.inj e
      exact .inr ⟨before, d, after, rfl, hd⟩
  · rintro (⟨rfl, d, head, hd⟩ | ⟨before, d, after, rfl, hd⟩)
    · obtain ⟨after, rfl⟩ := List.head?_eq_some_iff.1 head
      exact ⟨[], d, after, rfl, hd⟩
    · exact ⟨c :: before, d, after, rfl, hd⟩

/-- A run is found at a colon in front of a character of its kind, and nowhere else. -/
theorem runMarker?_isSome_iff {first more : Char → Bool} :
    (runMarker? ':' first more (c :: cs)).isSome = true ↔ c = ':' ∧ ∃ d ∈ cs.head?, first d = true := by
  cases cs with
  | nil => simp [runMarker?]
  | cons d cs =>
    rw [runMarker?]
    split
    · rename_i both
      simpa using both
    · rename_i other
      simpa using other

/-- A style whose markers are found at a colon in front of a character of a kind. -/
def ColonStyle (style : ParamStyle) (first : Char → Bool) : Prop :=
  ∀ c cs, (style.marker? (c :: cs)).isSome = true ↔ c = ':' ∧ ∃ d ∈ cs.head?, first d = true

/-- A text without such a colon is ordinary. -/
theorem ColonStyle.read_eq {first : Char → Bool} (colon : ColonStyle style first)
    (h : ¬ ColonBefore first cs) : style.read cs = cs.map .plain := by
  induction cs with
  | nil => rfl
  | cons c cs ih =>
    rw [colonBefore_cons, not_or] at h
    have none_here : style.marker? (c :: cs) = none := by
      rw [← Option.not_isSome_iff_eq_none, colon]
      exact h.1
    rw [read, readFrom, none_here]
    exact congrArg (Reading.plain c :: ·) (ih h.2)

/-- A text with such a colon has a marker. -/
theorem ColonStyle.markers_ne_nil {first : Char → Bool} (colon : ColonStyle style first)
    (h : ColonBefore first cs) : style.markers cs ≠ [] := by
  induction cs with
  | nil =>
    obtain ⟨before, c, after, e, -⟩ := h
    simp at e
  | cons c cs ih =>
    rw [markers, read, readFrom]
    cases found : style.marker? (c :: cs) with
    | some m => exact List.cons_ne_nil _ _
    | none =>
      rcases colonBefore_cons.1 h with here | later
      · rw [← colon, found] at here
        cases here
      · exact ih later

/-- Numbered markers. -/
theorem colonStyle_numeric : ColonStyle numeric Char.isDigit := fun _ _ => runMarker?_isSome_iff

/-- Named markers. -/
theorem colonStyle_named : ColonStyle named Name.isStart := fun _ _ => runMarker?_isSome_iff

/-- A column list that does not clash is ordinary. -/
theorem read_of_not_clashes (listed : cs.all Name.isListed = true) (h : ¬ style.Clashes cs) :
    style.read cs = cs.map .plain := by
  cases style
  case numeric => exact colonStyle_numeric.read_eq h
  case named => exact colonStyle_named.read_eq h
  all_goals exact read_of_plain (sigil_notMem_of_listed listed (by decide))

/-- A text that clashes has a marker. -/
theorem markers_ne_nil_of_clashes (h : style.Clashes cs) : style.markers cs ≠ [] := by
  cases style
  case numeric => exact colonStyle_numeric.markers_ne_nil h
  case named => exact colonStyle_named.markers_ne_nil h
  all_goals cases h

end ParamStyle

end QueryChain
