import QueryChain.Proofs.Chain.Reading
import QueryChain.Proofs.Statement.Grammar
import QueryChain.Proofs.Text.Blank
import QueryChain.Settings.Basic

/-!
# Conflict targets in normal form

The default conflict target is checked and written anew when settings are read, and split again when
an upsert names no target of its own.  A target that an upsert names is split and checked at once.
Both take the segments between commas without the blanks at their ends, and both accept plain names
only: no name that passes has a line break behind it, since stripping took it away.  So the names
survive being joined and split again, as often as that happens.

## Main results

* `Name.isPlain_strip_iff` — a stripped segment is looked at as a whole.
* `NameRules.conflictSegments_commaList` — plain names are the segments of their list.
* `NameRules.checkConflictTarget_of_conflictText` — what the check of a target answers.
* `Settings.checkDefaultConflict_eq_ok_iff` — which defaults pass, and how they are stored.
* `NameRules.conflictTarget_normal` — normal forms are stable, in settings and in statements.
-/

set_option relaxedAutoImplicit false
set_option autoImplicit false

namespace QueryChain

open Name

/-! ### Segments -/

namespace Name

/-- The codes of the characters that plain names have. -/
theorem code_of_isPart {c : Char} (h : isPart c = true) :
    (65 ≤ c.toNat ∧ c.toNat ≤ 90) ∨ (97 ≤ c.toNat ∧ c.toNat ≤ 122)
      ∨ (48 ≤ c.toNat ∧ c.toNat ≤ 57) ∨ c.toNat = 95 := by
  have ranges : (decide ('A'.val ≤ c.val ∧ c.val ≤ 'Z'.val)
      || decide ('a'.val ≤ c.val) && decide (c.val ≤ 'z'.val)
      || decide ('0'.val ≤ c.val) && decide (c.val ≤ '9'.val) || c == '_') = true := h
  simp only [Bool.or_eq_true, Bool.and_eq_true, decide_eq_true_eq, beq_iff_eq,
    UInt32.le_iff_toNat_le, or_assoc] at ranges
  exact ranges.imp_right (Or.imp_right (Or.imp_right fun underscore => by rw [underscore]; rfl))

/-- No character of a plain name is blank. -/
theorem not_isBlank_of_plain {cs : List Char} (h : Plain cs) :
    ∀ c ∈ cs, Text.isBlank c = false := by
  intro c hc
  have code := code_of_isPart (isPart_of_mem (isPlain_iff_plain.2 h) hc)
  simp only [Text.isBlank, Text.isWhiteSpace, Bool.or_eq_false_iff, decide_eq_false_iff_not]
  omega

/-- A stripped text has no line break at its end, so that the grammar is looked for in all of it. -/
theorem isPlain_strip_iff (s : String) :
    isPlain (withoutFinalNewline (Text.strip s).toList) = true ↔ Plain (Text.strip s).toList := by
  have unbroken : (Text.strip s).toList.getLast? ≠ some '\n' := by
    intro last
    rw [Text.strip, String.toList_ofList] at last
    exact absurd (Text.not_skip_of_getLast?_trimBoth last) (by decide)
  rw [withoutFinalNewline, if_neg unbroken, isPlain_iff_plain]

end Name

/-- The list of names has the characters of each of them. -/
theorem mem_commaList {names : List String} {name : String} {c : Char} (hn : name ∈ names)
    (hc : c ∈ name.toList) : c ∈ (commaList names).toList := by
  induction names with
  | nil => cases hn
  | cons first names ih =>
    cases names with
    | nil =>
      rw [List.mem_singleton.1 hn] at hc
      simpa [commaList] using hc
    | cons other names =>
      rw [toList_commaList_cons, List.mem_append]
      rcases List.mem_cons.1 hn with rfl | later
      · exact .inl hc
      · exact .inr (List.mem_cons_of_mem _ (List.mem_cons_of_mem _ (ih later)))

namespace NameRules

/-- Plain names are the segments of their list. -/
theorem conflictSegments_commaList {names : List String} (given : names ≠ [])
    (plain : ∀ name ∈ names, Plain name.toList) : conflictSegments (commaList names) = names := by
  obtain ⟨name, names, rfl⟩ := List.exists_cons_of_ne_nil given
  have no_comma : ∀ n ∈ name :: names, ',' ∉ n.toList := fun n hn mem =>
    absurd (isPart_of_mem (isPlain_iff_plain.2 (plain n hn)) mem) (by decide)
  have whole (n : String) (hn : n ∈ name :: names) : Text.strip n = n := by
    rw [Text.strip, Text.stripChars, Text.trimBoth_of_forall (not_isBlank_of_plain (plain n hn)),
      String.ofList_toList]
  have behind (n : String) (hn : n ∈ names) :
      Text.strip (String.ofList (' ' :: n.toList)) = n := by
    rw [Text.strip, String.toList_ofList, Text.stripChars, Text.trimBoth_cons_of_skip (by decide)]
    exact whole n (List.mem_cons_of_mem _ hn)
  rw [conflictSegments, Text.segments, splitAtChar_commaList no_comma, List.map_map, List.map_cons,
    Function.comp, String.ofList_toList, whole name List.mem_cons_self, List.map_map]
  congr 1
  exact (List.map_congr_left behind).trans (List.map_id names)

/-- A target has at least one segment. -/
theorem conflictSegments_ne_nil (target : String) : conflictSegments target ≠ [] := by
  simpa [conflictSegments, Text.segments] using Text.splitAtChar_ne_nil ',' target.toList

/-- The check of one segment is about all of it: a segment has been stripped. -/
theorem isPlain_segment_iff {target segment : String} (h : segment ∈ conflictSegments target) :
    Name.isPlain (withoutFinalNewline segment.toList) = true ↔ Plain segment.toList := by
  obtain ⟨piece, -, rfl⟩ := List.mem_map.1 h
  exact isPlain_strip_iff piece

/-! ### Targets of statements -/

/-- A target that is not blank is split as it is. -/
theorem conflictText_text (rules : NameRules) {t : String} (h : Text.stripChars t.toList ≠ []) :
    rules.conflictText (.text t) = .ok t := by
  have given : t ≠ "" := by
    rintro rfl
    exact h rfl
  rw [conflictText, if_pos (by simpa [Value.truthy] using given)]
  simp only [List.isEmpty_iff, if_neg h]

/-- A target that is missing or blank stands for the default. -/
theorem conflictText_of_blank (rules : NameRules) {given : Value}
    (h : given = .null ∨ ∃ s : String, given = .text s ∧ Text.stripChars s.toList = []) :
    rules.conflictText given = .ok rules.defaultConflict := by
  rcases h with rfl | ⟨s, rfl, blank⟩
  · rfl
  · unfold conflictText
    split
    · simp only [blank, List.isEmpty_nil, if_true]
    · rfl

/-- What the check of a target answers, by its text. -/
theorem checkConflictTarget_of_conflictText {rules : NameRules} {given : Value} {text : String}
    (h : rules.conflictText given = .ok text) :
    rules.checkConflictTarget given =
      if ∀ segment ∈ conflictSegments text, Plain segment.toList then .ok (conflictSegments text)
      else .error (.rejected ("Invalid conflict target: " ++ given.display) (.text "on_conflict")
        given .invalidConflictTarget) := by
  have all : ((conflictSegments text).all fun segment =>
      Name.isPlain (withoutFinalNewline segment.toList)) = true
        ↔ ∀ segment ∈ conflictSegments text, Plain segment.toList := by
    rw [List.all_eq_true]
    exact forall₂_congr fun _ hs => isPlain_segment_iff hs
  rw [checkConflictTarget, h]
  exact if_congr all rfl rfl

/-- The list of plain names is a target that names them. -/
theorem checkConflictTarget_commaList (rules : NameRules) {names : List String} (given : names ≠ [])
    (plain : ∀ name ∈ names, Plain name.toList) :
    rules.checkConflictTarget (.text (commaList names)) = .ok names := by
  have segments := conflictSegments_commaList given plain
  have shown : Text.stripChars (commaList names).toList ≠ [] := by
    obtain ⟨name, hname⟩ := List.exists_mem_of_ne_nil names given
    obtain ⟨c, rest, spelling, -⟩ := plain name hname
    have mem : c ∈ (commaList names).toList := mem_commaList hname (spelling ▸ List.mem_cons_self)
    intro blank
    have skipped := Text.trimBoth_eq_nil_iff.1 blank c mem
    rw [not_isBlank_of_plain (plain name hname) c (spelling ▸ List.mem_cons_self)] at skipped
    cases skipped
  rw [checkConflictTarget_of_conflictText (conflictText_text rules shown), segments, if_pos plain]

/-- A target that passes names plain columns, at least one. -/
theorem plain_of_checkConflictTarget {rules : NameRules} {target : Value} {names : List String}
    (h : rules.checkConflictTarget target = .ok names) :
    names ≠ [] ∧ ∀ name ∈ names, Plain name.toList := by
  obtain ⟨text, read, -⟩ := bind_eq_ok.1 h
  rw [checkConflictTarget_of_conflictText read] at h
  split at h
  · rename_i plain
    cases h
    exact ⟨conflictSegments_ne_nil text, plain⟩
  · cases h

end NameRules

/-! ### Defaults in settings -/

namespace Settings

/-- A default passes when its segments are plain names, and is stored as their list. -/
theorem checkDefaultConflict_eq_ok_iff {given stored : String} :
    checkDefaultConflict given = .ok stored ↔
      (∀ segment ∈ NameRules.conflictSegments given, Plain segment.toList)
        ∧ stored = commaList (NameRules.conflictSegments given) := by
  rw [checkDefaultConflict]
  split
  · rename_i column found
    refine iff_of_false (fun h => by cases h) fun h => ?_
    have mem := List.mem_of_find?_eq_some found
    have bad := List.find?_some found
    rw [(NameRules.isPlain_segment_iff mem).2 (h.1 column mem)] at bad
    cases bad
  · rename_i none
    have plain : ∀ segment ∈ NameRules.conflictSegments given, Plain segment.toList := by
      intro segment hs
      have passed := List.find?_eq_none.1 none segment hs
      simpa [NameRules.isPlain_segment_iff hs] using passed
    rw [and_iff_right plain, Except.ok.injEq, eq_comm]
    rfl

/-- The default of settings that were read is the one given, as it is stored. -/
theorem checkDefaultConflict_of_ofFields {given : Fields} {settings : Settings} {v : String}
    (h : ofFields given = .ok settings)
    (named : given.get? "default_conflict_target" = some (.text v)) :
    checkDefaultConflict v = .ok settings.defaultConflict := by
  obtain ⟨⟨database, env, level, conflict, length⟩, read, rfl⟩ := map_eq_ok.1 h
  have stored := (Checked.and_eq_ok.1 (Checked.and_eq_ok.1 (Checked.and_eq_ok.1
    (Checked.and_eq_ok.1 read).2).2).2).1
  rw [Reader.optional, named] at stored
  exact Checked.under_eq_ok.1 stored

end Settings

/-! ### Normal forms -/

/-- **Conflict targets survive being written anew and split again.**

A default that settings accept is stored as the list of its segments.  What is stored passes the
same check unchanged, and it is what a target that is missing or blank stands for.

A target that passes names at least one column.  Its names are plain and have no blanks, and their
list passes with the same names, whatever rules are in force.

A target that is not blank is rejected if one of its segments is no plain name, and else names its
segments. -/
theorem NameRules.conflictTarget_normal :
    (∀ (given : Fields) (settings : Settings) (v : String),
      Settings.ofFields given = .ok settings →
      given.get? "default_conflict_target" = some (.text v) →
        Settings.readDefaultConflict (.text settings.defaultConflict)
            = .ok settings.defaultConflict
          ∧ ∀ blank : Value,
            (blank = .null ∨ ∃ s : String, blank = .text s ∧ Text.stripChars s.toList = []) →
              settings.nameRules.checkConflictTarget blank = .ok (conflictSegments v))
    ∧ (∀ (rules : NameRules) (target : Value) (names : List String),
      rules.checkConflictTarget target = .ok names →
        names ≠ []
          ∧ (∀ name ∈ names, Plain name.toList ∧ ∀ c ∈ name.toList, Text.isBlank c = false)
          ∧ ∀ others : NameRules, others.checkConflictTarget (.text (commaList names)) = .ok names)
    ∧ ∀ (rules : NameRules) (t : String), Text.stripChars t.toList ≠ [] →
        (rules.checkConflictTarget (.text t)
            = .error (.rejected ("Invalid conflict target: " ++ t) (.text "on_conflict") (.text t)
              .invalidConflictTarget)
          ↔ ∃ segment ∈ conflictSegments t, ¬ Plain segment.toList)
        ∧ ((∀ segment ∈ conflictSegments t, Plain segment.toList) →
          rules.checkConflictTarget (.text t) = .ok (conflictSegments t)) := by
  refine ⟨fun given settings v read named => ?_, fun rules target names passed => ?_,
    fun rules t shown => ?_⟩
  · have checked := Settings.checkDefaultConflict_of_ofFields read named
    obtain ⟨plain, stored⟩ := Settings.checkDefaultConflict_eq_ok_iff.1 checked
    have again := conflictSegments_commaList (conflictSegments_ne_nil v) plain
    rw [← stored] at again
    refine ⟨Settings.checkDefaultConflict_eq_ok_iff.2 ?_, fun blank missing => ?_⟩
    · rw [again]
      exact ⟨plain, stored⟩
    · have default : settings.nameRules.conflictText blank = .ok settings.defaultConflict :=
        conflictText_of_blank settings.nameRules missing
      rw [checkConflictTarget_of_conflictText default, again, if_pos plain]
  · obtain ⟨given, plain⟩ := plain_of_checkConflictTarget passed
    exact ⟨given, fun name hn => ⟨plain name hn, not_isBlank_of_plain (plain name hn)⟩,
      fun others => checkConflictTarget_commaList others given plain⟩
  · rw [checkConflictTarget_of_conflictText (conflictText_text rules shown)]
    constructor
    · split
      · rename_i plain
        refine iff_of_false (fun h => by cases h) ?_
        rintro ⟨segment, hs, other⟩
        exact other (plain segment hs)
      · rename_i other
        push Not at other
        exact iff_of_true rfl other
    · exact fun plain => if_pos plain

/-- A default with an em space and a line break around its columns is stored as `id, city_2`, a
target with a blank inside a name is rejected, and the others name their columns. -/
theorem NameRules.conflictTarget_normal_spaced :
    ∃ settings, Settings.ofFields [("default_conflict_target", .text "id\u2003,city_2\n")]
        = .ok settings
      ∧ settings.defaultConflict = "id, city_2"
      ∧ Settings.readDefaultConflict (.text settings.defaultConflict)
        = .ok settings.defaultConflict
      ∧ settings.nameRules.checkConflictTarget (.text " ") = .ok ["id", "city_2"]
      ∧ settings.nameRules.checkConflictTarget (.text "a,b") = .ok ["a", "b"]
      ∧ settings.nameRules.checkConflictTarget (.text "a, b") = .ok ["a", "b"]
      ∧ settings.nameRules.checkConflictTarget (.text "a b")
        = .error (.rejected "Invalid conflict target: a b" (.text "on_conflict") (.text "a b")
          .invalidConflictTarget) := by
  obtain ⟨normal, passed, rejected⟩ := conflictTarget_normal
  have read : Settings.ofFields [("default_conflict_target", .text "id\u2003,city_2\n")]
      = .ok { Settings.default with defaultConflict := "id, city_2" } := by rfl
  obtain ⟨stored, missing⟩ := normal _ _ _ read rfl
  have target : (Settings.nameRules ⟨DatabaseSettings.default, "dev", "INFO", "id, city_2",
      63⟩).checkConflictTarget (.text "a,b") = .ok ["a", "b"] := by rfl
  refine ⟨_, read, rfl, stored, ?_, target, ?_, ?_⟩
  · exact (missing (.text " ") (.inr ⟨" ", rfl, by decide⟩)).trans (by rfl)
  · exact (passed _ _ _ target).2.2 _
  · exact (rejected _ "a b" (by decide)).1.2 ⟨"a b", by decide, by decide⟩

end QueryChain
