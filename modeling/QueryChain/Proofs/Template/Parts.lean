import Mathlib.Data.List.TakeWhile
import QueryChain.Placeholder.Style
import QueryChain.Proofs.Statement.Name
import QueryChain.Template.Fill

/-!
# Templates filled part by part

A directive is bare when it has neither flags nor sizes and its letter is an `s`: it shows its
argument as it is.  A template whose directives are bare can be filled without showing its
arguments: what comes out is a list of characters and arguments, and their texts, joined, are the
filled template.  Reading a template stops at its percent signs only, so that the parts are found
from left to right, one character or directive after the other.

## Main definitions

* `Template.Part` — a character or an argument, and its text.
* `Template.Directive.showing`, `Template.Directive.isBare` — bare directives.
* `Template.fillParts` — the parts of the pieces of a template, with bound parameters for arguments.

## Main results

* `Template.piecesOf_append`, `Template.piecesOf_of_notMem` — the pieces of a text up to its first
  percent sign, and of one without.
* `Template.fillParts_char`, `Template.fillParts_doubled`, `Template.fillParts_next`,
  `Template.fillParts_keyed` — the parts of a template, from left to right.
* `Template.fill_of_fillParts` — a template that is filled part by part is filled.
-/

set_option relaxedAutoImplicit false
set_option autoImplicit false

namespace QueryChain.Template

/-- A part of a filled template: a character, or an argument. -/
inductive Part where
  | char (c : Char)
  | value (v : Value)
deriving Repr

namespace Part

/-- The argument of a part. -/
def value? : Part → Option Value
  | char _ => none
  | value v => some v

/-- The text of a part: a character, or the text that an argument is displayed with. -/
def text : Part → String
  | char c => String.singleton c
  | value v => v.display

end Part

variable {total position : Nat} {cs rest : List Char} {v : Value}

namespace Directive

/-- The directive that shows its argument as it is. -/
def showing (key : Option String) (position : Nat) : Directive :=
  ⟨key, flagsOf [], .unset, .unset, some ('s', position)⟩

/-- Whether a directive is bare, whatever its key and its position are. -/
def isBare (d : Directive) : Bool :=
  d.flags = flagsOf [] ∧ d.width = .unset ∧ d.precision = .unset ∧ d.letter.map Prod.fst = some 's'

/-- A bare directive shows its argument as it is. -/
theorem eq_showing {d : Directive} (h : d.isBare = true) :
    ∃ position, d = showing d.key position := by
  obtain ⟨key, flags, width, precision, letter⟩ := d
  obtain ⟨rfl, rfl, rfl, shows⟩ := of_decide_eq_true h
  obtain ⟨⟨letter, position⟩, rfl, rfl⟩ := Option.map_eq_some_iff.1 shows
  exact ⟨position, rfl⟩

end Directive

/-- The parts of pieces, with bound parameters for arguments.  Directives have to be bare.
Parameters that are bound in order are taken one after the other, and all of them; parameters under
keys are looked up. -/
def fillParts : BoundParams → List Piece → Option (List Part)
  | .positional (_ :: _), [] => none
  | _, [] => some []
  | bound, .text s :: pieces => (fillParts bound pieces).map (s.toList.map .char ++ ·)
  | .positional (v :: vs), .directive d :: pieces =>
    if d.isBare ∧ d.key = none then (fillParts (.positional vs) pieces).map (.value v :: ·)
    else none
  | .named fields, .directive d :: pieces =>
    if d.isBare then do
      let v ← d.key.bind fields.get?
      return .value v :: (← fillParts (.named fields) pieces)
    else none
  | _, _ => none

/-! ### Reading -/

/-- A text without a percent sign is a piece. -/
theorem piecesOf_of_notMem (h : '%' ∉ cs) : piecesOf total cs = [.text (String.ofList cs)] := by
  have through : cs.dropWhile (· ≠ '%') = [] :=
    List.dropWhile_eq_nil_iff.2 fun c hc => by simpa using fun same : c = '%' => h (same ▸ hc)
  rw [piecesOf]
  split
  · rfl
  · rename_i stops
    rw [through] at stops
    cases stops

/-- The pieces of a text with a percent sign: what stands in front of the first one, its directive,
and the pieces behind. -/
theorem piecesOf_append (h : '%' ∉ cs) : piecesOf total (cs ++ '%' :: rest)
    = .text (String.ofList cs) :: (readDirective total rest).1
      :: piecesOf total (readDirective total rest).2 := by
  have ordinary : ∀ c ∈ cs, decide (c ≠ '%') = true := fun c hc => by
    simpa using fun same : c = '%' => h (same ▸ hc)
  have behind : (cs ++ '%' :: rest).dropWhile (· ≠ '%') = '%' :: rest := by
    rw [List.dropWhile_append_of_pos ordinary]
    rfl
  have front : (cs ++ '%' :: rest).takeWhile (· ≠ '%') = cs := by
    rw [List.takeWhile_append_of_pos ordinary]
    exact List.append_nil cs
  rw [piecesOf]
  split
  · rename_i through
    rw [behind] at through
    cases through
  · rename_i stops
    rw [behind] at stops
    cases stops
    rw [front]

/-- The pieces of a text that starts with a percent sign. -/
theorem piecesOf_percent : piecesOf total ('%' :: rest)
    = .text "" :: (readDirective total rest).1 :: piecesOf total (readDirective total rest).2 :=
  piecesOf_append List.not_mem_nil

/-- A second percent sign stands for one in the text. -/
theorem readDirective_percent : readDirective total ('%' :: rest) = (.text "%", rest) := rfl

/-- A bare directive behind its key. -/
theorem readKeyed_showing (key : Option String) : readKeyed total key ('s' :: rest)
    = (.directive (Directive.showing key (total - rest.length - 1)), rest) := rfl

/-- A bare directive without a key. -/
theorem readDirective_next : readDirective total ('s' :: rest)
    = (.directive (Directive.showing none (total - rest.length - 1)), rest) := rfl

/-- A key without brackets is read up to the bracket that closes it. -/
theorem readKey_append {key : List Char} (opens : '(' ∉ key) (closes : ')' ∉ key) :
    readKey 0 (key ++ ')' :: rest) = some (key, rest) := by
  induction key with
  | nil => rfl
  | cons c key ih =>
    rw [List.mem_cons, not_or] at opens closes
    rw [List.cons_append, readKey, if_neg (Ne.symm closes.1), if_neg (Ne.symm opens.1),
      ih opens.2 closes.2]
    rfl

/-- A bare directive with a key. -/
theorem readDirective_keyed {key : List Char} (opens : '(' ∉ key) (closes : ')' ∉ key) :
    readDirective total ('(' :: (key ++ ')' :: 's' :: rest))
      = (.directive (Directive.showing (some (String.ofList key)) (total - rest.length - 1)),
        rest) := by
  rw [readDirective, readKey_append opens closes]
  exact readKeyed_showing _

/-! ### Filling -/

/-- A text that is shown as it is. -/
theorem pad_plain (s : String) : pad false false 0 (.plain s) = s := by
  simp [pad, Shown.plain]

/-- A bare directive without a key shows the next argument. -/
theorem fillDirective_next (args : Arguments) :
    fillDirective (Directive.showing none position) args
      = args.next.map fun (v, left) => (v.display, left) := by
  have shown : fillDirective (Directive.showing none position) args
      = args.next.bind fun taken => .ok (pad false false 0 (.plain taken.1.display), taken.2) := rfl
  simp only [shown, pad_plain]
  cases args.next <;> rfl

/-- A bare directive with a key shows what is found under it. -/
theorem fillDirective_keyed {args found : Arguments} {key : String}
    (h : args.lookUp key = .ok found) :
    fillDirective (Directive.showing (some key) position) args
      = fillDirective (Directive.showing none position) found := by
  have looked : fillDirective (Directive.showing (some key) position) args
      = (args.lookUp key).bind (fillDirective (Directive.showing none position)) := rfl
  rw [looked, h]
  rfl

/-! ### Part by part -/

section Parts

variable {bound : BoundParams} {c : Char} {pieces : List Piece}

/-- A text is filled character by character. -/
theorem fillParts_text (s : String) : fillParts bound (.text s :: pieces)
    = (fillParts bound pieces).map (s.toList.map .char ++ ·) := by
  rcases bound with (_ | ⟨v, vs⟩) | fields <;> rfl

/-- A character that is no percent sign is a part. -/
theorem fillParts_char (other : c ≠ '%') : fillParts bound (piecesOf total (c :: rest))
    = (fillParts bound (piecesOf total rest)).map (.char c :: ·) := by
  have longer (cs : List Char) (pieces : List Piece) :
      fillParts bound (.text (String.ofList (c :: cs)) :: pieces)
        = (fillParts bound (.text (String.ofList cs) :: pieces)).map (.char c :: ·) := by
    simp [fillParts_text, Function.comp_def]
  have starts {cs : List Char} (h : '%' ∉ cs) : '%' ∉ c :: cs := by
    rw [List.mem_cons, not_or]
    exact ⟨Ne.symm other, h⟩
  -- the pieces of both texts differ only in the text in front of the first percent sign
  by_cases percent : '%' ∈ rest
  · obtain ⟨before, after, rfl, ordinary⟩ := List.eq_append_cons_of_mem percent
    rw [piecesOf_append ordinary, ← List.cons_append, piecesOf_append (starts ordinary), longer]
  · rw [piecesOf_of_notMem percent, piecesOf_of_notMem (starts percent), longer]

/-- At a percent sign, what is read behind it is filled. -/
theorem fillParts_percent : fillParts bound (piecesOf total ('%' :: rest))
    = fillParts bound ((readDirective total rest).1
      :: piecesOf total (readDirective total rest).2) := by
  rw [piecesOf_percent, fillParts_text]
  cases fillParts bound _ <;> rfl

/-- A doubled percent sign is one character. -/
theorem fillParts_doubled : fillParts bound (piecesOf total ('%' :: '%' :: rest))
    = (fillParts bound (piecesOf total rest)).map (.char '%' :: ·) := by
  rw [fillParts_percent, readDirective_percent]
  exact fillParts_text "%"

/-- A bare directive without a key takes the next parameter. -/
theorem fillParts_next {vs : List Value} :
    fillParts (.positional (v :: vs)) (piecesOf total ('%' :: 's' :: rest))
      = (fillParts (.positional vs) (piecesOf total rest)).map (.value v :: ·) := by
  rw [fillParts_percent, readDirective_next, fillParts]
  exact if_pos ⟨rfl, rfl⟩

/-- A bare directive with a key takes the parameter under it. -/
theorem fillParts_keyed {fields : Fields} {key : List Char} (opens : '(' ∉ key) (closes : ')' ∉ key)
    (found : fields.get? (String.ofList key) = some v) :
    fillParts (.named fields) (piecesOf total ('%' :: '(' :: (key ++ ')' :: 's' :: rest)))
      = (fillParts (.named fields) (piecesOf total rest)).map (.value v :: ·) := by
  have looked : (some (String.ofList key)).bind fields.get? = some v := found
  rw [fillParts_percent, readDirective_keyed opens closes, fillParts]
  simp only [Directive.showing, looked]
  cases fillParts (.named fields) (piecesOf total rest) <;> rfl

end Parts

/-! ### The filled template -/

namespace Arguments

/-- Arguments of a template that stand for bound parameters.  Those under keys can still be asked
for after one of them was taken. -/
def StandFor (args : Arguments) : BoundParams → Prop
  | .positional values => args = ⟨.row values, none⟩
  | .named fields => args.keyed = some fields.toValue

/-- Bound parameters as a value are arguments that stand for them. -/
theorem standFor_ofValue (bound : BoundParams) : (ofValue bound.toValue).StandFor bound := by
  cases bound <;> rfl

end Arguments

/-- A field is found under its name in the mapping of the fields. -/
theorem get?_toValue (fields : Fields) (name : String) :
    Value.Entries.get? (fields.map fun field => (.text field.1, field.2)) (.text name)
      = fields.get? name := by
  induction fields with
  | nil => rfl
  | cons field fields ih =>
    have equal : (Value.text field.1).sameKey (.text name) = (name == field.1) := by
      simp [Value.sameKey, Value.sameAtom, Bool.beq_comm]
    have later : (List.find? (fun entry => entry.1.sameKey (.text name))
        (fields.map fun field => (Value.text field.1, field.2))).map Prod.snd
          = fields.lookup name := ih
    rw [Value.Entries.get?, List.map_cons, List.find?_cons, equal, Fields.get?, List.lookup_cons]
    cases name == field.1 with
    | true => rfl
    | false => exact later

/-- The characters of a text are its parts. -/
theorem join_characters (s : String) :
    String.join ((s.toList.map Part.char).map Part.text) = s := by
  rw [← String.toList_inj, String.toList_join]
  simp [List.flatMap_map, Part.text]

variable {bound : BoundParams} {args : Arguments} {pieces : List Piece} {parts : List Part}

/-- Nothing is left over when every parameter has been used that has to be. -/
theorem finish_of_fillParts (stands : args.StandFor bound)
    (filled : fillParts bound [] = some parts) : args.finish = .ok () ∧ parts = [] := by
  rcases bound with (_ | ⟨v, vs⟩) | fields
  · cases filled
    cases stands
    exact ⟨rfl, rfl⟩
  · cases filled
  · cases filled
    obtain ⟨supply, keyed⟩ := args
    obtain rfl : keyed = some fields.toValue := stands
    rcases supply with (_ | _) | (_ | _) <;> exact ⟨rfl, rfl⟩

/-- A directive that is filled takes a parameter, and the arguments that it leaves stand for the
parameters that are left. -/
theorem exists_fillDirective {d : Directive} (stands : args.StandFor bound)
    (filled : fillParts bound (.directive d :: pieces) = some parts) :
    ∃ (v : Value) (left : Arguments) (others : BoundParams) (rest : List Part),
      fillDirective d args = .ok (v.display, left) ∧ left.StandFor others
        ∧ fillParts others pieces = some rest ∧ parts = .value v :: rest := by
  rcases bound with (_ | ⟨v, vs⟩) | fields
  · cases filled
  · obtain ⟨⟨bare, unkeyed⟩, rest, later, rfl⟩ :
        (d.isBare ∧ d.key = none) ∧ ∃ rest, fillParts (.positional vs) pieces = some rest
          ∧ .value v :: rest = parts := by
      rw [fillParts] at filled
      split at filled
      · rename_i next
        exact ⟨next, Option.map_eq_some_iff.1 filled⟩
      · cases filled
    obtain ⟨position, shows⟩ := Directive.eq_showing bare
    rw [unkeyed] at shows
    cases stands
    refine ⟨v, ⟨.row vs, none⟩, .positional vs, rest, ?_, rfl, later, rfl⟩
    rw [shows, fillDirective_next]
    rfl
  · rw [fillParts] at filled
    split at filled
    · rename_i bare
      obtain ⟨v, found, filled⟩ := Option.bind_eq_some_iff.1 filled
      obtain ⟨rest, later, e⟩ := Option.bind_eq_some_iff.1 filled
      cases e
      obtain ⟨key, keyed, found⟩ := Option.bind_eq_some_iff.1 found
      obtain ⟨position, shows⟩ := Directive.eq_showing bare
      have looked : args.lookUp key = .ok { args with supply := .single (some v) } := by
        have mapping : args.keyed = some fields.toValue := stands
        rw [Arguments.lookUp, mapping, Fields.toValue]
        simp only [get?_toValue, found]
      refine ⟨v, ⟨.single none, args.keyed⟩, .named fields, rest, ?_, stands, later, rfl⟩
      rw [shows, keyed, fillDirective_keyed looked, fillDirective_next]
      rfl
    · cases filled

/-- The texts that the pieces of a template are filled with are those of its parts. -/
theorem exists_fillPieces (stands : args.StandFor bound)
    (filled : fillParts bound pieces = some parts) : ∃ texts, fillPieces args pieces = .ok texts
      ∧ String.join texts = String.join (parts.map Part.text) := by
  induction pieces generalizing bound args parts with
  | nil =>
    obtain ⟨finished, rfl⟩ := finish_of_fillParts stands filled
    refine ⟨[], ?_, rfl⟩
    rw [fillPieces, finished]
    rfl
  | cons piece pieces ih =>
    cases piece with
    | text s =>
      rw [fillParts_text] at filled
      obtain ⟨rest, later, rfl⟩ := Option.map_eq_some_iff.1 filled
      obtain ⟨texts, run, joined⟩ := ih stands later
      refine ⟨s :: texts, ?_, ?_⟩
      · rw [fillPieces, run]
        rfl
      · rw [List.map_append, String.join_append, join_characters, String.join_cons, joined]
    | directive d =>
      obtain ⟨v, left, others, rest, taken, stands, later, rfl⟩ :=
        exists_fillDirective stands filled
      obtain ⟨texts, run, joined⟩ := ih stands later
      refine ⟨v.display :: texts, ?_, ?_⟩
      · rw [fillPieces, taken]
        exact bind_eq_ok.2 ⟨_, rfl, bind_eq_ok.2 ⟨texts, run, rfl⟩⟩
      · rw [List.map_cons, String.join_cons, String.join_cons, joined]
        rfl
    | openKey => rcases bound with (_ | ⟨v, vs⟩) | fields <;> cases filled

/-- **A template that is filled part by part is filled**: with the texts of its parts, joined. -/
theorem fill_of_fillParts {text : String}
    (filled : fillParts bound (Template.pieces text) = some parts) :
    fill text bound.toValue = .ok (String.join (parts.map Part.text)) := by
  obtain ⟨texts, run, joined⟩ := exists_fillPieces (Arguments.standFor_ofValue bound) filled
  rw [fill, run, ← joined]
  rfl

end QueryChain.Template
