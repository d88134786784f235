import Mathlib.Data.List.Forall2
import QueryChain.Proofs.Statement.Numbering

/-!
# Reading two layouts in step

Two lists of pieces with the same text and with values that correspond to each other can be read
side by side, from left to right.  What both start with is taken off, names are told apart by the
fence behind them, and clauses by the word that leads them.

## Main definitions

* `Piece.Agree` — the same text, and values in correspondence.
* `Piece.Stops` — nothing follows, or a fence.
* `Piece.apart`, `Piece.Leads` — words of which none starts the other, and what starts with one of
  given words.

## Main results

* `Piece.Agree.word` — a name is read to its end on both sides.
* `Piece.Agree.not_apart` — words that are told apart cannot start the same text.
* `Piece.Agree.joined` — lists with separators are read element by element.
-/

set_option relaxedAutoImplicit false
set_option autoImplicit false

namespace QueryChain.Piece

/-- Two lists of pieces have the same text, behind as many bound values, and their values
correspond. -/
def Agree (E : Value → Value → Prop) (ps qs : List Piece) : Prop :=
  ∃ k, (write Binder.dollarMark k ps).toList = (write Binder.dollarMark k qs).toList
    ∧ List.Forall₂ E (values ps) (values qs)

/-- The text of pieces is empty or starts with a fence, however many values are bound before. -/
def Stops (ps : List Piece) : Prop :=
  ∀ k, ∀ c ∈ (write Binder.dollarMark k ps).toList.head?, isFence c = true

/-- Neither of two words starts the other. -/
def apart (s t : String) : Bool :=
  !s.toList.isPrefixOf t.toList && !t.toList.isPrefixOf s.toList

/-- The text of pieces is empty, or they start with one of given words. -/
def Leads (words : List String) (ps : List Piece) : Prop :=
  (∀ k, write Binder.dollarMark k ps = "") ∨ ∃ w ∈ words, ∃ rest, ps = verbatim w :: rest

variable {E : Value → Value → Prop} {ps qs : List Piece} {s t : String} {v w : Value}

/-! ### Taking off what both start with -/

namespace Agree

/-- The two sides change places. -/
theorem symm (h : Agree E ps qs) : Agree (fun v w => E w v) qs ps := by
  obtain ⟨k, text, params⟩ := h
  exact ⟨k, text.symm, params.flip⟩

/-- The same verbatim text on both sides. -/
theorem of_verbatim (h : Agree E (verbatim s :: ps) (verbatim s :: qs)) : Agree E ps qs := by
  obtain ⟨k, text, params⟩ := h
  rw [write, write, String.toList_append, String.toList_append] at text
  exact ⟨k, List.append_cancel_left text, params⟩

/-- A value on each side. -/
theorem of_value (h : Agree E (value v :: ps) (value w :: qs)) : E v w ∧ Agree E ps qs := by
  obtain ⟨k, text, params⟩ := h
  rw [write, write, String.toList_append, String.toList_append] at text
  obtain ⟨first, rest⟩ := List.forall₂_cons.1 params
  exact ⟨first, k + 1, List.append_cancel_left text, rest⟩

/-- The same pieces on both sides. -/
theorem cancel (xs : List Piece) (h : Agree E (xs ++ ps) (xs ++ qs)) : Agree E ps qs := by
  induction xs with
  | nil => exact h
  | cons x xs ih =>
    cases x with
    | verbatim s => exact ih h.of_verbatim
    | value v => exact ih h.of_value.2

/-- A verbatim piece may be taken apart. -/
theorem split (h : Agree E (.verbatim (s ++ t) :: ps) qs) :
    Agree E (.verbatim s :: .verbatim t :: ps) qs := by
  obtain ⟨k, text, params⟩ := h
  rw [write, String.append_assoc] at text
  exact ⟨k, text, params⟩

end Agree

/-! ### Names and fences -/

/-- Two texts are taken apart at the first character of a kind. -/
theorem append_inj_of_stop {p : Char → Bool} {xs ys rs ts : List Char}
    (hx : ∀ c ∈ xs, p c = false) (hy : ∀ c ∈ ys, p c = false) (hr : ∀ c ∈ rs.head?, p c = true)
    (ht : ∀ c ∈ ts.head?, p c = true) (h : xs ++ rs = ys ++ ts) : xs = ys ∧ rs = ts := by
  have inside {zs us : List Char} {c : Char} (hc : p c = false)
      (hu : ∀ d ∈ us.head?, p d = true) (e : us = c :: zs) : False := by
    rw [hu c (e ▸ rfl)] at hc
    cases hc
  induction xs generalizing ys with
  | nil =>
    cases ys with
    | nil => exact ⟨rfl, h⟩
    | cons y ys => exact (inside (hy y List.mem_cons_self) hr h).elim
  | cons x xs ih =>
    cases ys with
    | nil => exact (inside (hx x List.mem_cons_self) ht h.symm).elim
    | cons y ys =>
      obtain ⟨rfl, rest⟩ := List.cons.inj h
      obtain ⟨rfl, same⟩ := ih (fun c hc => hx c (List.mem_cons_of_mem _ hc))
        (fun c hc => hy c (List.mem_cons_of_mem _ hc)) rest
      exact ⟨rfl, same⟩

/-- What closes stops. -/
theorem stops_of_closes (h : closes ps = true) : Stops ps := fun _ => isFence_of_closes h

/-- A word without a fence in it. -/
def isWord (s : String) : Bool := s.toList.all fun c => !isFence c

/-- A word has no fence. -/
theorem not_isFence_of_isWord (h : isWord s = true) : ∀ c ∈ s.toList, isFence c = false :=
  fun c hc => by simpa using List.all_eq_true.1 h c hc

/-- A name is read to the fence behind it. -/
theorem Agree.word (hs : isWord s = true) (ht : isWord t = true) (hp : Stops ps) (hq : Stops qs)
    (h : Agree E (.verbatim s :: ps) (.verbatim t :: qs)) : s = t ∧ Agree E ps qs := by
  obtain ⟨k, text, params⟩ := h
  rw [write, write, String.toList_append, String.toList_append] at text
  obtain ⟨same, rest⟩ := append_inj_of_stop (not_isFence_of_isWord hs) (not_isFence_of_isWord ht)
    (hp k) (hq k) text
  exact ⟨String.toList_injective same, k, rest, params⟩

/-! ### Words that are told apart -/

/-- Words that are told apart cannot start the same text. -/
theorem Agree.not_apart (h : Agree E (.verbatim s :: ps) (.verbatim t :: qs)) :
    apart s t = false := by
  obtain ⟨k, text, -⟩ := h
  rw [write, write, String.toList_append, String.toList_append] at text
  have ht : t.toList <+: s.toList ++ (write Binder.dollarMark k ps).toList :=
    text ▸ List.prefix_append _ _
  rcases List.prefix_or_prefix_of_prefix (List.prefix_append _ _) ht with h | h
  · simp [apart, List.isPrefixOf_iff_prefix.2 h]
  · simp [apart, List.isPrefixOf_iff_prefix.2 h]

/-- What starts with a word has a text. -/
theorem Agree.not_empty (hs : s ≠ "") (h : Agree E ps (.verbatim s :: qs)) :
    ¬ ∀ k, write Binder.dollarMark k ps = "" := by
  intro empty
  obtain ⟨k, text, -⟩ := h
  rw [empty k, write, String.toList_append] at text
  have none_left := (List.append_eq_nil_iff.1 text.symm).1
  exact hs (String.toList_injective none_left)

namespace Leads

variable {words : List String}

/-- Nothing at all. -/
theorem nil : Leads words [] := .inl fun _ => rfl

/-- A word that is one of them. -/
theorem cons (h : s ∈ words) : Leads words (verbatim s :: ps) := .inr ⟨s, h, ps, rfl⟩

/-- More words to start with. -/
theorem mono {more : List String} (sub : ∀ w ∈ words, w ∈ more) (h : Leads words ps) :
    Leads more ps := by
  rcases h with h | ⟨w, hw, rest, rfl⟩
  · exact .inl h
  · exact cons (sub w hw)

/-- Words that start with a fence stop. -/
theorem stops (fenced : words.all (fun w => w.toList.head?.any isFence) = true)
    (h : Leads words ps) : Stops ps := by
  intro k c hc
  rcases h with h | ⟨w, hw, rest, rfl⟩
  · rw [h k] at hc
    cases hc
  · have first := List.all_eq_true.1 fenced w hw
    rw [write, String.toList_append] at hc
    cases hw : w.toList with
    | nil =>
      rw [hw] at first
      cases first
    | cons d rest =>
      rw [hw] at first hc
      cases hc
      exact first

/-- A word that is told apart from all of them starts something else. -/
theorem not_agree (other : words.all (fun w => apart w s) = true) (hs : s ≠ "")
    (hp : Leads words ps) (h : Agree E ps (verbatim s :: qs)) : False := by
  rcases hp with hp | ⟨w, hw, rest, rfl⟩
  · exact h.not_empty hs hp
  · have told := List.all_eq_true.1 other w hw
    rw [h.not_apart] at told
    cases told

end Leads

/-! ### Lists with separators -/

/-- What follows the first of several joined lists. -/
def afterFirst (sep : String) (pss : List (List Piece)) (tail : List Piece) : List Piece :=
  if pss = [] then tail else verbatim sep :: (joined sep pss ++ tail)

/-- Joined lists are the first one and what follows it. -/
theorem joined_cons_append (sep : String) (ps : List Piece) (pss : List (List Piece))
    (tail : List Piece) : joined sep (ps :: pss) ++ tail = ps ++ afterFirst sep pss tail := by
  cases pss with
  | nil => rfl
  | cons qs qss => simp [joined, afterFirst]

/-- **Lists with separators are read element by element**, if each element is, and if the separator
is told apart from what may follow the lists.

**Proof sketch.**  By induction on the first list.  The step reads one element on both sides; then a
separator follows on both sides or on neither, since it is told apart from the tails. -/
theorem Agree.joined {α : Type} (f : α → List Piece) (sep : String) (words : List String)
    {R : α → α → Prop} (told : words.all (fun w => apart w sep) = true) (hsep : sep ≠ "")
    {as bs : List α} (has : as ≠ []) (hbs : bs ≠ [])
    (step : ∀ a ∈ as, ∀ b ∈ bs, ∀ ps qs : List Piece, Leads (sep :: words) ps →
      Leads (sep :: words) qs → Agree E (f a ++ ps) (f b ++ qs) → R a b ∧ Agree E ps qs)
    (hp : Leads words ps) (hq : Leads words qs)
    (h : Agree E (joined sep (as.map f) ++ ps) (joined sep (bs.map f) ++ qs)) :
    List.Forall₂ R as bs ∧ Agree E ps qs := by
  have follows (cs : List α) {tail : List Piece} (ht : Leads words tail) :
      Leads (sep :: words) (afterFirst sep (cs.map f) tail) := by
    unfold afterFirst
    split
    · exact ht.mono fun w hw => List.mem_cons_of_mem _ hw
    · exact Leads.cons List.mem_cons_self
  induction as generalizing bs with
  | nil => exact absurd rfl has
  | cons a as ih =>
    cases bs with
    | nil => exact absurd rfl hbs
    | cons b bs =>
      rw [List.map_cons, List.map_cons, joined_cons_append, joined_cons_append] at h
      obtain ⟨first, rest⟩ := step a List.mem_cons_self b List.mem_cons_self _ _ (follows as hp)
        (follows bs hq) h
      cases as with
      | nil =>
        cases bs with
        | nil => exact ⟨.cons first .nil, rest⟩
        | cons b' bs => exact (hp.not_agree told hsep rest).elim
      | cons a' as =>
        cases bs with
        | nil => exact (hq.not_agree told hsep rest.symm).elim
        | cons b' bs =>
          obtain ⟨others, tails⟩ := ih (by simp) (by simp)
            (fun x hx y hy => step x (List.mem_cons_of_mem _ hx) y (List.mem_cons_of_mem _ hy))
            rest.of_verbatim
          exact ⟨.cons first others, tails⟩

end QueryChain.Piece
