import QueryChain.Sorting.Sort

/-!
# Sorting fails only when comparing does

Sorting asks for the order of elements of the list and of nothing else, so that it succeeds whenever
the order of any two elements is known.  The proof follows the algorithm: each step keeps to the
elements that it was given.

## Main definitions

* `Sorting.Gives` — a computation succeeds with a result of a kind.
* `Sorting.Merging.All` — all elements of two runs that are being merged have a property.

## Main results

* `Sorting.gallop_succeeds` — searching succeeds if every question is answered.
* `Sorting.merge_gives`, `Sorting.insertAll_gives`, `Sorting.takeRuns_gives` — the steps of sorting.
* `Sorting.exists_of_sort_eq_error` — a failed sorting has two elements that cannot be compared.
-/

set_option relaxedAutoImplicit false
set_option autoImplicit false

namespace QueryChain.Sorting

variable {ε α β γ : Type}

/-- A computation succeeds, and its result has a property. -/
def Gives (x : Except ε β) (Q : β → Prop) : Prop := ∃ b, x = .ok b ∧ Q b

namespace Gives

variable {x : Except ε β} {Q : β → Prop} {R : γ → Prop}

/-- A result. -/
theorem ok {b : β} (h : Q b) : Gives (.ok b : Except ε β) Q := ⟨b, rfl, h⟩

/-- A success. -/
theorem of_exists (h : ∃ b, x = .ok b) : Gives x fun _ => True := by
  obtain ⟨b, hb⟩ := h
  exact ⟨b, hb, trivial⟩

/-- A result that is changed. -/
theorem map {f : β → γ} (h : Gives x Q) (hf : ∀ b, Q b → R (f b)) : Gives (x.map f) R := by
  obtain ⟨b, rfl, hb⟩ := h
  exact ⟨f b, rfl, hf b hb⟩

/-- One computation after the other. -/
theorem bind {f : β → Except ε γ} (h : Gives x Q) (hf : ∀ b, Q b → Gives (f b) R) :
    Gives (x >>= f) R := by
  obtain ⟨b, rfl, hb⟩ := h
  exact hf b hb

end Gives

/-- A success that is changed. -/
theorem map_succeeds {x : Except ε β} (f : β → γ) (h : ∃ b, x = .ok b) : ∃ c, x.map f = .ok c := by
  obtain ⟨b, rfl⟩ := h
  exact ⟨f b, rfl⟩

/-! ### Searching -/

section Search

variable {below : Nat → Except ε Bool}

/-- Bisection succeeds if every question is answered. -/
theorem bisect_succeeds (h : ∀ i, ∃ b, below i = .ok b) (low high : Nat) :
    ∃ n, bisect below low high = .ok n := by
  fun_induction bisect below low high with
  | case1 low high lt e he =>
    obtain ⟨b, hb⟩ := h (low + (high - low) / 2)
    rw [he] at hb
    cases hb
  | case2 low high lt hb ih => exact ih
  | case3 low high lt hb ih => exact ih
  | case4 low high lt => exact ⟨low, rfl⟩

/-- Striding succeeds if every question is answered. -/
theorem stride_succeeds (h : ∀ i, ∃ b, below i = .ok b) (limit last distance : Nat) :
    ∃ n, stride below limit last distance = .ok n := by
  fun_induction stride below limit last distance with
  | case1 last distance lt e he =>
    obtain ⟨b, hb⟩ := h distance
    rw [he] at hb
    cases hb
  | case2 last distance lt hb ih => exact ih
  | case3 last distance lt hb => exact ⟨_, rfl⟩
  | case4 last distance lt => exact ⟨_, rfl⟩

/-- Galloping succeeds if every question is answered. -/
theorem gallop_succeeds (h : ∀ i, ∃ b, below i = .ok b) (count start : Nat) :
    ∃ n, gallop below count start = .ok n := by
  have onwards : ∀ d, ∃ b, below (start + d) = .ok b := fun d => h (start + d)
  have backwards : ∀ d, ∃ b, (below (start - d)).map (!·) = .ok b :=
    fun d => map_succeeds _ (h (start - d))
  obtain ⟨first, hfirst⟩ := h start
  unfold gallop
  rw [hfirst]
  cases first with
  | true =>
    obtain ⟨⟨last, distance⟩, found⟩ := stride_succeeds onwards (count - start) 0 1
    simp only [found]
    exact bisect_succeeds h _ _
  | false =>
    obtain ⟨⟨last, distance⟩, found⟩ := stride_succeeds backwards (start + 1) 0 1
    simp only [found]
    exact bisect_succeeds h _ _

end Search

/-! ### Elements that can be compared -/

variable {P : α → Prop}

/-- What is found at a position, or stands in for it, has the property. -/
theorem getD_of_forall {run : Array α} {key : α} (hkey : P key) (hrun : ∀ x ∈ run, P x) (i : Nat) :
    P (run.getD i key) := by
  unfold Array.getD
  split
  · exact hrun _ (Array.getElem_mem _)
  · exact hkey

namespace Merging

/-- All elements of two runs that are being merged have a property. -/
structure All (P : α → Prop) (m : Merging α) : Prop where
  left : ∀ x ∈ m.left, P x
  right : ∀ x ∈ m.right, P x
  merged : ∀ x ∈ m.merged, P x

variable {m : Merging α}

/-- Moving elements of the left run brings no others in. -/
theorem All.takeLeft (h : m.All P) (count : Nat) : (m.takeLeft count).All P where
  left x hx := h.left x (List.mem_of_mem_drop hx)
  right := h.right
  merged x hx := by
    rcases List.mem_append.1 hx with hx | hx
    · exact h.left x (List.mem_of_mem_take (List.mem_reverse.1 hx))
    · exact h.merged x hx

/-- Moving elements of the right run brings no others in. -/
theorem All.takeRight (h : m.All P) (count : Nat) : (m.takeRight count).All P where
  left := h.left
  right x hx := h.right x (List.mem_of_mem_drop hx)
  merged x hx := by
    rcases List.mem_append.1 hx with hx | hx
    · exact h.right x (List.mem_of_mem_take (List.mem_reverse.1 hx))
    · exact h.merged x hx

/-- The merged run has no other elements. -/
theorem All.finish (h : m.All P) : ∀ x ∈ m.finish, P x := by
  intro x hx
  unfold Merging.finish at hx
  split at hx
  · simp only [List.mem_reverse, List.mem_append] at hx
    rcases hx with (hx | hx) | hx
    · exact h.merged x hx
    · exact h.left x hx
    · exact h.right x hx
  · simp only [List.mem_reverse, List.mem_append] at hx
    rcases hx with (hx | hx) | hx
    · exact h.merged x hx
    · exact h.right x hx
    · exact h.left x hx

end Merging

/-- All elements of waiting runs have a property. -/
def Waiting.All (P : α → Prop) (stack : List (Waiting α)) : Prop :=
  ∀ run ∈ stack, ∀ x ∈ run.items, P x

/-- The latest run and the others. -/
theorem Waiting.all_cons {run : Waiting α} {stack : List (Waiting α)} :
    All P (run :: stack) ↔ (∀ x ∈ run.items, P x) ∧ All P stack := List.forall_mem_cons

section Total

variable {less : α → α → Except ε Bool}
  (total : ∀ a b, P a → P b → ∃ r, less a b = .ok r)

include total

/-- Counting up to a key among elements that can be compared with it. -/
theorem countUpTo_succeeds {key : α} {run : Array α} (hkey : P key) (hrun : ∀ x ∈ run, P x)
    (start : Nat) : ∃ n, countUpTo less key run start = .ok n := by
  exact gallop_succeeds (fun i => map_succeeds _ (total _ _ hkey (getD_of_forall hkey hrun i))) _ _

/-- Counting what comes before a key among elements that can be compared with it. -/
theorem countBefore_succeeds {key : α} {run : Array α} (hkey : P key) (hrun : ∀ x ∈ run, P x)
    (start : Nat) : ∃ n, countBefore less key run start = .ok n :=
  gallop_succeeds (fun i => total _ _ (getD_of_forall hkey hrun i) hkey) _ _

omit total in
/-- A stretch is found if counting succeeds on the run in either direction. -/
theorem stretch_succeeds {count : Array α → Nat → Except ε Nat} {run : List α}
    (h : ∀ (items : Array α) (start : Nat), (∀ x ∈ items, P x) → ∃ n, count items start = .ok n)
    (hrun : ∀ x ∈ run, P x) (fromBack : Bool) : ∃ n, stretch fromBack count run = .ok n := by
  unfold stretch
  split
  · exact map_succeeds _
      (h run.reverse.toArray (run.length - 1) fun x hx => hrun x (by simpa using hx))
  · exact h _ _ fun x hx => hrun x (by simpa using hx)

/-- Both ways of going on with a merge succeed. -/
theorem rounds_give (fuel : Nat) :
    (∀ patience leftWins rightWins (m : Merging α), m.All P →
      Gives (oneByOne less fuel patience leftWins rightWins m) fun out => ∀ x ∈ out.1, P x)
    ∧ ∀ patience (m : Merging α), m.All P →
      Gives (byStretches less fuel patience m) fun out => ∀ x ∈ out.1, P x := by
  induction fuel with
  | zero =>
    constructor
    · intro patience leftWins rightWins m hm
      unfold oneByOne
      exact .ok hm.finish
    · intro patience m hm
      unfold byStretches
      exact .ok hm.finish
  | succ fuel ih =>
    obtain ⟨singly, stretches⟩ := ih
    constructor
    · intro patience leftWins rightWins m hm
      unfold oneByOne
      split
      · rename_i a left b right hfuel hleft hright
        obtain rfl := Nat.succ.inj hfuel
        have ha : P a := hm.left a (hleft ▸ List.mem_cons_self)
        have hb : P b := hm.right b (hright ▸ List.mem_cons_self)
        obtain ⟨behind, answer⟩ := total b a hb ha
        simp only [answer]
        have moved : (if (behind != m.fromBack) = true then m.takeRight 1 else m.takeLeft 1).All P := by
          split
          · exact hm.takeRight 1
          · exact hm.takeLeft 1
        generalize (if (behind != m.fromBack) = true then m.takeRight 1 else m.takeLeft 1) = next
          at moved ⊢
        generalize (if (behind != m.fromBack) = true then 0 else leftWins + 1) = leftWins
        generalize (if (behind != m.fromBack) = true then rightWins + 1 else 0) = rightWins
        split
        · exact .ok moved.finish
        split
        · exact stretches _ _ moved
        · exact singly _ _ _ _ moved
      · exact .ok hm.finish
    · intro patience m hm
      unfold byStretches
      split
      · rename_i b right hfuel hright
        obtain rfl := Nat.succ.inj hfuel
        have hb : P b := hm.right b (hright ▸ List.mem_cons_self)
        obtain ⟨leftCount, found⟩ := stretch_succeeds
          (fun items start hitems => countUpTo_succeeds total hb hitems start) hm.left m.fromBack
        simp only [found]
        have moved := hm.takeLeft leftCount
        generalize m.takeLeft leftCount = m' at moved ⊢
        split
        · exact .ok moved.finish
        have moved := moved.takeRight 1
        generalize m'.takeRight 1 = m' at moved ⊢
        split
        · exact .ok moved.finish
        split
        · exact .ok moved.finish
        · rename_i a left hleft
          have ha : P a := moved.left a (hleft ▸ List.mem_cons_self)
          obtain ⟨rightCount, found⟩ := stretch_succeeds
            (fun items start hitems => countBefore_succeeds total ha hitems start) moved.right
            m'.fromBack
          simp only [found]
          have moved := moved.takeRight rightCount
          generalize m'.takeRight rightCount = m' at moved ⊢
          split
          · exact .ok moved.finish
          have moved := moved.takeLeft 1
          generalize m'.takeLeft 1 = m' at moved ⊢
          split
          · exact .ok moved.finish
          split
          · exact stretches _ _ moved
          · exact singly _ _ _ _ moved
      · exact .ok hm.finish

/-- Merging two runs that overlap. -/
theorem mergeOverlapping_gives (patience : Nat) {left right : List α} (hl : ∀ x ∈ left, P x)
    (hr : ∀ x ∈ right, P x) :
    Gives (mergeOverlapping less patience left right) fun out => ∀ x ∈ out.1, P x := by
  have started : (if left.length ≤ right.length then (Merging.mk false left right []).takeRight 1
      else (Merging.mk true left.reverse right.reverse []).takeLeft 1).All P := by
    split
    · exact Merging.All.takeRight ⟨hl, hr, fun x hx => by cases hx⟩ 1
    · exact Merging.All.takeLeft ⟨fun x hx => hl x (List.mem_reverse.1 hx),
        fun x hx => hr x (List.mem_reverse.1 hx), fun x hx => by cases hx⟩ 1
  unfold mergeOverlapping
  generalize (if left.length ≤ right.length then (Merging.mk false left right []).takeRight 1
    else (Merging.mk true left.reverse right.reverse []).takeLeft 1) = m at started ⊢
  simp only
  split
  · exact .ok started.finish
  · exact (rounds_give total _).1 _ _ _ _ started

/-- Merging two neighbouring runs. -/
theorem merge_gives (patience : Nat) {left right : List α} (hl : ∀ x ∈ left, P x)
    (hr : ∀ x ∈ right, P x) :
    Gives (merge less patience left right) fun out => ∀ x ∈ out.1, P x := by
  have both : ∀ x ∈ left ++ right, P x := fun x hx => (List.mem_append.1 hx).elim (hl x) (hr x)
  cases right with
  | nil => exact .ok hl
  | cons first right =>
    have hfirst : P first := hr first List.mem_cons_self
    refine Gives.bind (.of_exists (countUpTo_succeeds total hfirst
      (fun x hx => hl x (by simpa using hx)) 0)) fun kept _ => ?_
    have dropped : ∀ x ∈ left.drop kept, P x := fun x hx => hl x (List.mem_of_mem_drop hx)
    split
    · exact .ok both
    · rename_i last hlast
      refine Gives.bind (.of_exists (countBefore_succeeds total
        (dropped last (List.mem_of_getLast? hlast)) (fun x hx => hr x (by simpa using hx)) _))
        fun moved _ => ?_
      split
      · exact .ok both
      refine Gives.bind (mergeOverlapping_gives total patience dropped
        fun x hx => hr x (List.mem_of_mem_take hx)) fun out hout => ?_
      refine .ok fun x hx => ?_
      simp only [List.append_assoc, List.mem_append] at hx
      rcases hx with hx | hx | hx
      · exact hl x (List.mem_of_mem_take hx)
      · exact hout x hx
      · exact hr x (List.mem_of_mem_drop hx)

/-! ### Runs -/

omit total in
/-- Inserting an element brings no others in. -/
theorem forall_insert {run : List α} {x : α} (hx : P x) (hrun : ∀ y ∈ run, P y) (n : Nat) :
    ∀ y ∈ run.take n ++ x :: run.drop n, P y := by
  intro y hy
  rcases List.mem_append.1 hy with hy | hy
  · exact hrun y (List.mem_of_mem_take hy)
  rcases List.mem_cons.1 hy with rfl | hy
  · exact hx
  · exact hrun y (List.mem_of_mem_drop hy)

/-- Inserting elements into a run. -/
theorem insertAll_gives {run items : List α} (hrun : ∀ x ∈ run, P x) (hitems : ∀ x ∈ items, P x) :
    Gives (insertAll less run items) fun out => ∀ x ∈ out, P x := by
  induction items generalizing run with
  | nil => exact .ok hrun
  | cons x items ih =>
    have hx := hitems x List.mem_cons_self
    have hrun' : ∀ y ∈ run.toArray, P y := fun y hy => hrun y (by simpa using hy)
    have answers (i : Nat) : ∃ b, (less x (run.toArray.getD i x)).map (!·) = .ok b :=
      map_succeeds _ (total _ _ hx (getD_of_forall hx hrun' i))
    obtain ⟨n, found⟩ := bisect_succeeds answers 0 run.toArray.size
    unfold insertAll
    simp only [found]
    exact ih (forall_insert hx hrun n) fun y hy => hitems y (List.mem_cons_of_mem _ hy)

/-- Following a run. -/
theorem runFrom_succeeds (falling : Bool) {last : α} {items : List α} (hlast : P last)
    (hitems : ∀ x ∈ items, P x) : ∃ n, runFrom less falling last items = .ok n := by
  induction items generalizing last with
  | nil => exact ⟨0, rfl⟩
  | cons x items ih =>
    have hx := hitems x List.mem_cons_self
    obtain ⟨below, answer⟩ := total x last hx hlast
    obtain ⟨n, hn⟩ := ih hx fun y hy => hitems y (List.mem_cons_of_mem _ hy)
    unfold runFrom
    simp only [answer, hn]
    split
    · exact ⟨n + 1, rfl⟩
    · exact ⟨0, rfl⟩

/-- Finding the run at the front. -/
theorem frontRun_succeeds {items : List α} (h : ∀ x ∈ items, P x) :
    ∃ out, frontRun less items = .ok out := by
  match items, h with
  | [], _ => exact ⟨_, rfl⟩
  | [_], _ => exact ⟨_, rfl⟩
  | x :: y :: rest, h =>
    have hx := h x List.mem_cons_self
    have hrest := List.forall_mem_cons.1 (List.forall_mem_cons.1 h).2
    obtain ⟨falling, answer⟩ := total y x hrest.1 hx
    obtain ⟨n, hn⟩ := runFrom_succeeds total falling hrest.1 hrest.2
    exact ⟨(n + 2, falling), by simp only [frontRun, answer, hn]; rfl⟩

/-- Merging runs while a boundary asks for it. -/
theorem mergeAbove_gives (bound patience : Nat) {stack : List (Waiting α)}
    (h : Waiting.All P stack) :
    Gives (mergeAbove less bound patience stack) fun out => Waiting.All P out.1 := by
  fun_induction mergeAbove less bound patience stack with
  | case1 patience top below rest lt ih =>
    obtain ⟨htop, others⟩ := Waiting.all_cons.1 h
    obtain ⟨hbelow, hrest⟩ := Waiting.all_cons.1 others
    refine Gives.bind (merge_gives total patience hbelow htop) fun out hout => ?_
    exact ih out.1 out.2 (Waiting.all_cons.2 ⟨hout, hrest⟩)
  | case2 patience top below rest lt => exact .ok h
  | case3 patience stack other => exact .ok h

/-- Merging all runs. -/
theorem mergeAll_gives (patience : Nat) {stack : List (Waiting α)} (h : Waiting.All P stack) :
    Gives (mergeAll less patience stack) fun out => ∀ x ∈ out, P x := by
  fun_induction mergeAll less patience stack with
  | case1 patience => exact .ok fun x hx => by cases hx
  | case2 patience run => exact .ok (Waiting.all_cons.1 h).1
  | case3 patience top below =>
    obtain ⟨htop, others⟩ := Waiting.all_cons.1 h
    exact (merge_gives total patience (Waiting.all_cons.1 others).1 htop).map fun _ hout => hout
  | case4 patience top middle bottom rest lt ih =>
    obtain ⟨htop, others⟩ := Waiting.all_cons.1 h
    obtain ⟨hmiddle, others⟩ := Waiting.all_cons.1 others
    obtain ⟨hbottom, hrest⟩ := Waiting.all_cons.1 others
    refine Gives.bind (merge_gives total patience hbottom hmiddle) fun out hout => ?_
    exact ih out.1 out.2 (Waiting.all_cons.2 ⟨htop, Waiting.all_cons.2 ⟨hout, hrest⟩⟩)
  | case5 patience top middle bottom rest lt ih =>
    obtain ⟨htop, others⟩ := Waiting.all_cons.1 h
    obtain ⟨hmiddle, others⟩ := Waiting.all_cons.1 others
    refine Gives.bind (merge_gives total patience hmiddle htop) fun out hout => ?_
    exact ih out.1 out.2 (Waiting.all_cons.2 ⟨hout, others⟩)

/-- Putting a run on the stack. -/
theorem push_gives (count patience start : Nat) {run : List α} {stack : List (Waiting α)}
    (hrun : ∀ x ∈ run, P x) (h : Waiting.All P stack) :
    Gives (push less count patience start run stack) fun out => Waiting.All P out.1 := by
  have single (start power : Nat) : Waiting.All P [⟨start, run, power⟩] :=
    Waiting.all_cons.2 ⟨hrun, fun other hother => by cases hother⟩
  unfold push
  split
  · exact .ok (single _ _)
  · refine Gives.bind (mergeAbove_gives total _ _ h) fun out hout => ?_
    obtain ⟨merged, patience'⟩ := out
    cases merged with
    | nil => exact .ok (single _ _)
    | cons top rest =>
      obtain ⟨htop, hrest⟩ := Waiting.all_cons.1 hout
      exact .ok (Waiting.all_cons.2 ⟨hrun, Waiting.all_cons.2 ⟨htop, hrest⟩⟩)

/-- Taking runs from the front of what is left. -/
theorem takeRuns_gives (count fuel patience start : Nat) {stack : List (Waiting α)} {rest : List α}
    (h : Waiting.All P stack) (hrest : ∀ x ∈ rest, P x) :
    Gives (takeRuns less count fuel patience start stack rest) fun out => ∀ x ∈ out, P x := by
  induction fuel generalizing patience start stack rest with
  | zero => exact mergeAll_gives total patience h
  | succ fuel ih =>
    unfold takeRuns
    split
    · exact mergeAll_gives total patience h
    refine Gives.bind (.of_exists (frontRun_succeeds total hrest)) fun front _ => ?_
    obtain ⟨n, falling⟩ := front
    have hrun : ∀ x ∈ (if falling = true then (rest.take n).reverse else rest.take n), P x := by
      intro x hx
      split at hx
      · exact hrest x (List.mem_of_mem_take (List.mem_reverse.1 hx))
      · exact hrest x (List.mem_of_mem_take hx)
    refine Gives.bind (insertAll_gives total hrun
      fun x hx => hrest x (List.mem_of_mem_drop (List.mem_of_mem_take hx))) fun run hrun => ?_
    refine Gives.bind (push_gives total _ _ _ hrun h) fun out hout => ?_
    exact ih _ _ hout fun x hx => hrest x (List.mem_of_mem_drop hx)

/-- **Elements that can be compared can be sorted.**

**Proof sketch.**  Every step of the algorithm compares elements that it was given, and hands on no
others; the steps are followed one by one, from the search of a run to the stack of runs. -/
theorem sort_gives {items : List α} (h : ∀ x ∈ items, P x) :
    Gives (sort less items) fun out => ∀ x ∈ out, P x := by
  unfold sort
  split
  · exact .ok h
  · exact takeRuns_gives total _ _ _ _ (fun run hrun => by cases hrun) h

end Total

/-- **Sorting fails only when comparing does**: a failed sorting has two elements that cannot be
compared. -/
theorem exists_of_sort_eq_error {less : α → α → Except ε Bool} {items : List α} {e : ε}
    (h : sort less items = .error e) : ∃ a ∈ items, ∃ b ∈ items, ∃ e, less a b = .error e := by
  refine Classical.byContradiction fun comparable => ?_
  have total (a b : α) (ha : a ∈ items) (hb : b ∈ items) : ∃ r, less a b = .ok r := by
    cases answer : less a b with
    | ok r => exact ⟨r, rfl⟩
    | error e => exact absurd ⟨a, ha, b, hb, e, answer⟩ comparable
  obtain ⟨sorted, found, -⟩ := sort_gives total fun x hx => hx
  rw [h] at found
  cases found

end QueryChain.Sorting
