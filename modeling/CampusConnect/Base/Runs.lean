/-
  File:      CampusConnect/Base/Runs.lean
  Subject:   Runs of a labelled transition system, and the rules to reason about them.

  * `Path`, `Reach`: runs with the labels they take, and the states some run reaches;
  * `Reach.invariant`, `Reach.invariant_given`: what holds at the start and over each step holds
    in every reachable state, the second under an invariant already known;
  * `Path.preserves`: a set of states no step leaves is a TRAP: no run leaves it either;
  * `Path.history`, `Since`: invariants that speak of the labels taken so far, as in "no `set` since
    the last `reset`"; `SetAndKept`, `Path.setAndKept`: what some step set and no step changed since;
    `Passed`, `Path.passed`: a step a run must have taken; `Every`, `Path.preserves_every`,
    `Path.every_of_unmarked`: what holds at every step of one run;
  * `Leads`, `Path.leads`: a log whose entries, each with a value before and one after, lead from
    the value at the start of the run to that at its end;
  * `Path.view`: a view that some labels change and the others leave is a fold over the first;
  * `Path.exhaust`: a measure that some path lowers until the goal is met, so that it can be met;
  * `restrict`, `Path.of_restrict`: runs all of whose steps meet a condition on the state before;
  * `run`, `path_of_run`, `Ends`: the runs of a partial function, so that a concrete run can be
    evaluated and its last state tested; `only`, `path_of_run_only`: under a condition on each step.
-/
import Mathlib.Logic.Basic

namespace Runs

universe u v w

variable {σ : Type u} {ι : Type v}

/-- A run from `s` to `s'` that takes the labels in the list, in order. -/
inductive Path (step : σ → ι → σ → Prop) : σ → List ι → σ → Prop where
  | nil (s : σ) : Path step s [] s
  | cons {s t u : σ} {i : ι} {is : List ι} (hs : step s i t) (h : Path step t is u) :
      Path step s (i :: is) u

/-- The states that runs from an initial state reach. -/
inductive Reach (init : σ → Prop) (step : σ → ι → σ → Prop) : σ → Prop where
  | start {s : σ} (h : init s) : Reach init step s
  | next {s s' : σ} {i : ι} (h : Reach init step s) (hs : step s i s') : Reach init step s'

/-- The steps whose state before and label meet `ok`. -/
def restrict (step : σ → ι → σ → Prop) (ok : σ → ι → Prop) : σ → ι → σ → Prop :=
  fun s i s' => step s i s' ∧ ok s i

variable {init : σ → Prop} {step : σ → ι → σ → Prop}

/-! ## 1. Paths -/

theorem Path.single {s s' : σ} {i : ι} (h : step s i s') : Path step s [i] s' :=
  .cons h (.nil s')

theorem Path.append {s t u : σ} {is js : List ι} (h : Path step s is t) (h' : Path step t js u) :
    Path step s (is ++ js) u := by
  induction h with
  | nil s => exact h'
  | cons hs _ ih => exact .cons hs (ih h')

/-- **A trap**: what each step preserves, a whole run preserves. -/
theorem Path.preserves {P : σ → Prop} (hstep : ∀ s i s', P s → step s i s' → P s')
    {s s' : σ} {is : List ι} (h : Path step s is s') (hs : P s) : P s' := by
  induction h with
  | nil s => exact hs
  | cons ht _ ih => exact ih (hstep _ _ _ hs ht)

/-- **History invariants**: what each step preserves, with the labels taken so far. -/
theorem Path.history {P : σ → List ι → Prop}
    (hstep : ∀ s is i s', P s is → step s i s' → P s' (is ++ [i])) {s s' : σ} {is : List ι}
    (h : Path step s is s') (h0 : P s []) : P s' is := by
  have main : ∀ taken, P s taken → P s' (taken ++ is) := by
    clear h0
    induction h with
    | nil s =>
        intro taken hs
        rw [List.append_nil]
        exact hs
    | @cons s t u i is hs _ ih =>
        intro taken hp
        have htail := ih (taken ++ [i]) (hstep s taken i t hp hs)
        rw [List.append_assoc] at htail
        exact htail
  exact main [] h0

/-- Where a step has one outcome, so has a run. -/
theorem Path.functional (hstep : ∀ s i t u, step s i t → step s i u → t = u) {s t u : σ}
    {is : List ι} (h : Path step s is t) (h' : Path step s is u) : t = u := by
  induction h with
  | nil s =>
      cases h'
      rfl
  | @cons s v t i is hs _ ih =>
      cases h' with
      | @cons _ w _ _ _ hs' h' =>
          have hvw : v = w := hstep s i v w hs hs'
          rw [← hvw] at h'
          exact ih h'

theorem Reach.path {s s' : σ} {is : List ι} (h : Reach init step s) (hp : Path step s is s') :
    Reach init step s' := by
  induction hp with
  | nil s => exact h
  | cons hs _ ih => exact ih (.next h hs)

/-- A run of two lists of labels stops between them. -/
theorem Path.split {s u : σ} {is js : List ι} (h : Path step s (is ++ js) u) :
    ∃ t, Path step s is t ∧ Path step t js u := by
  induction is generalizing s with
  | nil => exact ⟨s, .nil s, h⟩
  | cons i is ih =>
      cases h with
      | @cons s t u i _ hs h =>
          obtain ⟨v, hv, hu⟩ := ih h
          exact ⟨v, .cons hs hv, hu⟩

/-- **Progress by a measure**: when a path lowers the measure from every state that has not met the
    goal, some path meets it. -/
theorem Path.exhaust {I goal : σ → Prop} (measure : σ → Nat)
    (hstep : ∀ s, I s → ¬ goal s → ∃ is s', Path step s is s' ∧ I s' ∧ measure s' < measure s)
    {s : σ} (hs : I s) : ∃ is s', Path step s is s' ∧ I s' ∧ goal s' := by
  induction hn : measure s using Nat.strongRecOn generalizing s with
  | _ n ih =>
      by_cases hg : goal s
      · exact ⟨[], s, .nil s, hs, hg⟩
      · obtain ⟨is, t, hp, ht, hlt⟩ := hstep s hs hg
        rw [hn] at hlt
        obtain ⟨js, u, hq, hu, hgoal⟩ := ih _ hlt ht rfl
        exact ⟨is ++ js, u, hp.append hq, hu, hgoal⟩

/-! ## 2. Invariants -/

/-- **The invariant rule.** -/
theorem Reach.invariant {P : σ → Prop} (hinit : ∀ s, init s → P s)
    (hstep : ∀ s i s', P s → step s i s' → P s') {s : σ} (h : Reach init step s) : P s := by
  induction h with
  | start h => exact hinit _ h
  | next _ hs ih => exact hstep _ _ _ ih hs

/-- **The invariant rule under a known invariant** `J`, which the step may use. -/
theorem Reach.invariant_given {J P : σ → Prop} (hJ : ∀ s, Reach init step s → J s)
    (hinit : ∀ s, init s → P s)
    (hstep : ∀ s i s', J s → P s → step s i s' → P s') {s : σ} (h : Reach init step s) : P s := by
  induction h with
  | start h => exact hinit _ h
  | next hr hs ih => exact hstep _ _ _ (hJ _ hr) ih hs

/-! ## 3. Restricted runs -/

theorem Path.of_restrict {ok : σ → ι → Prop} {s s' : σ} {is : List ι}
    (h : Path (restrict step ok) s is s') : Path step s is s' := by
  induction h with
  | nil s => exact .nil s
  | cons hs _ ih => exact .cons hs.1 ih

/-- A run whose labels all meet a condition is a run under that condition. -/
theorem Path.under {ok : ι → Prop} {s s' : σ} {is : List ι} (h : Path step s is s')
    (hok : ∀ i ∈ is, ok i) : Path (restrict step fun _ i => ok i) s is s' := by
  induction h with
  | nil s => exact .nil s
  | cons hs _ ih =>
      refine .cons ⟨hs, hok _ (List.mem_cons_self ..)⟩ (ih fun j hj => ?_)
      exact hok j (List.mem_cons_of_mem _ hj)

/-- What each step of a run says about its label. -/
theorem Path.labels {ok : σ → ι → Prop} {Q : ι → Prop} {s s' : σ} {is : List ι}
    (h : Path (restrict step ok) s is s') (hok : ∀ s i, ok s i → Q i) : ∀ i ∈ is, Q i := by
  induction h with
  | nil s =>
      intro i hi
      cases hi
  | cons hs _ ih =>
      intro j hj
      rcases List.mem_cons.mp hj with rfl | hj
      · exact hok _ _ hs.2
      · exact ih j hj

/-! ## 4. Since -/

/-- Some label in `set` is followed by no label in `reset`. -/
def Since (set reset : ι → Prop) : List ι → Prop
  | [] => False
  | i :: is => (set i ∧ ∀ j ∈ is, ¬ reset j) ∨ Since set reset is

instance Since.decidable (set reset : ι → Prop) [DecidablePred set] [DecidablePred reset] :
    (is : List ι) → Decidable (Since set reset is)
  | [] => inferInstanceAs (Decidable False)
  | _ :: is =>
      let _ := Since.decidable set reset is
      inferInstanceAs (Decidable (_ ∨ _))

/-- One more label. -/
theorem since_append {set reset : ι → Prop} {is : List ι} {j : ι} :
    Since set reset (is ++ [j]) ↔ set j ∨ (¬ reset j ∧ Since set reset is) := by
  induction is with
  | nil => simp [Since]
  | cons i is ih =>
      rw [List.cons_append]
      unfold Since
      rw [ih]
      constructor
      · intro hor
        rcases hor with ⟨hs, hr⟩ | hj | ⟨hj, hs⟩
        · refine .inr ⟨hr j (List.mem_append_right is (List.mem_singleton.mpr rfl)), .inl ⟨hs, ?_⟩⟩
          intro k hk
          exact hr k (List.mem_append_left _ hk)
        · exact .inl hj
        · exact .inr ⟨hj, .inr hs⟩
      · intro hor
        rcases hor with hj | ⟨hj, ⟨hs, hr⟩ | hs⟩
        · exact .inr (.inl hj)
        · refine .inl ⟨hs, ?_⟩
          intro k hk
          rcases List.mem_append.mp hk with hk | hk
          · exact hr k hk
          · rw [List.mem_singleton.mp hk]
            exact hj
        · exact .inr (.inr ⟨hj, hs⟩)

/-- The steps that leave what `f` reads. -/
def keeping {α : Type w} (step : σ → ι → σ → Prop) (f : σ → α) : σ → ι → σ → Prop :=
  fun s i s' => step s i s' ∧ f s' = f s

/-- A run in which some step meets `set`, and every step after it leaves what `f` reads. -/
def SetAndKept {α : Type w} (step : σ → ι → σ → Prop) (set : σ → ι → Prop) (f : σ → α) (s : σ)
    (is : List ι) (s' : σ) : Prop :=
  ∃ before i after t u, is = before ++ i :: after ∧ Path step s before t ∧ step t i u ∧ set t i ∧
    Path (keeping step f) u after s'

/-- **The stamp rule**: when every step into `P` meets `set`, or comes from `P` and leaves what `f`
    reads, a state in `P` was set and kept since. -/
theorem Path.setAndKept {α : Type w} {J P : σ → Prop} {set : σ → ι → Prop} {f : σ → α}
    (hJ : ∀ s i s', J s → step s i s' → J s')
    (hstep : ∀ s i s', J s → step s i s' → P s' → set s i ∨ (P s ∧ f s' = f s))
    {s s' : σ} {is : List ι} (h : Path step s is s') (hs : J s) (h0 : ¬ P s) (hP : P s') :
    SetAndKept step set f s is s' := by
  have hrun := Path.history
    (P := fun e taken => Path step s taken e ∧ J e ∧ (P e → SetAndKept step set f s taken e)) ?_ h
    ⟨.nil s, hs, fun hp => (h0 hp).elim⟩
  · exact hrun.2.2 hP
  · intro e taken i e' ⟨hpath, he, hkept⟩ hi
    refine ⟨hpath.append (.single hi), hJ e i e' he hi, fun hp => ?_⟩
    rcases hstep e i e' he hi hp with hset | ⟨hpe, hf⟩
    · exact ⟨taken, i, [], e, e', rfl, hpath, hi, hset, .nil e'⟩
    · obtain ⟨before, j, after, t, u, rfl, hbefore, hj, hset, hafter⟩ := hkept hpe
      refine ⟨before, j, after ++ [i], t, u, ?_, hbefore, hj, hset, hafter.append (.single ⟨hi, hf⟩)⟩
      rw [List.append_assoc, List.cons_append]

/-- A run one of whose steps meets `Q`. -/
def Passed (step : σ → ι → σ → Prop) (Q : σ → ι → σ → Prop) (s : σ) (is : List ι) (s' : σ) : Prop :=
  ∃ before i after t u, is = before ++ i :: after ∧ Path step s before t ∧ step t i u ∧ Q t i u ∧
    Path step u after s'

/-- **The gate rule**: when every step into `P` meets `Q`, a run into `P` passed such a step. -/
theorem Path.passed {P : σ → Prop} {Q : σ → ι → σ → Prop}
    (hstep : ∀ s i s', step s i s' → P s' → P s ∨ Q s i s') {s s' : σ} {is : List ι}
    (h : Path step s is s') (h0 : ¬ P s) (hP : P s') : Passed step Q s is s' := by
  induction h with
  | nil s => exact (h0 hP).elim
  | @cons s t u i is hs h ih =>
      by_cases ht : P t
      · exact ⟨[], i, is, s, t, rfl, .nil s, hs, (hstep s i t hs ht).resolve_left h0, h⟩
      · obtain ⟨before, j, after, v, w, rfl, hbefore, hj, hq, hafter⟩ := ih ht hP
        exact ⟨i :: before, j, after, v, w, rfl, .cons hs hbefore, hj, hq, hafter⟩

/-- What holds at every step of a run, of the labels before it, its two states and its label. -/
def Every (step : σ → ι → σ → Prop) (Q : List ι → σ → ι → σ → Prop) (s : σ) (is : List ι) : Prop :=
  ∀ before i after t u, is = before ++ i :: after → Path step s before t → step t i u → Q before t i u

theorem Every.congr {Q Q' : List ι → σ → ι → σ → Prop} {s : σ} {is : List ι}
    (h : ∀ before t i u, Path step s before t → step t i u → (Q before t i u ↔ Q' before t i u)) :
    Every step Q s is ↔ Every step Q' s is := by
  constructor
  · intro hq before i after t u his hp hs
    exact (h before t i u hp hs).mp (hq before i after t u his hp hs)
  · intro hq before i after t u his hp hs
    exact (h before t i u hp hs).mpr (hq before i after t u his hp hs)

/-- What holds at every step of a run holds at every step of its beginning. -/
theorem Every.of_append {Q : List ι → σ → ι → σ → Prop} {s : σ} {is js : List ι}
    (h : Every step Q s (is ++ js)) : Every step Q s is := by
  intro before i after t u his hp hs
  refine h before i (after ++ js) t u ?_ hp hs
  rw [his, List.append_assoc, List.cons_append]

/-- Where a step has one outcome, a run whose steps meet a condition meets it at every step. -/
theorem Path.every {ok : σ → ι → Prop} (hstep : ∀ s i t u, step s i t → step s i u → t = u)
    {s s' : σ} {is : List ι} (h : Path (restrict step ok) s is s') :
    Every step (fun _ t i _ => ok t i) s is := by
  intro before i after t u his hp _
  rw [his] at h
  obtain ⟨v, hv, hrest⟩ := h.split
  obtain rfl : v = t := hv.of_restrict.functional hstep hp
  cases hrest with
  | cons hs _ => exact hs.2

/-- **The invariant rule for one run**: what each of its steps that meets `Q` keeps. -/
theorem Path.preserves_every {P : σ → Prop} {Q : List ι → σ → ι → σ → Prop}
    (hstep : ∀ before s i s', P s → step s i s' → Q before s i s' → P s') {s s' : σ} {is : List ι}
    (h : Path step s is s') (hq : Every step Q s is) (hs : P s) : P s' := by
  have main : ∀ (taken : List ι) (s0 : σ), Path step s0 taken s → Every step Q s0 (taken ++ is) →
      P s' := by
    clear hq
    induction h with
    | nil s =>
        intro taken s0 _ _
        exact hs
    | @cons s t u i is hi h ih =>
        intro taken s0 hp hq
        have ht : P t := hstep taken s i t hs hi (hq taken i is s t rfl hp hi)
        refine ih ht (taken ++ [i]) s0 (hp.append (.single hi)) ?_
        rw [List.append_assoc]
        exact hq
  exact main [] s (.nil s) hq

/-- **The mark rule**: when a step that fails `Q` leaves a mark that no step removes, a run that ends
    without a mark meets `Q` at each of its steps. -/
theorem Path.every_of_unmarked {Q : List ι → σ → ι → σ → Prop} {M : σ → Prop}
    (hfun : ∀ s i t u, step s i t → step s i u → t = u)
    (hmark : ∀ before s i s', step s i s' → ¬ Q before s i s' → M s')
    (hkeep : ∀ s i s', M s → step s i s' → M s') {s s' : σ} {is : List ι}
    (h : Path step s is s') (hclean : ¬ M s') : Every step Q s is := by
  intro before i after t u his hbefore hi
  refine Classical.byContradiction fun hq => ?_
  rw [his] at h
  obtain ⟨v, hv, hrest⟩ := h.split
  have hvt : v = t := hv.functional hfun hbefore
  rw [hvt] at hrest
  cases hrest with
  | @cons _ w _ _ _ hi' hafter =>
      have hwu : w = u := hfun t i w u hi' hi
      rw [hwu] at hafter
      exact hclean (hafter.preserves hkeep (hmark before t i u hi hq))

/-! ## 5. Logs that replay -/

/-- The entries lead from `a` to `b`: each begins where the one before it ended. -/
def Leads {ε : Type w} {α : Type u} (before after : ε → α) (a : α) : List ε → α → Prop
  | [], b => a = b
  | e :: es, b => before e = a ∧ Leads before after (after e) es b

instance Leads.decidable {ε : Type w} {α : Type u} [DecidableEq α] (before after : ε → α) :
    (a : α) → (es : List ε) → (b : α) → Decidable (Leads before after a es b)
  | a, [], b => inferInstanceAs (Decidable (a = b))
  | _, e :: es, b =>
      let _ := Leads.decidable before after (after e) es b
      inferInstanceAs (Decidable (_ ∧ _))

theorem Leads.append {ε : Type w} {α : Type u} {before after : ε → α} {a b c : α} {es fs : List ε}
    (h : Leads before after a es b) (h' : Leads before after b fs c) :
    Leads before after a (es ++ fs) c := by
  induction es generalizing a with
  | nil =>
      cases h
      exact h'
  | cons e es ih => exact ⟨h.1, ih h.2⟩

/-- **The replay rule**: when every step appends entries that lead from the value before it to the
    value after it, the log leads to the value at the end. -/
theorem Path.leads {ε : Type w} {α : Type u} {before after : ε → α} (log : σ → List ε)
    (value : σ → α) (hstep : ∀ s i s', step s i s' →
      ∃ es, log s' = log s ++ es ∧ Leads before after (value s) es (value s'))
    {s s' : σ} {is : List ι} {a : α} (h : Path step s is s')
    (h0 : Leads before after a (log s) (value s)) : Leads before after a (log s') (value s') := by
  refine h.preserves (P := fun s => Leads before after a (log s) (value s)) ?_ h0
  intro t i u ht hs
  obtain ⟨es, hlog, hes⟩ := hstep t i u hs
  rw [hlog]
  exact ht.append hes

/-! ## 6. Views -/

/-- **The view rule**: when a label changes a view by a function of its own, or leaves it, the view after
    a run is what the labels of the first kind make of it, in their order. -/
theorem Path.view {α : Type w} (view : σ → α) (own : ι → Prop) [DecidablePred own] (effect : ι → α → α)
    (hstep : ∀ s i s', step s i s' → view s' = if own i then effect i (view s) else view s)
    {s s' : σ} {is : List ι} (h : Path step s is s') :
    view s' = (is.filter fun i => own i).foldl (fun a i => effect i a) (view s) := by
  induction h with
  | nil s => rfl
  | @cons s t u i is hs _ ih =>
      have ht := hstep s i t hs
      by_cases hi : own i
      · rw [if_pos hi] at ht
        rw [List.filter_cons_of_pos (p := fun i => decide (own i)) (decide_eq_true hi), List.foldl_cons,
          ih, ht]
      · rw [if_neg hi] at ht
        rw [List.filter_cons_of_neg (p := fun i => decide (own i)) (by rw [decide_eq_true_eq]; exact hi),
          ih, ht]

/-! ## 7. Runs that can be evaluated -/

/-- Apply a partial step function along a list of labels. -/
def run {ε : Type u} (next : ι → σ → Except ε σ) : List ι → σ → Except ε σ
  | [], s => .ok s
  | i :: is, s =>
      match next i s with
      | .ok t => run next is t
      | .error e => .error e

theorem path_of_run {ε : Type u} {next : ι → σ → Except ε σ} {is : List ι} {s s' : σ}
    (h : run next is s = .ok s') : Path (fun s i s' => next i s = .ok s') s is s' := by
  induction is generalizing s with
  | nil =>
      cases h
      exact .nil _
  | cons i is ih =>
      unfold run at h
      cases hn : next i s with
      | error e =>
          rw [hn] at h
          cases h
      | ok t =>
          rw [hn] at h
          exact .cons hn (ih h)

/-- A partial step function that takes the labels of a condition only. -/
def only {ε : Type u} (ok : σ → ι → Prop) [∀ s i, Decidable (ok s i)] (e : ε)
    (next : ι → σ → Except ε σ) (i : ι) (s : σ) : Except ε σ :=
  if ok s i then next i s else .error e

theorem path_of_run_only {ε : Type u} {ok : σ → ι → Prop} [∀ s i, Decidable (ok s i)] {e : ε}
    {next : ι → σ → Except ε σ} {is : List ι} {s s' : σ}
    (h : run (only ok e next) is s = .ok s') :
    Path (restrict (fun s i s' => next i s = .ok s') ok) s is s' := by
  have hp := path_of_run h
  clear h
  induction hp with
  | nil s => exact .nil s
  | @cons s t u i is hs _ ih =>
      unfold only at hs
      by_cases hok : ok s i
      · rw [if_pos hok] at hs
        exact .cons ⟨hs, hok⟩ ih
      · rw [if_neg hok] at hs
        cases hs

/-- The outcome is a state that meets the predicate. -/
def Ends {ε : Type u} (outcome : Except ε σ) (P : σ → Prop) : Prop := ∃ s, outcome = .ok s ∧ P s

instance {ε : Type u} (P : σ → Prop) [DecidablePred P] : (r : Except ε σ) → Decidable (Ends r P)
  | .ok s => decidable_of_iff (P s)
      ⟨fun h => ⟨s, rfl, h⟩, fun ⟨_, h, hp⟩ => Except.ok.inj h ▸ hp⟩
  | .error _ => .isFalse fun ⟨_, h, _⟩ => nomatch h

end Runs
