/-
  File:      CampusConnect/Base/Words.lean
  Subject:   Words between separators: squeezing runs of separators, trimming, and joining again.

  * `words sep l`: the maximal runs of other elements; `join d ws`: the words with one `d` between;
  * `squeeze sep d l`: each run of separators becomes one `d`; `trim d l`: no `d` at either end;
  * `trim_squeeze`: squeezed and trimmed, a list is the join of its WORDS;
  * `Tidy d l`: no `d` at the front and no two in a row; `squeeze` and `trim` keep it and leave a tidy
    list with no other separator as it is;
  * `getElem?_join_eq_iff`: where the `d`s of a join stand.
-/
import Mathlib.Data.List.Chain
import Mathlib.Data.List.DropRight

namespace Words

universe u

variable {α : Type u}

/-- The maximal runs of elements that are no separators. -/
def words (sep : α → Bool) (l : List α) : List (List α) :=
  (l.splitOnP sep).filter fun w => !w.isEmpty

/-- The words with one `d` between two of them. -/
def join (d : α) : List (List α) → List α
  | [] => []
  | [w] => w
  | w :: ws => w ++ d :: join d ws

/-- `squeeze` from inside a run of separators, or from outside. -/
def squeezeFrom (sep : α → Bool) (d : α) : Bool → List α → List α
  | _, [] => []
  | inRun, c :: l =>
      if sep c then
        if inRun then squeezeFrom sep d true l else d :: squeezeFrom sep d true l
      else c :: squeezeFrom sep d false l

/-- Each run of separators becomes one `d`. -/
def squeeze (sep : α → Bool) (d : α) (l : List α) : List α := squeezeFrom sep d false l

/-- Without the `d`s at either end. -/
def trim [DecidableEq α] (d : α) (l : List α) : List α :=
  (l.dropWhile fun c => decide (c = d)).rdropWhile fun c => decide (c = d)

/-- No `d` at the front, and no two in a row. -/
structure Tidy (d : α) (l : List α) : Prop where
  head : l.head? ≠ some d
  chain : l.IsChain fun a b => ¬ (a = d ∧ b = d)

/-! ## 1. Joins -/

section Joins

variable {d : α} {w : List α} {ws : List (List α)}

theorem join_cons_of_ne_nil (h : ws ≠ []) : join d (w :: ws) = w ++ d :: join d ws := by
  cases ws with
  | nil => exact absurd rfl h
  | cons v ws => rfl

@[simp] theorem join_nil : join d [] = ([] : List α) := rfl

@[simp] theorem join_singleton : join d [w] = w := rfl

/-- A join of nonempty words is empty only without a word. -/
theorem join_eq_nil_iff (h : ∀ w ∈ ws, w ≠ []) : join d ws = [] ↔ ws = [] := by
  cases ws with
  | nil => simp
  | cons w ws =>
      have hw : w ≠ [] := h w List.mem_cons_self
      by_cases hws : ws = []
      · simp [hws, hw]
      · simp [join_cons_of_ne_nil hws]

/-- The length of the first words, one more of them. -/
theorem length_join_take_succ {k : Nat} (hk : k < ws.length) :
    (join d ((w :: ws).take (k + 2))).length =
      w.length + 1 + (join d (ws.take (k + 1))).length := by
  have hne : ws.take (k + 1) ≠ [] := by
    rw [Ne, List.take_eq_nil_iff]
    have hws : ws ≠ [] := List.length_pos_iff.mp (by omega)
    simp [hws]
  rw [List.take_succ_cons, join_cons_of_ne_nil hne, List.length_append, List.length_cons]
  omega

/-- **Where the `d`s of a join stand**: after its first words, one or more, but not all. -/
theorem getElem?_join_eq_iff (h : ∀ w ∈ ws, d ∉ w) {n : Nat} :
    (join d ws)[n]? = some d ↔
      ∃ k, k + 1 < ws.length ∧ (join d (ws.take (k + 1))).length = n := by
  induction ws generalizing n with
  | nil => simp
  | cons w ws ih =>
      have hw : d ∉ w := h w List.mem_cons_self
      have hws : ∀ v ∈ ws, d ∉ v := fun v hv => h v (List.mem_cons_of_mem _ hv)
      by_cases hnil : ws = []
      · subst hnil
        rw [join_singleton]
        refine iff_of_false (fun hn => hw (List.mem_of_getElem? hn)) ?_
        intro hk
        obtain ⟨k, hlt, _⟩ := hk
        rw [List.length_singleton] at hlt
        omega
      · have hpos : 0 < ws.length := List.length_pos_iff.mpr hnil
        rw [join_cons_of_ne_nil hnil, List.length_cons]
        rcases lt_trichotomy n w.length with hlt | heq | hgt
        · -- inside the first word
          rw [List.getElem?_append_left hlt]
          refine iff_of_false (fun hn => hw (List.mem_of_getElem? hn)) ?_
          intro hk
          obtain ⟨k, hklt, hlen⟩ := hk
          cases k with
          | zero =>
              simp at hlen
              omega
          | succ k =>
              rw [length_join_take_succ (by omega)] at hlen
              omega
        · -- right after it
          subst heq
          rw [List.getElem?_append_right le_rfl]
          refine iff_of_true (by simp) ⟨0, by omega, ?_⟩
          simp
        · -- in the join of the others
          obtain ⟨m, rfl⟩ : ∃ m, n = w.length + 1 + m := ⟨n - w.length - 1, by omega⟩
          have hskip : (w ++ d :: join d ws)[w.length + 1 + m]? = (join d ws)[m]? := by
            have hsub : w.length + 1 + m - w.length = m + 1 := by omega
            rw [List.getElem?_append_right (by omega), hsub, List.getElem?_cons_succ]
          rw [hskip, ih hws]
          constructor
          · intro hk
            obtain ⟨k, hklt, hlen⟩ := hk
            refine ⟨k + 1, by omega, ?_⟩
            rw [length_join_take_succ (by omega), hlen]
          · intro hk
            obtain ⟨k, hklt, hlen⟩ := hk
            cases k with
            | zero =>
                simp at hlen
                omega
            | succ k =>
                rw [length_join_take_succ (by omega)] at hlen
                exact ⟨k, by omega, by omega⟩

end Joins

/-! ## 2. Squeezing -/

section Squeezing

variable {sep : α → Bool} {d : α} {l : List α}

/-- The nonempty ones of the lists between separators. -/
theorem words_cons_sep {c : α} (hc : sep c = true) : words sep (c :: l) = words sep l := by
  unfold words
  rw [List.splitOnP_cons_eq_if_modifyHead, if_pos hc]
  rfl

theorem ne_nil_of_mem_words {w : List α} (h : w ∈ words sep l) : w ≠ [] := by
  unfold words at h
  have hne := (List.mem_filter.mp h).2
  simpa using hne

/-- No separator is inside a list between separators. -/
theorem sep_eq_false_of_mem_splitOnP {w : List α} (h : w ∈ l.splitOnP sep) {c : α} (hc : c ∈ w) :
    sep c = false := by
  induction l generalizing w c with
  | nil =>
      rw [List.splitOnP_nil, List.mem_singleton] at h
      rw [h] at hc
      cases hc
  | cons b l ih =>
      rw [List.splitOnP_cons_eq_if_modifyHead] at h
      by_cases hb : sep b = true
      · rw [if_pos hb] at h
        rcases List.mem_cons.mp h with rfl | h
        · cases hc
        · exact ih h hc
      · rw [if_neg hb] at h
        cases hsplit : l.splitOnP sep with
        | nil => exact absurd hsplit (List.splitOnP_ne_nil sep l)
        | cons v vs =>
            rw [hsplit, List.modifyHead_cons] at h
            rcases List.mem_cons.mp h with rfl | h
            · rcases List.mem_cons.mp hc with rfl | hc
              · simpa using hb
              · exact ih (hsplit ▸ List.mem_cons_self) hc
            · exact ih (hsplit ▸ List.mem_cons_of_mem _ h) hc

/-- **No separator is inside a word.** -/
theorem sep_eq_false_of_mem_words {w : List α} (h : w ∈ words sep l) {c : α} (hc : c ∈ w) :
    sep c = false :=
  sep_eq_false_of_mem_splitOnP (List.mem_filter.mp h).1 hc

/-- What squeezing leaves was there and no separator, or is the `d` put in. -/
theorem mem_squeezeFrom {b : Bool} {c : α} (h : c ∈ squeezeFrom sep d b l) :
    c = d ∨ c ∈ l ∧ sep c = false := by
  induction l generalizing b with
  | nil => cases h
  | cons a l ih =>
      have hlater : c = d ∨ c ∈ l ∧ sep c = false → c = d ∨ c ∈ a :: l ∧ sep c = false := by
        intro hor
        rcases hor with hd | ⟨hmem, hsep⟩
        · exact .inl hd
        · exact .inr ⟨List.mem_cons_of_mem _ hmem, hsep⟩
      unfold squeezeFrom at h
      by_cases ha : sep a = true
      · rw [if_pos ha] at h
        cases b with
        | true => exact hlater (ih h)
        | false =>
            rcases List.mem_cons.mp h with rfl | h
            · exact .inl rfl
            · exact hlater (ih h)
      · rw [if_neg ha] at h
        rcases List.mem_cons.mp h with rfl | h
        · exact .inr ⟨List.mem_cons_self, by simpa using ha⟩
        · exact hlater (ih h)

theorem join_cons_cons {c : α} {w : List α} {ws : List (List α)} :
    join d ((c :: w) :: ws) = c :: join d (w :: ws) := by
  cases ws with
  | nil => rfl
  | cons v ws => rfl

/-- From inside a run no `d` comes first. -/
theorem head?_squeezeFrom_true (hd : sep d = true) : (squeezeFrom sep d true l).head? ≠ some d := by
  induction l with
  | nil => simp [squeezeFrom]
  | cons c l ih =>
      by_cases hc : sep c = true
      · simpa [squeezeFrom, hc] using ih
      · have hcd : c ≠ d := fun h => hc (h ▸ hd)
        simp [squeezeFrom, hc, hcd]

/-- Squeezing leaves no two `d` in a row. -/
theorem isChain_squeezeFrom (hd : sep d = true) (b : Bool) :
    (squeezeFrom sep d b l).IsChain fun a b => ¬ (a = d ∧ b = d) := by
  induction l generalizing b with
  | nil => exact List.isChain_nil
  | cons c l ih =>
      by_cases hc : sep c = true
      · have hafter : (d :: squeezeFrom sep d true l).IsChain fun a b => ¬ (a = d ∧ b = d) := by
          refine (ih true).cons fun a ha hboth => head?_squeezeFrom_true (l := l) hd ?_
          exact (Option.mem_def.mp ha).trans (congrArg some hboth.2)
        cases b with
        | true => simpa [squeezeFrom, hc] using ih true
        | false => simpa [squeezeFrom, hc] using hafter
      · have hcd : c ≠ d := fun h => hc (h ▸ hd)
        have hafter : (c :: squeezeFrom sep d false l).IsChain fun a b => ¬ (a = d ∧ b = d) :=
          (ih false).cons fun a _ hboth => hcd hboth.1
        simpa [squeezeFrom, hc] using hafter

/-- **Nothing is left to squeeze** in a tidy list without other separators. -/
theorem squeeze_eq_self (h : Tidy d l) (honly : ∀ c ∈ l, sep c = true → c = d) :
    squeeze sep d l = l := by
  have main : l.IsChain (fun a b => ¬ (a = d ∧ b = d)) →
      squeezeFrom sep d false l = l ∧ (l.head? ≠ some d → squeezeFrom sep d true l = l) := by
    clear h
    induction l with
    | nil => exact fun _ => ⟨rfl, fun _ => rfl⟩
    | cons c l ih =>
        intro hchain
        obtain ⟨hnext, hrest⟩ := List.isChain_cons.mp hchain
        have honly' : ∀ b ∈ l, sep b = true → b = d := fun b hb => honly b (List.mem_cons_of_mem _ hb)
        obtain ⟨hfalse, htrue⟩ := ih honly' hrest
        by_cases hc : sep c = true
        · have hcd : c = d := honly c List.mem_cons_self hc
          have hhead : l.head? ≠ some d := fun hl => hnext d hl ⟨hcd, rfl⟩
          have hsqueeze : squeezeFrom sep d false (c :: l) = d :: squeezeFrom sep d true l := by
            simp [squeezeFrom, hc]
          refine ⟨by rw [hsqueeze, htrue hhead, hcd], fun hne => ?_⟩
          exact absurd (congrArg some hcd) hne
        · simp [squeezeFrom, hc, hfalse]
  exact (main h.chain).1

theorem Tidy.take (h : Tidy d l) (n : Nat) : Tidy d (l.take n) := by
  refine ⟨fun hhead => h.head ?_, h.chain.take n⟩
  cases n with
  | zero => simp at hhead
  | succ n =>
      rw [List.head?_take, if_neg (Nat.succ_ne_zero n)] at hhead
      exact hhead

/-- The end of a cut is a `d` exactly when the cut falls right behind one. -/
theorem getLast?_take_iff (h : l.getLast? ≠ some d) (n : Nat) :
    (l.take (n + 1)).getLast? = some d ↔ l[n]? = some d := by
  rw [List.getLast?_take, if_neg (Nat.succ_ne_zero n), Nat.add_sub_cancel]
  cases hn : l[n]? with
  | none => exact iff_of_false h nofun
  | some c => exact Iff.rfl

/-! ## 3. Trimming -/

variable [DecidableEq α]

/-- An element that is no `d` stays at the front, whatever is dropped behind it. -/
theorem rdropWhile_cons_of_ne {c : α} (hc : c ≠ d) :
    (c :: l).rdropWhile (fun a => decide (a = d)) =
      c :: l.rdropWhile fun a => decide (a = d) := by
  have hkeep : [c].dropWhile (fun a => decide (a = d)) = [c] := by simp [hc]
  unfold List.rdropWhile
  rw [List.reverse_cons, List.dropWhile_append, hkeep]
  cases l.reverse.dropWhile fun a => decide (a = d) with
  | nil => rfl
  | cons b rest => simp

/-- A `d` at the front goes with all the rest, or stays. -/
theorem rdropWhile_cons_self :
    (d :: l).rdropWhile (fun a => decide (a = d)) =
      if l.rdropWhile (fun a => decide (a = d)) = [] then []
      else d :: l.rdropWhile fun a => decide (a = d) := by
  have hgone : [d].dropWhile (fun a => decide (a = d)) = [] := by simp
  unfold List.rdropWhile
  rw [List.reverse_cons, List.dropWhile_append, hgone]
  cases l.reverse.dropWhile fun a => decide (a = d) with
  | nil => rfl
  | cons b rest => simp

/-- Squeezed and without the trailing `d`, by induction along the list: from inside a run the WORDS
    are left; from outside, the list before the first separator joins them, empty or not. -/
theorem rdropWhile_squeezeFrom (hd : sep d = true) :
    (squeezeFrom sep d true l).rdropWhile (fun a => decide (a = d)) = join d (words sep l) ∧
    ∀ w ws, l.splitOnP sep = w :: ws →
      (squeezeFrom sep d false l).rdropWhile (fun a => decide (a = d)) =
        join d (w :: ws.filter fun v => !v.isEmpty) := by
  induction l with
  | nil =>
      refine ⟨rfl, fun w ws hsplit => ?_⟩
      obtain ⟨rfl, rfl⟩ := List.cons.inj hsplit
      rfl
  | cons c l ih =>
      by_cases hc : sep c = true
      · have htrue : squeezeFrom sep d true (c :: l) = squeezeFrom sep d true l := by
          simp [squeezeFrom, hc]
        have hfalse : squeezeFrom sep d false (c :: l) = d :: squeezeFrom sep d true l := by
          simp [squeezeFrom, hc]
        refine ⟨by rw [htrue, ih.1, words_cons_sep hc], fun w ws hsplit => ?_⟩
        rw [List.splitOnP_cons_eq_if_modifyHead, if_pos hc] at hsplit
        obtain ⟨rfl, rfl⟩ := List.cons.inj hsplit
        rw [hfalse, rdropWhile_cons_self, ih.1]
        have hwords : (l.splitOnP sep).filter (fun v => !v.isEmpty) = words sep l := rfl
        rw [hwords]
        by_cases hnil : words sep l = []
        · simp [hnil]
        · have hjoin : join d (words sep l) ≠ [] := by
            rw [Ne, join_eq_nil_iff fun w hw => ne_nil_of_mem_words hw]
            exact hnil
          rw [if_neg hjoin, join_cons_of_ne_nil hnil, List.nil_append]
      · have hcd : c ≠ d := fun h => hc (h ▸ hd)
        have hboth : ∀ b, squeezeFrom sep d b (c :: l) = c :: squeezeFrom sep d false l := by
          intro b
          simp [squeezeFrom, hc]
        cases hsplit : l.splitOnP sep with
        | nil => exact absurd hsplit (List.splitOnP_ne_nil sep l)
        | cons v vs =>
            have hrest := ih.2 v vs hsplit
            have hcons : (c :: l).splitOnP sep = (c :: v) :: vs := by
              rw [List.splitOnP_cons_eq_if_modifyHead, if_neg hc, hsplit]
              rfl
            refine ⟨?_, fun w ws hw => ?_⟩
            · have hwords : words sep (c :: l) = (c :: v) :: vs.filter fun v => !v.isEmpty := by
                unfold words
                rw [hcons]
                rfl
              rw [hboth, rdropWhile_cons_of_ne hcd, hrest, hwords, join_cons_cons]
            · rw [hcons] at hw
              obtain ⟨rfl, rfl⟩ := List.cons.inj hw
              rw [hboth, rdropWhile_cons_of_ne hcd, hrest, join_cons_cons]

theorem dropWhile_of_head? (h : l.head? ≠ some d) :
    l.dropWhile (fun a => decide (a = d)) = l := by
  cases l with
  | nil => rfl
  | cons c l =>
      have hc : c ≠ d := fun hcd => h (by rw [hcd]; rfl)
      simp [hc]

/-- Without the leading `d`, inside and outside are one. -/
theorem dropWhile_squeeze (hd : sep d = true) :
    (squeeze sep d l).dropWhile (fun a => decide (a = d)) = squeezeFrom sep d true l := by
  have htrue := dropWhile_of_head? (head?_squeezeFrom_true (l := l) hd)
  unfold squeeze
  cases l with
  | nil => rfl
  | cons c l =>
      by_cases hc : sep c = true
      · have hl := dropWhile_of_head? (head?_squeezeFrom_true (l := l) hd)
        simp [squeezeFrom, hc, hl]
      · have hcd : c ≠ d := fun h => hc (h ▸ hd)
        simp [squeezeFrom, hc, hcd]

/-- **Squeezed and trimmed, a list is the join of its words.** -/
theorem trim_squeeze (hd : sep d = true) : trim d (squeeze sep d l) = join d (words sep l) := by
  unfold trim
  rw [dropWhile_squeeze hd]
  exact (rdropWhile_squeezeFrom hd).1

theorem mem_of_mem_trim {c : α} (h : c ∈ trim d l) : c ∈ l :=
  (List.dropWhile_sublist _).mem ((List.rdropWhile_prefix _ _).mem h)

/-- Squeezed and trimmed, a list is tidy. -/
theorem tidy_trim_squeeze (hd : sep d = true) : Tidy d (trim d (squeeze sep d l)) := by
  have hfirst : trim d (squeeze sep d l) <+: squeezeFrom sep d true l := by
    unfold trim
    rw [dropWhile_squeeze hd]
    exact List.rdropWhile_prefix _ _
  obtain ⟨rest, hrest⟩ := hfirst
  have hchain := isChain_squeezeFrom (l := l) hd true
  rw [← hrest] at hchain
  refine ⟨fun hhead => ?_, hchain.left_of_append⟩
  refine head?_squeezeFrom_true (l := l) hd ?_
  rw [← hrest, List.head?_append, hhead]
  rfl

/-- A trimmed list has no `d` at its end. -/
theorem getLast?_trim : (trim d l).getLast? ≠ some d := by
  intro hlast
  unfold trim at hlast
  have hne : (l.dropWhile fun a => decide (a = d)).rdropWhile (fun a => decide (a = d)) ≠ [] := by
    intro hnil
    rw [hnil] at hlast
    cases hlast
  have hnot := List.rdropWhile_last_not _ _ hne
  rw [List.getLast?_eq_some_getLast hne] at hlast
  exact hnot (decide_eq_true (Option.some.inj hlast))

/-- **Nothing is left to trim** in a tidy list without a `d` at its end. -/
theorem trim_eq_self (h : Tidy d l) (hlast : l.getLast? ≠ some d) : trim d l = l := by
  unfold trim
  rw [dropWhile_of_head? h.head, List.rdropWhile_eq_self_iff]
  intro hne heq
  refine hlast ?_
  rw [List.getLast?_eq_some_getLast hne, of_decide_eq_true heq]

end Squeezing

end Words
