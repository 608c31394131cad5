/-
  File:      CampusConnect/Base/SlidingWindow.lean
  Subject:   Admission by a sliding window: at most `m` entries of a log in any window of length `W`.

  * `prune W t l`: the entries of `l` after `t - W`, what a limiter keeps at the time `t`;
  * `within W t l`: the entries of `l` in `(t - W, t]`, what the policy counts;
  * `prune_prune`, `within_eq_prune`: pruning early loses nothing, and with no entry ahead of `t`
    the two are one;
  * `Paced m W l`: no window of length `W` holds more than `m` entries; `Paced.append`: an entry
    admitted while fewer than `m` are within the window keeps the log paced;
  * `length_prune_lt_iff`: in a log in order of time, a full window has room again exactly when its
    OLDEST entry leaves it.
-/
import Mathlib.Algebra.Order.Group.Defs
import Mathlib.Data.List.Basic
import Mathlib.Order.Bounds.Basic

namespace SlidingWindow

universe u

variable {K : Type u} [AddCommGroup K] [LinearOrder K]

/-- The entries after `t - W`. -/
def prune (W t : K) (l : List K) : List K :=
  l.filter fun a => decide (t - W < a)

/-- The entries in `(t - W, t]`. -/
def within (W t : K) (l : List K) : List K :=
  l.filter fun a => decide (t - W < a ∧ a ≤ t)

/-- No window of length `W` holds more than `m` entries. -/
def Paced (m : Nat) (W : K) (l : List K) : Prop :=
  ∀ t, (within W t l).length ≤ m

variable {W t t' : K} {l l' : List K}

/-! ## 1. Pruning -/

theorem mem_prune {a : K} : a ∈ prune W t l ↔ a ∈ l ∧ t - W < a := by
  unfold prune
  rw [List.mem_filter, decide_eq_true_eq]

@[simp] theorem within_nil : within W t ([] : List K) = [] := rfl

@[simp] theorem prune_append : prune W t (l ++ l') = prune W t l ++ prune W t l' :=
  List.filter_append ..

@[simp] theorem within_append : within W t (l ++ l') = within W t l ++ within W t l' :=
  List.filter_append ..

/-- With no entry ahead of `t`, the policy counts what the limiter keeps. -/
theorem within_eq_prune (h : ∀ a ∈ l, a ≤ t) : within W t l = prune W t l := by
  unfold within prune
  refine List.filter_congr fun a ha => ?_
  have hle : a ≤ t := h a ha
  simp [hle]

theorem length_within_le : (within W t l).length ≤ (prune W t l).length := by
  refine List.Sublist.length_le (List.monotone_filter_right l fun a ha => ?_)
  rw [decide_eq_true_eq] at ha ⊢
  exact ha.1

/-- In a log in order of time the first entry kept is the earliest. -/
theorem isLeast_of_prune {a : K} (hsort : l.Pairwise (· ≤ ·)) (h : prune W t l = a :: l') :
    IsLeast {b | b ∈ l ∧ t - W < b} a := by
  have hkept : (a :: l').Pairwise (· ≤ ·) := by
    rw [← h]
    exact hsort.filter _
  have ha : a ∈ prune W t l := by
    rw [h]
    exact List.mem_cons_self
  refine ⟨mem_prune.mp ha, fun b hb => ?_⟩
  have hb' : b ∈ prune W t l := mem_prune.mpr hb
  rw [h] at hb'
  rcases List.mem_cons.mp hb' with rfl | hb'
  · exact le_rfl
  · exact (List.pairwise_cons.mp hkept).1 b hb'

theorem paced_nil (m : Nat) : Paced m W ([] : List K) := by
  intro t
  simp

section Ordered

variable [IsOrderedAddMonoid K]

/-- **Pruning early loses nothing.** -/
theorem prune_prune (h : t ≤ t') : prune W t' (prune W t l) = prune W t' l := by
  unfold prune
  rw [List.filter_filter]
  refine List.filter_congr fun a _ => ?_
  have hstart : t - W ≤ t' - W := sub_le_sub_right h W
  rw [Bool.eq_iff_iff]
  simp only [Bool.and_eq_true, decide_eq_true_eq]
  constructor
  · intro ha
    exact ha.1
  · intro ha
    exact ⟨ha, lt_of_le_of_lt hstart ha⟩

theorem length_prune_le (h : t ≤ t') : (prune W t' l).length ≤ (prune W t l).length := by
  rw [← prune_prune h]
  exact List.length_filter_le ..

/-! ## 2. Paced logs -/

/-- An entry admitted while fewer than `m` are within its window. -/
theorem Paced.append {m : Nat} (h : Paced m W l) (hle : ∀ a ∈ l, a ≤ t)
    (hroom : (within W t l).length < m) : Paced m W (l ++ [t]) := by
  intro u
  rw [within_append, List.length_append]
  by_cases hu : t ≤ u
  · -- a window that holds `t` holds no earlier entry that the window at `t` lacks
    have hsub : (within W u l).length ≤ (within W t l).length := by
      rw [within_eq_prune hle]
      exact le_trans length_within_le (length_prune_le hu)
    have hone : (within W u [t]).length ≤ 1 := List.length_filter_le ..
    omega
  · have hnone : within W u [t] = [] := by
      simp [within, hu]
    rw [hnone]
    exact h u

/-! ## 3. Room again -/

/-- **A full window has room again exactly when its oldest entry has left it.** -/
theorem length_prune_lt_iff {a : K} {m : Nat} (ht : t ≤ t')
    (hleast : IsLeast {b | b ∈ l ∧ t - W < b} a) (hfull : (prune W t l).length = m) :
    (prune W t' l).length < m ↔ a ≤ t' - W := by
  have hmem : a ∈ prune W t l := mem_prune.mpr hleast.1
  rw [← prune_prune ht]
  constructor
  · intro hlt
    by_contra hstay
    have hall : prune W t' (prune W t l) = prune W t l := by
      refine List.filter_eq_self.mpr fun b hb => ?_
      have hab : a ≤ b := hleast.2 (mem_prune.mp hb)
      exact decide_eq_true (lt_of_lt_of_le (not_le.mp hstay) hab)
    rw [hall, hfull] at hlt
    exact lt_irrefl m hlt
  · intro hgone
    rw [← hfull]
    refine List.length_filter_lt_length_iff_exists.mpr ⟨a, hmem, ?_⟩
    rw [decide_eq_true_eq]
    exact not_lt.mpr hgone

end Ordered

end SlidingWindow
