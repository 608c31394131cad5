/-
  File:      CampusConnect/Base/Tally.lean
  Subject:   Tallies: dictionaries with a default, and what a sum over their values counts.

  * `modify key dflt f d`: `d[key] = f(d[key])` on a `defaultdict` that keeps its keys in the order
    they came;
  * `total g d`: the sum of what `g` reads off the values; `total_modify`: one write changes it by
    what the write adds, whichever key it is of, so that nothing is lost or counted twice.
-/
import Mathlib.Algebra.BigOperators.Group.List.Basic

namespace Tally

universe u v w

variable {κ : Type u} [DecidableEq κ] {V : Type v} {M : Type w} [AddCommMonoid M]

/-- Write the value of one key, which is the default where the key is new. -/
def modify (key : κ) (dflt : V) (f : V → V) : List (κ × V) → List (κ × V)
  | [] => [(key, f dflt)]
  | (k, v) :: d => if k = key then (k, f v) :: d else (k, v) :: modify key dflt f d

/-- The sum of a figure over the values. -/
def total (g : V → M) (d : List (κ × V)) : M := (d.map fun p => g p.2).sum

variable {key : κ} {dflt : V} {f : V → V} {g : V → M} {δ : M} {d : List (κ × V)}

/-- **One write adds what it adds**, whichever key it is of. -/
theorem total_modify (hzero : g dflt = 0) (hf : ∀ v, g (f v) = g v + δ) :
    total g (modify key dflt f d) = total g d + δ := by
  induction d with
  | nil => simp [modify, total, hf, hzero]
  | cons p d ih =>
      obtain ⟨k, v⟩ := p
      unfold modify
      by_cases hk : k = key
      · rw [if_pos hk]
        simp only [total, List.map_cons, List.sum_cons, hf]
        exact add_right_comm ..
      · rw [if_neg hk]
        simp only [total, List.map_cons, List.sum_cons] at ih ⊢
        rw [ih, add_assoc]

end Tally
