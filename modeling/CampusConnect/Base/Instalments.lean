/-
  File:      CampusConnect/Base/Instalments.lean
  Subject:   A balance that is brought to a target by one-sided instalments, over any ordered
             additive group.

  The SIDE is fixed once, from the sign of what is missing; afterwards only instalments of that
  side are taken, each at most what remains. `Bounded` says the balance has not passed the target:
  it holds where the side is fixed (`bounded_sideOf`), an admitted instalment keeps it
  (`bounded_move`), and under it nothing left to move means the target is met exactly
  (`met_of_remaining`).
-/
import Mathlib.Algebra.Order.Group.Defs
import Mathlib.Algebra.Order.Group.Unbundled.Basic
import Mathlib.Tactic.Abel

namespace Instalments

universe u

/-- Which way the instalments go. -/
inductive Side where
  | pay
  | receive
  | even
  deriving DecidableEq, Repr

variable {α : Type u} [AddCommGroup α] [LinearOrder α] [IsOrderedAddMonoid α]

/-- The side a missing amount asks for. -/
def sideOf (missing : α) : Side :=
  if 0 < missing then .pay else if missing < 0 then .receive else .even

/-- What an instalment makes of the balance. -/
def move (side : Side) (balance amount : α) : α :=
  match side with
  | .pay => balance + amount
  | .receive => balance - amount
  | .even => balance

/-- What is left to move. -/
def remaining (side : Side) (target balance : α) : α :=
  match side with
  | .pay => target - balance
  | .receive => balance - target
  | .even => 0

/-- The balance has not passed the target. -/
def Bounded (side : Side) (target balance : α) : Prop :=
  match side with
  | .pay => balance ≤ target
  | .receive => target ≤ balance
  | .even => balance = target

variable {side : Side} {target balance amount : α}

theorem bounded_sideOf (target balance : α) : Bounded (sideOf (target - balance)) target balance := by
  unfold sideOf
  by_cases hpos : 0 < target - balance
  · rw [if_pos hpos]
    exact le_of_lt (sub_pos.mp hpos)
  · rw [if_neg hpos]
    have hle : target ≤ balance := sub_nonpos.mp (not_lt.mp hpos)
    by_cases hneg : target - balance < 0
    · rw [if_pos hneg]
      exact hle
    · rw [if_neg hneg]
      have hge : balance ≤ target := sub_nonneg.mp (not_lt.mp hneg)
      exact le_antisymm hge hle

/-- **An instalment of at most what remains does not pass the target.** -/
theorem bounded_move (h : Bounded side target balance) (hle : amount ≤ remaining side target balance) :
    Bounded side target (move side balance amount) := by
  cases side with
  | pay =>
      have hsum : balance + amount ≤ balance + (target - balance) := by
        exact add_le_add_right hle balance
      rw [add_sub_cancel] at hsum
      exact hsum
  | receive =>
      have hdiff : balance - (balance - target) ≤ balance - amount := sub_le_sub_left hle balance
      rw [sub_sub_cancel] at hdiff
      exact hdiff
  | even => exact h

/-- **Nothing left to move means the target is met exactly.** -/
theorem met_of_remaining (h : Bounded side target balance)
    (hr : remaining side target balance ≤ 0) : balance = target := by
  cases side with
  | pay => exact le_antisymm h (sub_nonpos.mp hr)
  | receive => exact le_antisymm (sub_nonpos.mp hr) h
  | even => exact h

omit [LinearOrder α] [IsOrderedAddMonoid α] in
/-- An instalment of all that remains leaves nothing. -/
theorem remaining_move_self (side : Side) (target balance : α) :
    remaining side target (move side balance (remaining side target balance)) = 0 := by
  cases side with
  | pay =>
      show target - (balance + (target - balance)) = 0
      abel
  | receive =>
      show balance - (balance - target) - target = 0
      abel
  | even => rfl

theorem remaining_nonneg (h : Bounded side target balance) : 0 ≤ remaining side target balance := by
  cases side with
  | pay => exact sub_nonneg.mpr h
  | receive => exact sub_nonneg.mpr h
  | even => exact le_refl 0

/-- Off the target something is left to move. -/
theorem remaining_pos (h : Bounded side target balance) (hne : balance ≠ target) :
    0 < remaining side target balance := by
  refine lt_of_le_of_ne (remaining_nonneg h) fun hzero => ?_
  exact hne (met_of_remaining h (le_of_eq hzero.symm))

end Instalments
