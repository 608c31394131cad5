/-
  File:      CampusConnect/Base/Decimals.lean
  Subject:   Decimal numbers as a sign, digits and an exponent, and what rescaling to two places
             makes of them.

  * `Decimal`, `Decimal.value`: the number as written and the rational it stands for; `1.5` and
    `1.50` are two decimals of one value;
  * `divHalfEven`: division to the nearest integer, ties to the even one, exact on multiples
    (`divHalfEven_mul`);
  * `Decimal.hundredths`: the digits at two places;
  * `Decimal.hundredths_eq`: whole hundredths are rescaled exactly, however they are written;
  * `Decimal.negative_eq`: the sign is the sign of the value, zero aside.
-/
import Mathlib.Algebra.Order.Field.Basic
import Mathlib.Algebra.Order.Field.Power
import Mathlib.Data.Rat.Cast.Order
import Mathlib.Tactic.FieldSimp
import Mathlib.Tactic.Linarith
import Mathlib.Tactic.Positivity

namespace Decimals

/-! ## 1. Decimals and their values -/

/-- A finite decimal: its sign, its digits as a number and its exponent of ten. -/
structure Decimal where
  negative : Bool
  digits : Nat
  exponent : Int
  deriving DecidableEq, Repr

/-- The rational a decimal stands for. -/
def Decimal.value (d : Decimal) : ℚ :=
  (if d.negative then -1 else 1) * (d.digits * (10 : ℚ) ^ d.exponent)

theorem Decimal.abs_value (d : Decimal) : |d.value| = d.digits * (10 : ℚ) ^ d.exponent := by
  have hpos : (0 : ℚ) ≤ d.digits * (10 : ℚ) ^ d.exponent := by positivity
  unfold Decimal.value
  cases d.negative
  · simp [abs_of_nonneg hpos]
  · simp [abs_of_nonneg hpos]

/-! ## 2. Rescaling -/

/-- `n / m` rounded to the nearest integer, a tie to the even one. -/
def divHalfEven (n m : Nat) : Nat :=
  if m < 2 * (n % m) ∨ (2 * (n % m) = m ∧ n / m % 2 = 1) then n / m + 1 else n / m

/-- A multiple is divided exactly. -/
theorem divHalfEven_mul (n : Nat) {m : Nat} (hm : 0 < m) : divHalfEven (n * m) m = n := by
  have hmod : n * m % m = 0 := Nat.mul_mod_left n m
  have hdiv : n * m / m = n := Nat.mul_div_cancel n hm
  unfold divHalfEven
  rw [hmod, hdiv, if_neg (by omega)]

/-- The digits of a decimal at two places. -/
def Decimal.hundredths (d : Decimal) : Nat :=
  if -2 ≤ d.exponent then d.digits * 10 ^ (d.exponent + 2).toNat
  else divHalfEven d.digits (10 ^ (-2 - d.exponent).toNat)

/-! ## 3. Whole hundredths -/

/-- The digits of a decimal of `c` hundredths, two places to the right. -/
theorem Decimal.scaled {d : Decimal} {c : Int} (h : d.value = c / 100) :
    (d.digits : ℚ) * (10 : ℚ) ^ (d.exponent + 2) = c.natAbs := by
  have habs : (d.digits : ℚ) * (10 : ℚ) ^ d.exponent = c.natAbs / 100 := by
    rw [← d.abs_value, h, abs_div, Nat.cast_natAbs, Int.cast_abs]
    norm_num
  have hten : (10 : ℚ) ^ (d.exponent + 2) = 10 ^ d.exponent * 100 := by
    rw [zpow_add₀ (by norm_num)]
    norm_num
  rw [hten, ← mul_assoc, habs]
  exact div_mul_cancel₀ _ (by norm_num)

/-- **Whole hundredths are rescaled exactly**, with trailing zeros or without. -/
theorem Decimal.hundredths_eq {d : Decimal} {c : Int} (h : d.value = c / 100) :
    d.hundredths = c.natAbs := by
  have hscaled := Decimal.scaled h
  unfold Decimal.hundredths
  by_cases he : -2 ≤ d.exponent
  · have hexp : d.exponent + 2 = ((d.exponent + 2).toNat : Int) := by omega
    rw [if_pos he]
    rw [hexp, zpow_natCast] at hscaled
    exact_mod_cast hscaled
  · -- more than two places: the digits are a multiple of the power that is cut
    have hexp : d.exponent + 2 = -((-2 - d.exponent).toNat : Int) := by omega
    have hdigits : d.digits = c.natAbs * 10 ^ (-2 - d.exponent).toNat := by
      rw [hexp, zpow_neg, zpow_natCast] at hscaled
      have hq : (d.digits : ℚ) = c.natAbs * 10 ^ (-2 - d.exponent).toNat := by
        rw [← hscaled]
        field_simp
      exact_mod_cast hq
    rw [if_neg he, hdigits, divHalfEven_mul _ (by positivity)]

/-- The sign of a decimal that is no signed zero is the sign of its value. -/
theorem Decimal.negative_eq {d : Decimal} {c : Int} (h : d.value = c / 100)
    (hzero : d.digits = 0 → d.negative = false) : d.negative = decide (c < 0) := by
  have hten : (0 : ℚ) < (10 : ℚ) ^ d.exponent := by positivity
  cases hn : d.negative with
  | false =>
      have hnonneg : (0 : ℚ) ≤ d.value := by
        simp only [Decimal.value, hn]
        simp only [Bool.false_eq_true, if_false, one_mul]
        positivity
      have hc : (0 : ℚ) ≤ c := by
        rw [h] at hnonneg
        linarith
      have : 0 ≤ c := by exact_mod_cast hc
      simp [this]
  | true =>
      have hdigits : 0 < d.digits := by
        by_contra hle
        rw [hzero (by omega)] at hn
        exact absurd hn (by decide)
      have hneg : d.value < 0 := by
        have hprod : (0 : ℚ) < d.digits * (10 : ℚ) ^ d.exponent :=
          mul_pos (by exact_mod_cast hdigits) hten
        simp only [Decimal.value, hn, if_true]
        linarith
      have hc : (c : ℚ) < 0 := by
        rw [h] at hneg
        linarith
      have : c < 0 := by exact_mod_cast hc
      simp [this]

end Decimals
