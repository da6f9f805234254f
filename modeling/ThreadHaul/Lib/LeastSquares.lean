import Mathlib.Algebra.BigOperators.Field
import Mathlib.Algebra.BigOperators.Ring.Finset
import Mathlib.Algebra.Order.Chebyshev
import Mathlib.Algebra.Order.BigOperators.Ring.Finset
import Mathlib.Tactic.LinearCombination

/-!
# Least Squares

The line `a + b * x` closest to finitely many points, in the sum of the squared
vertical distances.

A line is the closest one exactly when its residuals satisfy two linear
equations, the normal equations: they sum to zero, and they are orthogonal to
the abscissas. `cost_eq` is the reason. Against a line that satisfies the normal
equations, any other line costs as much more as the squares of the differences
between the two, so it costs more as soon as two points have different
abscissas.

The normal equations have a unique solution when the spread of the abscissas,
`n * ∑ x² - (∑ x)²`, is not zero. Up to the factor `n` the spread is a sum of
squares, `card_mul_spread`, so it is never negative, and it is zero only if all
abscissas are the same. The sign of the slope is then that of the covariance, and
for points in order that is a matter of Chebyshev's sum inequality.

## Main definitions

* `residual`, `cost`: The distance of a point from a line, and of all points.
* `Normal`: The two normal equations.
* `spread`, `slope`, `intercept`: The solution.

## Theorems

* `spread_pos`: Two different abscissas make the spread positive.
* `slope_nonneg`, `slope_nonpos`: Points that only rise, or only fall, have a line
  that does.
* `normal_solution`: The solution satisfies the normal equations.
* `cost_eq`: What any other line costs.
* `cost_le`, `eq_of_cost_le`: The least cost, and who has it.
-/

namespace LeastSquares

open Finset

variable {ι K : Type*} [Field K]

section Algebra

variable (s : Finset ι) (x y : ι → K)

/-- How far a point lies above the line. -/
def residual (a b : K) (i : ι) : K := y i - (a + b * x i)

/-- The sum of the squared residuals. -/
def cost (a b : K) : K := ∑ i ∈ s, residual x y a b i ^ 2

/-- The normal equations: the residuals sum to zero and are orthogonal to the
    abscissas. -/
structure Normal (a b : K) : Prop where
  sum_eq : ∑ i ∈ s, residual x y a b i = 0
  orthogonal : ∑ i ∈ s, x i * residual x y a b i = 0

/-- The determinant of the normal equations. -/
def spread : K := (s.card : K) * ∑ i ∈ s, x i ^ 2 - (∑ i ∈ s, x i) ^ 2

/-- The slope of the closest line. -/
def slope : K :=
  ((s.card : K) * ∑ i ∈ s, x i * y i - (∑ i ∈ s, x i) * ∑ i ∈ s, y i) / spread s x

/-- The intercept of the closest line. -/
def intercept : K := (∑ i ∈ s, y i - slope s x y * ∑ i ∈ s, x i) / (s.card : K)

theorem sum_residual (a b : K) :
    ∑ i ∈ s, residual x y a b i
      = ∑ i ∈ s, y i - ((s.card : K) * a + b * ∑ i ∈ s, x i) := by
  simp only [residual, sum_sub_distrib, sum_add_distrib, sum_const, nsmul_eq_mul, mul_sum]

theorem sum_mul_residual (a b : K) :
    ∑ i ∈ s, x i * residual x y a b i
      = ∑ i ∈ s, x i * y i - (a * ∑ i ∈ s, x i + b * ∑ i ∈ s, x i ^ 2) := by
  rw [mul_sum, mul_sum, ← sum_add_distrib, ← sum_sub_distrib]
  refine sum_congr rfl fun i _ => ?_
  rw [residual]
  ring

/-- Up to the number of points, the spread is a sum of squares. -/
theorem card_mul_spread :
    (s.card : K) * spread s x = ∑ i ∈ s, ((s.card : K) * x i - ∑ j ∈ s, x j) ^ 2 := by
  have hexpand : ∀ i, ((s.card : K) * x i - ∑ j ∈ s, x j) ^ 2
      = (s.card : K) ^ 2 * x i ^ 2 - 2 * (s.card : K) * (∑ j ∈ s, x j) * x i
        + (∑ j ∈ s, x j) ^ 2 := by
    intro i
    ring
  simp only [hexpand, sum_add_distrib, sum_sub_distrib, ← mul_sum, sum_const, nsmul_eq_mul]
  rw [spread]
  ring

/-- The solution of the normal equations. -/
theorem normal_solution (hcard : (s.card : K) ≠ 0) (hspread : spread s x ≠ 0) :
    Normal s x y (intercept s x y) (slope s x y) := by
  -- Both quotients are cleared of their denominators first.
  have hfirst : (s.card : K) * intercept s x y
      = ∑ i ∈ s, y i - slope s x y * ∑ i ∈ s, x i := mul_div_cancel₀ _ hcard
  have hsecond : spread s x * slope s x y
      = (s.card : K) * ∑ i ∈ s, x i * y i - (∑ i ∈ s, x i) * ∑ i ∈ s, y i :=
    mul_div_cancel₀ _ hspread
  constructor
  · rw [sum_residual, hfirst]
    ring
  · -- Cleared of the number of points, the second equation is `hsecond`.
    apply mul_left_cancel₀ hcard
    rw [sum_mul_residual, mul_zero, mul_sub, mul_add, ← mul_assoc, hfirst]
    rw [spread] at hsecond
    linear_combination -hsecond

variable {s x y}

/-- Points on a line satisfy its normal equations. -/
theorem normal_of_line {a b : K} (h : ∀ i ∈ s, y i = a + b * x i) : Normal s x y a b := by
  have hzero : ∀ i ∈ s, residual x y a b i = 0 := fun i hi => by rw [residual, h i hi, sub_self]
  constructor
  · exact sum_eq_zero hzero
  · exact sum_eq_zero fun i hi => by rw [hzero i hi, mul_zero]

/-- Whatever the residuals of a normal line, they are orthogonal to the
    difference between two lines. -/
theorem Normal.sum_residual_mul {a b : K} (h : Normal s x y a b) (c d : K) :
    ∑ i ∈ s, residual x y a b i * (c + d * x i) = 0 := by
  have hsplit : ∀ i, residual x y a b i * (c + d * x i)
      = c * residual x y a b i + d * (x i * residual x y a b i) := by
    intro i
    ring
  simp only [hsplit, sum_add_distrib, ← mul_sum]
  rw [h.sum_eq, h.orthogonal, mul_zero, mul_zero, add_zero]

/-- Any line costs what a normal line costs and the squares of the differences
    between the two. -/
theorem Normal.cost_eq {a b : K} (h : Normal s x y a b) (a' b' : K) :
    cost s x y a' b'
      = cost s x y a b + ∑ i ∈ s, ((a' - a) + (b' - b) * x i) ^ 2 := by
  have hexpand : ∀ i, residual x y a' b' i ^ 2
      = residual x y a b i ^ 2 - 2 * (residual x y a b i * ((a' - a) + (b' - b) * x i))
        + ((a' - a) + (b' - b) * x i) ^ 2 := by
    intro i
    simp only [residual]
    ring
  simp only [cost, hexpand, sum_add_distrib, sum_sub_distrib, ← mul_sum]
  rw [h.sum_residual_mul, mul_zero, sub_zero]

end Algebra

section Order

variable [LinearOrder K] [IsStrictOrderedRing K] {s : Finset ι} {x y : ι → K}

theorem card_pos_of_mem {i : ι} (hi : i ∈ s) : (0 : K) < (s.card : K) :=
  Nat.cast_pos.mpr (card_pos.mpr ⟨i, hi⟩)

/-- Two different abscissas make the spread positive. -/
theorem spread_pos {i j : ι} (hi : i ∈ s) (hj : j ∈ s) (hne : x i ≠ x j) : 0 < spread s x := by
  have hcard : (0 : K) < (s.card : K) := card_pos_of_mem hi
  apply pos_of_mul_pos_right _ hcard.le
  rw [card_mul_spread]
  refine sum_pos' (fun k _ => sq_nonneg _) ?_
  -- Not both of them are the mean.
  by_cases hmean : (s.card : K) * x i - ∑ k ∈ s, x k = 0
  · refine ⟨j, hj, sq_pos_of_ne_zero fun hzero => ?_⟩
    have heq : (s.card : K) * x i = (s.card : K) * x j := by
      rw [sub_eq_zero.mp hmean, sub_eq_zero.mp hzero]
    exact hne (mul_left_cancel₀ hcard.ne' heq)
  · exact ⟨i, hi, sq_pos_of_ne_zero hmean⟩

theorem spread_nonneg (s : Finset ι) (x : ι → K) : 0 ≤ spread s x := by
  rw [spread, sub_nonneg]
  exact sq_sum_le_card_mul_sum_sq

/-- Points of which none is lower than one to its left. -/
theorem slope_nonneg (h : MonovaryOn x y s) : 0 ≤ slope s x y := by
  apply div_nonneg _ (spread_nonneg s x)
  rw [sub_nonneg]
  exact h.sum_mul_sum_le_card_mul_sum

/-- Points of which none is higher than one to its left. -/
theorem slope_nonpos (h : AntivaryOn x y s) : slope s x y ≤ 0 := by
  apply div_nonpos_of_nonpos_of_nonneg _ (spread_nonneg s x)
  rw [sub_nonpos]
  exact h.card_mul_sum_le_sum_mul_sum

/-- The least cost. -/
theorem Normal.cost_le {a b : K} (h : Normal s x y a b) (a' b' : K) :
    cost s x y a b ≤ cost s x y a' b' := by
  rw [h.cost_eq a' b']
  have hnonneg : 0 ≤ ∑ i ∈ s, ((a' - a) + (b' - b) * x i) ^ 2 :=
    sum_nonneg fun i _ => sq_nonneg _
  exact le_add_of_nonneg_right hnonneg

/-- Only one line has the least cost. -/
theorem Normal.eq_of_cost_le {a b : K} (h : Normal s x y a b) {i j : ι} (hi : i ∈ s) (hj : j ∈ s)
    (hne : x i ≠ x j) {a' b' : K} (hle : cost s x y a' b' ≤ cost s x y a b) :
    a' = a ∧ b' = b := by
  rw [h.cost_eq a' b', add_le_iff_nonpos_right] at hle
  have hzero := le_antisymm hle (sum_nonneg fun k _ => sq_nonneg _)
  rw [sum_eq_zero_iff_of_nonneg fun k _ => sq_nonneg _] at hzero
  have hat : ∀ k ∈ s, (a' - a) + (b' - b) * x k = 0 := fun k hk => by
    simpa using hzero k hk
  -- The difference of the two lines vanishes at two places.
  have hb : (b' - b) * (x i - x j) = 0 := by
    linear_combination hat i hi - hat j hj
  rcases mul_eq_zero.mp hb with hb | hx
  · refine ⟨?_, sub_eq_zero.mp hb⟩
    have ha := hat i hi
    rw [hb, zero_mul, add_zero] at ha
    exact sub_eq_zero.mp ha
  · exact absurd (sub_eq_zero.mp hx) hne

end Order

end LeastSquares
