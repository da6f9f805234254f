import ThreadHaul.Lib.LeastSquares
import ThreadHaul.Telemetry.AdaptiveThresholds

/-!
# Trend

What the line of `Fit` is.

The loop adds up four sums over the window, `sums_eq`, and from three readings on
the slope and the intercept are those of the least-squares line through the points
`(i, window[i])`. The indices are all different, so the denominator is positive
and the branch for a zero denominator is never taken: `denominator_pos`.

That the line is the closest one, and the only one, is then a matter of the normal
equations.

## Main definitions

* `index`, `reading`: The points, one for each reading of the window.
* `sums`, `denominator`: The sums of the loop, and what `Fit` divides by.

## Theorems

* `sums_eq`: What the loop adds up.
* `denominator_pos`: The branch for a zero denominator is dead.
* `fit_normal`: The fitted line satisfies the normal equations.
* `slope_eq`, `forecast_eq`: Readings on a line are continued exactly.
* `fit_is_least_squares`: The fit is the least-squares line.
* `slope_nonneg_of_rising`, `slope_nonpos_of_falling`: The sign of the slope.
* `offset_of_slope_nonpos`: Without a rise nothing is lowered.
* `adjusts_only_when_rising`: Flat or falling load leaves the thresholds alone.
-/

namespace ThreadHaul

namespace Telemetry

open Actuator Finset LeastSquares

/-- Where a reading stands in the window. -/
def index (i : Nat) : Rat := i

/-- The reading with an index. -/
def reading (window : List Rat) (i : Nat) : Rat := window.getD i 0

/-- The loop of `Fit`, from the reading with index `k` on. -/
theorem foldl_add (window : List Rat) (k : Nat) (s : Sums) :
    (window.zipIdx k).foldl Sums.add s
      = { sx := s.sx + ∑ i ∈ range window.length, index (k + i)
          sy := s.sy + ∑ i ∈ range window.length, reading window i
          sxx := s.sxx + ∑ i ∈ range window.length, index (k + i) ^ 2
          sxy := s.sxy + ∑ i ∈ range window.length, index (k + i) * reading window i } := by
  -- The indices of the rest are shifted by one.
  induction window generalizing k s with
  | nil =>
      simp only [List.zipIdx_nil, List.foldl_nil, List.length_nil, range_zero, sum_empty, add_zero]
  | cons y window ih =>
      have hshift : ∀ i, k + 1 + i = k + (i + 1) := fun i => by omega
      have hhead : reading (y :: window) 0 = y := rfl
      have htail : ∀ i, reading (y :: window) (i + 1) = reading window i := fun i => rfl
      rw [List.zipIdx_cons, List.foldl_cons, ih]
      simp only [List.length_cons, sum_range_succ', hshift, hhead, htail, add_zero, Sums.add, index,
        Sums.mk.injEq]
      refine ⟨?_, ?_, ?_, ?_⟩ <;> ring

namespace AdaptiveThresholds

/-- The sums of the loop in `Fit`. -/
def sums (a : AdaptiveThresholds) : Sums := a.window.zipIdx.foldl Sums.add {}

/-- What `Fit` divides by. -/
def denominator (a : AdaptiveThresholds) : Rat :=
  a.window.length * a.sums.sxx - a.sums.sx * a.sums.sx

variable (a : AdaptiveThresholds)

theorem sums_eq :
    a.sums = { sx := ∑ i ∈ range a.window.length, index i
               sy := ∑ i ∈ range a.window.length, reading a.window i
               sxx := ∑ i ∈ range a.window.length, index i ^ 2
               sxy := ∑ i ∈ range a.window.length, index i * reading a.window i } := by
  rw [sums, foldl_add]
  simp only [zero_add]

theorem denominator_eq : a.denominator = spread (range a.window.length) index := by
  rw [denominator, sums_eq, spread, card_range]
  ring

variable {a}

/-- The first two indices of a window differ. -/
theorem index_zero_ne_one : index 0 ≠ index 1 := by
  rw [index, index]
  norm_num

theorem denominator_pos (h : 3 ≤ a.window.length) : 0 < a.denominator := by
  rw [denominator_eq]
  exact spread_pos (mem_range.mpr (by omega : 0 < a.window.length))
    (mem_range.mpr (by omega : 1 < a.window.length)) index_zero_ne_one

/-- From three readings on the fit is the solution of the normal equations. -/
theorem fit_eq (h : 3 ≤ a.window.length) :
    a.fit = (LeastSquares.slope (range a.window.length) index (reading a.window),
      LeastSquares.intercept (range a.window.length) index (reading a.window)) := by
  have hdenom := denominator_pos h
  have hfit : a.fit = ((a.window.length * a.sums.sxy - a.sums.sx * a.sums.sy) / a.denominator,
      (a.sums.sy
          - (a.window.length * a.sums.sxy - a.sums.sx * a.sums.sy) / a.denominator * a.sums.sx)
        / a.window.length) := by
    rw [fit, if_neg (by omega)]
    exact if_neg hdenom.ne'
  rw [hfit, LeastSquares.intercept, LeastSquares.slope, ← denominator_eq, sums_eq, card_range]

/-- The fitted line satisfies the normal equations. -/
theorem fit_normal (h : 3 ≤ a.window.length) :
    Normal (range a.window.length) index (reading a.window) a.fit.2 a.slope := by
  have hcard : ((range a.window.length).card : Rat) ≠ 0 := by
    rw [card_range]
    exact Nat.cast_ne_zero.mpr (by omega)
  have hspread := denominator_pos h
  rw [denominator_eq] at hspread
  rw [slope, fit_eq h]
  exact normal_solution _ _ _ hcard hspread.ne'

/-- The forecast is a value of the fitted line. -/
theorem forecast_of_fit (h : 3 ≤ a.window.length) :
    a.forecast = a.fit.2 + a.slope * ((a.window.length : Rat) - 1 + a.settings.horizonSamples) := by
  rw [forecast, if_neg (by omega), slope, Nat.cast_sub (by omega : 1 ≤ a.window.length),
    Nat.cast_one]

/-- No other line is as close. -/
theorem fit_unique (h : 3 ≤ a.window.length) {c b : Rat}
    (hle : cost (range a.window.length) index (reading a.window) c b
      ≤ cost (range a.window.length) index (reading a.window) a.fit.2 a.slope) :
    c = a.fit.2 ∧ b = a.slope :=
  (fit_normal h).eq_of_cost_le (mem_range.mpr (by omega : 0 < a.window.length))
    (mem_range.mpr (by omega : 1 < a.window.length)) index_zero_ne_one hle

/-- The fitted line of readings on a line is that line. -/
theorem fit_of_line (h : 3 ≤ a.window.length) {first step : Rat}
    (hline : ∀ i < a.window.length, reading a.window i = first + step * i) :
    first = a.fit.2 ∧ step = a.slope := by
  have hnormal : Normal (range a.window.length) index (reading a.window) first step :=
    normal_of_line fun i hi => hline i (mem_range.mp hi)
  exact fit_unique h (hnormal.cost_le _ _)

/-- Readings on a line are continued exactly. -/
theorem forecast_of_line (h : 3 ≤ a.window.length) {first step : Rat}
    (hline : ∀ i < a.window.length, reading a.window i = first + step * i) :
    a.forecast = first + step * ((a.window.length : Rat) - 1 + a.settings.horizonSamples) := by
  obtain ⟨hfirst, hstep⟩ := fit_of_line h hline
  rw [forecast_of_fit h, ← hfirst, ← hstep]

theorem fit_of_short (h : a.window.length < 3) : a.fit = (0, a.window.getLastD 0) := by
  rw [fit, if_pos h]

theorem forecast_of_short (h : a.window.length < 3) : a.forecast = a.window.getLastD 0 := by
  rw [forecast, if_pos h, fit_of_short h]

variable (a)

/-- The fit is the least-squares line: the closest one to the readings, and the
    only one, from three readings on, and flat at the last reading before. -/
theorem fit_is_least_squares :
    (3 ≤ a.window.length →
      0 < a.denominator ∧
      (∑ i ∈ range a.window.length, residual index (reading a.window) a.fit.2 a.slope i = 0 ∧
        ∑ i ∈ range a.window.length,
          index i * residual index (reading a.window) a.fit.2 a.slope i = 0) ∧
      (∀ c b, cost (range a.window.length) index (reading a.window) a.fit.2 a.slope
          ≤ cost (range a.window.length) index (reading a.window) c b ∧
        (cost (range a.window.length) index (reading a.window) c b
            ≤ cost (range a.window.length) index (reading a.window) a.fit.2 a.slope →
          c = a.fit.2 ∧ b = a.slope)) ∧
      a.forecast
        = a.fit.2 + a.slope * ((a.window.length : Rat) - 1 + a.settings.horizonSamples) ∧
      ∀ first step : Rat, (∀ i < a.window.length, a.window[i]? = some (first + step * i)) →
        a.slope = step ∧
        a.forecast = first + step * ((a.window.length : Rat) - 1 + a.settings.horizonSamples)) ∧
    (a.window.length < 3 →
      a.slope = 0 ∧ (a.window = [] → a.forecast = 0) ∧
      ∀ init y, a.window = init ++ [y] → a.forecast = y) := by
  constructor
  · intro h
    have hnormal := fit_normal h
    refine ⟨denominator_pos h, ⟨hnormal.sum_eq, hnormal.orthogonal⟩,
      fun c b => ⟨hnormal.cost_le c b, fit_unique h⟩, forecast_of_fit h, ?_⟩
    intro first step hwindow
    -- The readings lie on a line, which is then the fit.
    have hline : ∀ i < a.window.length, reading a.window i = first + step * i := by
      intro i hi
      rw [reading, List.getD_eq_getElem?_getD, hwindow i hi, Option.getD_some]
    exact ⟨(fit_of_line h hline).2.symm, forecast_of_line h hline⟩
  · intro h
    refine ⟨congrArg Prod.fst (fit_of_short h), ?_, ?_⟩
    · intro hnil
      rw [forecast_of_short h, hnil, List.getLastD_nil]
    · intro init y hwindow
      rw [forecast_of_short h, hwindow, List.getLastD_concat]

variable {a}

/-- The slope of the fit is that of the line through the points, or zero. -/
theorem slope_eq_or_zero :
    a.slope = LeastSquares.slope (range a.window.length) index (reading a.window) ∨
      a.slope = 0 := by
  by_cases h : a.window.length < 3
  · exact Or.inr (congrArg Prod.fst (fit_of_short h))
  · exact Or.inl (congrArg Prod.fst (fit_eq (not_lt.mp h)))

-- An index is a position.
theorem index_lt_iff (i j : Nat) : index i < index j ↔ i < j := Nat.cast_lt

/-- In a window where every reading stands in a relation to every later one, so do the
    readings by index. -/
theorem reading_pairwise {r : Rat → Rat → Prop} (h : a.window.Pairwise r) {i j : Nat}
    (hij : i < j) (hj : j < a.window.length) : r (reading a.window i) (reading a.window j) := by
  have hget : ∀ k, (hk : k < a.window.length) → reading a.window k = a.window[k] := by
    intro k hk
    rw [reading, List.getD_eq_getElem?_getD, List.getElem?_eq_getElem hk, Option.getD_some]
  rw [hget i (hij.trans hj), hget j hj]
  exact List.pairwise_iff_getElem.mp h i j (hij.trans hj) hj hij

/-- Readings that never fall do not have a falling line. -/
theorem slope_nonneg_of_rising (h : a.window.Pairwise (· ≤ ·)) : 0 ≤ a.slope := by
  have hmono : MonovaryOn index (reading a.window) (range a.window.length) := by
    intro i hi j _ hlt
    -- Were `j` the earlier one, it would not be the higher one.
    by_contra hle
    have hji := (index_lt_iff j i).mp (not_le.mp hle)
    exact absurd hlt (not_lt.mpr (reading_pairwise h hji (mem_range.mp (mem_coe.mp hi))))
  rcases slope_eq_or_zero (a := a) with heq | heq
  · rw [heq]
    exact LeastSquares.slope_nonneg hmono
  · exact heq.ge

/-- Readings that never rise do not have a rising line. -/
theorem slope_nonpos_of_falling (h : a.window.Pairwise (· ≥ ·)) : a.slope ≤ 0 := by
  have hanti : AntivaryOn index (reading a.window) (range a.window.length) := by
    intro i _ j hj hlt
    -- Were `i` the earlier one, it would not be the lower one.
    by_contra hle
    have hij := (index_lt_iff i j).mp (not_le.mp hle)
    exact absurd hlt (not_lt.mpr (reading_pairwise h hij (mem_range.mp (mem_coe.mp hj))))
  rcases slope_eq_or_zero (a := a) with heq | heq
  · rw [heq]
    exact LeastSquares.slope_nonpos hanti
  · exact heq.le

/-- Without a rise, and without pressure from outside, nothing is lowered. -/
theorem offset_of_slope_nonpos (h : a.slope ≤ 0) (base : StateMachineConfig Rat) {bias : Rat}
    (hbias : bias ≤ 0) : a.offset base bias = 0 := by
  have hrise : ¬ (a.settings.enabled ∧ 0 < a.slope ∧
      base.throttleThresholdPercent ≤ a.forecast) := fun hand => absurd hand.2.1 (not_lt.mpr h)
  rw [offset, if_neg hrise, max_eq_right hbias, clamp, if_neg (lt_irrefl 0)]
  exact if_neg (not_lt.mpr (le_max_left 0 _))

theorem adjust_of_offset (base : StateMachineConfig Rat) (bias : Rat)
    (h : a.offset base bias = 0) : a.adjust base bias = base := by
  rw [adjust, h, sub_zero, sub_zero]

variable (a)

/-- Flat or falling load leaves the thresholds alone, whatever the horizon, the cap and
    the configuration. -/
theorem adjusts_only_when_rising :
    (a.window.Pairwise (· ≥ ·) →
      a.slope ≤ 0 ∧
      ∀ (base : StateMachineConfig Rat) (bias : Rat), bias ≤ 0 → a.adjust base bias = base) ∧
    (a.window.Pairwise (· ≤ ·) → 0 ≤ a.slope) := by
  refine ⟨fun hfalling => ?_, slope_nonneg_of_rising⟩
  have hslope := slope_nonpos_of_falling hfalling
  refine ⟨hslope, fun base bias hbias => ?_⟩
  exact adjust_of_offset base bias (offset_of_slope_nonpos hslope base hbias)

/-- Three falling readings, above every threshold, in adaptive mode. -/
theorem adjusts_only_when_rising_three :
    (⟨{ enabled := true }, [99, 98, 97]⟩ : AdaptiveThresholds).slope ≤ 0 ∧
    (⟨{ enabled := true }, [99, 98, 97]⟩ : AdaptiveThresholds).adjust ⟨80, 3, 90, 3, 60, 3⟩ 0
      = ⟨80, 3, 90, 3, 60, 3⟩ := by
  have hfalling := (adjusts_only_when_rising ⟨{ enabled := true }, [99, 98, 97]⟩).1 (by decide)
  exact ⟨hfalling.1, hfalling.2 ⟨80, 3, 90, 3, 60, 3⟩ 0 (le_refl 0)⟩

end AdaptiveThresholds

end Telemetry

end ThreadHaul
