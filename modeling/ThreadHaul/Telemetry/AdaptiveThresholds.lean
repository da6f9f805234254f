import Mathlib.Algebra.Order.Field.Rat
import Mathlib.Tactic.Linarith
import ThreadHaul.Actuator.StateMachine

/-!
# Adaptive Thresholds

The predictive adjustment of the throttle and escalate thresholds. A
least-squares line through the last pressure readings is extrapolated, and a
rise that would cross the throttle threshold lowers both thresholds by the
forecast rise, under a cap.

Percentages are exact rationals here.

`Adjust` lowers two thresholds by one and the same amount and leaves everything
else of the configuration alone. What the rest of the development needs of the
amount is its range: `offset_nonneg` and `offset_le_room`. The room is what
separates the throttle threshold from the recovery threshold, less one point,
so a sound configuration stays sound.

## Main definitions

* `AdaptiveSettings`, `AdaptiveThresholds`: The settings and the window.
* `fit`, `slope`, `forecast`: The line through the window.
* `offset`, `adjust`: The amount, and the lowered configuration.

## Theorems

* `clamp_nonneg`, `clamp_le`: The range of a clamped value.
* `offset_nonneg`: The thresholds are never raised.
* `offset_le_room`, `offset_le_maxAdjust`: The thresholds are lowered by no more
  than the room and no more than the cap.
* `sound_adjust`: Adjusting keeps a configuration sound.
-/

namespace ThreadHaul

namespace Telemetry

open Actuator

/-- `AdaptiveSettings`. -/
structure AdaptiveSettings where
  enabled : Bool := false
  windowSamples : Int := 10
  horizonSamples : Int := 3
  maxAdjustPercent : Rat := 10
  deriving DecidableEq, Repr

/-- `AdaptiveThresholds`. -/
structure AdaptiveThresholds where
  settings : AdaptiveSettings := {}
  /-- The readings, oldest first. -/
  window : List Rat := []
  deriving DecidableEq, Repr

/-- `while (size > max(windowSamples, 1)) pop_front()`. -/
def trim (windowSamples : Int) : List Rat → List Rat
  | [] => []
  | y :: window =>
      if max windowSamples 1 < ((y :: window).length : Int) then trim windowSamples window
      else y :: window

/-- The four sums of the least-squares fit. -/
structure Sums where
  sx : Rat := 0
  sy : Rat := 0
  sxx : Rat := 0
  sxy : Rat := 0

/-- One turn of the loop in `Fit`, at the reading with index `p.2`. -/
def Sums.add (s : Sums) (p : Rat × Nat) : Sums :=
  let x : Rat := p.2
  { sx := s.sx + x
    sy := s.sy + p.1
    sxx := s.sxx + x * x
    sxy := s.sxy + x * p.1 }

/-- `std::clamp`. -/
def clamp (v lo hi : Rat) : Rat :=
  if v < lo then lo else if hi < v then hi else v

namespace AdaptiveThresholds

/-- `SetSettings`: the window is cut to its new length. -/
def setSettings (a : AdaptiveThresholds) (s : AdaptiveSettings) : AdaptiveThresholds :=
  { settings := s, window := trim s.windowSamples a.window }

/-- `AddSample`. -/
def addSample (a : AdaptiveThresholds) (pressurePercent : Rat) : AdaptiveThresholds :=
  { a with window := trim a.settings.windowSamples (a.window ++ [pressurePercent]) }

/-- `Reset`. -/
def reset (a : AdaptiveThresholds) : AdaptiveThresholds := { a with window := [] }

/-- Slope and intercept of the fitted line. -/
def fit (a : AdaptiveThresholds) : Rat × Rat :=
  let last := a.window.getLastD 0
  let n : Rat := a.window.length
  if a.window.length < 3 then (0, last)
  else
    let s := a.window.zipIdx.foldl Sums.add {}
    let denom := n * s.sxx - s.sx * s.sx
    if denom = 0 then (0, last)
    else
      let slope := (n * s.sxy - s.sx * s.sy) / denom
      (slope, (s.sy - slope * s.sx) / n)

/-- `Slope`. -/
def slope (a : AdaptiveThresholds) : Rat := a.fit.1

/-- `Forecast`. -/
def forecast (a : AdaptiveThresholds) : Rat :=
  if a.window.length < 3 then a.fit.2
  else
    let lastX : Rat := ((a.window.length - 1 : Nat) : Rat)
    a.fit.2 + a.fit.1 * (lastX + a.settings.horizonSamples)

/-- `Offset`: the bias and the rise that is ahead, under two caps. -/
def offset (a : AdaptiveThresholds) (base : StateMachineConfig Rat) (externalBias : Rat) : Rat :=
  let bias := max externalBias 0
  let wanted :=
    if a.settings.enabled ∧ 0 < a.slope ∧ base.throttleThresholdPercent ≤ a.forecast then
      bias + a.slope * a.settings.horizonSamples
    else bias
  -- Keeps throttle strictly above recovery.
  let room := base.throttleThresholdPercent - base.recoverThresholdPercent - 1
  clamp wanted 0 (max 0 (min a.settings.maxAdjustPercent room))

/-- `Adjust`. -/
def adjust (a : AdaptiveThresholds) (base : StateMachineConfig Rat) (externalBias : Rat) :
    StateMachineConfig Rat :=
  { base with
    throttleThresholdPercent := base.throttleThresholdPercent - a.offset base externalBias
    escalateThresholdPercent := base.escalateThresholdPercent - a.offset base externalBias }

end AdaptiveThresholds

theorem clamp_nonneg (v hi : Rat) (hhi : 0 ≤ hi) : 0 ≤ clamp v 0 hi := by
  unfold clamp
  by_cases hv : v < 0
  · rw [if_pos hv]
  · rw [if_neg hv]
    by_cases hh : hi < v
    · rw [if_pos hh]
      exact hhi
    · rw [if_neg hh]
      exact not_lt.mp hv

theorem clamp_le (v hi : Rat) (hhi : 0 ≤ hi) : clamp v 0 hi ≤ hi := by
  unfold clamp
  by_cases hv : v < 0
  · rw [if_pos hv]
    exact hhi
  · rw [if_neg hv]
    by_cases hh : hi < v
    · rw [if_pos hh]
    · rw [if_neg hh]
      exact not_lt.mp hh

namespace AdaptiveThresholds

theorem offset_nonneg (a : AdaptiveThresholds) (base : StateMachineConfig Rat) (bias : Rat) :
    0 ≤ a.offset base bias :=
  clamp_nonneg _ _ (le_max_left _ _)

theorem offset_le_room (a : AdaptiveThresholds) (base : StateMachineConfig Rat) (bias : Rat) :
    a.offset base bias
      ≤ max 0 (base.throttleThresholdPercent - base.recoverThresholdPercent - 1) :=
  le_trans (clamp_le _ _ (le_max_left _ _)) (max_le_max (le_refl 0) (min_le_right _ _))

theorem offset_le_maxAdjust (a : AdaptiveThresholds) (base : StateMachineConfig Rat) (bias : Rat)
    (h : 0 ≤ a.settings.maxAdjustPercent) : a.offset base bias ≤ a.settings.maxAdjustPercent :=
  le_trans (clamp_le _ _ (le_max_left _ _)) (max_le h (min_le_left _ _))

/-- Adjusting keeps a configuration sound, however narrow the band between
    recovery and throttle already is. -/
theorem sound_adjust (a : AdaptiveThresholds) (base : StateMachineConfig Rat) (bias : Rat)
    (h : base.Sound) : (a.adjust base bias).Sound := by
  have hroom := a.offset_le_room base bias
  refine ⟨?_, ?_⟩
  · change base.recoverThresholdPercent < base.throttleThresholdPercent - a.offset base bias
    rcases le_total 0 (base.throttleThresholdPercent - base.recoverThresholdPercent - 1) with
      hpos | hneg
    · rw [max_eq_right hpos] at hroom
      linarith
    · -- No room at all: nothing is lowered.
      rw [max_eq_left hneg] at hroom
      linarith [h.recover_lt_throttle]
  · -- Both upper thresholds are lowered by the same amount.
    change base.throttleThresholdPercent - a.offset base bias
      ≤ base.escalateThresholdPercent - a.offset base bias
    linarith [h.throttle_le_escalate]

end AdaptiveThresholds

end Telemetry

end ThreadHaul
