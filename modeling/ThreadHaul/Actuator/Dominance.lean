import ThreadHaul.Lib.Runs
import ThreadHaul.Telemetry.AdaptiveThresholds

/-!
# More Pressure Never Protects Less

Two machines side by side, the second under at least the pressure of the first
and with thresholds at most as high. After any number of samples the second is
at least as restrained as the first.

The difficulty is that the counters restart at each machine's own transitions,
so the more loaded machine may be in the middle of a count the other has just
begun. `Below` says which counters have to be compared in which pair of states.
While both are normal it is the high counters; while both are throttled it is
the critical counters, and the low ones the other way round; once the second is
suspended only the low counters matter. A machine that recovers while the other
is normal, or one that throttles while the other already is, resets a counter
of its own, and the sample that did it is one the other machine counts to zero
as well. That recovery lies below throttle is what makes this so.

Compared counters are also below the largest `int`: a counter that can still
cause a transition has not reached its sample count yet. The other counters may
overflow without consequence.

## Main definitions

* `Sample`, `feed`: A new configuration followed by a sample.
* `Dominates`: The second sample presses at least as hard.
* `Below`: The pairs of machines two dominated runs can be in.

## Theorems

* `next_update_normal`, `next_update_throttled`, `next_update_suspended`:
  One sample in each state.
* `below_next`: One pair of samples keeps the machines related.
* `below_feed`: So does one pair of configurations and samples.
* `state_le_of_dominates`: The dominance of runs, and that of adjusted runs.
-/

namespace ThreadHaul

namespace Actuator

open Runs ProcessStateMachine Telemetry Telemetry.AdaptiveThresholds

/-- `SetConfig` followed by `Update`, with the way the system calls come out. -/
structure Sample (α : Type*) where
  os : OsCalls
  config : StateMachineConfig α
  percent : α

variable {α : Type*}

/-- The counters that can cause a transition in the two states, compared. -/
def Compared (a b : ProcessStateMachine α) : Prop :=
  match a.state, b.state with
  | .normal, .normal =>
      0 ≤ a.consecutiveHigh ∧ a.consecutiveHigh ≤ b.consecutiveHigh ∧
        b.consecutiveHigh < Int32.maxValue
  | .normal, .throttled =>
      0 ≤ b.consecutiveCritical ∧ b.consecutiveCritical < Int32.maxValue
  | .normal, .suspended => True
  | .throttled, .throttled =>
      (0 ≤ a.consecutiveCritical ∧ a.consecutiveCritical ≤ b.consecutiveCritical ∧
        b.consecutiveCritical < Int32.maxValue) ∧
      0 ≤ b.consecutiveLow ∧ b.consecutiveLow ≤ a.consecutiveLow ∧
        a.consecutiveLow < Int32.maxValue
  | .throttled, .suspended | .suspended, .suspended =>
      0 ≤ b.consecutiveLow ∧ b.consecutiveLow ≤ a.consecutiveLow ∧
        a.consecutiveLow < Int32.maxValue
  | _, _ => False

/-- The pairs of machines two dominated runs can be in. -/
structure Below (a b : ProcessStateMachine α) : Prop where
  left : a.manualHold = false
  right : b.manualHold = false
  counters : Compared a b

theorem Compared.state_le (a b : ProcessStateMachine α) (h : Compared a b) :
    a.state ≤ b.state := by
  unfold Compared at h
  cases ha : a.state <;> cases hb : b.state <;> rw [ha, hb] at h <;> first | decide | exact h.elim

/-- A counter that has not reached some `int` can be counted up. -/
theorem lt_maxValue_of_not_le (c n : Int32) (h : ¬ n ≤ c) : c < Int32.maxValue := by
  change c < 2147483647
  grind

theorem succ_le_succ (c d : Int32) (hc : 0 ≤ c) (hcd : c ≤ d) (hd : d < Int32.maxValue) :
    0 ≤ c + 1 ∧ c + 1 ≤ d + 1 := by
  have hmax : d < 2147483647 := hd
  grind

/-- Two compared counters stay compared over samples of which the second is
    counted whenever the first is. -/
theorem bump_le_bump (c d : Int32) (P Q : Prop) [Decidable P] [Decidable Q] (hPQ : P → Q)
    (hc : 0 ≤ c) (hcd : c ≤ d) (hd : d < Int32.maxValue) :
    0 ≤ (if P then c + 1 else 0) ∧
      (if P then c + 1 else 0) ≤ (if Q then d + 1 else 0) := by
  by_cases hP : P
  · rw [if_pos hP, if_pos (hPQ hP)]
    exact succ_le_succ c d hc hcd hd
  · rw [if_neg hP]
    by_cases hQ : Q
    · rw [if_pos hQ]
      exact ⟨Int32.le_refl _, (succ_le_succ d d (Int32.le_trans hc hcd) (Int32.le_refl d) hd).1⟩
    · rw [if_neg hQ]
      exact ⟨Int32.le_refl _, Int32.le_refl _⟩

/-- A counter that has reached a positive count has just been counted up. -/
theorem of_le_bump (c n : Int32) (P : Prop) [Decidable P] (hn : 1 ≤ n)
    (h : n ≤ if P then c + 1 else 0) : P := by
  by_contra hP
  rw [if_neg hP] at h
  exact absurd (Int32.le_trans hn h) (by decide)

/-- Two machines whose counters were all just reset. -/
theorem compared_entered (a b : ProcessStateMachine α) (s t : ProcessState) (hst : s ≤ t) :
    Compared (a.entered s) (b.entered t) := by
  have hzero : (0 : Int32) < Int32.maxValue := by decide
  have hle : (0 : Int32) ≤ 0 := Int32.le_refl 0
  cases s <;> cases t <;> simp only [Compared, entered, hzero, hle, and_self]
  · exact absurd hst (by decide)
  · exact absurd hst (by decide)
  · exact absurd hst (by decide)

theorem below_create (n n' : WString) (p p' : DWORD) (c c' : StateMachineConfig α)
    (o o' : Bool) : Below (create n p c o) (create n' p' c' o') :=
  ⟨rfl, rfl, Int32.le_refl _, Int32.le_refl _, show (0 : Int32) < Int32.maxValue by decide⟩

section Control

variable [LE α] [DecidableLE α] [LT α] [DecidableLT α]

/-- One sample, on a machine and the system it acts on. -/
def feed (s : ProcessStateMachine α × World) (i : Sample α) : ProcessStateMachine α × World :=
  let out := ((s.1.setConfig i.config).update i.os i.percent s.2).1
  (out.machine, out.world)

theorem next_update_normal (m : ProcessStateMachine α) (x : α) (hheld : m.manualHold = false)
    (hs : m.state = .normal) :
    m.next (.update x) =
      if m.config.throttleConsecutiveSamples ≤ (m.countSample x).consecutiveHigh
      then (m.countSample x).entered .throttled else m.countSample x := by
  have hstate : (m.countSample x).state = .normal := hs
  have hconfig : (m.countSample x).config = m.config := rfl
  by_cases h : m.config.throttleConsecutiveSamples ≤ (m.countSample x).consecutiveHigh
  · simp only [next, goal, noted, hheld, wanted, hstate, hconfig, h, Bool.false_eq_true,
      if_false, true_and, if_true]
  · simp only [next, goal, noted, hheld, wanted, hstate, hconfig, h, Bool.false_eq_true,
      if_false, and_false, reduceCtorEq, false_and, or_self]

theorem next_update_throttled (m : ProcessStateMachine α) (x : α)
    (hheld : m.manualHold = false) (hs : m.state = .throttled) :
    m.next (.update x) =
      if m.config.escalateConsecutiveSamples ≤ (m.countSample x).consecutiveCritical
      then (m.countSample x).entered .suspended
      else if m.config.recoverConsecutiveSamples ≤ (m.countSample x).consecutiveLow
      then (m.countSample x).entered .normal else m.countSample x := by
  have hstate : (m.countSample x).state = .throttled := hs
  have hconfig : (m.countSample x).config = m.config := rfl
  simp only [next, goal, noted, hheld, wanted, hstate, hconfig, Bool.false_eq_true, if_false,
    reduceCtorEq, false_and, true_and, or_false]
  -- Escalation is tried before recovery, as in the chain of `Update`.
  by_cases h : m.config.escalateConsecutiveSamples ≤ (m.countSample x).consecutiveCritical
  · simp only [h, if_true]
  · by_cases h' : m.config.recoverConsecutiveSamples ≤ (m.countSample x).consecutiveLow
    · simp only [h, h', if_false, if_true]
    · simp only [h, h', if_false]

theorem next_update_suspended (m : ProcessStateMachine α) (x : α)
    (hheld : m.manualHold = false) (hs : m.state = .suspended) :
    m.next (.update x) =
      if m.config.recoverConsecutiveSamples ≤ (m.countSample x).consecutiveLow
      then (m.countSample x).entered .normal else m.countSample x := by
  have hstate : (m.countSample x).state = .suspended := hs
  have hconfig : (m.countSample x).config = m.config := rfl
  by_cases h : m.config.recoverConsecutiveSamples ≤ (m.countSample x).consecutiveLow
  · simp only [next, goal, noted, hheld, wanted, hstate, hconfig, h, Bool.false_eq_true,
      if_false, reduceCtorEq, false_and, or_true, true_and, if_true]
  · simp only [next, goal, noted, hheld, wanted, hstate, hconfig, h, Bool.false_eq_true,
      if_false, reduceCtorEq, false_and, or_true, and_false]

/-- What the two samples have in common: the same recovery rule, and whatever
    counts against the first process counts against the second. -/
structure Presses (a b : ProcessStateMachine α) (x y : α) : Prop where
  throttleSamples :
    a.config.throttleConsecutiveSamples = b.config.throttleConsecutiveSamples
  escalateSamples :
    a.config.escalateConsecutiveSamples = b.config.escalateConsecutiveSamples
  recoverSamples : a.config.recoverConsecutiveSamples = b.config.recoverConsecutiveSamples
  one_le_throttle : 1 ≤ a.config.throttleConsecutiveSamples
  one_le_escalate : 1 ≤ a.config.escalateConsecutiveSamples
  one_le_recover : 1 ≤ a.config.recoverConsecutiveSamples
  high : a.config.throttleThresholdPercent ≤ x → b.config.throttleThresholdPercent ≤ y
  critical : a.config.escalateThresholdPercent ≤ x → b.config.escalateThresholdPercent ≤ y
  low : y < b.config.recoverThresholdPercent → x < a.config.recoverThresholdPercent
  high_not_low :
    a.config.throttleThresholdPercent ≤ x → ¬ x < a.config.recoverThresholdPercent
  critical_high :
    a.config.escalateThresholdPercent ≤ x → a.config.throttleThresholdPercent ≤ x

/-- The first machine's low counter just reset, and so did the second's. -/
theorem Presses.low_eq_zero {a b : ProcessStateMachine α} {x y : α} (h : Presses a b x y)
    (hx : a.config.throttleThresholdPercent ≤ x) : (b.countSample y).consecutiveLow = 0 := by
  have hy : ¬ y < b.config.recoverThresholdPercent := fun hlow => h.high_not_low hx (h.low hlow)
  simp only [countSample, if_neg hy]

/-- The second machine recovers: the sample is low for both of them. -/
theorem Presses.high_eq_zero {a b : ProcessStateMachine α} {x y : α} (h : Presses a b x y)
    (hrec : b.config.recoverConsecutiveSamples ≤ (b.countSample y).consecutiveLow) :
    ¬ a.config.throttleThresholdPercent ≤ x := by
  intro hx
  have hone := h.one_le_recover
  rw [h.recoverSamples] at hone
  have hlow := of_le_bump b.consecutiveLow _ _ hone hrec
  exact h.high_not_low hx (h.low hlow)

/-- Both machines are normal: the high counters decide. -/
theorem compared_next_normal (a b : ProcessStateMachine α) (x y : α) (hp : Presses a b x y)
    (hab : Below a b) (ha : a.state = .normal) (hb : b.state = .normal) :
    Compared (a.next (.update x)) (b.next (.update y)) := by
  have hcmp := hab.counters
  simp only [Compared, ha, hb] at hcmp
  rcases hcmp with ⟨hzero, hle, hmax⟩
  have hbump : 0 ≤ (a.countSample x).consecutiveHigh ∧
      (a.countSample x).consecutiveHigh ≤ (b.countSample y).consecutiveHigh :=
    bump_le_bump _ _ _ _ hp.high hzero hle hmax
  have ha' : (a.countSample x).state = .normal := ha
  have hb' : (b.countSample y).state = .normal := hb
  rw [next_update_normal a x hab.left ha, next_update_normal b y hab.right hb,
    ← hp.throttleSamples]
  by_cases hA : a.config.throttleConsecutiveSamples ≤ (a.countSample x).consecutiveHigh
  · -- The first machine throttles, so the second does too.
    rw [if_pos hA, if_pos (Int32.le_trans hA hbump.2)]
    exact compared_entered _ _ _ _ (le_refl _)
  · rw [if_neg hA]
    by_cases hB : a.config.throttleConsecutiveSamples ≤ (b.countSample y).consecutiveHigh
    · rw [if_pos hB]
      simp only [Compared, ha', entered]
      exact ⟨Int32.le_refl _, by decide⟩
    · rw [if_neg hB]
      simp only [Compared, ha', hb']
      exact ⟨hbump.1, hbump.2, lt_maxValue_of_not_le _ _ hB⟩

/-- Only the second machine is throttled. If the first one catches up, it does
    so on a high sample, which resets the low counter of the second. -/
theorem compared_next_normal_throttled (a b : ProcessStateMachine α) (x y : α)
    (hp : Presses a b x y) (hab : Below a b) (ha : a.state = .normal)
    (hb : b.state = .throttled) : Compared (a.next (.update x)) (b.next (.update y)) := by
  have hcmp := hab.counters
  simp only [Compared, ha, hb] at hcmp
  have hcritical : 0 ≤ (b.countSample y).consecutiveCritical :=
    (bump_le_bump _ _ _ _ (fun h => h) hcmp.1 (Int32.le_refl _) hcmp.2).1
  have ha' : (a.countSample x).state = .normal := ha
  have hb' : (b.countSample y).state = .throttled := hb
  have hmax : (0 : Int32) < Int32.maxValue := by decide
  have hzero : (0 : Int32) ≤ 0 := Int32.le_refl 0
  rw [next_update_normal a x hab.left ha, next_update_throttled b y hab.right hb]
  by_cases hA : a.config.throttleConsecutiveSamples ≤ (a.countSample x).consecutiveHigh
  · -- A throttling of the first means a high sample, on which the second does not recover.
    have hx := of_le_bump a.consecutiveHigh _ _ hp.one_le_throttle hA
    have hstay : ¬ b.config.recoverConsecutiveSamples ≤ (b.countSample y).consecutiveLow :=
      fun hrec => hp.high_eq_zero hrec hx
    rw [if_pos hA, if_neg hstay]
    -- The first has caught up, and the second may go on to suspended.
    by_cases hB : b.config.escalateConsecutiveSamples ≤ (b.countSample y).consecutiveCritical
    · rw [if_pos hB]
      exact compared_entered _ _ _ _ (by decide)
    · rw [if_neg hB]
      simp only [Compared, entered, hb', hp.low_eq_zero hx, hmax, hzero, hcritical,
        lt_maxValue_of_not_le _ _ hB, and_self]
  · rw [if_neg hA]
    by_cases hB : b.config.escalateConsecutiveSamples ≤ (b.countSample y).consecutiveCritical
    · rw [if_pos hB]
      simp only [Compared, ha', entered]
    · rw [if_neg hB]
      by_cases hR : b.config.recoverConsecutiveSamples ≤ (b.countSample y).consecutiveLow
      · -- The second machine recovers on a sample that is not high for the first either.
        have hhigh : (a.countSample x).consecutiveHigh = 0 := by
          simp only [countSample, if_neg (hp.high_eq_zero hR)]
        rw [if_pos hR]
        simp only [Compared, ha', entered, hhigh, hmax, hzero, and_self]
      · rw [if_neg hR]
        simp only [Compared, ha', hb', hcritical, lt_maxValue_of_not_le _ _ hB, and_self]

/-- Only the second machine is suspended. -/
theorem compared_next_normal_suspended (a b : ProcessStateMachine α) (x y : α)
    (hp : Presses a b x y) (hab : Below a b) (ha : a.state = .normal)
    (hb : b.state = .suspended) : Compared (a.next (.update x)) (b.next (.update y)) := by
  have ha' : (a.countSample x).state = .normal := ha
  have hb' : (b.countSample y).state = .suspended := hb
  have hmax : (0 : Int32) < Int32.maxValue := by decide
  have hzero : (0 : Int32) ≤ 0 := Int32.le_refl 0
  rw [next_update_normal a x hab.left ha, next_update_suspended b y hab.right hb]
  -- The first machine throttles on a high sample, and the second does not recover on one.
  by_cases hA : a.config.throttleConsecutiveSamples ≤ (a.countSample x).consecutiveHigh
  · have hx := of_le_bump a.consecutiveHigh _ _ hp.one_le_throttle hA
    have hstay : ¬ b.config.recoverConsecutiveSamples ≤ (b.countSample y).consecutiveLow :=
      fun hrec => hp.high_eq_zero hrec hx
    rw [if_pos hA, if_neg hstay]
    simp only [Compared, entered, hb', hp.low_eq_zero hx, hmax, hzero, and_self]
  · rw [if_neg hA]
    -- The second may recover, and then the sample was not high.
    by_cases hR : b.config.recoverConsecutiveSamples ≤ (b.countSample y).consecutiveLow
    · have hhigh : (a.countSample x).consecutiveHigh = 0 := by
        simp only [countSample, if_neg (hp.high_eq_zero hR)]
      rw [if_pos hR]
      simp only [Compared, ha', entered, hhigh, hmax, hzero, and_self]
    · rw [if_neg hR]
      simp only [Compared, ha', hb']

/-- The first machine does not escalate on a sample the second recovers on. -/
theorem Presses.not_escalate {a b : ProcessStateMachine α} {x y : α} (hp : Presses a b x y)
    (hrec : b.config.recoverConsecutiveSamples ≤ (b.countSample y).consecutiveLow) :
    ¬ a.config.escalateConsecutiveSamples ≤ (a.countSample x).consecutiveCritical := by
  intro hesc
  have hcritical := of_le_bump a.consecutiveCritical _ _ hp.one_le_escalate hesc
  exact hp.high_eq_zero hrec (hp.critical_high hcritical)

/-- The first machine escalates: the sample is low for neither. -/
theorem Presses.low_of_escalate {a b : ProcessStateMachine α} {x y : α} (hp : Presses a b x y)
    (hesc : a.config.escalateConsecutiveSamples ≤ (a.countSample x).consecutiveCritical) :
    (b.countSample y).consecutiveLow = 0 :=
  hp.low_eq_zero
    (hp.critical_high (of_le_bump a.consecutiveCritical _ _ hp.one_le_escalate hesc))

/-- Both machines are throttled: critical counters one way, low ones the other. -/
theorem compared_next_throttled (a b : ProcessStateMachine α) (x y : α)
    (hp : Presses a b x y) (hab : Below a b) (ha : a.state = .throttled)
    (hb : b.state = .throttled) : Compared (a.next (.update x)) (b.next (.update y)) := by
  have hcmp := hab.counters
  simp only [Compared, ha, hb] at hcmp
  rcases hcmp with ⟨⟨hc0, hcle, hcmax⟩, hl0, hlle, hlmax⟩
  have hcritical : 0 ≤ (a.countSample x).consecutiveCritical ∧
      (a.countSample x).consecutiveCritical ≤ (b.countSample y).consecutiveCritical :=
    bump_le_bump _ _ _ _ hp.critical hc0 hcle hcmax
  have hlow : 0 ≤ (b.countSample y).consecutiveLow ∧
      (b.countSample y).consecutiveLow ≤ (a.countSample x).consecutiveLow :=
    bump_le_bump _ _ _ _ hp.low hl0 hlle hlmax
  have ha' : (a.countSample x).state = .throttled := ha
  have hb' : (b.countSample y).state = .throttled := hb
  rw [next_update_throttled a x hab.left ha, next_update_throttled b y hab.right hb,
    ← hp.escalateSamples, ← hp.recoverSamples]
  -- What makes the first machine escalate makes the second escalate.
  by_cases hA : a.config.escalateConsecutiveSamples ≤ (a.countSample x).consecutiveCritical
  · rw [if_pos hA, if_pos (Int32.le_trans hA hcritical.2)]
    exact compared_entered _ _ _ _ (le_refl _)
  · rw [if_neg hA]
    by_cases hR : a.config.recoverConsecutiveSamples ≤ (a.countSample x).consecutiveLow
    · rw [if_pos hR]
      by_cases hB : a.config.escalateConsecutiveSamples ≤ (b.countSample y).consecutiveCritical
      · rw [if_pos hB]
        exact compared_entered _ _ _ _ (by decide)
      · rw [if_neg hB]
        by_cases hR' : a.config.recoverConsecutiveSamples ≤ (b.countSample y).consecutiveLow
        · rw [if_pos hR']
          exact compared_entered _ _ _ _ (le_refl _)
        · rw [if_neg hR']
          simp only [Compared, entered, hb', Int32.le_trans hcritical.1 hcritical.2,
            lt_maxValue_of_not_le _ _ hB, and_self]
    · -- The first machine stays; the second cannot have counted more low samples.
      have hR' : ¬ a.config.recoverConsecutiveSamples ≤ (b.countSample y).consecutiveLow :=
        fun h => hR (Int32.le_trans h hlow.2)
      rw [if_neg hR, if_neg hR']
      by_cases hB : a.config.escalateConsecutiveSamples ≤ (b.countSample y).consecutiveCritical
      · have hzero : (0 : Int32) ≤ (a.countSample x).consecutiveLow :=
          Int32.le_trans hlow.1 hlow.2
        rw [if_pos hB]
        simp only [Compared, entered, ha', Int32.le_refl, hzero, lt_maxValue_of_not_le _ _ hR,
          and_self]
      · rw [if_neg hB]
        simp only [Compared, ha', hb', hcritical, hlow, lt_maxValue_of_not_le _ _ hB,
          lt_maxValue_of_not_le _ _ hR, and_self]

/-- The second machine is already suspended: the low counters decide. -/
theorem compared_next_throttled_suspended (a b : ProcessStateMachine α) (x y : α)
    (hp : Presses a b x y) (hab : Below a b) (ha : a.state = .throttled)
    (hb : b.state = .suspended) : Compared (a.next (.update x)) (b.next (.update y)) := by
  have hcmp := hab.counters
  simp only [Compared, ha, hb] at hcmp
  rcases hcmp with ⟨hl0, hlle, hlmax⟩
  have hlow : 0 ≤ (b.countSample y).consecutiveLow ∧
      (b.countSample y).consecutiveLow ≤ (a.countSample x).consecutiveLow :=
    bump_le_bump _ _ _ _ hp.low hl0 hlle hlmax
  have ha' : (a.countSample x).state = .throttled := ha
  have hb' : (b.countSample y).state = .suspended := hb
  have hmax : (0 : Int32) < Int32.maxValue := by decide
  have hzero : (0 : Int32) ≤ 0 := Int32.le_refl 0
  rw [next_update_throttled a x hab.left ha, next_update_suspended b y hab.right hb]
  -- The first machine escalates, and then the second does not recover.
  by_cases hA : a.config.escalateConsecutiveSamples ≤ (a.countSample x).consecutiveCritical
  · have hstay : ¬ b.config.recoverConsecutiveSamples ≤ (b.countSample y).consecutiveLow :=
      fun hrec => hp.not_escalate hrec hA
    rw [if_pos hA, if_neg hstay]
    simp only [Compared, entered, hb', hp.low_of_escalate hA, hzero, hmax, and_self]
  · rw [if_neg hA, ← hp.recoverSamples]
    by_cases hR : a.config.recoverConsecutiveSamples ≤ (a.countSample x).consecutiveLow
    · rw [if_pos hR]
      by_cases hR' : a.config.recoverConsecutiveSamples ≤ (b.countSample y).consecutiveLow
      · rw [if_pos hR']
        exact compared_entered _ _ _ _ (le_refl _)
      · rw [if_neg hR']
        simp only [Compared, entered, hb']
    · -- The second has counted no more low samples than the first.
      rw [if_neg hR, if_neg (fun h => hR (Int32.le_trans h hlow.2))]
      simp only [Compared, ha', hb', hlow, lt_maxValue_of_not_le _ _ hR, and_self]

/-- Both machines are suspended: the low counters decide. -/
theorem compared_next_suspended (a b : ProcessStateMachine α) (x y : α)
    (hp : Presses a b x y) (hab : Below a b) (ha : a.state = .suspended)
    (hb : b.state = .suspended) : Compared (a.next (.update x)) (b.next (.update y)) := by
  have hcmp := hab.counters
  simp only [Compared, ha, hb] at hcmp
  rcases hcmp with ⟨hl0, hlle, hlmax⟩
  have hlow : 0 ≤ (b.countSample y).consecutiveLow ∧
      (b.countSample y).consecutiveLow ≤ (a.countSample x).consecutiveLow :=
    bump_le_bump _ _ _ _ hp.low hl0 hlle hlmax
  have ha' : (a.countSample x).state = .suspended := ha
  have hb' : (b.countSample y).state = .suspended := hb
  rw [next_update_suspended a x hab.left ha, next_update_suspended b y hab.right hb,
    ← hp.recoverSamples]
  by_cases hR : a.config.recoverConsecutiveSamples ≤ (a.countSample x).consecutiveLow
  · rw [if_pos hR]
    by_cases hR' : a.config.recoverConsecutiveSamples ≤ (b.countSample y).consecutiveLow
    · rw [if_pos hR']
      exact compared_entered _ _ _ _ (le_refl _)
    · rw [if_neg hR']
      simp only [Compared, entered, hb']
  · -- The second has counted no more low samples than the first.
    rw [if_neg hR, if_neg (fun h => hR (Int32.le_trans h hlow.2))]
    simp only [Compared, ha', hb', hlow, lt_maxValue_of_not_le _ _ hR, and_self]

theorem next_update_manualHold (m : ProcessStateMachine α) (x : α) :
    (m.next (.update x)).manualHold = m.manualHold := by
  unfold next
  cases m.goal (.update x) with
  | none => rfl
  | some newState => rfl

/-- One pair of samples keeps the machines related. -/
theorem below_next (a b : ProcessStateMachine α) (x y : α) (hp : Presses a b x y)
    (hab : Below a b) : Below (a.next (.update x)) (b.next (.update y)) where
  left := (next_update_manualHold a x).trans hab.left
  right := (next_update_manualHold b y).trans hab.right
  counters := by
    have hcmp := hab.counters
    unfold Compared at hcmp
    rcases ha : a.state with _ | _ | _ <;> rcases hb : b.state with _ | _ | _ <;>
      rw [ha, hb] at hcmp
    · -- Six of the nine pairs of states are in order; the other three are excluded.
      exact compared_next_normal a b x y hp hab ha hb
    · exact compared_next_normal_throttled a b x y hp hab ha hb
    · exact compared_next_normal_suspended a b x y hp hab ha hb
    · exact hcmp.elim
    · exact compared_next_throttled a b x y hp hab ha hb
    · exact compared_next_throttled_suspended a b x y hp hab ha hb
    · exact hcmp.elim
    · exact hcmp.elim
    · exact compared_next_suspended a b x y hp hab ha hb

end Control

section Runs

variable [LinearOrder α]

/-- The second sample presses at least as hard as the first: the percentage is
    no lower, the throttle and escalate thresholds are no higher, and the two
    configurations agree on the rest and are both sound. -/
structure Dominates (i j : Sample α) : Prop where
  throttleSamples :
    i.config.throttleConsecutiveSamples = j.config.throttleConsecutiveSamples
  escalateSamples :
    i.config.escalateConsecutiveSamples = j.config.escalateConsecutiveSamples
  recoverSamples : i.config.recoverConsecutiveSamples = j.config.recoverConsecutiveSamples
  one_le_throttle : 1 ≤ i.config.throttleConsecutiveSamples
  one_le_escalate : 1 ≤ i.config.escalateConsecutiveSamples
  one_le_recover : 1 ≤ i.config.recoverConsecutiveSamples
  recoverThreshold : i.config.recoverThresholdPercent = j.config.recoverThresholdPercent
  sound_left : i.config.Sound
  sound_right : j.config.Sound
  percent : i.percent ≤ j.percent
  throttleThreshold : j.config.throttleThresholdPercent ≤ i.config.throttleThresholdPercent
  escalateThreshold : j.config.escalateThresholdPercent ≤ i.config.escalateThresholdPercent

theorem Dominates.presses {i j : Sample α} (h : Dominates i j) (a b : ProcessStateMachine α) :
    Presses (a.setConfig i.config) (b.setConfig j.config) i.percent j.percent where
  throttleSamples := h.throttleSamples
  escalateSamples := h.escalateSamples
  recoverSamples := h.recoverSamples
  one_le_throttle := h.one_le_throttle
  one_le_escalate := h.one_le_escalate
  one_le_recover := h.one_le_recover
  -- Every threshold test that the first sample passes is passed by the second.
  high := fun hx => le_trans h.throttleThreshold (le_trans hx h.percent)
  critical := fun hx => le_trans h.escalateThreshold (le_trans hx h.percent)
  low := by
    intro hy
    change j.percent < j.config.recoverThresholdPercent at hy
    rw [← h.recoverThreshold] at hy
    exact lt_of_le_of_lt h.percent hy
  high_not_low := fun hx =>
    not_lt.mpr (le_trans (le_of_lt h.sound_left.recover_lt_throttle) hx)
  critical_high := fun hx => le_trans h.sound_left.throttle_le_escalate hx

/-- One pair of configurations and samples keeps the machines related. -/
theorem below_feed (s t : ProcessStateMachine α × World) (i j : Sample α)
    (hij : Dominates i j) (hst : Below s.1 t.1) : Below (feed s i).1 (feed t j).1 := by
  -- The shutdown call's percentage plays no part in an update.
  let _ : Zero α := ⟨i.percent⟩
  have hs : (feed s i).1 = (s.1.setConfig i.config).next (.update i.percent) :=
    exec_machine i.os (s.1.setConfig i.config) (.update i.percent) s.2
  have ht : (feed t j).1 = (t.1.setConfig j.config).next (.update j.percent) :=
    exec_machine j.os (t.1.setConfig j.config) (.update j.percent) t.2
  rw [hs, ht]
  exact below_next _ _ _ _ (hij.presses s.1 t.1) ⟨hst.left, hst.right, hst.counters⟩

theorem state_le_of_forall₂ (n n' : WString) (p p' : DWORD)
    (c c' : StateMachineConfig α) (o o' : Bool) (w w' : World) (l l' : List (Sample α))
    (h : List.Forall₂ Dominates l l') :
    (run feed (create n p c o, w) l).1.state ≤ (run feed (create n' p' c' o', w') l').1.state := by
  have hbelow := run_simulation feed feed Dominates (fun s t => Below s.1 t.1)
    (fun s t i j hij hst => below_feed s t i j hij hst) h (create n p c o, w)
    (create n' p' c' o', w') (below_create n n' p p' c c' o o')
  exact hbelow.counters.state_le

end Runs

/-- A sample judged by the configured thresholds, and what the adjustment of
    those thresholds is made from. -/
structure AdjustedSample where
  os : OsCalls
  osAdjusted : OsCalls
  base : StateMachineConfig Rat
  percent : Rat
  adaptive : AdaptiveThresholds
  externalBias : Rat

/-- The sample on the configured thresholds. -/
def AdjustedSample.plain (i : AdjustedSample) : Sample Rat := ⟨i.os, i.base, i.percent⟩

/-- The sample on the adjusted ones. -/
def AdjustedSample.adjusted (i : AdjustedSample) : Sample Rat :=
  ⟨i.osAdjusted, i.adaptive.adjust i.base i.externalBias, i.percent⟩

/-- What the configuration check guarantees of the configured thresholds. -/
structure AdjustedSample.Configured (i : AdjustedSample) : Prop where
  sound : i.base.Sound
  one_le_throttle : 1 ≤ i.base.throttleConsecutiveSamples
  one_le_escalate : 1 ≤ i.base.escalateConsecutiveSamples
  one_le_recover : 1 ≤ i.base.recoverConsecutiveSamples

theorem dominates_adjusted (i : AdjustedSample) (h : i.Configured) :
    Dominates i.plain i.adjusted where
  throttleSamples := rfl
  escalateSamples := rfl
  recoverSamples := rfl
  one_le_throttle := h.one_le_throttle
  one_le_escalate := h.one_le_escalate
  one_le_recover := h.one_le_recover
  recoverThreshold := rfl
  sound_left := h.sound
  -- An adjustment lowers two thresholds and keeps the configuration sound.
  sound_right := i.adaptive.sound_adjust i.base i.externalBias h.sound
  percent := le_refl _
  throttleThreshold := sub_le_self _ (i.adaptive.offset_nonneg i.base i.externalBias)
  escalateThreshold := sub_le_self _ (i.adaptive.offset_nonneg i.base i.externalBias)

/-- Of two runs from fresh machines the one under at least the pressure and with
    thresholds at most as high is at least as restrained, at whatever sample
    the two are stopped. A run on adjusted thresholds is such a run compared
    with the run on the configured ones. -/
theorem state_le_of_dominates [LinearOrder α] (n n' : WString) (p p' : DWORD)
    (o o' : Bool) (w w' : World) :
    (∀ (c c' : StateMachineConfig α) (l l' : List (Sample α)), List.Forall₂ Dominates l l' →
      (run feed (create n p c o, w) l).1.state
        ≤ (run feed (create n' p' c' o', w') l').1.state) ∧
    (∀ (c c' : StateMachineConfig Rat) (l : List AdjustedSample), (∀ i ∈ l, i.Configured) →
      (run feed (create n p c o, w) (l.map AdjustedSample.plain)).1.state
        ≤ (run feed (create n' p' c' o', w') (l.map AdjustedSample.adjusted)).1.state) := by
  refine ⟨fun c c' l l' h => state_le_of_forall₂ n n' p p' c c' o o' w w' l l' h,
    fun c c' l h => ?_⟩
  refine state_le_of_forall₂ n n' p p' c c' o o' w w' _ _ ?_
  rw [List.forall₂_map_left_iff, List.forall₂_map_right_iff, List.forall₂_same]
  exact fun i hi => dominates_adjusted i (h i hi)

/-- Three samples at 82 % throttle nothing on the default thresholds; a bias of
    five points, or three samples at 86 %, throttle. -/
theorem state_le_of_dominates_three :
    let i : AdjustedSample := ⟨.succeeding, .succeeding, default, 82, {}, 5⟩
    let j : Sample ℕ := ⟨.succeeding, default, 82⟩
    let k : Sample ℕ := ⟨.succeeding, default, 86⟩
    let l := [i, i, i]
    (run feed (create [98] 4821 default true, default) [j, j, j]).1.state
        ≤ (run feed (create [98] 4821 default true, default) [k, k, k]).1.state ∧
      (run feed (create [98] 4821 default true, default) (l.map AdjustedSample.plain)).1.state
        ≤ (run feed (create [98] 4821 default true, default)
            (l.map AdjustedSample.adjusted)).1.state ∧
      (run feed (create [98] 4821 default true, default) [k, k, k]).1.state = .throttled ∧
      (run feed (create [98] 4821 default true, default) (l.map AdjustedSample.plain)).1.state
        = .normal ∧
      (run feed (create [98] 4821 default true, default) (l.map AdjustedSample.adjusted)).1.state
        = .throttled := by
  intro i j k l
  have hsound : (default : StateMachineConfig Rat).Sound := ⟨by decide, by decide⟩
  have hsound' : (default : StateMachineConfig ℕ).Sound := ⟨by decide, by decide⟩
  have hjk : Dominates j k :=
    ⟨rfl, rfl, rfl, by decide, by decide, by decide, rfl, hsound', hsound', by decide,
      le_refl _, le_refl _⟩
  have hi : ∀ k ∈ [i, i, i], k.Configured := by
    intro k hk
    have hki : k = i := by simpa only [List.mem_cons, List.not_mem_nil, or_false, or_self] using hk
    rw [hki]
    exact ⟨hsound, by decide, by decide, by decide⟩
  -- The theorem is used at three samples, against a dominating run and the adjusted one.
  rcases state_le_of_dominates (α := ℕ) [98] [98] 4821 4821 true true default default with
    ⟨hdominated, hadjusted⟩
  have h1 := hdominated default default _ _ (.cons hjk (.cons hjk (.cons hjk .nil)))
  have h2 := hadjusted default default l hi
  refine ⟨?_, h2, ?_, ?_, ?_⟩
  · -- The order on `ℕ` decides its comparisons in another way.
    convert h1
  · decide
  · decide +kernel
  · decide +kernel

end Actuator

end ThreadHaul
