import Mathlib.Algebra.Order.Ring.Rat
import ThreadHaul.Lib.Runs
import ThreadHaul.Lib.Streak
import ThreadHaul.Actuator.StateMachine

/-!
# What the Counters Count

The three counters of a state machine against the samples it was fed.

A machine remembers no samples, only how many in a row were high, critical or
low. `Watched` puts the samples beside it: every sample fed since the last
transition, newest first, each with the configuration that was in force when
it was fed. The history is kept by an observer that sees nothing but the calls
and the state before and after them, so it is independent of the counters.

`Counted` is the invariant: each counter is the streak of its kind at the front
of the history. A hold or a hot reload leaves both alone, a transition of any
origin empties both, and a sample moves both the same way. The counters are
32-bit, so the argument needs fewer than `2 ^ 31` samples.

With the counters explained, `Update` can be read off the history: `due` is the
transition the streaks call for, and it happens exactly when the machine is
not held.

## Main definitions

* `Fed`: A sample with the configuration it was judged by.
* `Watched`, `watch`: A machine, its system and its history, and one call.
* `Counted`: The counters are the streaks of the history.
* `due`: The transition the streaks call for.
* `Call.configures`, `Call.holds`: The configuration and the hold after a call.

## Theorems

* `toInt_succ`: Counting up without overflow.
* `counted_next`: One call keeps the counters equal to the streaks.
* `counted_run`: So does every sequence of calls with few enough samples.
* `wanted_eq_due`: The transition chain of `Update`, read off the history.
* `run_counted_and_due`: Counters, transitions and escalations of any run.
-/

namespace ThreadHaul

namespace Actuator

open Streak Runs ProcessStateMachine

variable {α : Type*}

/-- A sample and the configuration in force when it was fed. -/
abbrev Fed (α : Type*) := α × StateMachineConfig α

section Judging

variable [LE α] [DecidableLE α] [LT α] [DecidableLT α]

/-- The sample asks for throttling. -/
def Fed.high (s : Fed α) : Bool := s.2.throttleThresholdPercent ≤ s.1

/-- The sample asks for a suspension. -/
def Fed.critical (s : Fed α) : Bool := s.2.escalateThresholdPercent ≤ s.1

/-- The sample asks for a recovery. -/
def Fed.low (s : Fed α) : Bool := s.1 < s.2.recoverThresholdPercent

end Judging

/-- A machine, the system it acts on, and the samples it was fed since its
    last transition, newest first. -/
structure Watched (α : Type*) where
  machine : ProcessStateMachine α
  world : World
  window : List (Fed α)

/-- The sample a call feeds, if it feeds one. -/
def Call.fed (config : StateMachineConfig α) : Call α → List (Fed α)
  | .update x => [(x, config)]
  | _ => []

/-- The samples since the last transition after one more call: none if the
    state moved. -/
def observe (before after : ProcessStateMachine α) (window : List (Fed α)) (c : Call α) :
    List (Fed α) :=
  if after.state ≠ before.state then [] else c.fed before.config ++ window

/-- The configuration in force after a call. -/
def Call.configures (config : StateMachineConfig α) : Call α → StateMachineConfig α
  | .setConfig config' => config'
  | .update _ | .forceState .. | .releaseManualHold | .forceRecoverForShutdown => config

/-- Whether the machine is held after a call. -/
def Call.holds (held : Bool) : Call α → Bool
  | .forceState _ _ hold => hold
  | .releaseManualHold | .forceRecoverForShutdown => false
  | .update _ | .setConfig _ => held

/-- The call feeds a sample. -/
def Call.isUpdate : Call α → Bool
  | .update _ => true
  | _ => false

/-- The number of samples among the calls. -/
def samples (calls : List (OsCalls × Call α)) : Nat :=
  calls.countP fun i => i.2.isUpdate

/-- A counter below its limit counts up as a number does. -/
theorem toInt_succ (c : Int32) (n : Nat) (hc : c.toInt = n) (hn : n + 1 < 2 ^ 31) :
    (c + 1).toInt = (n + 1 : Nat) := by
  rw [Int32.toInt_add, hc]
  have hone : (1 : Int32).toInt = 1 := rfl
  rw [hone, Int.bmod_eq_of_le]
  · rfl
  · omega
  · omega

/-- One sample moves a counter and the streak it counts the same way. -/
theorem toInt_bump (c : Int32) (p : Fed α → Bool) (x : Fed α) (window : List (Fed α))
    (hc : c.toInt = streak p window) (hlen : window.length + 1 < 2 ^ 31) (P : Prop)
    [Decidable P] (hP : P ↔ p x = true) :
    (if P then c + 1 else 0).toInt = streak p (x :: window) := by
  rw [streak_cons]
  by_cases h : P
  · rw [if_pos h, if_pos (hP.mp h)]
    have hle := streak_le_length p window
    exact toInt_succ c _ hc (by omega)
  · rw [if_neg h, if_neg (fun hx => h (hP.mpr hx))]
    rfl

theorem fed_length (c : Call α) (config : StateMachineConfig α) :
    (c.fed config).length = if c.isUpdate then 1 else 0 := by
  cases c <;> rfl

theorem observe_length (m m' : ProcessStateMachine α) (window : List (Fed α)) (c : Call α) :
    (observe m m' window c).length ≤ window.length + (c.fed m.config).length := by
  rw [observe]
  by_cases hmove : m'.state ≠ m.state
  · rw [if_pos hmove]
    exact Nat.zero_le _
  · rw [if_neg hmove, List.length_append]
    omega

section Observing

variable [LE α] [DecidableLE α] [LT α] [DecidableLT α]

/-- One call, with the way its system calls come out. -/
def watch [Zero α] (s : Watched α) (i : OsCalls × Call α) : Watched α :=
  let out := s.machine.exec i.1 i.2 s.world
  { machine := out.machine
    world := out.world
    window := observe s.machine out.machine s.window i.2 }

/-- The counters are the streaks at the front of the history. -/
structure Counted (m : ProcessStateMachine α) (window : List (Fed α)) : Prop where
  high : m.consecutiveHigh.toInt = streak Fed.high window
  critical : m.consecutiveCritical.toInt = streak Fed.critical window
  low : m.consecutiveLow.toInt = streak Fed.low window

/-- The transition the streaks of a history call for. -/
def due (m : ProcessStateMachine α) (window : List (Fed α)) : Option ProcessState :=
  if m.state = .normal ∧
      m.config.throttleConsecutiveSamples.toInt ≤ streak Fed.high window then
    some .throttled
  else if m.state = .throttled ∧
      m.config.escalateConsecutiveSamples.toInt ≤ streak Fed.critical window then
    some .suspended
  else if (m.state = .throttled ∨ m.state = .suspended) ∧
      m.config.recoverConsecutiveSamples.toInt ≤ streak Fed.low window then
    some .normal
  else none

theorem counted_countSample (m : ProcessStateMachine α) (window : List (Fed α)) (x : α)
    (h : Counted m window) (hlen : window.length + 1 < 2 ^ 31) :
    Counted (m.countSample x) ((x, m.config) :: window) where
  high := toInt_bump _ Fed.high _ _ h.high hlen _ (by simp only [Fed.high, decide_eq_true_eq])
  critical := toInt_bump _ Fed.critical _ _ h.critical hlen _
    (by simp only [Fed.critical, decide_eq_true_eq])
  low := toInt_bump _ Fed.low _ _ h.low hlen _ (by simp only [Fed.low, decide_eq_true_eq])

/-- A call that makes no transition feeds its sample, if it has one, and
    otherwise leaves the counters alone. -/
theorem counted_noted (m : ProcessStateMachine α) (window : List (Fed α)) (c : Call α)
    (h : Counted m window) (hlen : window.length + (c.fed m.config).length < 2 ^ 31) :
    Counted (m.noted c) (c.fed m.config ++ window) := by
  cases c with
  | update x => exact counted_countSample m window x h hlen
  | setConfig config => exact ⟨h.high, h.critical, h.low⟩
  | forceState newState x hold => exact ⟨h.high, h.critical, h.low⟩
  | releaseManualHold => exact ⟨h.high, h.critical, h.low⟩
  | forceRecoverForShutdown => exact ⟨h.high, h.critical, h.low⟩

/-- One call keeps the counters equal to the streaks. -/
theorem counted_next (m : ProcessStateMachine α) (window : List (Fed α)) (c : Call α)
    (h : Counted m window) (hlen : window.length + (c.fed m.config).length < 2 ^ 31) :
    Counted (m.next c) (observe m (m.next c) window c) := by
  rcases hgoal : m.goal c with _ | newState
  · -- No transition: the history grows by the sample, if the call feeds one.
    have hnext : m.next c = m.noted c := by
      rw [next, hgoal]
    have hstay : ¬ (m.next c).state ≠ m.state := by
      rw [hnext, noted_state]
      exact not_not.mpr rfl
    rw [observe, if_neg hstay, hnext]
    exact counted_noted m window c h hlen
  · -- A transition, automatic or forced, starts counters and history afresh.
    have hnext : m.next c = (m.noted c).entered newState := by
      rw [next, hgoal]
    have hmove : (m.next c).state ≠ m.state := by
      rw [hnext]
      exact goal_ne_state m c newState hgoal
    rw [observe, if_pos hmove, hnext]
    exact ⟨rfl, rfl, rfl⟩

/-- A transition has no part in the configuration and the hold. -/
theorem next_config (m : ProcessStateMachine α) (c : Call α) :
    (m.next c).config = c.configures m.config := by
  rw [next]
  split
  · cases c <;> rfl
  · cases c <;> rfl

theorem next_manualHold (m : ProcessStateMachine α) (c : Call α) :
    (m.next c).manualHold = c.holds m.manualHold := by
  rw [next]
  split
  · cases c <;> rfl
  · cases c <;> rfl

/-- Every sequence of calls with few enough samples keeps the counters equal to
    the streaks. The history is never longer than the samples fed. -/
theorem counted_run [Zero α] (calls : List (OsCalls × Call α)) (s : Watched α)
    (h : Counted s.machine s.window) (hlen : s.window.length + samples calls < 2 ^ 31) :
    Counted (run watch s calls).machine (run watch s calls).window ∧
      (run watch s calls).window.length ≤ s.window.length + samples calls := by
  induction calls generalizing s with
  | nil => exact ⟨h, Nat.le_refl _⟩
  | cons i calls ih =>
      have hsamples : samples (i :: calls)
          = samples calls + (i.2.fed s.machine.config).length := by
        rw [samples, List.countP_cons, fed_length, samples]
      have hmachine : (watch s i).machine = s.machine.next i.2 :=
        exec_machine i.1 s.machine i.2 s.world
      have hwindow : (watch s i).window
          = observe s.machine (s.machine.next i.2) s.window i.2 := by
        rw [← hmachine]
        rfl
      have hgrow := observe_length s.machine (s.machine.next i.2) s.window i.2
      -- The history has room for one more, so the step keeps the counts.
      have hstep := counted_next s.machine s.window i.2 h (by omega)
      rw [← hwindow] at hgrow hstep
      rw [← hmachine] at hstep
      rcases ih (watch s i) hstep (by omega) with ⟨hcounted, hbound⟩
      exact ⟨hcounted, by rw [run_cons]; omega⟩

/-- The transition chain of `Update`, read off the history. -/
theorem wanted_eq_due (m : ProcessStateMachine α) (window : List (Fed α))
    (h : Counted m window) : m.wanted = due m window := by
  simp only [wanted, due, Int32.le_iff_toInt_le, h.high, h.critical, h.low]

/-- A fresh machine has counted nothing. -/
theorem counted_create (batchProcessName : WString) (batchProcessId : DWORD)
    (config : StateMachineConfig α) (opened : Bool) :
    Counted (create batchProcessName batchProcessId config opened) [] := ⟨rfl, rfl, rfl⟩

theorem due_suspended (m : ProcessStateMachine α) (window : List (Fed α))
    (h : due m window = some .suspended) :
    m.state = .throttled ∧
      m.config.escalateConsecutiveSamples.toInt ≤ streak Fed.critical window := by
  rw [due] at h
  split_ifs at h with hthrottle hescalate
  · cases h
  · exact hescalate
  · cases h

/-- A machine that is not held makes the transition that the new counts call
    for, and one that is held makes none. -/
theorem update_state_iff [Zero α] (os : OsCalls) (m : ProcessStateMachine α) (x : α) (w : World)
    (newState : ProcessState) :
    ((m.update os x w).1.machine.state = newState ∧ newState ≠ m.state) ↔
      (m.manualHold = false ∧ (m.countSample x).wanted = some newState) := by
  have hstate : (m.update os x w).1.machine.state = (m.goal (.update x)).getD m.state := by
    rw [← next_state, ← exec_machine os m (.update x) w]
    rfl
  rw [hstate]
  rcases hheld : m.manualHold with _ | _
  · -- The goal of a machine that is not held is never the state it is in.
    have hgoal : m.goal (.update x) = (m.countSample x).wanted := by
      simp only [goal, hheld, Bool.false_eq_true, if_false]
    rw [hgoal]
    constructor
    · rintro ⟨heq, hne⟩
      rcases hw : (m.countSample x).wanted with _ | target
      · rw [hw] at heq
        exact absurd heq.symm hne
      · rw [hw] at heq
        exact ⟨rfl, congrArg some heq⟩
    · rintro ⟨_, hw⟩
      rw [hw]
      exact ⟨rfl, goal_ne_state m (.update x) newState (hgoal.trans hw)⟩
  · -- A held machine has no goal, and its state is the one before.
    have hgoal : m.goal (.update x) = none := by
      simp only [goal, hheld, if_true]
    rw [hgoal]
    constructor
    · rintro ⟨heq, hne⟩
      exact absurd heq.symm hne
    · rintro ⟨hfalse, _⟩
      cases hfalse

/-- Over any sequence of calls with fewer than `2 ^ 31` samples the counters
    are the streaks of samples since the last transition, the configuration is that of
    the last `SetConfig`, and the machine is held if the last call that has a say in it
    asked for that. The next `Update` then makes exactly the transition those streaks
    call for, if the machine is not held, and a suspension comes after as many critical
    samples in a row, since the throttle, as the configuration asks for. -/
theorem run_counted_and_due [Zero α] (batchProcessName : WString) (batchProcessId : DWORD)
    (config : StateMachineConfig α) (opened : Bool) (w : World)
    (calls : List (OsCalls × Call α)) (hcalls : samples calls < 2 ^ 31) :
    let s := run watch ⟨create batchProcessName batchProcessId config opened, w, []⟩ calls
    Counted s.machine s.window ∧
    s.machine.config = calls.foldl (fun config i => i.2.configures config) config ∧
    s.machine.manualHold = calls.foldl (fun held i => i.2.holds held) false ∧
    ∀ (os : OsCalls) (x : α), samples calls + 1 < 2 ^ 31 →
      let fed := (x, s.machine.config) :: s.window
      let out := s.machine.update os x s.world
      out.2 = (out.1.machine.state != s.machine.state) ∧
      (∀ newState, (out.1.machine.state = newState ∧ newState ≠ s.machine.state) ↔
        (s.machine.manualHold = false ∧ due s.machine fed = some newState)) ∧
      (out.1.machine.state = .suspended → s.machine.state ≠ .suspended →
        s.machine.state = .throttled ∧
        s.machine.config.escalateConsecutiveSamples.toInt.toNat ≤ fed.length ∧
        ∀ f ∈ fed.take s.machine.config.escalateConsecutiveSamples.toInt.toNat,
          Fed.critical f = true) := by
  intro s
  rcases counted_run calls ⟨create batchProcessName batchProcessId config opened, w, []⟩
    (counted_create batchProcessName batchProcessId config opened)
    (by simpa only [List.length_nil, Nat.zero_add] using hcalls) with ⟨hcounted, hbound⟩
  have hconfig := run_foldl watch (fun s => s.machine.config)
    (fun config i => i.2.configures config)
    (fun s i => (congrArg ProcessStateMachine.config (exec_machine i.1 s.machine i.2 s.world)).trans
      (next_config s.machine i.2)) calls
    ⟨create batchProcessName batchProcessId config opened, w, []⟩
  have hheld := run_foldl watch (fun s => s.machine.manualHold) (fun held i => i.2.holds held)
    (fun s i => (congrArg manualHold (exec_machine i.1 s.machine i.2 s.world)).trans
      (next_manualHold s.machine i.2)) calls
    ⟨create batchProcessName batchProcessId config opened, w, []⟩
  refine ⟨hcounted, hconfig, hheld, fun os x hnext => ?_⟩
  have hlen : s.window.length + 1 < 2 ^ 31 := by
    have hle : s.window.length ≤ samples calls := by
      simpa only [List.length_nil, Nat.zero_add] using hbound
    omega
  -- The sample is counted first; the chain of tests then reads the new streaks.
  have hfed := counted_countSample s.machine s.window x hcounted hlen
  have hwanted : (s.machine.countSample x).wanted
      = due s.machine ((x, s.machine.config) :: s.window) :=
    wanted_eq_due (s.machine.countSample x) _ hfed
  have hiff : ∀ newState,
      ((s.machine.update os x s.world).1.machine.state = newState ∧
        newState ≠ s.machine.state) ↔
      (s.machine.manualHold = false ∧
        due s.machine ((x, s.machine.config) :: s.window) = some newState) := by
    intro newState
    rw [← hwanted]
    exact update_state_iff os s.machine x s.world newState
  refine ⟨?_, hiff, fun hsus hnot => ?_⟩
  · rw [update_returns, ← exec_machine os s.machine (.update x) s.world]
    rfl
  · have hdue := (hiff .suspended).mp ⟨hsus, fun h => hnot h.symm⟩
    rcases due_suspended s.machine _ hdue.2 with ⟨hthrottled, hstreak⟩
    exact ⟨hthrottled, (le_streak_iff Fed.critical _ _).mp (by omega)⟩

/-- Two samples at 86 % and 87 % on the default thresholds make a high streak of
    two, and a third one throttles. -/
theorem run_counted_and_due_three_highs :
    let s := run watch ⟨create [98] 4821 (default : StateMachineConfig ℚ) true, default, []⟩
      [(.succeeding, .update 86), (.succeeding, .update 87)]
    s.machine.consecutiveHigh.toInt = 2 ∧
      (s.machine.update .succeeding 88 s.world).1.machine.state = .throttled := by
  intro s
  rcases run_counted_and_due [98] 4821 (default : StateMachineConfig ℚ) true default
    [(.succeeding, .update 86), (.succeeding, .update 87)] (by decide)
    with ⟨hcounted, -, -, hnext⟩
  refine ⟨by rw [hcounted.high]; decide, ?_⟩
  rcases hnext .succeeding 88 (by decide) with ⟨_, hdue, _⟩
  exact ((hdue .throttled).mpr ⟨by decide, by decide⟩).1

end Observing

end Actuator

end ThreadHaul
