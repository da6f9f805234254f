import ThreadHaul.Actuator.Operations
import ThreadHaul.Actuator.Window
import ThreadHaul.Service.Thresholds

/-!
# Threshold Events

Whether the events that are reported line up with what is done to a process.

`ThresholdTracker` and the machine count the same samples, each for itself, and the
tracker is reset when the machine moves. So their counters are the same at all times.
But the tracker reports a streak when it is exactly as long as the configuration asks
for, and the machine acts on a streak that is at least as long. A reload that asks for
fewer samples than are counted already lets the machine act on the next one, and
nothing is reported.

`Between` is the invariant of a run with one process. `sample_linedUp_iff` is the step:
the report comes with the transition unless the sample continues a streak that is long
enough already. `along_linedUp_iff` says it of runs.

## Main definitions

* `eventOf`: The event that belongs to a transition.
* `Observed`, `observe`: The daemon, and what was reported since the last transition.
* `LinedUp`: What is promised of a poll.
* `Fresh`: A sample does not continue a streak that is long enough already.
* `OnlyOne`: The daemon manages one process, and it does not exit.

## Theorems

* `reached_iff`: A counter that reaches its limit.
* `sample_linedUp_iff`, `between_sample`: One sample.
* `along_linedUp_iff`: Every run.
-/

namespace ThreadHaul

namespace Service

open Actuator Telemetry Config Runs

/-- The event that belongs to a transition. -/
def eventOf : ProcessState → ThresholdType
  | .throttled => .high
  | .suspended => .critical
  | .normal => .low

/-! ### One sample -/

section Counter

/-- What becomes of a counter. -/
def bump (c : Int32) (P : Prop) [Decidable P] : Int32 := if P then c + 1 else 0

/-- The counter is small. -/
def Small (c : Int32) : Prop := 0 ≤ c.toInt ∧ c.toInt < 100

theorem small_zero : Small 0 := ⟨by decide, by decide⟩

variable {c n : Int32} {P : Prop} [Decidable P]

theorem toInt_bump_of_small (hc : Small c) :
    (bump c P).toInt = if P then c.toInt + 1 else 0 := by
  unfold bump
  split_ifs with h
  · have hsucc := toInt_succ c c.toInt.toNat (by have := hc.1; omega) (by have := hc.2; omega)
    rw [hsucc]
    have := hc.1
    omega
  · rfl

-- A counter that reaches its limit is at the limit, unless it was there before.
theorem reached_iff (hc : Small c) (hn : 1 ≤ n.toInt ∧ n.toInt ≤ 100) :
    (n ≤ bump c P → bump c P = n) ↔ (P → c < n) := by
  rw [Int32.le_iff_toInt_le, ← Int32.toInt_inj, Int32.lt_iff_toInt_lt, toInt_bump_of_small hc]
  split_ifs with h
  · simp only [h, forall_const]
    omega
  · simp only [h, false_imp_iff, iff_true]
    omega

theorem small_bump (hc : Small c) (hn : 1 ≤ n.toInt ∧ n.toInt ≤ 100) (h : ¬ n ≤ bump c P) :
    Small (bump c P) := by
  rw [Int32.le_iff_toInt_le] at h
  have hbump := toInt_bump_of_small (P := P) hc
  have := hc.1
  unfold Small
  split_ifs at hbump
  · omega
  · omega

-- Without the sample that it counts, a counter does not reach its limit.
theorem not_le_bump (hn : 1 ≤ n.toInt) (h : ¬ P) : ¬ n ≤ bump c P := by
  rw [bump, if_neg h, Int32.le_iff_toInt_le]
  have hzero : (0 : Int32).toInt = 0 := rfl
  omega

end Counter

section Sample

/-- The counts that a configuration asks for are between 1 and 100. -/
structure Bounded (c : StateMachineConfig Rat) : Prop where
  throttle : 1 ≤ c.throttleConsecutiveSamples.toInt ∧ c.throttleConsecutiveSamples.toInt ≤ 100
  escalate : 1 ≤ c.escalateConsecutiveSamples.toInt ∧ c.escalateConsecutiveSamples.toInt ≤ 100
  recover : 1 ≤ c.recoverConsecutiveSamples.toInt ∧ c.recoverConsecutiveSamples.toInt ≤ 100

/-- The machine and the tracker count the same, the counters that matter in the state
    of the machine are small, and none of them was reported. -/
structure Synced (m : ProcessStateMachine Rat) (t : ThresholdTracker)
    (reported : List ThresholdType) : Prop where
  free : m.manualHold = false
  high : t.high = m.consecutiveHigh
  critical : t.critical = m.consecutiveCritical
  low : t.low = m.consecutiveLow
  normal : m.state = .normal → Small m.consecutiveHigh ∧ .high ∉ reported
  throttled : m.state = .throttled → Small m.consecutiveCritical ∧ .critical ∉ reported
  restrained : m.state ≠ .normal → Small m.consecutiveLow ∧ .low ∉ reported

/-- The sample does not continue a streak that the machine would act on and that is
    long enough already. -/
structure Fresh (m : ProcessStateMachine Rat) (x : Rat) : Prop where
  normal : m.state = .normal → m.config.throttleThresholdPercent ≤ x →
    m.consecutiveHigh < m.config.throttleConsecutiveSamples
  throttled : m.state = .throttled → m.config.escalateThresholdPercent ≤ x →
    m.consecutiveCritical < m.config.escalateConsecutiveSamples
  restrained : m.state ≠ .normal → x < m.config.recoverThresholdPercent →
    m.consecutiveLow < m.config.recoverConsecutiveSamples

/-- What the tracker reports of a sample. -/
def reportsOf (t : ThresholdTracker) (x : Rat) (c : StateMachineConfig Rat) :
    List ThresholdType := (t.add x c).2.map Prod.fst

variable {m : ProcessStateMachine Rat} {t : ThresholdTracker} {reported : List ThresholdType}
  {x : Rat}

-- An event is reported when its counter is as long as the configuration asks for.
theorem mem_reportsOf_iff (c : StateMachineConfig Rat) (e : ThresholdType) :
    e ∈ reportsOf t x c ↔
      match e with
      | .high => bump t.high (c.throttleThresholdPercent ≤ x) = c.throttleConsecutiveSamples
      | .critical => bump t.critical (c.escalateThresholdPercent ≤ x) = c.escalateConsecutiveSamples
      | .low => bump t.low (x < c.recoverThresholdPercent) = c.recoverConsecutiveSamples := by
  simp only [reportsOf, ThresholdTracker.add, List.map_append, List.mem_append, bump,
    apply_ite (List.map Prod.fst), List.map_cons, List.map_nil, List.mem_ite_nil_right,
    List.mem_singleton]
  cases e with
  | high => simp only [and_true, reduceCtorEq, and_false, or_false]
  | critical => simp only [and_true, reduceCtorEq, and_false, or_false, false_or]
  | low => simp only [and_true, reduceCtorEq, and_false, false_or]

-- An event that was not reported before is reported with the sample that brings its
-- counter to the limit.
theorem mem_reported_iff {c : StateMachineConfig Rat} {e : ThresholdType} (hnew : e ∉ reported) :
    e ∈ reported ++ reportsOf t x c ↔ e ∈ reportsOf t x c := by
  rw [List.mem_append, or_iff_right hnew]

/-- What the machine does with the sample, if it is not held. -/
theorem wanted_eq (m : ProcessStateMachine Rat) (x : Rat) :
    (m.countSample x).wanted =
      match m.state with
      | .normal =>
          if m.config.throttleConsecutiveSamples
              ≤ bump m.consecutiveHigh (m.config.throttleThresholdPercent ≤ x) then
            some .throttled
          else none
      | .throttled =>
          if m.config.escalateConsecutiveSamples
              ≤ bump m.consecutiveCritical (m.config.escalateThresholdPercent ≤ x) then
            some .suspended
          else if m.config.recoverConsecutiveSamples
              ≤ bump m.consecutiveLow (x < m.config.recoverThresholdPercent) then
            some .normal
          else none
      | .suspended =>
          if m.config.recoverConsecutiveSamples
              ≤ bump m.consecutiveLow (x < m.config.recoverThresholdPercent) then
            some .normal
          else none := by
  unfold ProcessStateMachine.wanted ProcessStateMachine.countSample bump
  -- The tests of `Update`, state by state, with the counters of this sample put in.
  cases hstate : m.state with
  | normal => simp
  | throttled => simp
  | suspended => simp

-- The choice that comes first is made if its condition holds.
theorem forall_choice_iff {α : Type} (P : Prop) [Decidable P] (a : α) (rest : Option α)
    (Q : α → Prop) :
    (∀ s, (if P then some a else rest) = some s → Q s) ↔
      (P → Q a) ∧ (¬ P → ∀ s, rest = some s → Q s) := by
  by_cases h : P
  · simp only [h, if_true, Option.some.injEq, forall_eq', forall_const, not_true_eq_false,
      false_imp_iff, and_true]
  · simp only [h, if_false, false_imp_iff, not_false_eq_true, forall_const, true_and]

variable (hbounded : Bounded m.config) (hsound : m.config.Sound)
  (h : Synced m t reported)
include hbounded hsound h

omit hsound in
/-- The event of a recovery is reported with it unless the sample continues a streak that
    is long enough already. -/
theorem low_reported_iff (hstate : m.state ≠ .normal) :
    (m.config.recoverConsecutiveSamples
          ≤ bump m.consecutiveLow (x < m.config.recoverThresholdPercent) →
        ThresholdType.low ∈ reported ++ reportsOf t x m.config) ↔
      (x < m.config.recoverThresholdPercent →
        m.consecutiveLow < m.config.recoverConsecutiveSamples) := by
  rcases h.restrained hstate with ⟨hsmall, hnew⟩
  rw [mem_reported_iff hnew, mem_reportsOf_iff]
  dsimp only
  rw [h.low]
  exact reached_iff hsmall hbounded.recover

omit hsound in
theorem high_reported_iff (hstate : m.state = .normal) :
    (m.config.throttleConsecutiveSamples
          ≤ bump m.consecutiveHigh (m.config.throttleThresholdPercent ≤ x) →
        ThresholdType.high ∈ reported ++ reportsOf t x m.config) ↔
      (m.config.throttleThresholdPercent ≤ x →
        m.consecutiveHigh < m.config.throttleConsecutiveSamples) := by
  rcases h.normal hstate with ⟨hsmall, hnew⟩
  rw [mem_reported_iff hnew, mem_reportsOf_iff]
  dsimp only
  rw [h.high]
  exact reached_iff hsmall hbounded.throttle

omit hsound in
theorem critical_reported_iff (hstate : m.state = .throttled) :
    (m.config.escalateConsecutiveSamples
          ≤ bump m.consecutiveCritical (m.config.escalateThresholdPercent ≤ x) →
        ThresholdType.critical ∈ reported ++ reportsOf t x m.config) ↔
      (m.config.escalateThresholdPercent ≤ x →
        m.consecutiveCritical < m.config.escalateConsecutiveSamples) := by
  rcases h.throttled hstate with ⟨hsmall, hnew⟩
  rw [mem_reported_iff hnew, mem_reportsOf_iff]
  dsimp only
  rw [h.critical]
  exact reached_iff hsmall hbounded.escalate

/-- The event of the transition that the sample makes is reported, now or since the
    last transition, exactly if the sample does not continue a streak that is long enough
    already. -/
theorem sample_linedUp_iff :
    (∀ s, (m.countSample x).wanted = some s →
        eventOf s ∈ reported ++ reportsOf t x m.config) ↔ Fresh m x := by
  have hnone : ∀ s : ProcessState, (none : Option ProcessState) = some s →
      eventOf s ∈ reported ++ reportsOf t x m.config := fun s hs => by cases hs
  have hhigh : eventOf .throttled = .high := rfl
  have hcritical : eventOf .suspended = .critical := rfl
  have hlow : eventOf .normal = .low := rfl
  rw [wanted_eq]
  cases hstate : m.state with
  | normal =>
      dsimp only
      rw [forall_choice_iff, hhigh, high_reported_iff hbounded h hstate]
      constructor
      · intro hfresh
        exact ⟨fun _ => hfresh.1, fun hne => absurd (hstate.symm.trans hne) (by decide),
          fun hne => absurd hstate hne⟩
      · intro hfresh
        exact ⟨hfresh.normal hstate, fun _ => hnone⟩
  | throttled =>
      have hne : m.state ≠ .normal := by
        rw [hstate]
        decide
      dsimp only
      rw [forall_choice_iff, forall_choice_iff, hcritical, hlow,
        critical_reported_iff hbounded h hstate, low_reported_iff hbounded h hne]
      constructor
      · rintro ⟨hesc, hrec⟩
        refine ⟨fun hnormal => absurd hnormal hne, fun _ => hesc, fun _ hx => ?_⟩
        -- A low sample is no critical one.
        refine (hrec (not_le_bump hbounded.escalate.1 ?_)).1 hx
        exact not_le.mpr (hx.trans (hsound.recover_lt_throttle.trans_le
          hsound.throttle_le_escalate))
      · intro hfresh
        exact ⟨hfresh.throttled hstate, fun _ => ⟨hfresh.restrained hne, fun _ => hnone⟩⟩
  | suspended =>
      have hne : m.state ≠ .normal := by
        rw [hstate]
        decide
      dsimp only
      rw [forall_choice_iff, hlow, low_reported_iff hbounded h hne]
      constructor
      · intro hfresh
        exact ⟨fun hnormal => absurd hnormal hne,
          fun hthrottled => absurd (hstate.symm.trans hthrottled) (by decide), fun _ => hfresh.1⟩
      · intro hfresh
        exact ⟨hfresh.restrained hne, fun _ => hnone⟩

omit hbounded hsound h in
/-- A sample that makes no transition brings no counter that matters to its limit. -/
theorem not_reached_of_wanted_eq_none (hnone : (m.countSample x).wanted = none) :
    (m.state = .normal → ¬ m.config.throttleConsecutiveSamples
        ≤ bump m.consecutiveHigh (m.config.throttleThresholdPercent ≤ x)) ∧
      (m.state = .throttled → ¬ m.config.escalateConsecutiveSamples
        ≤ bump m.consecutiveCritical (m.config.escalateThresholdPercent ≤ x)) ∧
      (m.state ≠ .normal → ¬ m.config.recoverConsecutiveSamples
        ≤ bump m.consecutiveLow (x < m.config.recoverThresholdPercent)) := by
  rw [wanted_eq] at hnone
  -- Each state asks for its own transitions, and none of them is due.
  cases hstate : m.state with
  | normal =>
      rw [hstate] at hnone
      dsimp only at hnone
      split_ifs at hnone with hhigh
      exact ⟨fun _ => hhigh, fun hne => absurd hne (by decide), fun hne => absurd rfl hne⟩
  | throttled =>
      rw [hstate] at hnone
      dsimp only at hnone
      split_ifs at hnone with hcritical hlow
      exact ⟨fun hne => absurd hne (by decide), fun _ => hcritical, fun _ => hlow⟩
  | suspended =>
      rw [hstate] at hnone
      dsimp only at hnone
      split_ifs at hnone with hlow
      exact ⟨fun hne => absurd hne (by decide), fun hne => absurd hne (by decide), fun _ => hlow⟩

omit hbounded hsound h in
-- A counter that would be reported would make a transition.
theorem not_mem_reported_of_not_le {c : StateMachineConfig Rat} {e : ThresholdType}
    {count n : Int32} {P : Prop} [Decidable P] (hsmall : Small count)
    (hn : 1 ≤ n.toInt ∧ n.toInt ≤ 100) (hnew : e ∉ reported)
    (hreports : e ∈ reportsOf t x c ↔ bump count P = n) (hlt : ¬ n ≤ bump count P) :
    Small (bump count P) ∧ e ∉ reported ++ reportsOf t x c := by
  refine ⟨small_bump hsmall hn hlt, ?_⟩
  rw [mem_reported_iff hnew, hreports]
  exact fun heq => hlt (heq ▸ Int32.le_refl _)

omit hsound in
/-- A sample that makes no transition leaves the two in step. -/
theorem synced_countSample (hnone : (m.countSample x).wanted = none) :
    Synced (m.countSample x) (t.add x m.config).1 (reported ++ reportsOf t x m.config) := by
  have hhigh : (t.add x m.config).1.high = (m.countSample x).consecutiveHigh := by
    simp only [ThresholdTracker.add, ProcessStateMachine.countSample, h.high]
  have hcritical : (t.add x m.config).1.critical = (m.countSample x).consecutiveCritical := by
    simp only [ThresholdTracker.add, ProcessStateMachine.countSample, h.critical]
  have hlow : (t.add x m.config).1.low = (m.countSample x).consecutiveLow := by
    simp only [ThresholdTracker.add, ProcessStateMachine.countSample, h.low]
  have hhighReported := mem_reportsOf_iff (t := t) (x := x) m.config .high
  have hcriticalReported := mem_reportsOf_iff (t := t) (x := x) m.config .critical
  have hlowReported := mem_reportsOf_iff (t := t) (x := x) m.config .low
  dsimp only at hhighReported hcriticalReported hlowReported
  rw [h.high] at hhighReported
  rw [h.critical] at hcriticalReported
  rw [h.low] at hlowReported
  -- No transition means that no count is reached, so nothing was reported for one.
  rcases not_reached_of_wanted_eq_none hnone with ⟨hnormal, hthrottled, hrestrained⟩
  refine ⟨h.free, hhigh, hcritical, hlow, ?_, ?_, ?_⟩
  · intro hstate
    rcases h.normal hstate with ⟨hsmall, hnew⟩
    exact not_mem_reported_of_not_le hsmall hbounded.throttle hnew hhighReported (hnormal hstate)
  · intro hstate
    rcases h.throttled hstate with ⟨hsmall, hnew⟩
    exact not_mem_reported_of_not_le hsmall hbounded.escalate hnew hcriticalReported
      (hthrottled hstate)
  · intro hstate
    rcases h.restrained hstate with ⟨hsmall, hnew⟩
    exact not_mem_reported_of_not_le hsmall hbounded.recover hnew hlowReported
      (hrestrained hstate)

omit hbounded hsound in
/-- A transition starts both afresh. -/
theorem synced_entered (s : ProcessState) : Synced ((m.countSample x).entered s) {} [] :=
  ⟨h.free, rfl, rfl, rfl, fun _ => ⟨small_zero, List.not_mem_nil⟩,
    fun _ => ⟨small_zero, List.not_mem_nil⟩, fun _ => ⟨small_zero, List.not_mem_nil⟩⟩

omit hbounded hsound in
theorem synced_setConfig (c : StateMachineConfig Rat) : Synced (m.setConfig c) t reported :=
  ⟨h.free, h.high, h.critical, h.low, h.normal, h.throttled, h.restrained⟩

omit hbounded hsound h in
/-- A new machine and a tracker that has counted nothing are in step. -/
theorem synced_create (name : WString) (pid : DWORD) (c : StateMachineConfig Rat)
    (opened : Bool) : Synced (ProcessStateMachine.create name pid c opened) {} [] :=
  ⟨rfl, rfl, rfl, rfl, fun _ => ⟨small_zero, List.not_mem_nil⟩,
    fun hne => (nomatch hne), fun hne => absurd rfl hne⟩

end Sample

/-! ### Machines -/

section Machines

variable {host : Host}

-- No machine is protected, so none is recovered and none is dropped.
theorem sweep_visitProtect (os : DWORD → OsCalls) (isProtected : WString → DWORD → Bool)
    (ms : List (ProcessStateMachine Rat)) (w : World)
    (h : ∀ m ∈ ms, isProtected m.batchProcessName m.batchProcessId = false) :
    (sweep (ActuatorManager.visitProtect os isProtected) ms w).machines = ms ∧
      (sweep (ActuatorManager.visitProtect os isProtected) ms w).fired = [] := by
  induction ms generalizing w with
  | nil => exact ⟨rfl, rfl⟩
  | cons m ms ih =>
      have hm := h m (List.mem_cons_self ..)
      rcases ih w fun m' hm' => h m' (List.mem_cons_of_mem _ hm') with ⟨hmachines, hfired⟩
      simp only [sweep, ActuatorManager.visitProtect, hm, Bool.false_eq_true, if_false,
        Option.toList_some, List.singleton_append, List.nil_append, hmachines, hfired, and_self]

/-- A configuration under which all machines stay changes their configuration. -/
theorem reconfigure_of_stays (os : DWORD → OsCalls) (cfg : DaemonConfig)
    (effective : StateMachineConfig Rat) (adhoc : List DWORD) (manager : ActuatorManager Rat)
    (w : World) (h : ∀ m ∈ manager.machines, stays host cfg adhoc m.holding = true) :
    (reconfigure host os cfg effective adhoc manager w).manager.machines
        = manager.machines.map (fun m => m.setConfig effective) ∧
      (reconfigure host os cfg effective adhoc manager w).fired = [] := by
  have hprotected : ∀ m ∈ manager.machines.map (fun m => m.setConfig effective),
      protects host cfg.protectedProcesses m.batchProcessName m.batchProcessId = false := by
    intro m hm
    rcases List.mem_map.mp hm with ⟨m', hm', rfl⟩
    have hstays := h m' hm'
    rw [stays, Bool.and_eq_true, Bool.not_eq_true'] at hstays
    exact hstays.1
  let r := (manager.setConfig effective).setProtectedProcessNames host os cfg.protectedProcesses w
  have hswept : r.manager.machines = manager.machines.map (fun m => m.setConfig effective) ∧
      r.fired = [] := sweep_visitProtect os _ _ w hprotected
  -- No machine has lost its role.
  have hdropped : droppedPids host cfg adhoc r.manager = [] := by
    rw [droppedPids, List.map_eq_nil_iff, List.filter_eq_nil_iff]
    intro held hheld
    rcases List.mem_map.mp hheld with ⟨m, hm, rfl⟩
    rw [hswept.1] at hm
    rcases List.mem_map.mp hm with ⟨m', hm', rfl⟩
    have hstays := h m' hm'
    rw [stays, Bool.and_eq_true] at hstays
    rw [← Bool.not_or, Bool.not_eq_true', Bool.not_eq_false]
    exact hstays.2
  have hnone : reconfigure host os cfg effective adhoc manager w
      = (droppedPids host cfg adhoc r.manager).foldl (Actuated.drop os)
          { manager := r.manager, world := r.world, fired := r.fired } := rfl
  rw [hnone, hdropped]
  exact hswept

/-- What is discovered comes before the machines that there are. -/
def Discovers (manager manager' : ActuatorManager Rat) : Prop :=
  ∃ new, manager'.machines = new ++ manager.machines ∧
    ∀ m ∈ new, ∃ name pid c opened, m = ProcessStateMachine.create name pid c opened

theorem discovers_discoverOne (opened : DWORD → Bool) (name : WString)
    (manager manager' : ActuatorManager Rat) (pid : DWORD) (h : Discovers manager manager') :
    Discovers manager (discoverOne host opened name manager' pid) := by
  rcases h with ⟨new, hnew, hcreate⟩
  unfold discoverOne ActuatorManager.addBatchProcess
  -- Managed, protected, not to be opened, or a new machine.
  split_ifs with hfound hprotected
  · exact ⟨new, hnew, hcreate⟩
  · exact ⟨new, hnew, hcreate⟩
  · split
    · exact ⟨new, hnew, hcreate⟩
    · refine ⟨_ :: new, congrArg _ hnew, ?_⟩
      intro m hm
      rcases List.mem_cons.mp hm with rfl | hm
      · exact ⟨_, _, _, _, rfl⟩
      · exact hcreate m hm

theorem discovers_sense (r : PollReadings) (d : DaemonState) :
    Discovers d.actuator (sense host r d).1.actuator := by
  refine List.foldlRecOn (motive := Discovers d.actuator) d.cfg.batchProcesses _
    ⟨[], rfl, fun _ hm => absurd hm List.not_mem_nil⟩ ?_
  intro manager hmanager name _
  refine List.foldlRecOn (motive := Discovers d.actuator) _ (discoverOne host r.opened name)
    hmanager ?_
  exact fun manager' hmanager' pid _ => discovers_discoverOne r.opened name _ manager' pid hmanager'

/-- The thresholds that are in force reach the machines. -/
theorem machines_adapt {os : Platform} (externalBias pressure : Rat) (d : DaemonState)
    (h : Following os d) :
    (adapt externalBias pressure d).actuator.machines
      = d.actuator.machines.map
          (fun m => m.setConfig (adapt externalBias pressure d).effective) := by
  unfold adapt
  dsimp only
  split_ifs with hmoved
  · rfl
  · refine ((List.map_congr_left fun m hm => ?_).trans (List.map_id _)).symm
    have hconfig : m.config = d.effective := h.holdings m.holding (List.mem_map_of_mem hm)
    rw [ProcessStateMachine.setConfig, ← hconfig]
    rfl

/-- What an update does when there is one machine, which runs and is not held. -/
theorem updateAll_single (os : DWORD → OsCalls) (manager : ActuatorManager Rat)
    (m : ProcessStateMachine Rat) (x : Rat) (w : World) (hm : manager.machines = [m])
    (hexited : m.hasExited w = false) (hfree : m.manualHold = false) :
    ((m.countSample x).wanted = none →
        (manager.updateAll os x w).manager.machines = [m.countSample x] ∧
          (manager.updateAll os x w).returned = false ∧
          (manager.updateAll os x w).fired = []) ∧
      ∀ s, (m.countSample x).wanted = some s →
        (manager.updateAll os x w).manager.machines = [(m.countSample x).entered s] ∧
          (manager.updateAll os x w).returned = true ∧
          ∃ t, (manager.updateAll os x w).fired = [t] ∧ t.newState = s := by
  have hcounted : ¬ (m.countSample x).manualHold = true := by
    rw [show (m.countSample x).manualHold = m.manualHold from rfl, hfree]
    exact Bool.false_ne_true
  have hswept : manager.updateAll os x w
      = ⟨manager.afterSweep _ (ActuatorManager.keepsId_visitUpdate os x) w,
          (sweep (ActuatorManager.visitUpdate os x) [m] w).world,
          (sweep (ActuatorManager.visitUpdate os x) [m] w).changed,
          (sweep (ActuatorManager.visitUpdate os x) [m] w).fired⟩ := by
    rw [← hm]
    rfl
  have hmachines : (manager.updateAll os x w).manager.machines
      = (sweep (ActuatorManager.visitUpdate os x) [m] w).machines := by
    rw [← hm]
    rfl
  -- The sweep over one machine is its visit.
  have hvisit : ActuatorManager.visitUpdate os x m w
      = (m.update (os m.batchProcessId) x w).1.visit (m.update (os m.batchProcessId) x w).2 := by
    rw [ActuatorManager.visitUpdate, if_neg (by rw [hexited]; exact Bool.false_ne_true)]
  rw [hmachines, hswept]
  simp only [sweep, hvisit, ProcessStateMachine.Outcome.visit, Option.toList_some,
    List.append_nil, Bool.or_false]
  unfold ProcessStateMachine.update
  rw [if_neg hcounted]
  constructor
  · intro hnone
    rw [hnone]
    exact ⟨rfl, bne_self_eq_false _, rfl⟩
  · intro s hs
    have hne := m.goal_ne_state (.update x) s (by
      rw [ProcessStateMachine.goal, if_neg (by rw [hfree]; exact Bool.false_ne_true), hs])
    rw [hs]
    exact ⟨rfl, bne_iff_ne.mpr hne, _, rfl, rfl⟩

end Machines

/-! ### Polls and reloads -/

section Steps

variable (host : Host) (r : PollReadings) (d : DaemonState)

/-- The daemon as the sample of a poll finds it, with the thresholds that are in force by
    then, and the sample. -/
def weighed : Option (DaemonState × Rat) :=
  (sense host r d).2.map fun c =>
    (adapt r.externalBias c.pressure.percent
        { (sense host r d).1 with
          pressure := c.pressure.percent
          pressureSignal := c.pressure.signal
          criticalPid := c.pid },
      c.pressure.percent)

/-- What is reported in a poll. -/
def reportsOfPoll : List ThresholdType :=
  match weighed host r d with
  | none => []
  | some (a, x) => reportsOf a.tracker x a.effective

end Steps

/-- The daemon and the processes, and what was reported since the last transition. -/
structure Observed where
  system : System
  reported : List ThresholdType := []

variable (os : Platform)

/-- The thresholds that an event reports. -/
def reportsOfEvent (s : System) : Event → List ThresholdType
  | .poll r => reportsOfPoll os.host r s.daemon
  | .reload _ _ _ | .command _ _ | .elsewhere _ _ => []

/-- One event, with what was reported since the last transition. -/
def observe (o : Observed) (i : Event) : Observed where
  system := step os o.system i
  reported :=
    if (progress os o.system i).fired.isEmpty then o.reported ++ reportsOfEvent os o.system i
    else []

/-- The events of the transitions that a poll makes are reported, in this poll or since
    the last transition. -/
def LinedUp (o : Observed) : Event → Prop
  | .poll r => ∀ t ∈ (progress os o.system (.poll r)).fired,
      eventOf t.newState ∈ o.reported ++ reportsOfPoll os.host r o.system.daemon
  | .reload _ _ _ | .command _ _ | .elsewhere _ _ => True

/-- The sample of a poll does not continue a streak that is long enough already, by the
    configuration that is in force. -/
def Prompt (o : Observed) : Event → Prop
  | .poll r => ∀ a x, weighed os.host r o.system.daemon = some (a, x) →
      ∀ m ∈ o.system.daemon.actuator.machines, Fresh (m.setConfig a.effective) x
  | .reload _ _ _ | .command _ _ | .elsewhere _ _ => True

/-- There are polls and reloads only, and the daemon manages one process, which does not
    exit, from the first sample on. -/
def OnlyOne (p : DWORD) (o : Observed) : Event → Prop
  | .poll r =>
      (∀ m ∈ (sense os.host r o.system.daemon).1.actuator.machines, m.batchProcessId = p) ∧
        ((sense os.host r o.system.daemon).2.isSome = true →
          (sense os.host r o.system.daemon).1.actuator.machines ≠ []) ∧
        o.system.world.exited p = false
  | .reload text writable r => ∀ m ∈ o.system.daemon.actuator.machines, m.batchProcessId ∈
      (reload os text writable r o.system.daemon o.system.world).daemon.actuator.machines.map
        ProcessStateMachine.batchProcessId
  | .command _ _ => False
  | .elsewhere _ _ => True

/-- Whether the reports line up can be decided. -/
instance (o : Observed) : (i : Event) → Decidable (LinedUp os o i)
  | .poll _ => inferInstanceAs (Decidable (∀ t ∈ _, eventOf _ ∈ _))
  | .reload _ _ _ | .command _ _ | .elsewhere _ _ => inferInstanceAs (Decidable True)

/-- Whether there is only the one machine can be decided. -/
instance (p : DWORD) (o : Observed) : (i : Event) → Decidable (OnlyOne os p o i)
  | .poll _ => inferInstanceAs (Decidable ((∀ m ∈ _, _ = _) ∧ (_ = true → _ ≠ _) ∧ _ = _))
  | .reload _ _ _ => inferInstanceAs (Decidable (∀ m ∈ _, _ ∈ _))
  | .command _ _ => inferInstanceAs (Decidable False)
  | .elsewhere _ _ => inferInstanceAs (Decidable True)

/-- There is no machine yet and nothing was counted, or there is one, and the tracker is
    in step with it. -/
inductive Paced (d : DaemonState) (reported : List ThresholdType) : Prop
  | before (hnone : d.actuator.machines = []) (htracker : d.tracker = {}) (hnew : reported = [])
  | one (m : ProcessStateMachine Rat) (hm : d.actuator.machines = [m])
      (hsynced : Synced m d.tracker reported)

/-- What holds between the events of a run with one process. -/
structure Between (o : Observed) : Prop where
  following : Following os o.system.daemon
  paced : Paced o.system.daemon o.reported

section Poll

variable {os} {r : PollReadings} {d : DaemonState} {reported : List ThresholdType}

theorem bounded_of_following (h : Following os d) : Bounded d.effective := by
  rcases (inForce_of_following d h).lowered with ⟨_, hlowered⟩
  rcases h.accepted with ⟨text, hparse⟩
  have hrange := samples_range text d.cfg hparse
  refine ⟨?_, ?_, ?_⟩
  · rw [hlowered.throttleSamples]
    exact hrange _ (List.mem_cons_self ..)
  · rw [hlowered.escalateSamples]
    exact hrange _ (List.mem_cons_of_mem _ (List.mem_cons_self ..))
  · rw [hlowered.recoverSamples]
    exact hrange _ (List.mem_cons_of_mem _ (List.mem_cons_of_mem _ (List.mem_cons_self ..)))

/-- What a poll with a sample does. -/
theorem poll_of_weighed (w : World) (a : DaemonState) (x : Rat)
    (h : weighed os.host r d = some (a, x)) :
    (poll os.host r d w).fired = (a.actuator.updateAll r.os x w).fired ∧
      (poll os.host r d w).daemon.actuator = (a.actuator.updateAll r.os x w).manager ∧
      (poll os.host r d w).daemon.tracker
        = if (a.actuator.updateAll r.os x w).returned then {}
          else (a.tracker.add x a.effective).1 := by
  -- There is a sample, so the second half of the poll takes place.
  rcases poll_cases os.host r d w with ⟨hnone, _⟩ | ⟨c, hc, heq⟩
  · rw [weighed, hnone] at h
    cases h
  · rw [weighed, hc] at h
    cases h
    rw [heq]
    exact ⟨rfl, rfl, rfl⟩

/-- What a poll without a sample does. -/
theorem poll_of_not_weighed (w : World) (h : weighed os.host r d = none) :
    poll os.host r d w = { daemon := (sense os.host r d).1, world := w } := by
  rcases poll_cases os.host r d w with ⟨_, heq⟩ | ⟨c, hc, _⟩
  · exact heq
  · rw [weighed, hc] at h
    cases h

/-- Where all machines are for one process, there is at most one. -/
theorem machines_of_ids (manager : ActuatorManager Rat) (p : DWORD)
    (h : ∀ m ∈ manager.machines, m.batchProcessId = p) : manager.machines.length ≤ 1 := by
  have hdistinct := manager.distinct
  have hids : manager.machines.map ProcessStateMachine.batchProcessId
      = List.replicate manager.machines.length p :=
    List.eq_replicate_iff.mpr ⟨List.length_map _, fun q hq => by
      rcases List.mem_map.mp hq with ⟨m, hm, rfl⟩
      exact h m hm⟩
  rw [hids] at hdistinct
  exact List.nodup_replicate.mp hdistinct

/-- The first half of a poll keeps the tracker in step with the machine. -/
theorem paced_sense (p : DWORD)
    (hp : ∀ m ∈ (sense os.host r d).1.actuator.machines, m.batchProcessId = p)
    (h : Paced d reported) : Paced (sense os.host r d).1 reported := by
  rcases @discovers_sense os.host r d with ⟨new, hnew, hcreate⟩
  have hlength := machines_of_ids _ p hp
  rw [hnew, List.length_append] at hlength
  cases h with
  | before hnone htracker hreported =>
      rw [hnone, List.append_nil] at hnew
      cases new with
      | nil => exact Paced.before hnew htracker hreported
      | cons m new =>
          rcases hcreate m (List.mem_cons_self ..) with ⟨name, pid, c, opened, rfl⟩
          rw [List.length_cons] at hlength
          -- There is room for one machine only, and it starts as the tracker does.
          have hlast : new = [] := List.length_eq_zero_iff.mp (by omega)
          rw [hlast] at hnew
          have htracker' : (sense os.host r d).1.tracker = {} := htracker
          refine Paced.one _ hnew ?_
          rw [htracker', hreported]
          exact synced_create name pid c opened
  | one m hm hsynced =>
      rw [hm, List.length_singleton] at hlength
      have hnone : new = [] := List.length_eq_zero_iff.mp (by omega)
      rw [hnone, hm] at hnew
      exact Paced.one m hnew hsynced

/-- The machine that a poll finds is the one that there was, or it is new. -/
theorem machine_of_sense
    (m : ProcessStateMachine Rat) (hm : (sense os.host r d).1.actuator.machines = [m]) :
    d.actuator.machines = [m] ∨
      (d.actuator.machines = [] ∧
        ∃ name pid c opened, m = ProcessStateMachine.create name pid c opened) := by
  rcases @discovers_sense os.host r d with ⟨new, hnew, hcreate⟩
  rw [hm] at hnew
  cases new with
  | nil => exact Or.inl hnew.symm
  | cons m' new =>
      rw [List.cons_append] at hnew
      rcases List.cons.inj hnew with ⟨rfl, hrest⟩
      exact Or.inr ⟨(List.append_eq_nil_iff.mp hrest.symm).2, hcreate m (List.mem_cons_self ..)⟩

/-- A new machine has no streak to continue. -/
theorem fresh_create (name : WString) (pid : DWORD) (c c' : StateMachineConfig Rat)
    (opened : Bool) (x : Rat) (h : Bounded c') :
    Fresh ((ProcessStateMachine.create name pid c opened).setConfig c') x := by
  refine ⟨fun _ _ => ?_, fun hne => (nomatch hne), fun hne => absurd rfl hne⟩
  rw [Int32.lt_iff_toInt_lt]
  exact Int.lt_of_lt_of_le (show (0 : Int) < 1 by decide) h.throttle.1

/-- What the sample of a poll meets: one machine, with the thresholds in force, in step
    with the tracker. -/
theorem weighed_spec (hfollowing : Following os d) (p : DWORD)
    (hp : ∀ m ∈ (sense os.host r d).1.actuator.machines, m.batchProcessId = p)
    (hsome : (sense os.host r d).2.isSome = true → (sense os.host r d).1.actuator.machines ≠ [])
    (hpaced : Paced d reported) (a : DaemonState) (x : Rat)
    (h : weighed os.host r d = some (a, x)) :
    ∃ m, (sense os.host r d).1.actuator.machines = [m] ∧
      a.actuator.machines = [m.setConfig a.effective] ∧
      Synced (m.setConfig a.effective) a.tracker reported ∧
      Bounded a.effective ∧ a.effective.Sound := by
  rw [weighed, Option.map_eq_some_iff] at h
  rcases h with ⟨c, hc, heq⟩
  rcases Prod.mk.inj heq with ⟨rfl, rfl⟩
  set sampled : DaemonState := { (sense os.host r d).1 with
    pressure := c.pressure.percent
    pressureSignal := c.pressure.signal
    criticalPid := c.pid } with hsampled
  have hsense := following_sense r d hfollowing
  -- What is sampled does not touch what a poll follows.
  have hfollows : Following os sampled :=
    ⟨hsense.accepted, hsense.base, hsense.settings, hsense.effective, hsense.manager,
      hsense.holdings⟩
  have hadapted := following_adapt r.externalBias c.pressure.percent sampled hfollows
  have hmachines := machines_adapt r.externalBias c.pressure.percent sampled hfollows
  have htracker : (adapt r.externalBias c.pressure.percent sampled).tracker
      = (sense os.host r d).1.tracker := by
    unfold adapt
    dsimp only
    split_ifs <;> rfl
  cases paced_sense p hp hpaced with
  -- Without a reading there is no sample, so a machine is there.
  | before hnone _ _ => exact absurd hnone (hsome (by rw [hc]; rfl))
  | one m hm hsynced =>
      have hone : sampled.actuator.machines = [m] := hm
      rw [hone] at hmachines
      refine ⟨m, hm, hmachines, ?_, bounded_of_following hadapted,
        (inForce_of_following _ hadapted).sound⟩
      rw [htracker]
      exact synced_setConfig hsynced _

end Poll

section Runs

variable {os}

/-- A poll with a sample: one machine counts it, in step with the tracker, and makes the
    transition that the counters call for. -/
theorem update_of_weighed (p : DWORD) (o : Observed) (r : PollReadings)
    (hone : OnlyOne os p o (.poll r)) (h : Between os o) (a : DaemonState) (x : Rat)
    (hweighed : weighed os.host r o.system.daemon = some (a, x)) :
    ∃ m, (sense os.host r o.system.daemon).1.actuator.machines = [m] ∧
      Synced (m.setConfig a.effective) a.tracker o.reported ∧
      Bounded a.effective ∧ a.effective.Sound ∧
      ((((m.setConfig a.effective).countSample x).wanted = none →
          (a.actuator.updateAll r.os x o.system.world).manager.machines
              = [(m.setConfig a.effective).countSample x] ∧
            (a.actuator.updateAll r.os x o.system.world).returned = false ∧
            (a.actuator.updateAll r.os x o.system.world).fired = []) ∧
        ∀ s, ((m.setConfig a.effective).countSample x).wanted = some s →
          (a.actuator.updateAll r.os x o.system.world).manager.machines
              = [((m.setConfig a.effective).countSample x).entered s] ∧
            (a.actuator.updateAll r.os x o.system.world).returned = true ∧
            ∃ t, (a.actuator.updateAll r.os x o.system.world).fired = [t] ∧
              t.newState = s) := by
  rcases hone with ⟨hp, hsome, hexited⟩
  rcases weighed_spec h.following p hp hsome h.paced a x hweighed with
    ⟨m, hm, hmachines, hsynced, hbounded, hsound⟩
  -- The process runs, so the update looks at its counters.
  have hnow : (m.setConfig a.effective).hasExited o.system.world = false := by
    have hpid : m.batchProcessId = p := hp m (by rw [hm]; exact List.mem_cons_self ..)
    rw [ProcessStateMachine.hasExited, ProcessStateMachine.setConfig, hpid, hexited,
      Bool.and_false]
  exact ⟨m, hm, hsynced, hbounded, hsound,
    updateAll_single r.os a.actuator _ x o.system.world hmachines hnow hsynced.free⟩

-- A machine that a poll has just made has no streak to continue.
theorem forall_fresh_iff (r : PollReadings) (d a : DaemonState) (x : Rat)
    (m : ProcessStateMachine Rat) (hm : (sense os.host r d).1.actuator.machines = [m])
    (hbounded : Bounded a.effective) :
    (∀ m' ∈ d.actuator.machines, Fresh (m'.setConfig a.effective) x) ↔
      Fresh (m.setConfig a.effective) x := by
  rcases machine_of_sense m hm with hold | ⟨hnone, name, pid, c, opened, rfl⟩
  · rw [hold, List.forall_mem_singleton]
  · rw [hnone]
    exact iff_of_true (fun m' hm' => absurd hm' List.not_mem_nil)
      (fresh_create name pid c a.effective opened x hbounded)

/-- In a run with one process, the event of a transition is reported exactly if the
    sample does not continue a streak that is long enough already. -/
theorem linedUp_iff (p : DWORD) (o : Observed) (i : Event) (hone : OnlyOne os p o i)
    (h : Between os o) : LinedUp os o i ↔ Prompt os o i := by
  cases i with
  | reload text writable r => exact Iff.rfl
  | command line r => exact Iff.rfl
  | elsewhere world running => exact Iff.rfl
  | poll r =>
      simp only [LinedUp, Prompt, progress]
      rcases hweighed : weighed os.host r o.system.daemon with _ | ⟨a, x⟩
      · -- There is no sample, so nothing happens.
        rw [poll_of_not_weighed o.system.world hweighed]
        exact iff_of_true (fun t ht => absurd ht List.not_mem_nil) (fun a x heq => by cases heq)
      · rcases update_of_weighed p o r hone h a x hweighed with
          ⟨m, hm, hsynced, hbounded, hsound, hupdate⟩
        -- For one machine the question is about one sample, and the counters go together.
        have hsample := sample_linedUp_iff (x := x) hbounded hsound hsynced
        have hreports : reportsOfPoll os.host r o.system.daemon
            = reportsOf a.tracker x a.effective := by
          rw [reportsOfPoll, hweighed]
        have hconfig : (m.setConfig a.effective).config = a.effective := rfl
        have hprompt : (∀ a' x', some (a, x) = some (a', x') →
            ∀ m' ∈ o.system.daemon.actuator.machines, Fresh (m'.setConfig a'.effective) x') ↔
              ∀ m' ∈ o.system.daemon.actuator.machines, Fresh (m'.setConfig a.effective) x :=
          ⟨fun hall => hall a x rfl, fun hall a' x' heq => by cases heq; exact hall⟩
        rw [hconfig] at hsample
        rw [(poll_of_weighed o.system.world a x hweighed).1, hreports, hprompt,
          forall_fresh_iff r o.system.daemon a x m hm hbounded, ← hsample]
        rcases hwanted : ((m.setConfig a.effective).countSample x).wanted with _ | s
        · rw [(hupdate.1 hwanted).2.2]
          exact iff_of_true (fun t ht => absurd ht List.not_mem_nil) (fun s hs => by cases hs)
        · rcases (hupdate.2 s hwanted).2.2 with ⟨t, ht, hnew⟩
          rw [ht, List.forall_mem_singleton, hnew]
          simp only [Option.some.injEq, forall_eq']

theorem between_poll (p : DWORD) (o : Observed) (r : PollReadings)
    (hone : OnlyOne os p o (.poll r)) (h : Between os o) :
    Paced (observe os o (.poll r)).system.daemon (observe os o (.poll r)).reported := by
  have hstep : (observe os o (.poll r)).system.daemon
      = (poll os.host r o.system.daemon o.system.world).daemon := rfl
  have hreported : (observe os o (.poll r)).reported
      = if (poll os.host r o.system.daemon o.system.world).fired.isEmpty then
          o.reported ++ reportsOfPoll os.host r o.system.daemon else [] := rfl
  rw [hstep, hreported]
  rcases hweighed : weighed os.host r o.system.daemon with _ | ⟨a, x⟩
  · rw [poll_of_not_weighed o.system.world hweighed, reportsOfPoll, hweighed]
    simp only [List.isEmpty_nil, if_true, List.append_nil]
    exact paced_sense p hone.1 h.paced
  · rcases update_of_weighed p o r hone h a x hweighed with
      ⟨m, _, hsynced, hbounded, _, hupdate⟩
    have hreports : reportsOfPoll os.host r o.system.daemon
        = reportsOf a.tracker x a.effective := by
      rw [reportsOfPoll, hweighed]
    rcases poll_of_weighed o.system.world a x hweighed with ⟨hfired, hactuator, htracker⟩
    rw [hfired, hreports]
    rcases hwanted : ((m.setConfig a.effective).countSample x).wanted with _ | s
    · -- The machine stays where it is, and both have counted the sample.
      rcases hupdate.1 hwanted with ⟨hafter, hreturned, hnone⟩
      have hcounted := synced_countSample (x := x) hbounded hsynced hwanted
      rw [hreturned] at htracker
      rw [hnone]
      refine Paced.one _ (hactuator ▸ hafter) ?_
      rw [htracker]
      exact hcounted
    · -- The machine moves, and both start afresh.
      rcases hupdate.2 s hwanted with ⟨hafter, hreturned, t, ht, _⟩
      rw [hreturned] at htracker
      rw [ht]
      refine Paced.one _ (hactuator ▸ hafter) ?_
      rw [htracker]
      exact synced_entered hsynced s

/-- A reload leaves the counters alone. -/
theorem paced_reload (text : Bytes) (writable : Bool) (r : ReloadReadings) (d : DaemonState)
    (w : World) (reported : List ThresholdType)
    (hone : ∀ m ∈ d.actuator.machines, m.batchProcessId ∈
      (reload os text writable r d w).daemon.actuator.machines.map
        ProcessStateMachine.batchProcessId) (h : Paced d reported) :
    (reload os text writable r d w).fired = [] ∧
      Paced (reload os text writable r d w).daemon reported := by
  rcases reload_cases text writable r d w with heq | ⟨cfg, _, _, heq⟩
  · rw [heq]
    exact ⟨rfl, h⟩
  · rw [heq] at hone ⊢
    set effective := (d.adaptive.setSettings (toAdaptive cfg)).adjust (toStateMachineConfig cfg)
      (d.bias r.externalBias) with heffective
    -- A machine that is still there has stayed.
    have hstays : ∀ m ∈ d.actuator.machines, stays os.host cfg d.adhoc m.holding = true := by
      intro m hm
      rcases List.mem_map.mp (hone m hm) with ⟨m', hm', hpid⟩
      have hheld : m'.holding ∈
          (reconfigure os.host r.os cfg effective d.adhoc d.actuator w).manager.holdings :=
        List.mem_map_of_mem hm'
      rw [(reconfigure_spec os.host r.os cfg effective d.adhoc d.actuator w).1] at hheld
      rcases List.mem_filter.mp hheld with ⟨hmapped, hstay⟩
      rcases List.mem_map.mp hmapped with ⟨held, hheld, heq⟩
      have hsame : held.batchProcessId = m.holding.batchProcessId :=
        (congrArg Holding.batchProcessId heq).trans hpid
      rw [← heq, holdings_inj d.actuator held m.holding hheld (List.mem_map_of_mem hm) hsame]
        at hstay
      exact hstay
    rcases reconfigure_of_stays r.os cfg effective d.adhoc d.actuator w hstays with
      ⟨hmachines, hfired⟩
    refine ⟨hfired, ?_⟩
    have hafter : (applyConfig os.host r cfg d w).daemon.actuator.machines
        = d.actuator.machines.map fun m => m.setConfig effective := hmachines
    cases h with
    | before hnone htracker hnew =>
        rw [hnone] at hafter
        exact Paced.before hafter htracker hnew
    | one m hm hsynced =>
        rw [hm] at hafter
        exact Paced.one _ hafter (synced_setConfig hsynced effective)

theorem between_step (p : DWORD) (o : Observed) (i : Event) (hone : OnlyOne os p o i)
    (h : Between os o) : Between os (observe os o i) := by
  refine ⟨following_step o.system i h.following, ?_⟩
  -- A reload keeps the machine and the tracker in step, as its condition says.
  cases i with
  | poll r => exact between_poll p o r hone h
  | reload text writable r =>
      rcases paced_reload text writable r _ o.system.world o.reported hone h.paced with
        ⟨hfired, hpaced⟩
      have hreported : (observe os o (.reload text writable r)).reported
          = if (reload os text writable r o.system.daemon o.system.world).fired.isEmpty then
              o.reported ++ [] else [] := rfl
      rw [hreported, hfired, List.append_nil]
      exact hpaced
  | command line r => exact absurd hone id
  | elsewhere world running =>
      have hreported : (observe os o (.elsewhere world running)).reported = o.reported ++ [] := rfl
      rw [hreported, List.append_nil]
      exact h.paced

/-- In every run of polls and reloads with one process, every transition comes with its
    event exactly if no sample continues a streak that is long enough already. -/
theorem along_linedUp_iff (cfg : { cfg : DaemonConfig // Accepted os cfg }) (r : ReloadReadings)
    (cores : Nat) (remoteStopEvent : Bool) (w : World) (running : DWORD → Option UInt64)
    (p : DWORD) (l : List Event)
    (hl : Along (observe os) (OnlyOne os p)
      { system := start os cfg r cores remoteStopEvent w running } l) :
    Along (observe os) (LinedUp os)
        { system := start os cfg r cores remoteStopEvent w running } l ↔
      Along (observe os) (Prompt os)
        { system := start os cfg r cores remoteStopEvent w running } l := by
  refine along_iff_along_of (observe os) (OnlyOne os p) (LinedUp os) (Prompt os) (Between os)
    (between_step p) (linedUp_iff p) l _ hl ⟨following_applyConfig r cfg.1 cfg.2 _ w, ?_⟩
  have hnone := holdings_start os cfg r cores remoteStopEvent w running
  exact Paced.before (List.map_eq_nil_iff.mp hnone) rfl rfl

end Runs

section Impatient

/-- A document that asks for two samples above `high`. -/
def patientDocument : Json :=
  match sampleDocument ["c.exe"] ["a.exe"] [] with
  | .object members => .object (members.map fun e =>
      if e.1 = ascii "thresholds" then
        (e.1, .object
          [(ascii "high", .object
              [(ascii "percent", .integer 85), (ascii "consecutive_samples", .integer 2)]),
            (ascii "critical", sampleThreshold 90), (ascii "low", sampleThreshold 60)])
      else e)
  | other => other

/-- A configuration that throttles after two samples. -/
def patientConfig : DaemonConfig := { sampleConfig ["c.exe"] ["a.exe"] [] with high := ⟨85, 2⟩ }

/-- The second document asks for one sample. -/
def patientPlatform : Platform :=
  samplePlatform patientDocument (sampleDocument ["c.exe"] ["a.exe"] [])

/-- The daemon after `Initialize`, with nothing reported. -/
def patientStart : Observed where
  system := start patientPlatform ⟨patientConfig, [], rfl⟩ (sampleReload []) 1 true sampleWorld
    (sampleRunning [⟨wide "a.exe", 4821⟩, ⟨wide "c.exe", 7000⟩])

/-- The critical process uses all of its core. -/
def patientPoll (ticks : UInt64) : Event :=
  .poll (samplePoll [⟨wide "a.exe", 4821⟩, ⟨wide "c.exe", 7000⟩] (fun _ => []) (sampleAuto 0 [])
    ticks)

/-- The first poll has nothing to compare with, and the other two have a sample above
    `high` each. -/
def patientPolls : List Event := [patientPoll 10, patientPoll 20, patientPoll 30]

/-- Between the two samples there is a reload that asks for one sample. -/
def impatientEvents : List Event :=
  [patientPoll 10, patientPoll 20, .reload [0] false (sampleReload []), patientPoll 30]

/-- After two samples the process is throttled, and this is reported. -/
theorem along_linedUp_patient :
    Along (observe patientPlatform) (LinedUp patientPlatform) patientStart patientPolls ↔
      Along (observe patientPlatform) (Prompt patientPlatform) patientStart patientPolls :=
  along_linedUp_iff ⟨patientConfig, [], rfl⟩ (sampleReload []) 1 true sampleWorld
    (sampleRunning [⟨wide "a.exe", 4821⟩, ⟨wide "c.exe", 7000⟩]) 4821 patientPolls
    (by decide +kernel)

/-- The machine acts on the second sample, and the tracker does not report a streak of
    two where one is asked for. -/
theorem not_linedUp_impatient :
    Along (observe patientPlatform) (OnlyOne patientPlatform 4821) patientStart impatientEvents ∧
      ¬ Along (observe patientPlatform) (LinedUp patientPlatform) patientStart impatientEvents := by
  decide +kernel

end Impatient

end Service

end ThreadHaul
