import Mathlib.Order.Lattice
import ThreadHaul.Actuator.ThreadControl

/-!
# The Process State Machine

One managed process: `ProcessStateMachine` with its constructor, its six
operations and the system calls behind a transition.

The percentages are a type parameter. The machine only ever compares them, so
nothing here needs more than a decidable order relation, and none of its laws:
a sample may be anything a `double` can be. The counters are 32-bit `int`s.

`TransitionTo` does two independent things, and they are two definitions.
`actuate` is the `switch` over the new state with its system calls, any of
which may fail; `entered` is the bookkeeping that follows, which does not look
at how the calls came out. `next` collects the bookkeeping of a whole
operation, and `exec_machine` says that it is all an operation does to the
machine: what the machine decides never depends on the system.

## Main definitions

* `ProcessState`, `StateMachineConfig`, `ProcessStateMachine`: The data.
* `StateMachineConfig.Sound`: Thresholds in the right order.
* `actuate`: The system calls of a transition.
* `transitionTo`, `update`, `forceState`, `forceRecoverForShutdown`: The code.
* `Call`, `exec`: One call of a public operation.
* `next`: What a call does to the machine.

## Theorems

* `goal_ne_state`: A transition changes the state.
* `next_state`: The state after a call.
* `exec_eq`: A call is its bookkeeping and at most one transition.
* `exec_machine`: The machine after a call does not depend on the system calls.
* `exec_world`: The system changes by the calls of the transition, if any.
* `update_returns`: `Update` reports a change of state.
-/

namespace ThreadHaul

namespace Actuator

/-- `ProcessState`. -/
inductive ProcessState
  | normal
  | throttled
  | suspended
  deriving DecidableEq, Repr

/-- How far a state restrains the process. -/
def ProcessState.rank : ProcessState → Nat
  | .normal => 0
  | .throttled => 1
  | .suspended => 2

/-- Normal, then throttled, then suspended. -/
instance : LinearOrder ProcessState :=
  LinearOrder.lift' ProcessState.rank (by intro a b h; cases a <;> cases b <;> cases h <;> rfl)

/-- `StateMachineConfig`. -/
structure StateMachineConfig (α : Type*) where
  throttleThresholdPercent : α
  throttleConsecutiveSamples : Int32
  escalateThresholdPercent : α
  escalateConsecutiveSamples : Int32
  recoverThresholdPercent : α
  recoverConsecutiveSamples : Int32
  deriving DecidableEq, Repr

/-- The thresholds a default-constructed configuration has. -/
instance {α : Type*} [NatCast α] : Inhabited (StateMachineConfig α) where
  default :=
    { throttleThresholdPercent := (85 : Nat)
      throttleConsecutiveSamples := 3
      escalateThresholdPercent := (90 : Nat)
      escalateConsecutiveSamples := 5
      recoverThresholdPercent := (60 : Nat)
      recoverConsecutiveSamples := 5 }

/-- Recovery lies strictly below throttle, and throttle not above escalate. -/
structure StateMachineConfig.Sound {α : Type*} [LE α] [LT α] (c : StateMachineConfig α) :
    Prop where
  recover_lt_throttle : c.recoverThresholdPercent < c.throttleThresholdPercent
  throttle_le_escalate : c.throttleThresholdPercent ≤ c.escalateThresholdPercent

/-- What `TransitionCallback` is told. -/
structure Transition (α : Type*) where
  batchProcessName : WString
  batchProcessId : DWORD
  oldState : ProcessState
  newState : ProcessState
  cpuPercentAtTransition : α
  actuationSucceeded : Bool
  deriving DecidableEq, Repr

/-- `ProcessStateMachine`. -/
structure ProcessStateMachine (α : Type*) where
  batchProcessName : WString
  batchProcessId : DWORD
  /-- The constructor's `OpenProcess` succeeded. -/
  processHandle : Bool
  config : StateMachineConfig α
  state : ProcessState := .normal
  manualHold : Bool := false
  consecutiveHigh : Int32 := 0
  consecutiveCritical : Int32 := 0
  consecutiveLow : Int32 := 0
  deriving DecidableEq, Repr

variable {α : Type*}

namespace ProcessStateMachine

/-- The constructor. -/
def create (batchProcessName : WString) (batchProcessId : DWORD) (config : StateMachineConfig α)
    (opened : Bool) : ProcessStateMachine α where
  batchProcessName := batchProcessName
  batchProcessId := batchProcessId
  processHandle := opened
  config := config

/-- Without a handle the exit state is unknown and counts as running. -/
def hasExited (m : ProcessStateMachine α) (w : World) : Bool :=
  m.processHandle && w.exited m.batchProcessId

/-- `if (oldState == Suspended) resumed = ResumeAllThreads(..).AllSucceeded()`. -/
def resumeIfSuspended (os : OsCalls) (m : ProcessStateMachine α) (w : World) : World × Bool :=
  if m.state = .suspended then
    let (w, result) := resumeAllThreads os w m.batchProcessId
    (w, result.allSucceeded)
  else (w, true)

/-- The system calls of `TransitionTo`, and whether they all succeeded. -/
def actuate (os : OsCalls) (m : ProcessStateMachine α) (newState : ProcessState) (w : World) :
    World × Bool :=
  if m.hasExited w then (w, false)
  else
    match newState with
    | .throttled =>
        let (w, resumed) := m.resumeIfSuspended os w
        -- `&&`: the priority is not touched if the threads were not resumed.
        if resumed then
          let (w, result) := setProcessPriority os w m.batchProcessId .idle
          (w, result == .success)
        else (w, false)
    | .suspended =>
        let (w, result) := suspendAllThreads os w m.batchProcessId
        (w, result.allSucceeded)
    | .normal =>
        let (w, resumed) := m.resumeIfSuspended os w
        let (w, result) := setProcessPriority os w m.batchProcessId .normal
        (w, resumed && result == .success)

/-- The bookkeeping of `TransitionTo`: the new state, and fresh counters. -/
def entered (m : ProcessStateMachine α) (newState : ProcessState) : ProcessStateMachine α :=
  { m with
    state := newState
    consecutiveHigh := 0
    consecutiveCritical := 0
    consecutiveLow := 0 }

/-- The machine and the system after an operation, and the callback it made. -/
structure Outcome (α : Type*) where
  machine : ProcessStateMachine α
  world : World
  fired : Option (Transition α)

/-- `TransitionTo`: the calls, the new state, and the callback. -/
def transitionTo (os : OsCalls) (m : ProcessStateMachine α) (newState : ProcessState)
    (cpuPercent : α) (w : World) : Outcome α :=
  let (w', actuationSucceeded) := m.actuate os newState w
  { machine := m.entered newState
    world := w'
    fired := some
      { batchProcessName := m.batchProcessName
        batchProcessId := m.batchProcessId
        oldState := m.state
        newState := newState
        cpuPercentAtTransition := cpuPercent
        actuationSucceeded := actuationSucceeded } }

variable [LE α] [DecidableLE α] [LT α] [DecidableLT α]

/-- The three counters after one more sample. -/
def countSample (m : ProcessStateMachine α) (cpuPercent : α) : ProcessStateMachine α :=
  { m with
    consecutiveHigh :=
      if m.config.throttleThresholdPercent ≤ cpuPercent then m.consecutiveHigh + 1 else 0
    consecutiveCritical :=
      if m.config.escalateThresholdPercent ≤ cpuPercent then m.consecutiveCritical + 1 else 0
    consecutiveLow :=
      if cpuPercent < m.config.recoverThresholdPercent then m.consecutiveLow + 1 else 0 }

/-- The `if`/`else if` chain of `Update`: the state the counters call for. -/
def wanted (m : ProcessStateMachine α) : Option ProcessState :=
  if m.state = .normal ∧ m.config.throttleConsecutiveSamples ≤ m.consecutiveHigh then
    some .throttled
  else if m.state = .throttled ∧
      m.config.escalateConsecutiveSamples ≤ m.consecutiveCritical then
    some .suspended
  else if (m.state = .throttled ∨ m.state = .suspended) ∧
      m.config.recoverConsecutiveSamples ≤ m.consecutiveLow then
    some .normal
  else none

/-- `Update`, with the value it returns. -/
def update (os : OsCalls) (m : ProcessStateMachine α) (criticalProcessCpuPercent : α)
    (w : World) : Outcome α × Bool :=
  let counted := m.countSample criticalProcessCpuPercent
  if counted.manualHold then (⟨counted, w, none⟩, false)
  else
    match counted.wanted with
    | some newState =>
        let out := counted.transitionTo os newState criticalProcessCpuPercent w
        (out, out.machine.state != m.state)
    | none => (⟨counted, w, none⟩, counted.state != m.state)

/-- `SetConfig`. -/
def setConfig (m : ProcessStateMachine α) (config : StateMachineConfig α) :
    ProcessStateMachine α :=
  { m with config := config }

/-- `ReleaseManualHold`. -/
def releaseManualHold (m : ProcessStateMachine α) : ProcessStateMachine α :=
  { m with manualHold := false }

/-- `ForceState`: a machine in that state makes no call. -/
def forceState (os : OsCalls) (m : ProcessStateMachine α) (newState : ProcessState)
    (cpuPercent : α) (hold : Bool) (w : World) : Outcome α :=
  let held := { m with manualHold := hold }
  if held.state ≠ newState then held.transitionTo os newState cpuPercent w
  else ⟨held, w, none⟩

/-- `ForceRecoverForShutdown`. -/
def forceRecoverForShutdown [Zero α] (os : OsCalls) (m : ProcessStateMachine α) (w : World) :
    Outcome α :=
  let released := { m with manualHold := false }
  if released.state = .normal then ⟨released, w, none⟩
  else released.transitionTo os .normal 0 w

end ProcessStateMachine

/-- A call of one of the operations that can change a machine. -/
inductive Call (α : Type*)
  | update (cpuPercent : α)
  | setConfig (config : StateMachineConfig α)
  | forceState (newState : ProcessState) (cpuPercent : α) (hold : Bool)
  | releaseManualHold
  | forceRecoverForShutdown

/-- The percentage a call hands to the transition it may make. -/
def Call.percent [Zero α] : Call α → α
  | .update x => x
  | .forceState _ x _ => x
  | .setConfig _ | .releaseManualHold | .forceRecoverForShutdown => 0

namespace ProcessStateMachine

section Control

variable [LE α] [DecidableLE α] [LT α] [DecidableLT α]

/-- The state a call moves to, if it makes a transition. -/
def goal (m : ProcessStateMachine α) : Call α → Option ProcessState
  | .update x => if m.manualHold then none else (m.countSample x).wanted
  | .forceState newState _ _ => if m.state ≠ newState then some newState else none
  | .forceRecoverForShutdown => if m.state = .normal then none else some .normal
  | .setConfig _ | .releaseManualHold => none

/-- The machine as a call leaves it before any transition. -/
def noted (m : ProcessStateMachine α) : Call α → ProcessStateMachine α
  | .update x => m.countSample x
  | .setConfig config => m.setConfig config
  | .forceState _ _ hold => { m with manualHold := hold }
  | .releaseManualHold => m.releaseManualHold
  | .forceRecoverForShutdown => { m with manualHold := false }

/-- What a call does to the machine. -/
def next (m : ProcessStateMachine α) (c : Call α) : ProcessStateMachine α :=
  match m.goal c with
  | some newState => (m.noted c).entered newState
  | none => m.noted c

/-- A transition always changes the state. -/
theorem goal_ne_state (m : ProcessStateMachine α) (c : Call α) (newState : ProcessState)
    (h : m.goal c = some newState) : newState ≠ m.state := by
  cases c with
  | update x =>
      have hs : (m.countSample x).state = m.state := rfl
      simp only [goal, wanted, hs] at h
      -- The chain of `Update` leaves the state it asks for.
      split_ifs at h with h1 h2 h3 h4 <;> cases h
      · rw [h2.1]; decide
      · rw [h3.1]; decide
      · rcases h4.1 with hst | hst <;> rw [hst] <;> decide
  | setConfig config => cases h
  | forceState target x hold =>
      simp only [goal] at h
      split_ifs at h with hs
      cases h
      exact fun heq => hs heq.symm
  | releaseManualHold => cases h
  | forceRecoverForShutdown =>
      simp only [goal] at h
      split_ifs at h with hs
      cases h
      exact fun heq => hs heq.symm

@[simp] theorem noted_state (m : ProcessStateMachine α) (c : Call α) :
    (m.noted c).state = m.state := by
  cases c <;> rfl

@[simp] theorem noted_batchProcessId (m : ProcessStateMachine α) (c : Call α) :
    (m.noted c).batchProcessId = m.batchProcessId := by
  cases c <;> rfl

@[simp] theorem noted_processHandle (m : ProcessStateMachine α) (c : Call α) :
    (m.noted c).processHandle = m.processHandle := by
  cases c <;> rfl

/-- The state moves exactly where a call makes a transition. -/
theorem next_state (m : ProcessStateMachine α) (c : Call α) :
    (m.next c).state = (m.goal c).getD m.state := by
  unfold next
  cases m.goal c with
  | none => exact noted_state m c
  | some newState => rfl

theorem next_batchProcessId (m : ProcessStateMachine α) (c : Call α) :
    (m.next c).batchProcessId = m.batchProcessId := by
  unfold next
  cases m.goal c with
  | none => exact noted_batchProcessId m c
  | some newState => exact noted_batchProcessId m c

end Control

variable [LE α] [DecidableLE α] [LT α] [DecidableLT α] [Zero α]

/-- One call. -/
def exec (os : OsCalls) (m : ProcessStateMachine α) (c : Call α) (w : World) : Outcome α :=
  match c with
  | .update x => (m.update os x w).1
  | .setConfig config => ⟨m.setConfig config, w, none⟩
  | .forceState newState x hold => m.forceState os newState x hold w
  | .releaseManualHold => ⟨m.releaseManualHold, w, none⟩
  | .forceRecoverForShutdown => m.forceRecoverForShutdown os w

/-- Every operation is its bookkeeping followed by at most one transition. -/
theorem exec_eq (os : OsCalls) (m : ProcessStateMachine α) (c : Call α) (w : World) :
    m.exec os c w = match m.goal c with
      | some newState => (m.noted c).transitionTo os newState c.percent w
      | none => ⟨m.noted c, w, none⟩ := by
  cases c with
  | update x =>
      simp only [exec, update, goal]
      by_cases hheld : m.manualHold
      · have hcounted : (m.countSample x).manualHold = true := hheld
        rw [if_pos hcounted, if_pos hheld]
        rfl
      · -- Nothing is held, and the counters decide.
        have hcounted : ¬ (m.countSample x).manualHold = true := hheld
        rw [if_neg hcounted, if_neg hheld]
        cases (m.countSample x).wanted with
        | none => rfl
        | some newState => rfl
  | setConfig config => rfl
  | forceState newState x hold =>
      simp only [exec, forceState, goal]
      -- A state that is forced already makes no transition.
      by_cases hs : m.state = newState
      · rw [if_neg (not_not.mpr hs), if_neg (not_not.mpr hs)]
        rfl
      · rw [if_pos hs, if_pos hs]
        rfl
  | releaseManualHold => rfl
  | forceRecoverForShutdown =>
      simp only [exec, forceRecoverForShutdown, goal]
      by_cases hs : m.state = .normal
      · rw [if_pos hs, if_pos hs]
        rfl
      · rw [if_neg hs, if_neg hs]
        rfl

/-- An operation does to the machine what `next` says, whatever its system
    calls come to. -/
theorem exec_machine (os : OsCalls) (m : ProcessStateMachine α) (c : Call α) (w : World) :
    (m.exec os c w).machine = m.next c := by
  rw [exec_eq, next]
  cases m.goal c with
  | none => rfl
  | some newState => rfl

/-- The system changes by the calls of the transition the operation makes, and
    not at all if it makes none. -/
theorem exec_world (os : OsCalls) (m : ProcessStateMachine α) (c : Call α) (w : World) :
    (m.exec os c w).world = match m.goal c with
      | some newState => ((m.noted c).actuate os newState w).1
      | none => w := by
  rw [exec_eq]
  cases m.goal c with
  | none => rfl
  | some newState => rfl

/-- `Update` answers whether it changed the state. -/
theorem update_returns (os : OsCalls) (m : ProcessStateMachine α) (x : α) (w : World) :
    (m.update os x w).2 = ((m.next (.update x)).state != m.state) := by
  rw [← exec_machine os m (.update x) w]
  simp only [exec, update]
  by_cases hheld : (m.countSample x).manualHold
  · rw [if_pos hheld]
    simp only [countSample, bne_self_eq_false]
  · rw [if_neg hheld]
    cases (m.countSample x).wanted with
    | none => rfl
    | some newState => rfl

end ProcessStateMachine

end Actuator

end ThreadHaul
