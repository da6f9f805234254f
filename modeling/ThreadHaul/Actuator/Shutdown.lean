import Mathlib.Algebra.Order.Field.Rat
import ThreadHaul.Actuator.Manager
import ThreadHaul.Lib.Runs

/-!
# What Shutdown Undoes

Shutdown recovers every managed process, and recovers it by what the machine
has recorded: a machine that is normal is left alone, and a machine that is
suspended resumes each thread once. Whether that undoes everything depends on
whether the recorded state accounts for what was really done to the process.
`Accounted` says what that is, and `restored_iff` that it is exactly what
shutdown needs.

Any system call may fail, and the recorded state moves on regardless. Most
failures are harmless. A suspension that fails leaves less to undo, and so does
a priority that was not lowered. Two are not: a thread that carries a suspension
and is not resumed when its machine leaves the suspended state is never resumed
afterwards, and a priority that is not restored when the machine becomes normal
is never restored. `Completes` says that a call does neither, and
`throughout_restored_iff` that this is all there is to it.

Threads start and exit while the process is managed, the process itself exits,
and others change its priority. None of that is under the service's control, and
none of it matters.

## Main definitions

* `Event`: A call on the machine, or something that happens outside.
* `Accounted`: The recorded state accounts for what was done.
* `Untouched`: A process without traces of the service.
* `Restored`: Shutdown, if its calls succeed, leaves the process untouched.
* `Completes`: A call carries out the undoing it stands for.

## Theorems

* `actuate_suspends`, `actuate_normal_priorityGiven`: A transition, as its own
  process sees it.
* `untouched_forceRecover_iff`: When a recovery leaves nothing behind.
* `restored_iff`: The same for the shutdown of a manager.
* `accounted_step`, `not_restored_step`: One event.
* `throughout_restored_iff`: The runs on which shutdown always restores.
-/

namespace ThreadHaul

namespace Actuator

open Runs

/-- No thread of the process carries a suspension of the service, and its
    priority class is not the idle class the service gave it. -/
structure World.Untouched (w : World) (p : DWORD) : Prop where
  running : ∀ t ∈ w.threads, t.ownerProcessId = p → w.suspends t.id = 0
  notIdle : w.priorityGiven p ≠ some .idle

theorem World.Untouched.of_sameFor {w w' : World} {p : DWORD} (h : w.Untouched p)
    (hs : w.SameFor p w') : w'.Untouched p where
  running := by
    intro t ht hp
    rw [hs.threads] at ht
    rw [hs.suspends t ht hp]
    exact h.running t ht hp
  notIdle := by
    rw [hs.priorityGiven]
    exact h.notIdle

/-- A thread starts. Its id is not in use, and nothing has been done to it. -/
def World.startThread (w : World) (t : Thread) : World :=
  if h : t.id ∈ w.threads.map Thread.id then w
  else
    { w with
      threads := t :: w.threads
      distinct := List.nodup_cons.mpr ⟨h, w.distinct⟩
      suspends := Function.update w.suspends t.id 0 }

/-- A thread ends. -/
def World.endThread (w : World) (tid : DWORD) : World :=
  { w with
    threads := w.threads.filter fun t => t.id != tid
    distinct := (List.filter_sublist.map Thread.id).nodup w.distinct }

/-- A process ends. -/
def World.endProcess (w : World) (p : DWORD) : World :=
  { w with exited := Function.update w.exited p true }

/-- Something else gives the process a priority class. -/
def World.changePriority (w : World) (p : DWORD) : World :=
  { w with priorityGiven := Function.update w.priorityGiven p none }

variable {α : Type*}

/-- A call on the machine with the way its system calls come out, or something
    that happens outside the service. -/
inductive Event (α : Type*)
  | call (os : OsCalls) (c : Call α)
  | threadStarts (t : Thread)
  | threadExits (tid : DWORD)
  | processExits (p : DWORD)
  | priorityChanges (p : DWORD)

/-- The recorded state accounts for what the service did to the process: only a
    suspended process has suspended threads, each of them suspended once, and
    only a process that is not normal has its priority lowered. -/
structure Accounted (m : ProcessStateMachine α) (w : World) : Prop where
  running : m.state ≠ .suspended →
    ∀ t ∈ w.threads, t.ownerProcessId = m.batchProcessId → w.suspends t.id = 0
  once : ∀ t ∈ w.threads, t.ownerProcessId = m.batchProcessId → w.suspends t.id ≤ 1
  notIdle : m.state = .normal → w.priorityGiven m.batchProcessId ≠ some .idle

theorem Accounted.of_sameFor {m : ProcessStateMachine α} {w w' : World} (h : Accounted m w)
    (hs : w.SameFor m.batchProcessId w') : Accounted m w' where
  running := by
    -- The threads of the process and their suspensions are those of before.
    intro hst t ht hp
    rw [hs.threads] at ht
    rw [hs.suspends t ht hp]
    exact h.running hst t ht hp
  once := by
    intro t ht hp
    rw [hs.threads] at ht
    rw [hs.suspends t ht hp]
    exact h.once t ht hp
  notIdle := by
    intro hst
    rw [hs.priorityGiven]
    exact h.notIdle hst

/-- What was done to a process depends on the machine through its state only. -/
theorem Accounted.of_state {m m' : ProcessStateMachine α} {w : World} (h : Accounted m w)
    (hs : m'.state = m.state) (hp : m'.batchProcessId = m.batchProcessId) : Accounted m' w where
  running := by
    rw [hs, hp]
    exact h.running
  once := by
    rw [hp]
    exact h.once
  notIdle := by
    rw [hs, hp]
    exact h.notIdle

/-- The thread is listed and opened, and the call on it succeeds. -/
def OsCalls.reaches (os : OsCalls) (call : DWORD → Bool) (tid : DWORD) : Bool :=
  os.listed tid && os.acts call tid

/-- A change of the priority class succeeds. -/
def OsCalls.setsPriority (os : OsCalls) : Bool :=
  os.openProcessError == none && os.setPriorityClassError == none

theorem OsCalls.AllSucceed.reaches {os : OsCalls} (h : os.AllSucceed) (tid : DWORD) :
    os.reaches os.resumeThread tid = true := by
  simp only [OsCalls.reaches, OsCalls.acts, h.listed, h.openThread, h.resumeThread, BEq.rfl,
    Bool.and_self]

theorem OsCalls.AllSucceed.setsPriority {os : OsCalls} (h : os.AllSucceed) :
    os.setsPriority = true := by
  simp only [OsCalls.setsPriority, h.openProcess, h.setPriorityClass, BEq.rfl, Bool.and_self]

/-- A change of the priority class, as its own process sees it. -/
theorem setProcessPriority_priorityGiven (os : OsCalls) (w : World) (p : DWORD)
    (level : PriorityLevel) :
    (setProcessPriority os w p level).1.priorityGiven p
      = if os.setsPriority then some level else w.priorityGiven p := by
  have hiff := setProcessPriority_success_iff os w p level
  rw [setProcessPriority_world]
  -- The class is given exactly if both calls go through.
  by_cases hs : (setProcessPriority os w p level).2 = .success
  · have hset : os.setsPriority = true := by
      simp only [OsCalls.setsPriority, (hiff.mp hs).1, (hiff.mp hs).2, BEq.rfl, Bool.and_self]
    rw [if_pos hs, if_pos hset]
    exact Function.update_self ..
  · have hset : ¬ os.setsPriority = true := by
      intro hset
      rw [OsCalls.setsPriority, Bool.and_eq_true, beq_iff_eq, beq_iff_eq] at hset
      exact hs (hiff.mpr hset)
    rw [if_neg hs, if_neg hset]

theorem setProcessPriority_suspends (os : OsCalls) (w : World) (p : DWORD)
    (level : PriorityLevel) : (setProcessPriority os w p level).1.suspends = w.suspends := by
  rw [setProcessPriority_world]
  by_cases hs : (setProcessPriority os w p level).2 = .success
  · rw [if_pos hs]
  · rw [if_neg hs]

theorem setProcessPriority_threads (os : OsCalls) (w : World) (p : DWORD)
    (level : PriorityLevel) : (setProcessPriority os w p level).1.threads = w.threads := by
  rw [setProcessPriority_world]
  by_cases hs : (setProcessPriority os w p level).2 = .success
  · rw [if_pos hs]
  · rw [if_neg hs]

theorem setProcessPriority_exited (os : OsCalls) (w : World) (p : DWORD)
    (level : PriorityLevel) : (setProcessPriority os w p level).1.exited = w.exited := by
  rw [setProcessPriority_world]
  by_cases hs : (setProcessPriority os w p level).2 = .success
  · rw [if_pos hs]
  · rw [if_neg hs]

namespace ProcessStateMachine

/-- Resuming, as a thread of the process sees it. -/
theorem resumeIfSuspended_suspends (os : OsCalls) (m : ProcessStateMachine α) (w : World)
    (t : Thread) (ht : t ∈ w.threads) (hp : t.ownerProcessId = m.batchProcessId) :
    (m.resumeIfSuspended os w).1.suspends t.id
      = if m.state = .suspended ∧ os.reaches os.resumeThread t.id
        then w.suspends t.id - 1 else w.suspends t.id := by
  unfold resumeIfSuspended
  by_cases hs : m.state = .suspended
  · rw [if_pos hs]
    simp only [resumeAllThreads_world, mem_enumerateThreadIds_of_owner os w _ t ht hp, hs, true_and,
      OsCalls.reaches, Bool.and_eq_true]
  · rw [if_neg hs]
    simp only [hs, false_and, if_false]

theorem resumeIfSuspended_priorityGiven (os : OsCalls) (m : ProcessStateMachine α) (w : World) :
    (m.resumeIfSuspended os w).1.priorityGiven = w.priorityGiven := by
  unfold resumeIfSuspended
  by_cases hs : m.state = .suspended
  · rw [if_pos hs]
    simp only [resumeAllThreads_world]
  · rw [if_neg hs]

theorem resumeIfSuspended_threads (os : OsCalls) (m : ProcessStateMachine α) (w : World) :
    (m.resumeIfSuspended os w).1.threads = w.threads ∧
      (m.resumeIfSuspended os w).1.exited = w.exited := by
  unfold resumeIfSuspended
  by_cases hs : m.state = .suspended
  · rw [if_pos hs]
    simp only [resumeAllThreads_world, and_self]
  · rw [if_neg hs]
    exact ⟨rfl, rfl⟩

/-- A transition starts and ends no threads and no processes. -/
theorem actuate_threads (os : OsCalls) (m : ProcessStateMachine α) (newState : ProcessState)
    (w : World) :
    (m.actuate os newState w).1.threads = w.threads ∧
      (m.actuate os newState w).1.exited = w.exited := by
  have hresume := m.resumeIfSuspended_threads os w
  unfold actuate
  by_cases hex : m.hasExited w
  · rw [if_pos hex]
    exact ⟨rfl, rfl⟩
  · rw [if_neg hex]
    -- No call of a transition starts or ends a thread.
    cases newState with
    | normal =>
        simp only [setProcessPriority_threads, setProcessPriority_exited]
        exact hresume
    | throttled =>
        by_cases hres : (m.resumeIfSuspended os w).2
        · simp only [hres, if_true, setProcessPriority_threads, setProcessPriority_exited]
          exact hresume
        · simp only [hres, Bool.false_eq_true, if_false]
          exact hresume
    | suspended => simp only [suspendAllThreads_world, and_self]

/-- A transition, as a thread of the running process sees it. -/
theorem actuate_suspends (os : OsCalls) (m : ProcessStateMachine α) (newState : ProcessState)
    (w : World) (hex : m.hasExited w = false) (t : Thread) (ht : t ∈ w.threads)
    (hp : t.ownerProcessId = m.batchProcessId) :
    (m.actuate os newState w).1.suspends t.id
      = if newState = .suspended then
          if os.reaches os.suspendThread t.id then w.suspends t.id + 1 else w.suspends t.id
        else if m.state = .suspended ∧ os.reaches os.resumeThread t.id
          then w.suspends t.id - 1 else w.suspends t.id := by
  have hresume := m.resumeIfSuspended_suspends os w t ht hp
  have hrun : ¬ m.hasExited w = true := by
    rw [hex]
    exact Bool.false_ne_true
  unfold actuate
  rw [if_neg hrun]
  cases newState with
  | normal =>
      -- Setting the priority class leaves the suspensions to the resuming before it.
      rw [if_neg (by decide)]
      simp only [setProcessPriority_suspends]
      exact hresume
  | throttled =>
      rw [if_neg (by decide)]
      by_cases hres : (m.resumeIfSuspended os w).2
      · simp only [hres, if_true, setProcessPriority_suspends]
        exact hresume
      · simp only [hres, Bool.false_eq_true, if_false]
        exact hresume
  | suspended =>
      rw [if_pos rfl]
      simp only [suspendAllThreads_world, mem_enumerateThreadIds_of_owner os w _ t ht hp,
        OsCalls.reaches, Bool.and_eq_true]

/-- A recovery, as the priority class of the running process sees it. -/
theorem actuate_normal_priorityGiven (os : OsCalls) (m : ProcessStateMachine α) (w : World)
    (hex : m.hasExited w = false) :
    (m.actuate os .normal w).1.priorityGiven m.batchProcessId
      = if os.setsPriority then some .normal else w.priorityGiven m.batchProcessId := by
  have hrun : ¬ m.hasExited w = true := by
    rw [hex]
    exact Bool.false_ne_true
  unfold actuate
  rw [if_neg hrun]
  simp only [setProcessPriority_priorityGiven, resumeIfSuspended_priorityGiven]

theorem hasExited_eq_false (m : ProcessStateMachine α) (w : World)
    (halive : w.exited m.batchProcessId = false) : m.hasExited w = false := by
  rw [hasExited, halive, Bool.and_false]

end ProcessStateMachine

open ProcessStateMachine

/-- The undoing a transition stands for is carried out: a process that leaves
    the suspended state has every suspended thread resumed, and one that
    becomes normal does not keep the idle class. -/
structure Undoes (os : OsCalls) (m : ProcessStateMachine α) (newState : ProcessState)
    (w : World) : Prop where
  resumes : m.state = .suspended → ∀ t ∈ w.threads, t.ownerProcessId = m.batchProcessId →
    w.suspends t.id ≠ 0 → os.reaches os.resumeThread t.id = true
  restores : newState = .normal → w.priorityGiven m.batchProcessId = some .idle →
    os.setsPriority = true

/-- Where no call fails, everything is undone. -/
theorem OsCalls.AllSucceed.undoes {os : OsCalls} (h : os.AllSucceed) (m : ProcessStateMachine α)
    (newState : ProcessState) (w : World) : Undoes os m newState w :=
  ⟨fun _ t _ _ _ => h.reaches t.id, fun _ _ => h.setsPriority⟩

/-- A transition that undoes what it stands for is accounted for. -/
theorem accounted_entered (os : OsCalls) (m : ProcessStateMachine α) (newState : ProcessState)
    (w : World) (halive : w.exited m.batchProcessId = false) (hne : newState ≠ m.state)
    (hu : Undoes os m newState w) (h : Accounted m w) :
    Accounted (m.entered newState) (m.actuate os newState w).1 := by
  have hex := m.hasExited_eq_false w halive
  refine ⟨?_, ?_, ?_⟩
  · intro hst t ht hp
    rw [(m.actuate_threads os newState w).1] at ht
    have hst' : newState ≠ .suspended := hst
    rw [m.actuate_suspends os newState w hex t ht hp, if_neg hst']
    by_cases hs : m.state = .suspended
    · -- A thread is suspended at most once, and if it is it is resumed.
      have honce := h.once t ht hp
      by_cases hz : w.suspends t.id = 0
      · rw [hz]
        simp only [Nat.zero_sub, ite_self]
      · rw [if_pos ⟨hs, hu.resumes hs t ht hp hz⟩]
        omega
    · rw [if_neg (fun hc => hs hc.1)]
      exact h.running hs t ht hp
  · intro t ht hp
    rw [(m.actuate_threads os newState w).1] at ht
    have honce := h.once t ht hp
    rw [m.actuate_suspends os newState w hex t ht hp]
    by_cases hsus : newState = .suspended
    · -- Before a suspension nothing is suspended.
      have hzero := h.running (fun hs => hne (hsus.trans hs.symm)) t ht hp
      rw [if_pos hsus, hzero]
      split <;> omega
    · rw [if_neg hsus]
      split <;> omega
  · intro hst
    have hst' : newState = .normal := hst
    subst hst'
    change (m.actuate os .normal w).1.priorityGiven m.batchProcessId ≠ some .idle
    rw [m.actuate_normal_priorityGiven os w hex]
    by_cases hset : os.setsPriority
    · rw [if_pos hset]
      decide
    · rw [if_neg hset]
      exact fun hidle => hset (hu.restores rfl hidle)

/-- What a transition fails to undo stays behind. -/
theorem undoes_of_accounted (os : OsCalls) (m : ProcessStateMachine α) (newState : ProcessState)
    (w : World) (halive : w.exited m.batchProcessId = false) (hne : newState ≠ m.state)
    (h : Accounted (m.entered newState) (m.actuate os newState w).1) :
    Undoes os m newState w := by
  have hex := m.hasExited_eq_false w halive
  refine ⟨?_, ?_⟩
  · intro hs t ht hp hz
    have hst : newState ≠ .suspended := fun hc => hne (hc.trans hs.symm)
    have hzero := h.running hst t (by rw [(m.actuate_threads os newState w).1]; exact ht) hp
    rw [m.actuate_suspends os newState w hex t ht hp, if_neg hst] at hzero
    -- A thread that is not reached keeps its suspension, which the accounts exclude.
    by_contra hreach
    rw [if_neg (fun hc => hreach hc.2)] at hzero
    exact hz hzero
  · intro hst hidle
    subst hst
    have hnot := h.notIdle rfl
    change (m.actuate os .normal w).1.priorityGiven m.batchProcessId ≠ some .idle at hnot
    rw [m.actuate_normal_priorityGiven os w hex] at hnot
    by_contra hset
    rw [if_neg hset] at hnot
    exact hnot hidle

/-- A recovery whose calls all succeed leaves nothing behind exactly if the
    recorded state accounts for what was done. -/
theorem untouched_forceRecover_iff [Zero α] (os : OsCalls) (m : ProcessStateMachine α)
    (w : World) (halive : w.exited m.batchProcessId = false) (hos : os.AllSucceed) :
    (m.forceRecoverForShutdown os w).world.Untouched m.batchProcessId ↔ Accounted m w := by
  unfold forceRecoverForShutdown
  by_cases hn : m.state = .normal
  · -- A normal machine does nothing, whatever was left behind.
    simp only [hn, if_true]
    constructor
    · intro h
      exact ⟨fun _ => h.running, fun t ht hp => by rw [h.running t ht hp]; omega,
        fun _ => h.notIdle⟩
    · intro h
      exact ⟨h.running (by rw [hn]; decide), h.notIdle hn⟩
  · simp only [hn, if_false]
    let released : ProcessStateMachine α := { m with manualHold := false }
    have hex : released.hasExited w = false := released.hasExited_eq_false w halive
    -- All calls succeed, so every thread loses one suspension and the class is normal.
    have hsuspends : ∀ t ∈ w.threads, t.ownerProcessId = m.batchProcessId →
        (released.actuate os .normal w).1.suspends t.id
          = if m.state = .suspended then w.suspends t.id - 1 else w.suspends t.id := by
      intro t ht hp
      rw [released.actuate_suspends os .normal w hex t ht hp, if_neg (by decide)]
      simp only [hos.reaches, and_true]
      rfl
    have hpriority : (released.actuate os .normal w).1.priorityGiven m.batchProcessId
        = some .normal := by
      rw [show m.batchProcessId = released.batchProcessId from rfl,
        released.actuate_normal_priorityGiven os w hex, if_pos hos.setsPriority]
    have hthreads := (released.actuate_threads os .normal w).1
    change (released.actuate os .normal w).1.Untouched m.batchProcessId ↔ Accounted m w
    constructor
    · intro h
      -- Nothing is suspended afterwards, so at most one suspension was there before.
      have hzero : ∀ t ∈ w.threads, t.ownerProcessId = m.batchProcessId →
          (if m.state = .suspended then w.suspends t.id - 1 else w.suspends t.id) = 0 := by
        intro t ht hp
        rw [← hsuspends t ht hp]
        exact h.running t (by rw [hthreads]; exact ht) hp
      refine ⟨?_, ?_, fun hc => absurd hc hn⟩
      · intro hs t ht hp
        have hz := hzero t ht hp
        rw [if_neg hs] at hz
        exact hz
      · intro t ht hp
        have hz := hzero t ht hp
        split at hz <;> omega
    · intro h
      refine ⟨?_, by rw [hpriority]; decide⟩
      intro t ht hp
      rw [hthreads] at ht
      rw [hsuspends t ht hp]
      by_cases hs : m.state = .suspended
      · have honce := h.once t ht hp
        rw [if_pos hs]
        omega
      · rw [if_neg hs]
        exact h.running hs t ht hp

variable [LE α] [DecidableLE α] [LT α] [DecidableLT α] [Zero α]

/-- One event. -/
def step (s : ProcessStateMachine α × World) : Event α → ProcessStateMachine α × World
  | .call os c => let out := s.1.exec os c s.2; (out.machine, out.world)
  | .threadStarts t => (s.1, s.2.startThread t)
  | .threadExits tid => (s.1, s.2.endThread tid)
  | .processExits p => (s.1, s.2.endProcess p)
  | .priorityChanges p => (s.1, s.2.changePriority p)

/-- Whatever else is managed, the shutdown leaves the process untouched if all
    of its system calls succeed and the process is still there. -/
def Restored (s : ProcessStateMachine α × World) : Prop :=
  s.2.exited s.1.batchProcessId = false →
    ∀ (manager : ActuatorManager α) (os : DWORD → OsCalls), s.1 ∈ manager.machines →
      (∀ p, (os p).AllSucceed) →
      (manager.forceRecoverAllForShutdown os s.2).world.Untouched s.1.batchProcessId

/-- Calls on the running process undo what they stand for. -/
def Completes (s : ProcessStateMachine α × World) : Event α → Prop
  | .call os c => s.2.exited s.1.batchProcessId = false →
      ∀ newState, s.1.goal c = some newState → Undoes os s.1 newState s.2
  | .threadStarts _ | .threadExits _ | .processExits _ | .priorityChanges _ => True

/-- Shutdown restores a process exactly if the recorded state accounts for what
    was done to it. -/
theorem restored_iff (m : ProcessStateMachine α) (w : World) :
    Restored (m, w) ↔ (w.exited m.batchProcessId = false → Accounted m w) := by
  constructor
  · intro h halive
    -- The manager of this machine alone, with nothing failing.
    let manager : ActuatorManager α :=
      { config := m.config, machines := [m], distinct := List.nodup_singleton _ }
    have hu := h halive manager (fun _ => .succeeding) (List.mem_singleton.mpr rfl)
      (fun _ => OsCalls.allSucceed_succeeding)
    exact (untouched_forceRecover_iff .succeeding m w halive
      OsCalls.allSucceed_succeeding).mp hu
  · intro h halive manager os hm hos
    have hvisit : ∀ (p : DWORD) (m' : ProcessStateMachine α) (w' : World),
        p ≠ m'.batchProcessId → w'.SameFor p
          (ActuatorManager.visitCall os .forceRecoverForShutdown m' w').world :=
      fun p m' w' hp => m'.exec_sameFor (os m'.batchProcessId) .forceRecoverForShutdown w' p hp
    rcases sweep_visit _ hvisit manager.machines manager.distinct m hm w with ⟨w', hw', hrest⟩
    have halive' : w'.exited m.batchProcessId = false := by
      rw [hw'.exited]
      exact halive
    have hu : (m.forceRecoverForShutdown (os m.batchProcessId) w').world.Untouched
        m.batchProcessId :=
      (untouched_forceRecover_iff _ m w' halive' (hos _)).mpr ((h halive).of_sameFor hw')
    exact hu.of_sameFor hrest

/-- An event on the running process, seen from the machine that is left. -/
theorem accounted_call (os : OsCalls) (c : Call α) (m : ProcessStateMachine α) (w : World)
    (hu : ∀ newState, m.goal c = some newState → Undoes os m newState w)
    (halive : w.exited m.batchProcessId = false) (h : Accounted m w) :
    Accounted (m.next c) (m.exec os c w).world := by
  have hnoted : Accounted (m.noted c) w := h.of_state (noted_state m c) (noted_batchProcessId m c)
  rw [exec_world, next]
  rcases hg : m.goal c with _ | newState
  · exact hnoted
  · -- What the call notes before the transition does not matter to its system calls.
    have hu' : Undoes os (m.noted c) newState w := by
      refine ⟨?_, ?_⟩
      · rw [noted_state, noted_batchProcessId]
        exact (hu newState hg).resumes
      · rw [noted_batchProcessId]
        exact (hu newState hg).restores
    refine accounted_entered os (m.noted c) newState w ?_ ?_ hu' hnoted
    · rw [noted_batchProcessId]
      exact halive
    · rw [noted_state]
      exact goal_ne_state m c newState hg

theorem exec_exited (os : OsCalls) (c : Call α) (m : ProcessStateMachine α) (w : World) :
    (m.exec os c w).world.exited = w.exited := by
  rw [exec_world]
  cases m.goal c with
  | none => rfl
  | some newState => exact ((m.noted c).actuate_threads os newState w).2

/-- Events that complete keep the account straight. -/
theorem accounted_step (s : ProcessStateMachine α × World) (i : Event α) (hc : Completes s i)
    (h : s.2.exited s.1.batchProcessId = false → Accounted s.1 s.2) :
    (step s i).2.exited (step s i).1.batchProcessId = false →
      Accounted (step s i).1 (step s i).2 := by
  rcases s with ⟨m, w⟩
  cases i with
  | call os c =>
      intro halive
      simp only [step, exec_machine, exec_exited, next_batchProcessId] at halive ⊢
      exact accounted_call os c m w (hc halive) halive (h halive)
  | threadStarts t =>
      unfold step World.startThread
      by_cases hin : t.id ∈ w.threads.map Thread.id
      · simp only [hin, dif_pos]
        exact h
      · simp only [hin, dif_neg, not_false_eq_true]
        intro halive
        have hacc := h halive
        -- The new thread has nothing to account for; no other thread has its id.
        have hother : ∀ t' ∈ w.threads, t'.id ≠ t.id :=
          fun t' ht' heq => hin (by rw [← heq]; exact List.mem_map_of_mem ht')
        refine ⟨?_, ?_, hacc.notIdle⟩
        · intro hst t' ht' hp
          rcases List.mem_cons.mp ht' with rfl | ht'
          · exact Function.update_self ..
          · simp only [Function.update_of_ne (hother t' ht')]
            exact hacc.running hst t' ht' hp
        · intro t' ht' hp
          rcases List.mem_cons.mp ht' with rfl | ht'
          · simp only [Function.update_self]
            omega
          · simp only [Function.update_of_ne (hother t' ht')]
            exact hacc.once t' ht' hp
  | threadExits tid =>
      intro halive
      have hacc := h halive
      exact ⟨fun hst t ht => hacc.running hst t (List.mem_of_mem_filter ht),
        fun t ht => hacc.once t (List.mem_of_mem_filter ht), hacc.notIdle⟩
  | processExits p =>
      intro halive
      have hacc : Accounted m w := by
        refine h ?_
        by_cases hp : m.batchProcessId = p
        · subst hp
          simp only [step, World.endProcess, Function.update_self, Bool.true_eq_false] at halive
        · simp only [step, World.endProcess, Function.update_of_ne hp] at halive
          exact halive
      exact ⟨hacc.running, hacc.once, hacc.notIdle⟩
  | priorityChanges p =>
      intro halive
      have hacc := h halive
      refine ⟨hacc.running, hacc.once, ?_⟩
      intro hst
      change Function.update w.priorityGiven p none m.batchProcessId ≠ some .idle
      by_cases hp : m.batchProcessId = p
      · subst hp
        rw [Function.update_self]
        exact Option.some_ne_none _ ∘ Eq.symm
      · rw [Function.update_of_ne hp]
        exact hacc.notIdle hst

/-- An event that does not complete ends in a state shutdown does not restore. -/
theorem not_restored_step (s : ProcessStateMachine α × World) (i : Event α)
    (hc : ¬ Completes s i) : ¬ Restored (step s i) := by
  rcases s with ⟨m, w⟩
  intro hr
  cases i with
  | call os c =>
      refine hc ?_
      intro halive newState hg
      have hacc := (restored_iff _ _).mp hr
      simp only [exec_machine, exec_exited, next_batchProcessId] at hacc
      have hacc' := hacc halive
      rw [exec_world, next, hg] at hacc'
      -- Only a transition that completes leaves an account.
      have hu := undoes_of_accounted os (m.noted c) newState w
        (by rw [noted_batchProcessId]; exact halive)
        (by rw [noted_state]; exact goal_ne_state m c newState hg) hacc'
      refine ⟨?_, ?_⟩
      · have hresumes := hu.resumes
        rw [noted_state, noted_batchProcessId] at hresumes
        exact hresumes
      · have hrestores := hu.restores
        rw [noted_batchProcessId] at hrestores
        exact hrestores
  | threadStarts t => exact hc trivial
  | threadExits tid => exact hc trivial
  | processExits p => exact hc trivial
  | priorityChanges p => exact hc trivial

/-- Shutdown restores a process after every event of a run exactly if every
    call of the run completes. -/
theorem throughout_restored_iff (n : WString) (p : DWORD) (c : StateMachineConfig α)
    (opened : Bool) (w : World) (hw : w.Untouched p) (l : List (Event α)) :
    Throughout step Restored (create n p c opened, w) l ↔
      Along step Completes (create n p c opened, w) l := by
  refine throughout_iff_along step Completes
    (fun s => s.2.exited s.1.batchProcessId = false → Accounted s.1 s.2) Restored
    (fun s hs => (restored_iff s.1 s.2).mpr hs) accounted_step
    (fun s i _ => not_restored_step s i) l _ ?_
  intro _
  exact ⟨fun _ => hw.running, fun t ht hp => by rw [hw.running t ht hp]; omega, fun _ => hw.notIdle⟩

/-- A process with one thread, to which nothing has been done. -/
def oneThread (p tid : DWORD) : World :=
  { (default : World) with
    threads := [⟨tid, p⟩]
    distinct := List.nodup_singleton _ }

theorem oneThread_untouched (p tid : DWORD) : (oneThread p tid).Untouched p :=
  ⟨fun _ _ _ => rfl, Option.some_ne_none _ ∘ Eq.symm⟩

/-- A suspension that is taken back while nothing fails. -/
theorem throughout_restored_iff_suspend_resume :
    Throughout step Restored
      (create [98] 4821 (default : StateMachineConfig ℕ) true, oneThread 4821 7)
      [.call .succeeding (.forceState .suspended 0 true),
        .call .succeeding (.forceState .normal 0 true)] := by
  refine (throughout_restored_iff [98] 4821 default true (oneThread 4821 7)
    (oneThread_untouched 4821 7) _).mpr ⟨?_, ?_, trivial⟩
  · exact fun _ newState _ => OsCalls.allSucceed_succeeding.undoes _ newState _
  · exact fun _ newState _ => OsCalls.allSucceed_succeeding.undoes _ newState _

/-- A process is suspended, and resumed while `ResumeThread` fails. The machine
    is normal, and shutdown leaves the thread suspended. -/
theorem not_restored_resume_fails :
    ¬ Restored (run step
      (create [98] 4821 (default : StateMachineConfig ℕ) true, oneThread 4821 7)
      [.call .succeeding (.forceState .suspended 0 true),
        .call { OsCalls.succeeding with resumeThread := fun _ => false }
          (.forceState .normal 0 true)]) := by
  intro h
  have hacc := (restored_iff _ _).mp h (by decide)
  have hzero := hacc.running (by decide) ⟨7, 4821⟩ (by decide) (by decide)
  exact absurd hzero (by decide)

end Actuator

end ThreadHaul
