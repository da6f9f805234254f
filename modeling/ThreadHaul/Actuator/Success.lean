import ThreadHaul.Actuator.Suspension

/-!
# When an Actuation Succeeds

What `TransitionTo` reports of its system calls, in terms of the calls.

The two loops over the threads count. A thread that is gone when it is opened
is not counted; every other one is an attempt, and a failure if it cannot be
opened or the call on it does not go through. `AllSucceeded` asks for an attempt
and for no failure, so a process none of whose threads is listed is a failure.
None of this depends on how often the threads are suspended: it depends on the
threads there are and on the calls.

## Main definitions

* `OsCalls.gone`: The thread has exited since the snapshot.
* `AnyThread`, `NoThreadFails`: What the two loops count.
* `CallsSucceed`: The system calls of a transition go through.

## Theorems

* `threadOp_threadsFailed_iff`, `threadOp_threadsAttempted_iff`: One turn of the
  loop.
* `foldl_allSucceeded_iff`: The whole loop.
* `actuate_succeeds_iff`: A transition.
* `forceState_succeeds_iff`: A call of `ForceState`.
-/

namespace ThreadHaul

namespace Actuator

/-- The thread has exited when it is opened. -/
def OsCalls.gone (os : OsCalls) (tid : DWORD) : Bool :=
  os.openThreadError tid == some .invalidParameter

section Threads

variable (os : OsCalls) (call : DWORD → Bool) (effect : Nat → Nat)

/-- There is a thread to be called. -/
def AnyThread (w : World) (p : DWORD) : Prop :=
  ∃ t ∈ w.threads, t.ownerProcessId = p ∧ os.listed t.id = true ∧ os.gone t.id = false

/-- The call goes through on every thread that is listed and still there. -/
def NoThreadFails (w : World) (p : DWORD) : Prop :=
  ∀ t ∈ w.threads, t.ownerProcessId = p → os.listed t.id = true →
    os.gone t.id = true ∨ os.acts call t.id = true

theorem threadOp_threadsFailed_iff (acc : World × ThreadOpResult) (tid : DWORD) :
    (threadOp os call effect acc tid).2.threadsFailed = 0 ↔
      acc.2.threadsFailed = 0 ∧ (os.gone tid = true ∨ os.acts call tid = true) := by
  unfold threadOp OsCalls.gone OsCalls.acts
  rcases os.openThreadError tid with _ | e
  · by_cases hcall : call tid = true
    · simp only [hcall, if_true, ThreadOpResult.succeeded, BEq.rfl, Bool.and_self, or_true,
        and_true]
    · simp [hcall, ThreadOpResult.failed]
  · cases e with
    | invalidParameter => simp only [BEq.rfl, true_or, and_true]
    | accessDenied => simp [ThreadOpResult.failed]
    | other => simp [ThreadOpResult.failed]

theorem threadOp_threadsAttempted_iff (acc : World × ThreadOpResult) (tid : DWORD) :
    0 < (threadOp os call effect acc tid).2.threadsAttempted ↔
      0 < acc.2.threadsAttempted ∨ os.gone tid = false := by
  unfold threadOp OsCalls.gone
  rcases os.openThreadError tid with _ | e
  · by_cases hcall : call tid = true
    · simp [hcall, ThreadOpResult.succeeded]
    · simp [hcall, ThreadOpResult.failed]
  · cases e with
    | invalidParameter => simp
    | accessDenied => simp [ThreadOpResult.failed]
    | other => simp [ThreadOpResult.failed]

-- The loop, by induction on the threads, with what was counted before them.
theorem foldl_threadsFailed_iff (tids : List DWORD) (acc : World × ThreadOpResult) :
    (tids.foldl (threadOp os call effect) acc).2.threadsFailed = 0 ↔
      acc.2.threadsFailed = 0 ∧ ∀ tid ∈ tids, os.gone tid = true ∨ os.acts call tid = true := by
  induction tids generalizing acc with
  | nil => simp only [List.foldl_nil, List.not_mem_nil, false_implies, implies_true, and_true]
  | cons tid tids ih =>
      rw [List.foldl_cons, ih, threadOp_threadsFailed_iff, List.forall_mem_cons, and_assoc]

theorem foldl_threadsAttempted_iff (tids : List DWORD) (acc : World × ThreadOpResult) :
    0 < (tids.foldl (threadOp os call effect) acc).2.threadsAttempted ↔
      0 < acc.2.threadsAttempted ∨ ∃ tid ∈ tids, os.gone tid = false := by
  induction tids generalizing acc with
  | nil => simp only [List.foldl_nil, List.not_mem_nil, false_and, exists_false, or_false]
  | cons tid tids ih =>
      rw [List.foldl_cons, ih, threadOp_threadsAttempted_iff, List.exists_mem_cons_iff, or_assoc]

/-- No failure is counted exactly if the call goes through wherever it is made. -/
theorem walk_threadsFailed_iff (w : World) (p : DWORD) :
    ((enumerateThreadIds os w p).foldl (threadOp os call effect) (w, {})).2.threadsFailed = 0 ↔
      NoThreadFails os call w p := by
  rw [foldl_threadsFailed_iff, and_iff_right rfl]
  simp only [mem_enumerateThreadIds, World.lists, NoThreadFails]
  constructor
  · intro h t ht hp hlisted
    exact h t.id ⟨t, ht, rfl, hp, hlisted⟩
  · rintro h tid ⟨t, ht, rfl, hp, hlisted⟩
    exact h t ht hp hlisted

theorem walk_threadsAttempted_iff (w : World) (p : DWORD) :
    0 < ((enumerateThreadIds os w p).foldl (threadOp os call effect) (w, {})).2.threadsAttempted ↔
      AnyThread os w p := by
  rw [foldl_threadsAttempted_iff, or_iff_right (Nat.lt_irrefl 0)]
  simp only [mem_enumerateThreadIds, World.lists, AnyThread]
  constructor
  · rintro ⟨tid, ⟨t, ht, rfl, hp, hlisted⟩, hgone⟩
    exact ⟨t, ht, hp, hlisted, hgone⟩
  · rintro ⟨t, ht, hp, hlisted, hgone⟩
    exact ⟨t.id, ⟨t, ht, rfl, hp, hlisted⟩, hgone⟩

/-- `AllSucceeded` of a loop over the threads of a process. -/
theorem walk_allSucceeded_iff (w : World) (p : DWORD) :
    ((enumerateThreadIds os w p).foldl (threadOp os call effect) (w, {})).2.allSucceeded = true ↔
      AnyThread os w p ∧ NoThreadFails os call w p := by
  rw [← walk_threadsAttempted_iff os call effect, ← walk_threadsFailed_iff os call effect]
  simp only [ThreadOpResult.allSucceeded, Bool.and_eq_true, decide_eq_true_eq, beq_iff_eq,
    gt_iff_lt]

end Threads

theorem suspendAllThreads_allSucceeded_iff (os : OsCalls) (w : World) (p : DWORD) :
    (suspendAllThreads os w p).2.allSucceeded = true ↔
      AnyThread os w p ∧ NoThreadFails os os.suspendThread w p :=
  walk_allSucceeded_iff os os.suspendThread (· + 1) w p

theorem resumeAllThreads_allSucceeded_iff (os : OsCalls) (w : World) (p : DWORD) :
    (resumeAllThreads os w p).2.allSucceeded = true ↔
      AnyThread os w p ∧ NoThreadFails os os.resumeThread w p :=
  walk_allSucceeded_iff os os.resumeThread (· - 1) w p

theorem resumeAllThreads_threadsFailed_iff (os : OsCalls) (w : World) (p : DWORD) :
    (resumeAllThreads os w p).2.threadsFailed = 0 ↔ NoThreadFails os os.resumeThread w p :=
  walk_threadsFailed_iff os os.resumeThread (· - 1) w p

theorem setProcessPriority_succeeds_iff (os : OsCalls) (w : World) (p : DWORD)
    (level : PriorityLevel) :
    ((setProcessPriority os w p level).2 == .success) = true ↔ os.setsPriority = true := by
  rw [beq_iff_eq, setProcessPriority_success_iff, OsCalls.setsPriority, Bool.and_eq_true,
    beq_iff_eq, beq_iff_eq]

variable {α : Type*}

namespace ProcessStateMachine

/-- The threads are resumed, if the machine is in the suspended state. -/
def Resumes (os : OsCalls) (m : ProcessStateMachine α) (w : World) : Prop :=
  m.state = .suspended →
    AnyThread os w m.batchProcessId ∧ NoThreadFails os os.resumeThread w m.batchProcessId

/-- The system calls of a transition of a running process go through. -/
def CallsSucceed (os : OsCalls) (m : ProcessStateMachine α) (newState : ProcessState)
    (w : World) : Prop :=
  match newState with
  | .throttled | .normal => m.Resumes os w ∧ os.setsPriority = true
  | .suspended =>
      AnyThread os w m.batchProcessId ∧ NoThreadFails os os.suspendThread w m.batchProcessId

theorem resumeIfSuspended_iff (os : OsCalls) (m : ProcessStateMachine α) (w : World) :
    (m.resumeIfSuspended os w).2 = true ↔ m.Resumes os w := by
  unfold resumeIfSuspended Resumes
  by_cases hs : m.state = .suspended
  · rw [if_pos hs, forall_prop_of_true hs]
    exact resumeAllThreads_allSucceeded_iff os w m.batchProcessId
  · rw [if_neg hs]
    exact iff_of_true rfl fun h => absurd h hs

/-- `actuationSucceeded`: the process runs, and the calls go through. -/
theorem actuate_succeeds_iff (os : OsCalls) (m : ProcessStateMachine α)
    (newState : ProcessState) (w : World) :
    (m.actuate os newState w).2 = true ↔
      m.hasExited w = false ∧ m.CallsSucceed os newState w := by
  have hresume := m.resumeIfSuspended_iff os w
  unfold actuate
  by_cases hex : m.hasExited w = true
  · rw [if_pos hex, hex]
    exact iff_of_false Bool.false_ne_true fun h => Bool.noConfusion h.1
  · rw [if_neg hex, and_iff_right (Bool.eq_false_iff.mpr hex)]
    -- An exited process fails before any call; otherwise each state has its own calls.
    cases newState with
    | normal =>
        simp only [CallsSucceed, Bool.and_eq_true, hresume, setProcessPriority_succeeds_iff]
    | throttled =>
        by_cases hres : (m.resumeIfSuspended os w).2 = true
        · simp only [CallsSucceed, hres, if_true, setProcessPriority_succeeds_iff,
            and_iff_right (hresume.mp hres)]
        · -- The priority is not tried after a failure to resume.
          simp only [CallsSucceed, hres]
          exact iff_of_false Bool.false_ne_true fun h => hres (hresume.mpr h.1)
    | suspended => exact suspendAllThreads_allSucceeded_iff os w m.batchProcessId

/-- The threads there are decide, not their suspensions. -/
theorem CallsSucceed.congr (os : OsCalls) (m : ProcessStateMachine α) (newState : ProcessState)
    {w w' : World} (h : w'.threads = w.threads) :
    m.CallsSucceed os newState w' ↔ m.CallsSucceed os newState w := by
  unfold CallsSucceed Resumes AnyThread NoThreadFails
  rw [h]

end ProcessStateMachine

namespace ActuatorManager

open ProcessStateMachine

variable [LE α] [DecidableLE α] [LT α] [DecidableLT α] [Zero α]

/-- A call on the machine of one process starts and ends no threads. -/
theorem sweep_visitOne_threads (os : OsCalls) (processId : DWORD) (c : Call α)
    (manager : ActuatorManager α) (w : World) :
    (sweep (visitOne os processId c) manager.machines w).world.threads = w.threads := by
  have hconcerned := concerned_visitOne (α := α) os processId c
  rcases hfind : manager.find processId with _ | m
  · exact (sweep_find_none hconcerned manager.machines w processId hfind).1.threads
  · rcases sweep_visitOne_self os c manager w processId m hfind with ⟨u, hu, hworld, _, _⟩
    exact hworld.threads.trans ((exec_threads os m c u).trans hu.threads)

/-- `ForceState` makes a transition that succeeds: it finds the process in
    another state and running, and the calls go through. -/
theorem forceState_succeeds_iff (os : OsCalls) (manager : ActuatorManager α) (processId : DWORD)
    (newState : ProcessState) (x : α) (hold : Bool) (w : World) (m : ProcessStateMachine α)
    (hfind : manager.find processId = some m) :
    (∃ t ∈ (manager.forceState os processId newState x hold w).fired,
        t.batchProcessId = processId ∧ t.newState = newState ∧ t.actuationSucceeded = true) ↔
      m.state ≠ newState ∧ m.hasExited w = false ∧ m.CallsSucceed os newState w := by
  let c := Call.forceState newState x hold
  rcases sweep_visitOne_self os c manager w processId m hfind with ⟨u, hu, _, _, hfired⟩
  -- The callbacks that name the process are those of its machine.
  have hown : ∀ t, (t ∈ (manager.forceState os processId newState x hold w).fired ∧
      t.batchProcessId = processId) ↔ t ∈ (m.exec os c u).fired := by
    intro t
    have hmem : t ∈ (m.exec os c u).fired.toList ↔ t ∈ (m.exec os c u).fired := Option.mem_toList
    rw [← hmem, ← hfired, firedFor, List.mem_filter, beq_iff_eq]
    rfl
  have hexited : m.hasExited u = m.hasExited w := by
    unfold hasExited
    rw [hu.exited]
  have hcalls := CallsSucceed.congr os m newState hu.threads
  have hactuate := (m.noted c).actuate_succeeds_iff os newState u
  change _ ↔ m.hasExited u = false ∧ m.CallsSucceed os newState u at hactuate
  rw [hexited, hcalls] at hactuate
  by_cases hs : m.state = newState
  · -- Nothing is called back.
    have hnone : (m.exec os c u).fired = none := by
      rw [exec_eq]
      simp only [goal, c, hs, ne_eq, not_true_eq_false, if_false]
    refine iff_of_false ?_ fun h => h.1 hs
    rintro ⟨t, ht, hid, _⟩
    have hmem := (hown t).mp ⟨ht, hid⟩
    rw [hnone] at hmem
    cases hmem
  · have hgoal : m.goal c = some newState := if_pos hs
    have hfires : (m.exec os c u).fired = ((m.noted c).transitionTo os newState x u).fired := by
      rw [exec_eq, hgoal]
      rfl
    rw [and_iff_right hs, ← hactuate]
    constructor
    · rintro ⟨t, ht, hid, _, hok⟩
      have hmem := (hown t).mp ⟨ht, hid⟩
      rw [hfires] at hmem
      cases hmem
      exact hok
    · intro hok
      rcases hcalled : ((m.noted c).transitionTo os newState x u).fired with _ | t
      · cases hcalled
      · rcases (hown t).mpr (hfires.trans hcalled) with ⟨ht, hid⟩
        cases hcalled
        exact ⟨_, ht, hid, rfl, hok⟩

end ActuatorManager

end Actuator

end ThreadHaul
