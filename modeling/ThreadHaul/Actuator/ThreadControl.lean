import Mathlib.Data.List.Nodup
import Mathlib.Logic.Function.Basic

/-!
# Thread and Priority Control

The operating system as the actuator sees it, and the three calls it makes:
suspend every thread of a process, resume every thread, set the priority
class.

`World` is the part of the system these calls touch. A thread carries the
number of suspensions the service has made on it and not yet undone;
suspensions made by anybody else are not counted. A process carries the
priority class the service last gave it, forgotten as soon as something else
changes the class. Thread ids are unique, which is a field of the structure, so
a walk over the threads of a process meets each of them once.

Any single system call may fail. `OsCalls` says how the calls made during one
operation come out: which threads the snapshot walk lists, which of them can be
opened, and what the call on the opened handle returns. The source walks the
thread list in a loop that is the same for suspending and resuming, so the loop
is one definition with the call and its effect as parameters.

`foldl_threadOp` is what the rest of the development uses of the loop: the
threads that are listed, opened and on which the call succeeds are changed
once, and nothing else is touched.

## Main definitions

* `World`: Threads, suspensions, priority classes and exits.
* `OsCalls`: How the system calls of one operation come out.
* `suspendAllThreads`, `resumeAllThreads`: The two loops over the threads.
* `setProcessPriority`: Setting the priority class of a process.

## Theorems

* `foldl_threadOp`: The loop over a list of distinct threads.
* `suspendAllThreads_world`, `resumeAllThreads_world`: The loop over the
  threads of a process.
* `setProcessPriority_success_iff`: When a priority change succeeds.
* `setProcessPriority_world`: What a priority change does.
-/

namespace ThreadHaul

/-- `DWORD`, the type of process and thread ids. -/
abbrev DWORD := UInt32

/-- `std::wstring`: UTF-16 code units. -/
abbrev WString := List UInt16

namespace Actuator

/-- `PriorityLevel`. -/
inductive PriorityLevel
  | idle
  | belowNormal
  | normal
  deriving DecidableEq, Repr

/-- `PriorityChangeResult`. -/
inductive PriorityChangeResult
  | success
  | accessDenied
  | processNotFound
  | otherError
  deriving DecidableEq, Repr

/-- The values of `GetLastError` the actuator tells apart. -/
inductive Win32Error
  | accessDenied
  | invalidParameter
  | other
  deriving DecidableEq, Repr

/-- A thread in the snapshot of the system. -/
structure Thread where
  id : DWORD
  ownerProcessId : DWORD
  deriving DecidableEq, Repr

/-- The system state behind the actuator's calls. -/
structure World where
  threads : List Thread
  /-- A thread id names one thread. -/
  distinct : (threads.map Thread.id).Nodup
  /-- Suspensions of a thread made by the service and not undone. -/
  suspends : DWORD → Nat
  /-- The class the service gave a process, unless it was changed since. -/
  priorityGiven : DWORD → Option PriorityLevel
  exited : DWORD → Bool

/-- A system in which nothing runs. -/
instance : Inhabited World where
  default :=
    { threads := []
      distinct := List.nodup_nil
      suspends := fun _ => 0
      priorityGiven := fun _ => none
      exited := fun _ => false }

/-- How the system calls of one operation come out. An error is `none` where
    the call succeeds. -/
structure OsCalls where
  /-- The thread turns up in the snapshot walk. A snapshot that cannot be taken
      lists nothing; one whose walk breaks off lists a part. -/
  listed : DWORD → Bool
  openThreadError : DWORD → Option Win32Error
  suspendThread : DWORD → Bool
  resumeThread : DWORD → Bool
  openProcessError : Option Win32Error
  setPriorityClassError : Option Win32Error

/-- Every system call succeeds. -/
structure OsCalls.AllSucceed (os : OsCalls) : Prop where
  listed : ∀ tid, os.listed tid = true
  openThread : ∀ tid, os.openThreadError tid = none
  suspendThread : ∀ tid, os.suspendThread tid = true
  resumeThread : ∀ tid, os.resumeThread tid = true
  openProcess : os.openProcessError = none
  setPriorityClass : os.setPriorityClassError = none

/-- The calls of an operation during which nothing fails. -/
def OsCalls.succeeding : OsCalls where
  listed _ := true
  openThreadError _ := none
  suspendThread _ := true
  resumeThread _ := true
  openProcessError := none
  setPriorityClassError := none

theorem OsCalls.allSucceed_succeeding : OsCalls.succeeding.AllSucceed :=
  ⟨fun _ => rfl, fun _ => rfl, fun _ => rfl, fun _ => rfl, rfl, rfl⟩

/-- `ThreadOpResult`. -/
structure ThreadOpResult where
  threadsAttempted : Nat := 0
  threadsSucceeded : Nat := 0
  threadsFailed : Nat := 0
  deriving DecidableEq, Repr

namespace ThreadOpResult

/-- `AllSucceeded`: there was a thread, and none failed. -/
def allSucceeded (r : ThreadOpResult) : Bool :=
  r.threadsAttempted > 0 && r.threadsFailed == 0

/-- One more thread, on which the call succeeded. -/
def succeeded (r : ThreadOpResult) : ThreadOpResult :=
  { r with threadsAttempted := r.threadsAttempted + 1
           threadsSucceeded := r.threadsSucceeded + 1 }

/-- One more thread, on which it failed. -/
def failed (r : ThreadOpResult) : ThreadOpResult :=
  { r with threadsAttempted := r.threadsAttempted + 1
           threadsFailed := r.threadsFailed + 1 }

end ThreadOpResult

/-- `EnumerateThreadIds`. -/
def enumerateThreadIds (os : OsCalls) (w : World) (processId : DWORD) : List DWORD :=
  (w.threads.filter fun t => os.listed t.id && t.ownerProcessId == processId).map Thread.id

/-- One turn of the loop in `SuspendAllThreads` and `ResumeAllThreads`. -/
def threadOp (os : OsCalls) (call : DWORD → Bool) (effect : Nat → Nat)
    (acc : World × ThreadOpResult) (tid : DWORD) : World × ThreadOpResult :=
  match os.openThreadError tid with
  -- The thread exited after the snapshot; not an actuation failure.
  | some .invalidParameter => acc
  | some _ => (acc.1, acc.2.failed)
  | none =>
      if call tid then
        ({ acc.1 with suspends :=
            Function.update acc.1.suspends tid (effect (acc.1.suspends tid)) }, acc.2.succeeded)
      else (acc.1, acc.2.failed)

/-- `SuspendAllThreads`. -/
def suspendAllThreads (os : OsCalls) (w : World) (processId : DWORD) : World × ThreadOpResult :=
  (enumerateThreadIds os w processId).foldl (threadOp os os.suspendThread (· + 1)) (w, {})

/-- Resuming a thread that carries no suspension of the service leaves the
    count at zero. -/
def resumeAllThreads (os : OsCalls) (w : World) (processId : DWORD) : World × ThreadOpResult :=
  (enumerateThreadIds os w processId).foldl (threadOp os os.resumeThread (· - 1)) (w, {})

/-- `SetProcessPriority`. -/
def setProcessPriority (os : OsCalls) (w : World) (processId : DWORD) (level : PriorityLevel) :
    World × PriorityChangeResult :=
  match os.openProcessError with
  | some .accessDenied => (w, .accessDenied)
  | some .invalidParameter => (w, .processNotFound)
  | some .other => (w, .otherError)
  | none =>
      match os.setPriorityClassError with
      | none =>
          ({ w with priorityGiven := Function.update w.priorityGiven processId (some level) },
            .success)
      | some .accessDenied => (w, .accessDenied)
      | some _ => (w, .otherError)

/-- The call is made on the thread and succeeds. -/
def OsCalls.acts (os : OsCalls) (call : DWORD → Bool) (tid : DWORD) : Bool :=
  os.openThreadError tid == none && call tid

/-- The loop over a list of distinct threads changes each of them at most once,
    exactly where the call is made and succeeds. -/
theorem foldl_threadOp (os : OsCalls) (call : DWORD → Bool) (effect : Nat → Nat)
    (tids : List DWORD) (hnd : tids.Nodup) (w : World) (r : ThreadOpResult) :
    (tids.foldl (threadOp os call effect) (w, r)).1
      = { w with suspends := fun tid => if tid ∈ tids ∧ os.acts call tid
            then effect (w.suspends tid) else w.suspends tid } := by
  induction tids generalizing w r with
  | nil => simp only [List.foldl_nil, List.not_mem_nil, false_and, if_false]
  | cons a tids ih =>
      -- The thread ids differ, so no later call meets the first thread again.
      rcases List.nodup_cons.mp hnd with ⟨ha, hnd'⟩
      rw [List.foldl_cons]
      by_cases hact : os.acts call a
      · -- The call on the first thread goes through and is the only one on it.
        have hopen : os.openThreadError a = none ∧ call a = true := by
          simpa only [OsCalls.acts, Bool.and_eq_true, beq_iff_eq] using hact
        have hstep : threadOp os call effect (w, r) a
            = ({ w with suspends := Function.update w.suspends a (effect (w.suspends a)) },
                r.succeeded) := by
          simp only [threadOp, hopen.1, hopen.2, if_true]
        rw [hstep, ih hnd']
        congr 1
        funext tid
        by_cases htid : tid = a
        · subst htid
          simp only [ha, false_and, if_false, Function.update_self, List.mem_cons, true_or,
            hact, and_self, if_true]
        · simp only [Function.update_of_ne htid, List.mem_cons, htid, false_or]
      · -- The first thread cannot be opened, or the call on it fails.
        have hstep : ∃ r', threadOp os call effect (w, r) a = (w, r') := by
          unfold threadOp
          rcases hop : os.openThreadError a with _ | e
          · have hcall : call a = false := by
              by_contra hc
              rw [Bool.not_eq_false] at hc
              exact hact (by simp only [OsCalls.acts, hop, hc, BEq.rfl, Bool.and_self])
            exact ⟨r.failed, by simp only [hcall, Bool.false_eq_true, if_false]⟩
          · cases e with
            | accessDenied => exact ⟨_, rfl⟩
            | invalidParameter => exact ⟨_, rfl⟩
            | other => exact ⟨_, rfl⟩
        rcases hstep with ⟨r', hr'⟩
        rw [hr', ih hnd']
        congr 1
        funext tid
        by_cases htid : tid = a
        · subst htid
          simp only [ha, hact, and_false, Bool.false_eq_true, if_false]
        · simp only [List.mem_cons, htid, false_or]

/-- The thread belongs to the process and the snapshot walk lists it. -/
def World.lists (w : World) (os : OsCalls) (processId tid : DWORD) : Prop :=
  ∃ t ∈ w.threads, t.id = tid ∧ t.ownerProcessId = processId ∧ os.listed tid = true

theorem mem_enumerateThreadIds (os : OsCalls) (w : World) (processId tid : DWORD) :
    tid ∈ enumerateThreadIds os w processId ↔ w.lists os processId tid := by
  simp only [enumerateThreadIds, List.mem_map, List.mem_filter, Bool.and_eq_true, beq_iff_eq,
    World.lists]
  constructor
  · rintro ⟨t, ⟨ht, hl, ho⟩, rfl⟩
    exact ⟨t, ht, rfl, ho, hl⟩
  · rintro ⟨t, ht, rfl, ho, hl⟩
    exact ⟨t, ⟨ht, hl, ho⟩, rfl⟩

theorem enumerateThreadIds_nodup (os : OsCalls) (w : World) (processId : DWORD) :
    (enumerateThreadIds os w processId).Nodup :=
  List.Nodup.sublist ((List.filter_sublist (l := w.threads)).map Thread.id) w.distinct

theorem suspendAllThreads_world (os : OsCalls) (w : World) (processId : DWORD) :
    (suspendAllThreads os w processId).1
      = { w with suspends := fun tid =>
            if tid ∈ enumerateThreadIds os w processId ∧ os.acts os.suspendThread tid
            then w.suspends tid + 1 else w.suspends tid } :=
  foldl_threadOp os os.suspendThread (· + 1) _ (enumerateThreadIds_nodup os w processId) w {}

theorem resumeAllThreads_world (os : OsCalls) (w : World) (processId : DWORD) :
    (resumeAllThreads os w processId).1
      = { w with suspends := fun tid =>
            if tid ∈ enumerateThreadIds os w processId ∧ os.acts os.resumeThread tid
            then w.suspends tid - 1 else w.suspends tid } :=
  foldl_threadOp os os.resumeThread (· - 1) _ (enumerateThreadIds_nodup os w processId) w {}

theorem setProcessPriority_success_iff (os : OsCalls) (w : World) (processId : DWORD)
    (level : PriorityLevel) :
    (setProcessPriority os w processId level).2 = .success ↔
      os.openProcessError = none ∧ os.setPriorityClassError = none := by
  unfold setProcessPriority
  rcases os.openProcessError with _ | e
  · rcases os.setPriorityClassError with _ | e
    · simp only [and_self]
    · cases e <;> simp only [reduceCtorEq, and_false]
  · cases e <;> simp only [reduceCtorEq, false_and]

/-- A priority change that does not succeed changes nothing. -/
theorem setProcessPriority_world (os : OsCalls) (w : World) (processId : DWORD)
    (level : PriorityLevel) :
    (setProcessPriority os w processId level).1
      = if (setProcessPriority os w processId level).2 = .success
        then { w with priorityGiven :=
                Function.update w.priorityGiven processId (some level) }
        else w := by
  unfold setProcessPriority
  rcases os.openProcessError with _ | e
  · rcases os.setPriorityClassError with _ | e
    · simp only [if_true]
    · cases e <;> simp only [reduceCtorEq, if_false]
  · cases e <;> simp only [reduceCtorEq, if_false]

end Actuator

end ThreadHaul
