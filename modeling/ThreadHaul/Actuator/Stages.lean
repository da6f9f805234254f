import ThreadHaul.Actuator.Manager
import ThreadHaul.Lib.Identifiers

/-!
# The System Calls of a Transition

The same machines with their system calls one at a time, and with processes and
threads that start and end in between.

A snapshot shows which process runs under a process id, the constructor of a
machine opens whatever runs under it by then, and a transition opens the process
and its threads by their ids again. Windows gives an id to somebody else as soon
as its owner has ended and no handle to it is open.

What a call decides is `goal`, `noted` and `entered` of the machine. Here
`TransitionTo` is a sequence of stages, each of them one system call, and
anything may happen between two of them. The daemon takes snapshots, makes
machines for processes of the last one, calls their operations and erases them,
in any order: which of them it makes and what it calls is said elsewhere. It
does one thing at a time, since it holds its lock.

## Main definitions

* `Managed`: A machine, its handle, and the process it was made for.
* `Stage`, `Work`: Where a transition is.
* `Hit`: A call and the process it concerned.
* `State`, `Event`, `step`: The daemon and the system.
* `State.change`, `State.operate`, `State.proceed`: What happens elsewhere, what
  the daemon begins, and its next system call.
-/

namespace ThreadHaul

namespace Actuator

namespace Stages

open Identifiers

/-- `SuspendThread` and `ResumeThread`. -/
inductive ThreadCall
  | suspend
  | resume
  deriving DecidableEq

/-- The calls that change a process. -/
inductive ActuatorCall
  | thread (call : ThreadCall)
  | setPriorityClass (level : PriorityLevel)
  deriving DecidableEq

/-- A call that was made. The process is the one that was opened, or the one
    whose thread was. -/
structure Hit where
  call : ActuatorCall
  /-- The thread id or the process id that was opened. -/
  id : DWORD
  succeeded : Bool
  process : Nat
  /-- The process that the machine was made for. -/
  subject : Nat
  deriving DecidableEq

variable {α : Type*}

/-- A machine, the process to which it has a handle, and the one that the
    snapshot showed when it was made. -/
structure Managed (α : Type*) where
  machine : ProcessStateMachine α
  handle : Option Nat
  subject : Nat

/-- Where `TransitionTo` is: the system call that comes next, and what it needs.
    A thread or a process that is open has a handle to it. -/
inductive Stage
  | hasExited
  | enumerateThreadIds (call : ThreadCall)
  | openThread (call : ThreadCall) (threadIds : List DWORD) (result : ThreadOpResult)
  | threadOpen (call : ThreadCall) (tid : DWORD) (thread : Nat) (threadIds : List DWORD)
      (result : ThreadOpResult)
  /-- The threads were resumed, or there was nothing to resume. -/
  | openProcess (level : PriorityLevel) (resumed : Bool)
  | processOpen (level : PriorityLevel) (resumed : Bool) (process : Nat)

/-- A transition under way. -/
structure Work (α : Type*) where
  managed : Managed α
  newState : ProcessState
  cpuPercent : α
  stage : Stage

/-- The processes and threads, the last snapshot, the machines, and what has
    been done. -/
structure State (α : Type*) where
  processes : Registry DWORD
  threads : Registry DWORD
  /-- The executable of a process. -/
  name : Nat → WString
  /-- The process of a thread. -/
  owner : Nat → Nat
  snapshot : DWORD → Option Nat := fun _ => none
  machines : DWORD → Option (Managed α) := fun _ => none
  work : Option (Work α) := none
  hits : List Hit := []
  fired : List (Transition α) := []

/-- What happens outside the daemon. -/
inductive Change
  | processStarts (name : WString) (pid : DWORD)
  | processEnds (pid : DWORD)
  | threadStarts (tid pid : DWORD)
  | threadEnds (tid : DWORD)

/-- What the daemon does under its lock. -/
inductive Operation (α : Type*)
  /-- `SnapshotProcesses`, with the processes that the walk comes to. -/
  | takeSnapshot (shown : DWORD → Bool)
  /-- `AddBatchProcess` for a process of the snapshot. -/
  | create (name : WString) (pid : DWORD) (config : StateMachineConfig α) (opened : Bool)
  | call (pid : DWORD) (c : Call α)
  /-- The machine is erased. -/
  | remove (pid : DWORD)

/-- How the next system call comes out. -/
structure Reply where
  error : Option Win32Error := none
  succeeds : Bool := true
  /-- The thread ids in the order of the walk. -/
  walk : List DWORD := []

/-- A change of the system, the start of an operation, or a system call of the one under way. -/
inductive Event (α : Type*)
  | change (c : Change)
  | operation (o : Operation α)
  /-- The transition under way makes its next system call. -/
  | proceed (r : Reply)

namespace Work

/-- The process id that the transition is about. -/
def pid (w : Work α) : DWORD := w.managed.machine.batchProcessId

/-- The transition has a handle to the process. -/
def opensProcess (w : Work α) (p : Nat) : Bool :=
  match w.stage with
  | .processOpen _ _ p' => p' == p
  | _ => false

/-- The transition has a handle to the thread. -/
def opensThread (w : Work α) (t : Nat) : Bool :=
  match w.stage with
  | .threadOpen _ _ t' _ _ => t' == t
  | _ => false

/-- The thread ids that are still to be opened. -/
def threadIds (w : Work α) : List DWORD :=
  match w.stage with
  | .openThread _ threadIds _ | .threadOpen _ _ _ threadIds _ => threadIds
  | _ => []

end Work

/-- The first stage after `HasExited`. -/
def firstStage (m : ProcessStateMachine α) : ProcessState → Stage
  | .suspended => .enumerateThreadIds .suspend
  | .throttled =>
      if m.state = .suspended then .enumerateThreadIds .resume else .openProcess .idle true
  | .normal =>
      if m.state = .suspended then .enumerateThreadIds .resume else .openProcess .normal true

/-- The stage after the loop over the threads, if there is one. -/
def lastStage (result : ThreadOpResult) : ProcessState → Option Stage
  | .suspended => none
  | .throttled => if result.allSucceeded then some (.openProcess .idle true) else none
  | .normal => some (.openProcess .normal result.allSucceeded)

namespace State

/-- The daemon has a handle to the process with this process id. -/
def holdsProcess (s : State α) (pid : DWORD) (p : Nat) : Bool :=
  (s.machines pid).any (fun m => m.handle == some p) || s.work.any fun w => w.opensProcess p

/-- A handle keeps the thread. -/
def holdsThread (s : State α) (t : Nat) : Bool := s.work.any fun w => w.opensThread t

/-- What `OpenProcess` finds. -/
def foundProcess (s : State α) (pid : DWORD) : Option Nat :=
  s.processes.found (s.holdsProcess pid) pid

/-- What `OpenThread` finds. -/
def foundThread (s : State α) (tid : DWORD) : Option Nat := s.threads.found s.holdsThread tid

/-- The process that runs under a process id. -/
def running (s : State α) (pid : DWORD) : Option Nat := s.processes.found (fun _ => false) pid

/-- The thread snapshot shows the thread id with this owner. -/
def belongs (s : State α) (pid tid : DWORD) : Bool :=
  (s.threads.found (fun _ => false) tid).any fun t => s.processes.named pid == some (s.owner t)

/-- `HasExited`. -/
def hasExited (s : State α) (m : Managed α) : Bool := m.handle.any s.processes.ended

/-- A change of the system. A process id that is in use is not given again. -/
def change (s : State α) : Change → State α
  | .processStarts name pid =>
      if s.foundProcess pid = none then
        { s with
          processes := s.processes.assign (s.holdsProcess pid) pid
          name := Function.update s.name s.processes.count name }
      else s
  | .processEnds pid =>
      match s.running pid with
      | none => s
      | some p =>
          { s with
            processes := s.processes.finish fun p' => p' == p
            threads := s.threads.finish fun t => s.owner t == p }
  | .threadStarts tid pid =>
      match s.running pid with
      | none => s
      | some p =>
          if s.foundThread tid = none then
            { s with
              threads := s.threads.assign s.holdsThread tid
              owner := Function.update s.owner s.threads.count p }
          else s
  | .threadEnds tid =>
      match s.threads.named tid with
      | none => s
      | some t => { s with threads := s.threads.finish fun t' => t' == t }

/-- The machine of a process is replaced. -/
def setMachine (s : State α) (m : Managed α) : State α :=
  { s with machines := Function.update s.machines m.machine.batchProcessId (some m) }

/-- The process of the snapshot for which a machine would be made. -/
def picks (host : Host) (s : State α) (name : WString) (pid : DWORD) : Option Nat :=
  if (s.machines pid).isSome then none
  else (s.snapshot pid).filter fun p => namesEqualIgnoreCase host (s.name p) name

section Operation

variable [LE α] [DecidableLE α] [LT α] [DecidableLT α] [Zero α]

/-- An operation up to its first system call. -/
def operate (host : Host) (s : State α) : Operation α → State α
  | .takeSnapshot shown =>
      { s with snapshot := fun pid => if shown pid then s.running pid else none }
  | .create name pid config opened =>
      match s.picks host name pid with
      | none => s
      | some p =>
          let handle := if opened then s.foundProcess pid else none
          s.setMachine
            { machine := ProcessStateMachine.create name pid config handle.isSome
              handle := handle
              subject := p }
  | .call pid c =>
      match s.machines pid with
      | none => s
      | some m =>
          let noted := { m with machine := m.machine.noted c }
          match m.machine.goal c with
          | none => s.setMachine noted
          | some newState =>
              { s.setMachine noted with
                work := some
                  { managed := noted
                    newState := newState
                    cpuPercent := c.percent
                    stage := .hasExited } }
  | .remove pid => { s with machines := Function.update s.machines pid none }

end Operation

/-- The transition under way goes on to another stage. -/
def goto (s : State α) (w : Work α) (stage : Stage) : State α :=
  { s with work := some { w with stage := stage } }

/-- The end of `TransitionTo`. -/
def finish (s : State α) (w : Work α) (actuationSucceeded : Bool) : State α :=
  { s.setMachine { w.managed with machine := w.managed.machine.entered w.newState } with
    work := none
    fired := s.fired ++
      [{ batchProcessName := w.managed.machine.batchProcessName
         batchProcessId := w.managed.machine.batchProcessId
         oldState := w.managed.machine.state
         newState := w.newState
         cpuPercentAtTransition := w.cpuPercent
         actuationSucceeded := actuationSucceeded }] }

/-- A system call is noted with the process it hits. -/
def hit (s : State α) (w : Work α) (call : ActuatorCall) (id : DWORD) (succeeded : Bool)
    (process : Nat) : State α :=
  { s with
    hits := s.hits ++
      [{ call := call
         id := id
         succeeded := succeeded
         process := process
         subject := w.managed.subject }] }

/-- The next system call of a transition. -/
def proceed (s : State α) (w : Work α) (r : Reply) : State α :=
  match w.stage with
  | .hasExited =>
      if s.hasExited w.managed then s.finish w false
      else s.goto w (firstStage w.managed.machine w.newState)
  | .enumerateThreadIds call =>
      s.goto w (.openThread call (r.walk.filter (s.belongs w.pid)) {})
  | .openThread _ [] result =>
      match lastStage result w.newState with
      | none => s.finish w result.allSucceeded
      | some stage => s.goto w stage
  | .openThread call (tid :: threadIds) result =>
      match r.error, s.foundThread tid with
      | none, some t => s.goto w (.threadOpen call tid t threadIds result)
      -- The thread exited after the snapshot; not an actuation failure.
      | none, none | some .invalidParameter, _ => s.goto w (.openThread call threadIds result)
      | some _, _ => s.goto w (.openThread call threadIds result.failed)
  | .threadOpen call tid t threadIds result =>
      (s.hit w (.thread call) tid r.succeeds (s.owner t)).goto w
        (.openThread call threadIds (if r.succeeds then result.succeeded else result.failed))
  | .openProcess level resumed =>
      match r.error, s.foundProcess w.pid with
      | none, some p => s.goto w (.processOpen level resumed p)
      | _, _ => s.finish w false
  | .processOpen level resumed p =>
      (s.hit w (.setPriorityClass level) w.pid r.succeeds p).finish w (resumed && r.succeeds)

end State

section Step

variable [LE α] [DecidableLE α] [LT α] [DecidableLT α] [Zero α]

/-- Operations come one after the other: while a transition is under way, the
    daemon does nothing else. -/
def step (host : Host) (s : State α) : Event α → State α
  | .change c => s.change c
  | .operation o =>
      match s.work with
      | none => s.operate host o
      | some _ => s
  | .proceed r =>
      match s.work with
      | none => s
      | some w => s.proceed w r

end Step

end Stages

end Actuator

end ThreadHaul
