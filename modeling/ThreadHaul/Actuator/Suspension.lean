import Mathlib.Algebra.Order.Field.Rat
import ThreadHaul.Actuator.Operations
import ThreadHaul.Actuator.Shutdown

/-!
# Suspensions Are Balanced

`SuspendThread` counts, so a process is running again only if every suspension
made on its threads is taken back. Over any run of the manager, with threads
and processes coming and going, each thread that was there when its process was
suspended last carries one suspension while its machine is there and suspended,
and no thread carries one otherwise.

Whatever is asked of the manager, one of a few things happens to one process,
and `Fate` lists them: it is left alone, its machine makes a call, its machine
is recovered and dropped, its machine is dropped because the process is gone or
while it is normal, or it gets a fresh machine. `fate_act` says that the list
is complete, and the balance is a statement about the entries of the list.

Threads and processes end while the manager is at work. A call on what is
ending may fail; a call on what stays is taken to succeed. Thread ids are not
used twice.

## Main definitions

* `Action`, `perform`: What is asked of the manager.
* `Fate`: What an action means for one process.
* `Ending`: What ends during an action.
* `Ledger`: The manager, the system, and the threads there were at the last
  suspension of each process.
* `Balanced`: The suspensions of every running process.

## Theorems

* `fate_act`: Every action, as one process sees it.
* `suspends_exec`: The suspensions of a thread after a call.
* `kept_happen`: One event.
* `run_balanced`: Every run.
-/

namespace ThreadHaul

namespace Actuator

open Runs ActuatorManager ProcessStateMachine

variable {α : Type*}

/-- What is asked of the manager. -/
inductive Action (α : Type*)
  | addBatchProcess (processName : WString) (processId : DWORD) (opened : Bool)
  | updateAll (cpuPercent : α)
  | setConfig (config : StateMachineConfig α)
  | forceState (processId : DWORD) (newState : ProcessState) (cpuPercent : α) (hold : Bool)
  | releaseManualHold (processId : DWORD)
  | setProtectedProcessNames (names : List WString)
  /-- A command releases a process, which was managed on request or not. -/
  | release (processId : DWORD) (adhoc : Bool)
  /-- A new configuration no longer names the process. -/
  | drop (processId : DWORD)

/-- What an action on the manager means for the process `p`, whose machine and
    system calls it is about. -/
inductive Fate [LE α] [DecidableLE α] [LT α] [DecidableLT α] [Zero α] (os : OsCalls) (p : DWORD) :
    Option (ProcessStateMachine α) → World → Option (ProcessStateMachine α) → World →
      List (Transition α) → Prop
  | spared {machine : Option (ProcessStateMachine α)} {w w' : World} (hw : w.SameFor p w') :
      Fate os p machine w machine w' []
  | called {m : ProcessStateMachine α} {w u w' : World} (c : Call α) (hm : m.batchProcessId = p)
      (hu : w.SameFor p u) (hw : (m.exec os c u).world.SameFor p w') :
      Fate os p (some m) w (some (m.next c)) w' (m.exec os c u).fired.toList
  | recovered {m : ProcessStateMachine α} {w u w' : World} (hm : m.batchProcessId = p)
      (hu : w.SameFor p u) (hw : (m.exec os .forceRecoverForShutdown u).world.SameFor p w') :
      Fate os p (some m) w none w' (m.exec os .forceRecoverForShutdown u).fired.toList
  | gone {m : ProcessStateMachine α} {w w' : World} (hm : m.batchProcessId = p)
      (hex : m.hasExited w = true) (hw : w.SameFor p w') : Fate os p (some m) w none w' []
  | forgotten {m : ProcessStateMachine α} {w w' : World} (hm : m.batchProcessId = p)
      (hn : m.state = .normal) (hw : w.SameFor p w') : Fate os p (some m) w none w' []
  | created {w : World} (processName : WString) (config : StateMachineConfig α) (opened : Bool) :
      Fate os p none w (some (create processName p config opened)) w []

namespace ActuatorManager

section Release

variable [LE α] [DecidableLE α] [LT α] [DecidableLT α] [Zero α]

/-- `m->ReleaseManualHold()`, and what was managed on request is dropped if it
    is normal. -/
def release (os : OsCalls) (manager : ActuatorManager α) (processId : DWORD) (adhoc : Bool)
    (w : World) : Result α :=
  let r := manager.releaseManualHold os processId w
  if adhoc && (r.manager.find processId).any fun m => m.state == .normal then
    { r with manager := r.manager.removeBatchProcess processId }
  else r

/-- `Find(pid)->ForceRecoverForShutdown()`, then `RemoveBatchProcess(pid)`. -/
def drop (os : OsCalls) (manager : ActuatorManager α) (processId : DWORD) (w : World) :
    Result α :=
  let s := sweep (visitOne os processId .forceRecoverForShutdown) manager.machines w
  let recovered := manager.afterSweep _ (keepsId_visitOne os processId .forceRecoverForShutdown) w
  ⟨recovered.removeBatchProcess processId, s.world, (manager.find processId).isSome, s.fired⟩

/-- What an action comes to. -/
def act (host : Host) (os : DWORD → OsCalls) (manager : ActuatorManager α) (w : World) :
    Action α → Result α
  | .addBatchProcess processName processId opened =>
      manager.perform host os w (.addBatchProcess processName processId opened)
  | .updateAll x => manager.perform host os w (.updateAll x)
  | .setConfig config => manager.perform host os w (.setConfig config)
  | .forceState processId newState x hold =>
      manager.perform host os w (.forceState processId newState x hold)
  | .releaseManualHold processId => manager.perform host os w (.releaseManualHold processId)
  | .setProtectedProcessNames names =>
      manager.perform host os w (.setProtectedProcessNames names)
  | .release processId adhoc => manager.release (os processId) processId adhoc w
  | .drop processId => manager.drop (os processId) processId w

end Release

end ActuatorManager

section Fates

variable [LE α] [DecidableLE α] [LT α] [DecidableLT α] [Zero α]

/-- A walk whose visits have a fate has it for the process of every machine. -/
theorem fate_sweep (os : OsCalls) (visit : ProcessStateMachine α → World → Visit α)
    (hv : Concerned visit) (manager : ActuatorManager α) (w : World) (p : DWORD)
    (hfate : ∀ m u w', m.batchProcessId = p → w.SameFor p u →
      (visit m u).world.SameFor p w' →
      Fate os p (some m) w (visit m u).kept w' (visit m u).fired) :
    Fate os p (manager.find p) w (machineOf (sweep visit manager.machines w).machines p)
      (sweep visit manager.machines w).world
      (firedFor p (sweep visit manager.machines w).fired) := by
  -- A process without a machine is spared by the whole walk.
  rcases hfind : manager.find p with _ | m
  · rcases sweep_find_none hv manager.machines w p hfind with ⟨hworld, hmachine, hfired⟩
    rw [hmachine, hfired]
    exact Fate.spared hworld
  · rcases sweep_find_some hv manager.machines manager.distinct w p m hfind with
      ⟨u, hu, hworld, hmachine, hfired⟩
    rw [hmachine, hfired]
    exact hfate m u _ (machineOf_some manager.machines p m hfind).2 hu hworld

omit [LE α] [DecidableLE α] [LT α] [DecidableLT α] [Zero α] in
theorem hasExited_congr (m : ProcessStateMachine α) (w u : World)
    (h : w.SameFor m.batchProcessId u) : m.hasExited u = m.hasExited w := by
  rw [hasExited, hasExited, h.exited]

theorem fate_visitUpdate (os : DWORD → OsCalls) (x : α) (manager : ActuatorManager α) (w : World)
    (p : DWORD) :
    Fate (os p) p (manager.find p) w
      (machineOf (sweep (visitUpdate os x) manager.machines w).machines p)
      (sweep (visitUpdate os x) manager.machines w).world
      (firedFor p (sweep (visitUpdate os x) manager.machines w).fired) := by
  refine fate_sweep (os p) _ (concerned_visitUpdate os x) manager w p ?_
  intro m u w' hm hu hw
  unfold visitUpdate at hw ⊢
  by_cases hex : m.hasExited u = true
  · rw [if_pos hex] at hw ⊢
    -- The handle has seen the process end.
    refine Fate.gone hm ?_ (hu.trans hw)
    rw [← hex]
    exact (hasExited_congr m w u (by rw [hm]; exact hu)).symm
  · rw [if_neg hex] at hw ⊢
    rw [hm] at hw ⊢
    have hcalled := Fate.called (.update x) hm hu hw
    rw [← exec_machine (os p) m (.update x) u] at hcalled
    exact hcalled

theorem fate_visitProtect (os : DWORD → OsCalls) (isProtected : WString → DWORD → Bool)
    (manager : ActuatorManager α) (w : World) (p : DWORD) :
    Fate (os p) p (manager.find p) w
      (machineOf (sweep (visitProtect os isProtected) manager.machines w).machines p)
      (sweep (visitProtect os isProtected) manager.machines w).world
      (firedFor p (sweep (visitProtect os isProtected) manager.machines w).fired) := by
  refine fate_sweep (os p) _ (concerned_visitProtect os isProtected) manager w p ?_
  intro m u w' hm hu hw
  unfold visitProtect at hw ⊢
  by_cases hprot : isProtected m.batchProcessName m.batchProcessId = true
  · rw [if_pos hprot] at hw ⊢
    rw [hm] at hw ⊢
    -- A protected process is recovered before its machine goes.
    exact Fate.recovered hm hu hw
  · rw [if_neg hprot] at hw ⊢
    exact Fate.spared (hu.trans hw)

/-- A call on the machine of one process. -/
theorem fate_visitOne (os : DWORD → OsCalls) (processId : DWORD) (c : Call α)
    (manager : ActuatorManager α) (w : World) (p : DWORD) :
    Fate (os p) p (manager.find p) w
      (machineOf (sweep (visitOne (os processId) processId c) manager.machines w).machines p)
      (sweep (visitOne (os processId) processId c) manager.machines w).world
      (firedFor p (sweep (visitOne (os processId) processId c) manager.machines w).fired) := by
  refine fate_sweep (os p) _ (concerned_visitOne (os processId) processId c) manager w p ?_
  intro m u w' hm hu hw
  unfold visitOne at hw ⊢
  by_cases hid : m.batchProcessId = processId
  · rw [if_pos hid] at hw ⊢
    -- The call is for this process.
    have hp : processId = p := hid.symm.trans hm
    rw [hp] at hw ⊢
    have hcalled := Fate.called c hm hu hw
    rw [← exec_machine (os p) m c u] at hcalled
    exact hcalled
  · rw [if_neg hid] at hw ⊢
    exact Fate.spared (hu.trans hw)

/-- A call on the machine of one process, as that process sees it. -/
theorem sweep_visitOne_self (os : OsCalls) (c : Call α) (manager : ActuatorManager α) (w : World)
    (p : DWORD) (m : ProcessStateMachine α) (hfind : manager.find p = some m) :
    ∃ u, w.SameFor p u ∧
      (m.exec os c u).world.SameFor p (sweep (visitOne os p c) manager.machines w).world ∧
      machineOf (sweep (visitOne os p c) manager.machines w).machines p = some (m.next c) ∧
      firedFor p (sweep (visitOne os p c) manager.machines w).fired
        = (m.exec os c u).fired.toList := by
  have hid := (machineOf_some manager.machines p m hfind).2
  rcases sweep_find_some (concerned_visitOne os p c) manager.machines manager.distinct w p m hfind
    with ⟨u, hu, hworld, hmachine, hfired⟩
  have hvisit : visitOne os p c m u = (m.exec os c u).visit false := if_pos hid
  -- The machine is visited once, somewhere in the walk, and takes the call.
  rw [hvisit] at hworld hmachine hfired
  refine ⟨u, hu, hworld, ?_, hfired⟩
  rw [← exec_machine os m c u]
  exact hmachine

theorem fate_release (os : DWORD → OsCalls) (processId : DWORD) (adhoc : Bool)
    (manager : ActuatorManager α) (w : World) (p : DWORD) :
    Fate (os p) p (manager.find p) w
      ((manager.release (os processId) processId adhoc w).manager.find p)
      (manager.release (os processId) processId adhoc w).world
      (firedFor p (manager.release (os processId) processId adhoc w).fired) := by
  have hone := fate_visitOne os processId .releaseManualHold manager w p
  unfold release
  simp only
  split_ifs with hdrop
  · simp only [find_removeBatchProcess]
    by_cases hp : p = processId
    · -- The machine there is becomes free and, being normal, is dropped.
      subst hp
      rw [if_pos rfl]
      rcases hfind : manager.find p with _ | m
      · rcases sweep_find_none (concerned_visitOne (os p) p .releaseManualHold)
          manager.machines w p hfind with ⟨hworld, _, hfired⟩
        change Fate (os p) p none w none _ (firedFor p
          (sweep (visitOne (os p) p .releaseManualHold) manager.machines w).fired)
        rw [hfired]
        exact Fate.spared hworld
      · rcases sweep_visitOne_self (os p) .releaseManualHold manager w p m hfind with
          ⟨u, hu, hworld, hmachine, hfired⟩
        have hnormal : m.state = .normal := by
          rw [Bool.and_eq_true] at hdrop
          have hany := hdrop.2
          change Option.any _ (machineOf
            (sweep (visitOne (os p) p .releaseManualHold) manager.machines w).machines p) = true
            at hany
          rw [hmachine, Option.any_some, beq_iff_eq] at hany
          exact hany
        change Fate (os p) p (some m) w none _ (firedFor p
          (sweep (visitOne (os p) p .releaseManualHold) manager.machines w).fired)
        rw [hfired]
        exact Fate.forgotten (machineOf_some manager.machines p m hfind).2 hnormal
          (hu.trans hworld)
    · rw [if_neg hp]
      exact hone
  · exact hone

theorem fate_drop (os : DWORD → OsCalls) (processId : DWORD) (manager : ActuatorManager α)
    (w : World) (p : DWORD) :
    Fate (os p) p (manager.find p) w
      ((manager.drop (os processId) processId w).manager.find p)
      (manager.drop (os processId) processId w).world
      (firedFor p (manager.drop (os processId) processId w).fired) := by
  unfold drop
  simp only [find_removeBatchProcess]
  by_cases hp : p = processId
  · subst hp
    rw [if_pos rfl]
    -- The machine there recovers before it is removed.
    rcases hfind : manager.find p with _ | m
    · rcases sweep_find_none (concerned_visitOne (os p) p .forceRecoverForShutdown)
        manager.machines w p hfind with ⟨hworld, _, hfired⟩
      rw [hfired]
      exact Fate.spared hworld
    · rcases sweep_visitOne_self (os p) .forceRecoverForShutdown manager w p m hfind with
        ⟨u, hu, hworld, _, hfired⟩
      rw [hfired]
      exact Fate.recovered (machineOf_some manager.machines p m hfind).2 hu hworld
  · rw [if_neg hp]
    exact fate_visitOne os processId .forceRecoverForShutdown manager w p

/-- Whatever is asked of the manager, a process has one of the fates. -/
theorem fate_act (host : Host) (os : DWORD → OsCalls) (manager : ActuatorManager α) (w : World)
    (a : Action α) (p : DWORD) :
    Fate (os p) p (manager.find p) w ((manager.act host os w a).manager.find p)
      (manager.act host os w a).world (firedFor p (manager.act host os w a).fired) := by
  cases a with
  | addBatchProcess processName processId opened =>
      change Fate (os p) p (manager.find p) w
        ((manager.addBatchProcess host opened processName processId).1.find p) w []
      rw [find_addBatchProcess]
      split_ifs with hnew
      · -- A machine is made only where there was none.
        rcases hnew with ⟨rfl, hnone, _⟩
        rw [hnone]
        exact Fate.created processName manager.config opened
      · exact Fate.spared (World.SameFor.refl p w)
  | updateAll x => exact fate_visitUpdate os x manager w p
  | setConfig config =>
      change Fate (os p) p (manager.find p) w ((manager.setConfig config).find p) w []
      rw [find_setConfig]
      -- A new configuration reaches the machine, if there is one.
      rcases hfind : manager.find p with _ | m
      · exact Fate.spared (World.SameFor.refl p w)
      · exact Fate.called (.setConfig config) (machineOf_some manager.machines p m hfind).2
          (World.SameFor.refl p w) (World.SameFor.refl p w)
  | forceState processId newState x hold => exact fate_visitOne os processId _ manager w p
  | releaseManualHold processId => exact fate_visitOne os processId _ manager w p
  | setProtectedProcessNames names =>
      exact fate_visitProtect os _ { manager with protectedNames := names } w p
  | release processId adhoc => exact fate_release os processId adhoc manager w p
  | drop processId => exact fate_drop os processId manager w p

end Fates

/-- The threads and the processes that end while the manager is at work. -/
structure Ending where
  threads : List DWORD := []
  processes : List DWORD := []

/-- The system without what has ended. -/
def World.ended (w : World) (e : Ending) : World :=
  { w with
    threads := w.threads.filter fun t => t.id ∉ e.threads
    distinct := (List.filter_sublist.map Thread.id).nodup w.distinct
    exited := fun p => w.exited p || p ∈ e.processes }

/-- The thread is there and its process runs, and neither ends now. -/
def World.Stays (w : World) (e : Ending) (t : Thread) : Prop :=
  t ∈ w.threads ∧ w.exited t.ownerProcessId = false ∧ t.id ∉ e.threads ∧
    t.ownerProcessId ∉ e.processes

/-- Every call on what stays succeeds. -/
structure Succeeds (os : DWORD → OsCalls) (w : World) (e : Ending) : Prop where
  suspends : ∀ t, w.Stays e t →
    (os t.ownerProcessId).reaches (os t.ownerProcessId).suspendThread t.id = true
  resumes : ∀ t, w.Stays e t →
    (os t.ownerProcessId).reaches (os t.ownerProcessId).resumeThread t.id = true
  priority : ∀ p, w.exited p = false → p ∉ e.processes → (os p).setsPriority = true

/-- The manager and the system. Besides, for the statement only: the thread ids
    ever used, and the threads a process had when it was suspended last. -/
structure Ledger (α : Type*) where
  manager : ActuatorManager α
  world : World
  used : List DWORD
  present : DWORD → List DWORD := fun _ => []

/-- The ids of the threads of a process. -/
def World.threadsOf (w : World) (p : DWORD) : List DWORD :=
  (w.threads.filter fun t => t.ownerProcessId == p).map Thread.id

/-- One of the callbacks says that the process entered the suspended state. -/
def suspendedNow (p : DWORD) (fired : List (Transition α)) : Bool :=
  (firedFor p fired).any fun t => t.newState == .suspended

/-- An action and what ends while it runs, or a change elsewhere. -/
inductive Happening (α : Type*)
  | action (os : DWORD → OsCalls) (a : Action α) (e : Ending)
  | threadStarts (t : Thread)
  | ends (e : Ending)

section Balance

variable [LE α] [DecidableLE α] [LT α] [DecidableLT α] [Zero α]

/-- One event. -/
def happen (host : Host) (s : Ledger α) : Happening α → Ledger α
  | .action os a e =>
      let r := s.manager.act host os s.world a
      { s with
        manager := r.manager
        world := r.world.ended e
        present := fun p =>
          if suspendedNow p r.fired then s.world.threadsOf p else s.present p }
  | .threadStarts t => { s with world := s.world.startThread t, used := t.id :: s.used }
  | .ends e => { s with world := s.world.ended e }

/-- Calls on what stays succeed, and a thread that starts has a new id. -/
def Regular (s : Ledger α) : Happening α → Prop
  | .action os _ e => Succeeds os s.world e
  | .threadStarts t => t.id ∉ s.used
  | .ends _ => True

end Balance

/-- The process is managed, and its machine is suspended. -/
def Ledger.suspended (s : Ledger α) (p : DWORD) : Bool :=
  (s.manager.find p).any fun m => m.state == .suspended

/-- Each thread of a running process carries one suspension if its process is
    suspended and it was there when that happened, and none otherwise. -/
def Balanced (s : Ledger α) : Prop :=
  ∀ t ∈ s.world.threads, s.world.exited t.ownerProcessId = false →
    s.world.suspends t.id =
      if s.suspended t.ownerProcessId ∧ t.id ∈ s.present t.ownerProcessId then 1 else 0

section Counting

variable [LE α] [DecidableLE α] [LT α] [DecidableLT α] [Zero α]

theorem exec_threads (os : OsCalls) (m : ProcessStateMachine α) (c : Call α) (w : World) :
    (m.exec os c w).world.threads = w.threads := by
  rw [exec_world]
  cases m.goal c with
  | none => rfl
  | some newState => exact ((m.noted c).actuate_threads os newState w).1

omit [Zero α] in
theorem next_forceRecover_state (m : ProcessStateMachine α) :
    (m.next .forceRecoverForShutdown).state = .normal := by
  rw [next_state, goal]
  by_cases hn : m.state = .normal
  · rw [if_pos hn]
    exact hn
  · rw [if_neg hn]
    rfl

/-- A call that succeeds suspends a thread where the machine becomes suspended,
    and resumes it where the machine stops being so. -/
theorem suspends_exec (os : OsCalls) (m : ProcessStateMachine α) (c : Call α) (w : World)
    (t : Thread) (ht : t ∈ w.threads) (hp : t.ownerProcessId = m.batchProcessId)
    (halive : w.exited m.batchProcessId = false)
    (hsuspend : os.reaches os.suspendThread t.id = true)
    (hresume : os.reaches os.resumeThread t.id = true) (was : Prop) [Decidable was]
    (h : w.suspends t.id = if m.state = .suspended ∧ was then 1 else 0) :
    (m.exec os c w).world.suspends t.id =
      if (m.next c).state = .suspended ∧ (m.goal c = some .suspended ∨ was) then 1 else 0 := by
  rw [exec_world, next_state]
  rcases hg : m.goal c with _ | newState
  · simp only [Option.getD_none, reduceCtorEq, false_or]
    exact h
  · have hne := goal_ne_state m c newState hg
    -- Every thread is reached, so the transition changes each one's count.
    have hacts := (m.noted c).actuate_suspends os newState w
      (hasExited_eq_false _ w (by rw [noted_batchProcessId]; exact halive)) t ht
      (by rw [noted_batchProcessId]; exact hp)
    rw [noted_state] at hacts
    simp only [Option.getD_some, hacts, Option.some.injEq, hsuspend, hresume, and_true, if_true]
    by_cases hs : newState = .suspended
    · -- The machine was not suspended, so nothing was.
      have hold : m.state ≠ .suspended := fun heq => hne (hs.trans heq.symm)
      rw [if_pos hs, if_pos ⟨hs, Or.inl hs⟩, h, if_neg (fun hc => hold hc.1)]
    · have hright : ¬ (newState = .suspended ∧ (newState = .suspended ∨ was)) :=
        fun hc => hs hc.1
      rw [if_neg hs, if_neg hright]
      by_cases hold : m.state = .suspended
      · -- At most one suspension is taken back.
        rw [if_pos hold, h]
        split <;> omega
      · rw [if_neg hold, h, if_neg (fun hc => hold hc.1)]

/-- The callbacks of a call say whether the machine became suspended. -/
theorem any_fired (os : OsCalls) (m : ProcessStateMachine α) (c : Call α) (w : World) :
    ((m.exec os c w).fired.toList.any fun t => t.newState == .suspended) = true ↔
      m.goal c = some .suspended := by
  rw [← m.exec_fired_isSome os c w]
  rcases (m.exec os c w).fired with _ | t
  · simp only [Option.toList_none, List.any_nil, Bool.false_eq_true, Option.map_none,
      reduceCtorEq]
  · simp only [Option.toList_some, List.any_cons, List.any_nil, Bool.or_false, beq_iff_eq,
      Option.map_some, Option.some.injEq]

/-- What other processes do before the call and after it does not count. -/
theorem suspends_exec_between (os : OsCalls) (m : ProcessStateMachine α) (c : Call α)
    (w u w' : World) (hu : w.SameFor m.batchProcessId u)
    (hw : (m.exec os c u).world.SameFor m.batchProcessId w')
    (t : Thread) (ht : t ∈ w.threads) (hp : t.ownerProcessId = m.batchProcessId)
    (halive : w.exited m.batchProcessId = false)
    (hsuspend : os.reaches os.suspendThread t.id = true)
    (hresume : os.reaches os.resumeThread t.id = true) (was : Prop) [Decidable was]
    (h : w.suspends t.id = if m.state = .suspended ∧ was then 1 else 0) :
    w'.suspends t.id =
      if (m.next c).state = .suspended ∧ (m.goal c = some .suspended ∨ was) then 1 else 0 := by
  have hthreads : t ∈ u.threads := by
    rw [hu.threads]
    exact ht
  -- The calls on other processes before and after leave the thread alone.
  have hafter : t ∈ (m.exec os c u).world.threads := by
    rw [exec_threads]
    exact hthreads
  rw [hw.suspends t hafter hp]
  refine suspends_exec os m c u t hthreads hp ?_ hsuspend hresume was ?_
  · rw [hu.exited]
    exact halive
  · rw [hu.suspends t ht hp]
    exact h

/-- One thread of a process, through whatever happens to the process. -/
theorem suspends_fate (os : OsCalls) (p : DWORD) (machine machine' : Option (ProcessStateMachine α))
    (w w' : World) (fired : List (Transition α)) (hfate : Fate os p machine w machine' w' fired)
    (t : Thread) (ht : t ∈ w.threads) (hp : t.ownerProcessId = p) (halive : w.exited p = false)
    (hsuspend : os.reaches os.suspendThread t.id = true)
    (hresume : os.reaches os.resumeThread t.id = true) (was : Prop) [Decidable was]
    (h : w.suspends t.id =
      if (machine.any fun m => m.state == .suspended) = true ∧ was then 1 else 0) :
    w'.suspends t.id =
      if (machine'.any fun m => m.state == .suspended) = true ∧
          ((fired.any fun t => t.newState == .suspended) = true ∨ was) then 1 else 0 := by
  cases hfate with
  | spared hw =>
      rw [hw.suspends t ht hp, h]
      simp only [List.any_nil, Bool.false_eq_true, false_or]
  | @called m _ u _ c hm hu hw =>
      subst hm
      simp only [Option.any_some, beq_iff_eq] at h ⊢
      rw [suspends_exec_between os m c w u w' hu hw t ht hp halive hsuspend hresume was h]
      simp only [any_fired]
  | @recovered m _ u _ hm hu hw =>
      subst hm
      simp only [Option.any_some, beq_iff_eq] at h
      -- The machine is erased, but the call before left it normal.
      have hnormal : (m.next .forceRecoverForShutdown).state ≠ .suspended := by
        rw [next_forceRecover_state]
        decide
      rw [suspends_exec_between os m .forceRecoverForShutdown w u w' hu hw t ht hp halive
        hsuspend hresume was h, if_neg (fun hc => hnormal hc.1)]
      simp only [Option.any_none, Bool.false_eq_true, false_and, if_false]
  | gone hm hex hw =>
      -- Only the machine of an ended process goes without a call.
      rw [hasExited, hm, halive, Bool.and_false] at hex
      cases hex
  | @forgotten m _ _ hm hn hw =>
      simp only [Option.any_some, hn, beq_iff_eq, reduceCtorEq, false_and, if_false] at h
      rw [hw.suspends t ht hp, h]
      simp only [Option.any_none, Bool.false_eq_true, false_and, if_false]
  | created processName config opened =>
      rw [h]
      simp only [Option.any_none, Option.any_some, create, beq_iff_eq, reduceCtorEq,
        Bool.false_eq_true, false_and, if_false]

/-- No fate changes what runs. -/
theorem fate_threads (os : OsCalls) (p : DWORD) (machine machine' : Option (ProcessStateMachine α))
    (w w' : World) (fired : List (Transition α))
    (hfate : Fate os p machine w machine' w' fired) :
    w'.threads = w.threads ∧ w'.exited = w.exited := by
  -- Nothing that the manager does starts or ends a thread.
  cases hfate with
  | spared hw => exact ⟨hw.threads, hw.exited⟩
  | called c hm hu hw =>
      refine ⟨?_, ?_⟩
      · rw [hw.threads, exec_threads, hu.threads]
      · rw [hw.exited, exec_exited, hu.exited]
  | recovered hm hu hw =>
      refine ⟨?_, ?_⟩
      · rw [hw.threads, exec_threads, hu.threads]
      · rw [hw.exited, exec_exited, hu.exited]
  | gone hm hex hw => exact ⟨hw.threads, hw.exited⟩
  | forgotten hm hn hw => exact ⟨hw.threads, hw.exited⟩
  | created processName config opened => exact ⟨rfl, rfl⟩

theorem mem_threadsOf (w : World) (t : Thread) (ht : t ∈ w.threads) :
    t.id ∈ w.threadsOf t.ownerProcessId :=
  List.mem_map_of_mem (List.mem_filter.mpr ⟨ht, BEq.rfl⟩)

/-- The invariant of a run: the balance, and every thread there is or was at
    the last suspension has a used id. -/
structure Kept (s : Ledger α) : Prop where
  balanced : Balanced s
  usedNow : ∀ t ∈ s.world.threads, t.id ∈ s.used
  usedThen : ∀ p, ∀ tid ∈ s.present p, tid ∈ s.used

omit [LE α] [DecidableLE α] [LT α] [DecidableLT α] [Zero α] in
/-- What ends takes its suspensions along. -/
theorem Kept.ended {s : Ledger α} (h : Kept s) (e : Ending) :
    Kept { s with world := s.world.ended e } where
  balanced := by
    intro t ht halive
    have halive' : s.world.exited t.ownerProcessId = false := (Bool.or_eq_false_iff.mp halive).1
    exact h.balanced t (List.mem_of_mem_filter ht) halive'
  usedNow t ht := h.usedNow t (List.mem_of_mem_filter ht)
  usedThen := h.usedThen

theorem kept_act (host : Host) (s : Ledger α) (os : DWORD → OsCalls) (a : Action α) (e : Ending)
    (hos : Succeeds os s.world e) (h : Kept s) : Kept (happen host s (.action os a e)) := by
  have hfate := fun p => fate_act host os s.manager s.world a p
  refine ⟨?_, ?_, ?_⟩
  · intro t ht halive
    have hruns := fate_threads _ _ _ _ _ _ _ (hfate t.ownerProcessId)
    have hkept := List.mem_filter.mp ht
    have hthere : t ∈ s.world.threads := by
      rw [← hruns.1]
      exact hkept.1
    have halive' := Bool.or_eq_false_iff.mp halive
    rw [hruns.2] at halive'
    have hstays : s.world.Stays e t :=
      ⟨hthere, halive'.1, of_decide_eq_true hkept.2, of_decide_eq_false halive'.2⟩
    have hcount := suspends_fate _ _ _ _ _ _ _ (hfate t.ownerProcessId) t hthere rfl halive'.1
      (hos.suspends t hstays) (hos.resumes t hstays) (t.id ∈ s.present t.ownerProcessId)
      (h.balanced t hthere halive'.1)
    refine hcount.trans ?_
    -- The threads recorded at a suspension include this one.
    have hpresent : (suspendedNow t.ownerProcessId (s.manager.act host os s.world a).fired = true ∨
          t.id ∈ s.present t.ownerProcessId) ↔
        t.id ∈ (happen host s (.action os a e)).present t.ownerProcessId := by
      simp only [happen]
      by_cases hnow : suspendedNow t.ownerProcessId (s.manager.act host os s.world a).fired = true
      · rw [if_pos hnow]
        exact iff_of_true (Or.inl hnow) (mem_threadsOf s.world t hthere)
      · rw [if_neg hnow]
        exact or_iff_right hnow
    simp only [← hpresent]
    rfl
  · intro t ht
    have hruns := fate_threads _ _ _ _ _ _ _ (hfate t.ownerProcessId)
    refine h.usedNow t ?_
    rw [← hruns.1]
    exact (List.mem_filter.mp ht).1
  · intro p tid htid
    simp only [happen] at htid
    split_ifs at htid with hnow
    · rcases List.mem_map.mp htid with ⟨t, ht, rfl⟩
      exact h.usedNow t (List.mem_of_mem_filter ht)
    · exact h.usedThen p tid htid

omit [LE α] [DecidableLE α] [LT α] [DecidableLT α] [Zero α] in
/-- A new thread was not there at any suspension. -/
theorem kept_threadStarts (s : Ledger α) (t : Thread) (hnew : t.id ∉ s.used) (h : Kept s) :
    Kept { s with world := s.world.startThread t, used := t.id :: s.used } := by
  -- A thread id that was never used is not in the snapshot.
  have hin : t.id ∉ s.world.threads.map Thread.id := by
    intro hmem
    rcases List.mem_map.mp hmem with ⟨t', ht', hid⟩
    exact hnew (by rw [← hid]; exact h.usedNow t' ht')
  unfold World.startThread
  rw [dif_neg hin]
  refine ⟨?_, ?_, fun p tid htid => List.mem_cons_of_mem _ (h.usedThen p tid htid)⟩
  · intro t' ht' halive
    rcases List.mem_cons.mp ht' with rfl | hold
    · -- Its id is unused, so no suspension has met it.
      have habsent : t'.id ∉ s.present t'.ownerProcessId :=
        fun hmem => hnew (h.usedThen _ _ hmem)
      rw [if_neg (fun hc => habsent hc.2)]
      exact Function.update_self ..
    · have hne : t'.id ≠ t.id := fun heq => hin (by rw [← heq]; exact List.mem_map_of_mem hold)
      simp only [Function.update_of_ne hne]
      exact h.balanced t' hold halive
  · intro t' ht'
    rcases List.mem_cons.mp ht' with rfl | hold
    · exact List.mem_cons_self ..
    · exact List.mem_cons_of_mem _ (h.usedNow t' hold)

theorem kept_happen (host : Host) (s : Ledger α) (i : Happening α) (hi : Regular s i)
    (h : Kept s) : Kept (happen host s i) := by
  cases i with
  | action os a e => exact kept_act host s os a e hi h
  | threadStarts t => exact kept_threadStarts s t hi h
  | ends e => exact h.ended e

/-- A new manager, on a system whose threads are known. -/
def Ledger.start (config : StateMachineConfig α) (w : World) : Ledger α where
  manager := { config := config }
  world := w
  used := w.threads.map Thread.id

/-- Suspensions are balanced in every run that starts with a new manager and no
    suspensions, if calls on what stays succeed and thread ids are not used
    again. -/
theorem run_balanced (host : Host) (config : StateMachineConfig α) (w : World)
    (hw : ∀ t ∈ w.threads, w.suspends t.id = 0) (l : List (Happening α))
    (hl : Along (happen host) Regular (Ledger.start config w) l) :
    Balanced (run (happen host) (Ledger.start config w) l) := by
  refine (run_invariant_along (happen host) Regular Kept (kept_happen host) l _ hl ?_).balanced
  refine ⟨?_, fun t ht => List.mem_map_of_mem ht, fun p tid htid => absurd htid List.not_mem_nil⟩
  intro t ht _
  have hnone : ¬ ((Ledger.start config w).suspended t.ownerProcessId = true ∧
      t.id ∈ (Ledger.start config w).present t.ownerProcessId) :=
    fun hc => absurd hc.2 List.not_mem_nil
  rw [if_neg hnone]
  exact hw t ht

omit [LE α] [DecidableLE α] [LT α] [DecidableLT α] [Zero α] in
theorem succeeds_succeeding (w : World) (e : Ending) : Succeeds (fun _ => .succeeding) w e where
  suspends _ _ := rfl
  resumes _ _ := rfl
  priority _ _ _ := rfl

end Counting

/-- A process is suspended, gets another thread, and is dropped while its first
    thread ends. -/
theorem run_balanced_drop :
    Balanced (run (happen ⟨1, id⟩)
      (Ledger.start (default : StateMachineConfig ℕ) (oneThread 4821 7))
      [.action (fun _ => .succeeding) (.addBatchProcess [98] 4821 true) {},
        .action (fun _ => .succeeding) (.forceState 4821 .suspended 0 true) {},
        .threadStarts ⟨8, 4821⟩,
        .action (fun _ => .succeeding) (.drop 4821) { threads := [7] }]) :=
  run_balanced ⟨1, id⟩ default (oneThread 4821 7) (fun _ _ => rfl) _
    ⟨succeeds_succeeding _ _, succeeds_succeeding _ _, show (8 : DWORD) ∉ [7] by decide,
      succeeds_succeeding _ _, trivial⟩

end Actuator

end ThreadHaul
