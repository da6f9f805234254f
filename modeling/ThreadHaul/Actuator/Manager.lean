import ThreadHaul.Actuator.StateMachine

/-!
# The Actuator Manager

The machines of all managed processes, and the operations that go through them.

`machines_` is a hash map from process ids to machines. Here it is a list whose
process ids are distinct, which is a field of the structure; the order of the
list stands for whatever order the map is walked in. Every walk of the source
is a `sweep`: it visits each machine once, with the system as the visits before
left it, and keeps the machine or erases it.

A visit only ever calls the operations of the machine it is at, and those only
ever touch the threads and the priority class of their own process. `SameFor`
says that nothing changed for one process, and `sweep_visit` is how the rest of
the development uses it: for one process, a whole sweep is the visit of its own
machine.

## Main definitions

* `World.SameFor`: Nothing changed for a process.
* `Host`: What the operating system says about the service itself.
* `ActuatorManager`: The managed processes.
* `sweep`: A walk over the machines.

## Theorems

* `actuate_sameFor`, `exec_sameFor`: A machine leaves other processes alone.
* `sweep_sameFor`: So does a sweep that visits only other processes.
* `sweep_visit`: What a sweep does to one process.
-/

namespace ThreadHaul

namespace Actuator

/-- Nothing changed for the process `p`. -/
structure World.SameFor (p : DWORD) (w w' : World) : Prop where
  threads : w'.threads = w.threads
  exited : w'.exited = w.exited
  priorityGiven : w'.priorityGiven p = w.priorityGiven p
  suspends : ∀ t ∈ w.threads, t.ownerProcessId = p → w'.suspends t.id = w.suspends t.id

namespace World.SameFor

theorem refl (p : DWORD) (w : World) : SameFor p w w :=
  ⟨rfl, rfl, rfl, fun _ _ _ => rfl⟩

theorem trans {p : DWORD} {u v w : World} (h : SameFor p u v) (h' : SameFor p v w) :
    SameFor p u w where
  threads := h'.threads.trans h.threads
  exited := h'.exited.trans h.exited
  priorityGiven := h'.priorityGiven.trans h.priorityGiven
  suspends := by
    intro t ht hp
    rw [h'.suspends t (by rw [h.threads]; exact ht) hp, h.suspends t ht hp]

end World.SameFor

/-- A thread of the process is listed under its id exactly if the snapshot walk
    comes to it. -/
theorem mem_enumerateThreadIds_of_owner (os : OsCalls) (w : World) (p : DWORD) (t : Thread)
    (ht : t ∈ w.threads) (hp : t.ownerProcessId = p) :
    t.id ∈ enumerateThreadIds os w p ↔ os.listed t.id = true := by
  rw [mem_enumerateThreadIds]
  exact ⟨fun ⟨_, _, _, _, hl⟩ => hl, fun hl => ⟨t, ht, rfl, hp, hl⟩⟩

theorem not_mem_enumerateThreadIds (os : OsCalls) (w : World) (p q : DWORD) (hpq : p ≠ q)
    (t : Thread) (ht : t ∈ w.threads) (hp : t.ownerProcessId = p) :
    t.id ∉ enumerateThreadIds os w q := by
  rw [mem_enumerateThreadIds]
  rintro ⟨t', ht', hid, hq, _⟩
  -- Equal ids are the id of one thread, which has one owner.
  have heq : t' = t := List.inj_on_of_nodup_map w.distinct ht' ht hid
  rw [heq, hp] at hq
  exact hpq hq

theorem suspendAllThreads_sameFor (os : OsCalls) (w : World) (p q : DWORD) (hpq : p ≠ q) :
    w.SameFor p (suspendAllThreads os w q).1 := by
  rw [suspendAllThreads_world]
  refine ⟨rfl, rfl, rfl, ?_⟩
  intro t ht hp
  simp only [not_mem_enumerateThreadIds os w p q hpq t ht hp, false_and, if_false]

theorem resumeAllThreads_sameFor (os : OsCalls) (w : World) (p q : DWORD) (hpq : p ≠ q) :
    w.SameFor p (resumeAllThreads os w q).1 := by
  rw [resumeAllThreads_world]
  refine ⟨rfl, rfl, rfl, ?_⟩
  intro t ht hp
  simp only [not_mem_enumerateThreadIds os w p q hpq t ht hp, false_and, if_false]

theorem setProcessPriority_sameFor (os : OsCalls) (w : World) (p q : DWORD) (hpq : p ≠ q)
    (level : PriorityLevel) : w.SameFor p (setProcessPriority os w q level).1 := by
  rw [setProcessPriority_world]
  by_cases hs : (setProcessPriority os w q level).2 = .success
  · rw [if_pos hs]
    exact ⟨rfl, rfl, Function.update_of_ne hpq _ _, fun _ _ _ => rfl⟩
  · rw [if_neg hs]
    exact World.SameFor.refl p w

variable {α : Type*}

namespace ProcessStateMachine

theorem resumeIfSuspended_sameFor (os : OsCalls) (m : ProcessStateMachine α) (w : World)
    (p : DWORD) (hp : p ≠ m.batchProcessId) : w.SameFor p (m.resumeIfSuspended os w).1 := by
  unfold resumeIfSuspended
  by_cases hs : m.state = .suspended
  · rw [if_pos hs]
    exact resumeAllThreads_sameFor os w p _ hp
  · rw [if_neg hs]
    exact World.SameFor.refl p w

/-- The system calls of a transition concern its own process only. -/
theorem actuate_sameFor (os : OsCalls) (m : ProcessStateMachine α) (newState : ProcessState)
    (w : World) (p : DWORD) (hp : p ≠ m.batchProcessId) :
    w.SameFor p (m.actuate os newState w).1 := by
  have hresume := m.resumeIfSuspended_sameFor os w p hp
  unfold actuate
  by_cases hex : m.hasExited w
  · rw [if_pos hex]
    exact World.SameFor.refl p w
  · rw [if_neg hex]
    -- Each branch is a composition of calls on other processes.
    cases newState with
    | normal => exact hresume.trans (setProcessPriority_sameFor os _ p _ hp _)
    | throttled =>
        by_cases hres : (m.resumeIfSuspended os w).2
        · simp only [hres, if_true]
          exact hresume.trans (setProcessPriority_sameFor os _ p _ hp _)
        · simp only [hres, Bool.false_eq_true, if_false]
          exact hresume
    | suspended => exact suspendAllThreads_sameFor os w p _ hp

theorem exec_sameFor [LE α] [DecidableLE α] [LT α] [DecidableLT α] [Zero α] (os : OsCalls)
    (m : ProcessStateMachine α) (c : Call α) (w : World) (p : DWORD)
    (hp : p ≠ m.batchProcessId) : w.SameFor p (m.exec os c w).world := by
  rw [exec_world]
  cases m.goal c with
  | none => exact World.SameFor.refl p w
  | some newState =>
      exact (m.noted c).actuate_sameFor os newState w p
        (by rw [noted_batchProcessId]; exact hp)

end ProcessStateMachine

/-- What the operating system says about the service itself, and the table by
    which it folds letter case. -/
structure Host where
  currentProcessId : DWORD
  upcase : UInt16 → UInt16

/-- The string up to its terminator. -/
def cStr (s : WString) : WString := s.takeWhile (· ≠ 0)

/-- `CompareStringOrdinal` of two terminated strings, ignoring case. -/
def namesEqualIgnoreCase (host : Host) (a b : WString) : Bool :=
  (cStr a).map host.upcase == (cStr b).map host.upcase

/-- A wide string literal. -/
def wide (s : String) : WString := s.toList.map fun c => c.toNat.toUInt16

/-- `kAlwaysProtected`. -/
def alwaysProtectedNames : List WString :=
  ["[System Process]", "System", "Registry", "smss.exe", "csrss.exe", "wininit.exe",
    "winlogon.exe", "services.exe", "lsass.exe", "svchost.exe", "dwm.exe", "fontdrvhost.exe",
    "LsaIso.exe", "Memory Compression", "Secure System"].map wide

/-- `ActuatorManager`. The map is keyed by the process id of the machine. -/
structure ActuatorManager (α : Type*) where
  config : StateMachineConfig α
  protectedNames : List WString := []
  machines : List (ProcessStateMachine α) := []
  distinct : (machines.map ProcessStateMachine.batchProcessId).Nodup := by exact List.nodup_nil

/-- What a visit to one machine comes to. Without `kept` the machine is erased. -/
structure Visit (α : Type*) where
  kept : Option (ProcessStateMachine α)
  world : World
  changed : Bool := false
  fired : List (Transition α) := []

/-- A visit that calls an operation and keeps the machine. -/
def ProcessStateMachine.Outcome.visit (out : ProcessStateMachine.Outcome α) (changed : Bool) :
    Visit α where
  kept := some out.machine
  world := out.world
  changed := changed
  fired := out.fired.toList

/-- The machines left after a walk over `machines_`, the system, whether any
    visit reported a change, and the callbacks in order. -/
structure Swept (α : Type*) where
  machines : List (ProcessStateMachine α)
  world : World
  changed : Bool
  fired : List (Transition α)

/-- A walk over `machines_`. -/
def sweep (visit : ProcessStateMachine α → World → Visit α) :
    List (ProcessStateMachine α) → World → Swept α
  | [], w => ⟨[], w, false, []⟩
  | m :: ms, w =>
      let v := visit m w
      let rest := sweep visit ms v.world
      ⟨v.kept.toList ++ rest.machines, rest.world, v.changed || rest.changed,
        v.fired ++ rest.fired⟩

/-- A visit leaves the machine under its process id. -/
def KeepsId (visit : ProcessStateMachine α → World → Visit α) : Prop :=
  ∀ m w, ∀ m' ∈ (visit m w).kept, m'.batchProcessId = m.batchProcessId

theorem sweep_sublist (visit : ProcessStateMachine α → World → Visit α) (hv : KeepsId visit)
    (ms : List (ProcessStateMachine α)) (w : World) :
    ((sweep visit ms w).machines.map ProcessStateMachine.batchProcessId).Sublist
      (ms.map ProcessStateMachine.batchProcessId) := by
  induction ms generalizing w with
  | nil => exact List.Sublist.refl _
  | cons m ms ih =>
      simp only [sweep, List.map_append, List.map_cons]
      have hrest := ih (visit m w).world
      -- A visit may drop its machine, but it keeps the process id of one it leaves.
      rcases hk : (visit m w).kept with _ | m'
      · exact hrest.cons _
      · have hid : m'.batchProcessId = m.batchProcessId := hv m w m' hk
        simp only [Option.toList_some, List.map_cons, List.map_nil, List.singleton_append, hid]
        exact hrest.cons_cons _

theorem sweep_sameFor (visit : ProcessStateMachine α → World → Visit α) (p : DWORD)
    (hv : ∀ (m : ProcessStateMachine α) (w : World), p ≠ m.batchProcessId →
      w.SameFor p (visit m w).world)
    (ms : List (ProcessStateMachine α)) (hp : ∀ m ∈ ms, p ≠ m.batchProcessId) (w : World) :
    w.SameFor p (sweep visit ms w).world := by
  induction ms generalizing w with
  | nil => exact World.SameFor.refl p w
  | cons m ms ih =>
      have hm := hv m w (hp m (List.mem_cons_self ..))
      exact hm.trans (ih (fun m' hm' => hp m' (List.mem_cons_of_mem _ hm')) (visit m w).world)

/-- For the process of one of its machines, a sweep is the visit to that
    machine: nothing changes for the process before it or after it. -/
theorem sweep_visit (visit : ProcessStateMachine α → World → Visit α)
    (hv : ∀ (p : DWORD) (m : ProcessStateMachine α) (w : World), p ≠ m.batchProcessId →
      w.SameFor p (visit m w).world)
    (ms : List (ProcessStateMachine α))
    (hnd : (ms.map ProcessStateMachine.batchProcessId).Nodup) (m : ProcessStateMachine α)
    (hm : m ∈ ms) (w : World) :
    ∃ w', w.SameFor m.batchProcessId w' ∧
      (visit m w').world.SameFor m.batchProcessId (sweep visit ms w).world := by
  induction ms generalizing w with
  | nil => exact absurd hm List.not_mem_nil
  | cons a ms ih =>
      rw [List.map_cons, List.nodup_cons] at hnd
      rcases List.mem_cons.mp hm with rfl | htail
      · -- This is the machine; the ones after it have other process ids.
        refine ⟨w, World.SameFor.refl _ w, ?_⟩
        refine sweep_sameFor visit _ (hv _) ms ?_ (visit m w).world
        intro m' hm' heq
        exact hnd.1 (by rw [heq]; exact List.mem_map_of_mem hm')
      · have hne : m.batchProcessId ≠ a.batchProcessId := by
          intro heq
          exact hnd.1 (by rw [← heq]; exact List.mem_map_of_mem htail)
        rcases ih hnd.2 htail (visit a w).world with ⟨w', hw', hrest⟩
        exact ⟨w', (hv _ a w hne).trans hw', hrest⟩

namespace ActuatorManager

/-- The manager after a walk over its machines. -/
def afterSweep (manager : ActuatorManager α) (visit : ProcessStateMachine α → World → Visit α)
    (hv : KeepsId visit) (w : World) : ActuatorManager α :=
  { manager with
    machines := (sweep visit manager.machines w).machines
    distinct := (sweep_sublist visit hv manager.machines w).nodup manager.distinct }

/-- A manager, the system, the value returned and the callbacks made. -/
structure Result (α : Type*) where
  manager : ActuatorManager α
  world : World
  returned : Bool
  fired : List (Transition α)

/-- `IsProtected`: the daemon itself, the built-in names, and the configured ones. -/
def isProtected (host : Host) (manager : ActuatorManager α) (processName : WString)
    (processId : DWORD) : Bool :=
  processId == host.currentProcessId ||
    alwaysProtectedNames.any (namesEqualIgnoreCase host processName) ||
    manager.protectedNames.any (namesEqualIgnoreCase host processName)

/-- The machine of a process, as `machines_.find` looks for it. -/
def find (manager : ActuatorManager α) (processId : DWORD) : Option (ProcessStateMachine α) :=
  manager.machines.find? fun m => m.batchProcessId == processId

theorem find_eq_none (manager : ActuatorManager α) (processId : DWORD)
    (h : manager.find processId = none) :
    processId ∉ manager.machines.map ProcessStateMachine.batchProcessId := by
  intro hmem
  rcases List.mem_map.mp hmem with ⟨m, hm, hid⟩
  have hnot := List.find?_eq_none.mp h m hm
  exact hnot (by rw [hid]; exact BEq.rfl)

/-- `opened`: the constructor of the machine gets a handle to the process. -/
def addBatchProcess (host : Host) (opened : Bool) (manager : ActuatorManager α)
    (processName : WString) (processId : DWORD) : ActuatorManager α × Bool :=
  if manager.isProtected host processName processId then (manager, false)
  else
    match h : manager.find processId with
    | some _ => (manager, true)
    | none =>
        ({ manager with
            machines :=
              ProcessStateMachine.create processName processId manager.config opened
                :: manager.machines
            distinct := List.nodup_cons.mpr ⟨manager.find_eq_none processId h, manager.distinct⟩ },
          true)

/-- `RemoveBatchProcess`. -/
def removeBatchProcess (manager : ActuatorManager α) (processId : DWORD) : ActuatorManager α :=
  { manager with
    machines := manager.machines.filter fun m => m.batchProcessId != processId
    distinct :=
      (List.filter_sublist.map ProcessStateMachine.batchProcessId).nodup manager.distinct }

/-- `SetConfig`: the manager and all its machines. -/
def setConfig (manager : ActuatorManager α) (config : StateMachineConfig α) :
    ActuatorManager α :=
  { manager with
    config := config
    machines := manager.machines.map fun m => m.setConfig config
    distinct := by
      rw [List.map_map]
      exact manager.distinct }

section Control

variable [LE α] [DecidableLE α] [LT α] [DecidableLT α] [Zero α]

/-- The visit of a loop that calls one operation on every machine. -/
def visitCall (os : DWORD → OsCalls) (c : Call α) (m : ProcessStateMachine α) (w : World) :
    Visit α :=
  (m.exec (os m.batchProcessId) c w).visit false

/-- The visit of `UpdateAll`. -/
def visitUpdate (os : DWORD → OsCalls) (x : α) (m : ProcessStateMachine α) (w : World) : Visit α :=
  if m.hasExited w then { kept := none, world := w }
  else
    let (out, changed) := m.update (os m.batchProcessId) x w
    out.visit changed

/-- The visit of `SetProtectedProcessNames`: what is protected now is recovered
    and dropped. -/
def visitProtect (os : DWORD → OsCalls) (isProtected : WString → DWORD → Bool)
    (m : ProcessStateMachine α) (w : World) : Visit α :=
  if isProtected m.batchProcessName m.batchProcessId then
    let out := m.forceRecoverForShutdown (os m.batchProcessId) w
    { kept := none, world := out.world, fired := out.fired.toList }
  else { kept := some m, world := w }

/-- The visit of an operation on the machine of one process. -/
def visitOne (os : OsCalls) (processId : DWORD) (c : Call α) (m : ProcessStateMachine α)
    (w : World) : Visit α :=
  if m.batchProcessId = processId then (m.exec os c w).visit false
  else { kept := some m, world := w }

theorem exec_visit_keepsId (os : OsCalls) (m : ProcessStateMachine α) (c : Call α) (w : World)
    (changed : Bool) (m' : ProcessStateMachine α)
    (h : m' ∈ ((m.exec os c w).visit changed).kept) : m'.batchProcessId = m.batchProcessId := by
  have hm' : (m.exec os c w).machine = m' := Option.some.inj h
  rw [← hm', ProcessStateMachine.exec_machine, ProcessStateMachine.next_batchProcessId]

theorem keepsId_visitCall (os : DWORD → OsCalls) (c : Call α) : KeepsId (visitCall os c) :=
  fun m w m' h => exec_visit_keepsId _ m c w false m' h

theorem keepsId_visitUpdate (os : DWORD → OsCalls) (x : α) : KeepsId (visitUpdate os x) := by
  intro m w m' h
  unfold visitUpdate at h
  by_cases hex : m.hasExited w
  · rw [if_pos hex] at h
    exact absurd h (Option.not_mem_none _)
  · rw [if_neg hex] at h
    exact exec_visit_keepsId _ m (.update x) w _ m' h

omit [DecidableLE α] [LE α] [LT α] [DecidableLT α] in
theorem keepsId_visitProtect (os : DWORD → OsCalls) (isProtected : WString → DWORD → Bool) :
    KeepsId (visitProtect (α := α) os isProtected) := by
  intro m w m' h
  unfold visitProtect at h
  by_cases hp : isProtected m.batchProcessName m.batchProcessId
  · rw [if_pos hp] at h
    exact absurd h (Option.not_mem_none _)
  · rw [if_neg hp] at h
    rw [Option.some.inj h]

theorem keepsId_visitOne (os : OsCalls) (processId : DWORD) (c : Call α) :
    KeepsId (visitOne os processId c) := by
  intro m w m' h
  unfold visitOne at h
  by_cases hp : m.batchProcessId = processId
  · rw [if_pos hp] at h
    exact exec_visit_keepsId _ m c w false m' h
  · rw [if_neg hp] at h
    rw [Option.some.inj h]

/-- `UpdateAll`: a machine whose process has exited goes, and every other one is updated. -/
def updateAll (os : DWORD → OsCalls) (manager : ActuatorManager α) (x : α) (w : World) :
    Result α :=
  let s := sweep (visitUpdate os x) manager.machines w
  ⟨manager.afterSweep _ (keepsId_visitUpdate os x) w, s.world, s.changed, s.fired⟩

/-- `ForceRecoverAllForShutdown`. -/
def forceRecoverAllForShutdown (os : DWORD → OsCalls) (manager : ActuatorManager α) (w : World) :
    Result α :=
  let s := sweep (visitCall os .forceRecoverForShutdown) manager.machines w
  ⟨manager.afterSweep _ (keepsId_visitCall os .forceRecoverForShutdown) w, s.world, s.changed,
    s.fired⟩

/-- `SetProtectedProcessNames`: what the new list protects is recovered and let go. -/
def setProtectedProcessNames (host : Host) (os : DWORD → OsCalls) (manager : ActuatorManager α)
    (names : List WString) (w : World) : Result α :=
  let named := { manager with protectedNames := names }
  let s := sweep (visitProtect os (named.isProtected host)) named.machines w
  ⟨named.afterSweep _ (keepsId_visitProtect os (named.isProtected host)) w, s.world, s.changed,
    s.fired⟩

/-- `ForceState`: it says whether there is a machine for the process. -/
def forceState (os : OsCalls) (manager : ActuatorManager α) (processId : DWORD)
    (newState : ProcessState) (cpuPercent : α) (hold : Bool) (w : World) : Result α :=
  let c := Call.forceState newState cpuPercent hold
  let s := sweep (visitOne os processId c) manager.machines w
  ⟨manager.afterSweep _ (keepsId_visitOne os processId c) w, s.world,
    (manager.find processId).isSome, s.fired⟩

/-- `ReleaseManualHold`: it says whether there is a machine for the process. -/
def releaseManualHold (os : OsCalls) (manager : ActuatorManager α) (processId : DWORD)
    (w : World) : Result α :=
  let s := sweep (visitOne os processId .releaseManualHold) manager.machines w
  ⟨manager.afterSweep _ (keepsId_visitOne os processId .releaseManualHold) w, s.world,
    (manager.find processId).isSome, s.fired⟩

end Control

end ActuatorManager

end Actuator

end ThreadHaul
