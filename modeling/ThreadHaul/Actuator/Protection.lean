import ThreadHaul.Actuator.Operations
import ThreadHaul.Lib.Runs
import Mathlib.Algebra.Order.Field.Rat

/-!
# Protected Processes Are Not Managed

A name can become protected while a process of that name is managed. The walk
of `SetProtectedProcessNames` meets every machine there is, so afterwards no
machine is left whose name or process id the new list protects, and a machine
that goes is recovered before it goes. Every other operation either leaves the
list, the names and the process ids alone, or asks `IsProtected` first.

The system may change in any way between two operations, and every system call
may fail: nothing here depends on how a call comes out.

## Main definitions

* `Guarded`: No managed process is protected.
* `Recovered`: What is dropped was normal or became normal.
* `Input`, `operate`: An operation, or a change elsewhere.
* `Input.protects`: The list of protected names after it.

## Theorems

* `guarded_sweep`: A walk that keeps names keeps the guard.
* `guarded_perform`: So does every operation.
* `recovered_setProtectedProcessNames`: What a new protection list drops.
* `run_guarded_and_recovered`: Every run.
-/

namespace ThreadHaul

namespace Actuator

open Runs ActuatorManager

variable {α : Type*}

/-- No managed process is protected. -/
def Guarded (host : Host) (manager : ActuatorManager α) : Prop :=
  ∀ m ∈ manager.machines,
    manager.isProtected host m.batchProcessName m.batchProcessId = false

/-- Every machine that is gone was normal, or called back about becoming
    normal. -/
def Recovered (manager : ActuatorManager α) (r : Result α) : Prop :=
  ∀ m ∈ manager.machines, r.manager.find m.batchProcessId = none →
    m.state = .normal ∨
      ∃ t ∈ r.fired, t.batchProcessId = m.batchProcessId ∧
        t.batchProcessName = m.batchProcessName ∧ t.oldState = m.state ∧ t.newState = .normal

/-- A visit that keeps a machine keeps its name and process id. -/
def KeepsName (visit : ProcessStateMachine α → World → Visit α) : Prop :=
  ∀ m w, ∀ m' ∈ (visit m w).kept,
    m'.batchProcessName = m.batchProcessName ∧ m'.batchProcessId = m.batchProcessId

theorem guarded_sweep (host : Host) (manager : ActuatorManager α)
    (visit : ProcessStateMachine α → World → Visit α) (hid : KeepsId visit)
    (hname : KeepsName visit) (w : World) (h : Guarded host manager) :
    Guarded host (manager.afterSweep visit hid w) := by
  intro m' hm'
  rcases mem_sweep manager.machines w m' hm' with ⟨m, hm, w', hkept⟩
  rcases hname m w' m' hkept with ⟨hn, hp⟩
  rw [hn, hp]
  exact h m hm

/-- A protected process is refused. -/
theorem guarded_addBatchProcess (host : Host) (opened : Bool) (manager : ActuatorManager α)
    (processName : WString) (processId : DWORD) (h : Guarded host manager) :
    Guarded host (manager.addBatchProcess host opened processName processId).1 := by
  intro m hm
  unfold addBatchProcess at hm ⊢
  by_cases hprot : manager.isProtected host processName processId = true
  · rw [if_pos hprot] at hm ⊢
    exact h m hm
  · rw [if_neg hprot] at hm ⊢
    -- `IsProtected` was asked; a machine that was there before is as it was.
    split at hm
    · exact h m hm
    · rcases List.mem_cons.mp hm with rfl | hm
      · exact Bool.eq_false_iff.mpr hprot
      · exact h m hm

variable [LE α] [DecidableLE α] [LT α] [DecidableLT α] [Zero α]

theorem keepsName_exec (os : OsCalls) (m : ProcessStateMachine α) (c : Call α) (w : World)
    (changed : Bool) (m' : ProcessStateMachine α)
    (h : m' ∈ ((m.exec os c w).visit changed).kept) :
    m'.batchProcessName = m.batchProcessName ∧ m'.batchProcessId = m.batchProcessId := by
  have hm' : (m.exec os c w).machine = m' := Option.some.inj h
  rw [← hm', ProcessStateMachine.exec_machine]
  exact ⟨m.next_batchProcessName c, m.next_batchProcessId c⟩

theorem keepsName_visitUpdate (os : DWORD → OsCalls) (x : α) :
    KeepsName (visitUpdate os x) := by
  intro m w m' h
  unfold visitUpdate at h
  by_cases hex : m.hasExited w
  · rw [if_pos hex] at h
    exact absurd h (Option.not_mem_none _)
  · rw [if_neg hex] at h
    exact keepsName_exec _ m (.update x) w _ m' h

theorem keepsName_visitOne (os : OsCalls) (processId : DWORD) (c : Call α) :
    KeepsName (visitOne os processId c) := by
  intro m w m' h
  unfold visitOne at h
  by_cases hp : m.batchProcessId = processId
  · rw [if_pos hp] at h
    exact keepsName_exec os m c w false m' h
  · rw [if_neg hp] at h
    cases h
    exact ⟨rfl, rfl⟩

omit [LE α] [DecidableLE α] [LT α] [DecidableLT α] in
/-- What a new protection list leaves is not on it. -/
theorem guarded_setProtectedProcessNames (host : Host) (os : DWORD → OsCalls)
    (manager : ActuatorManager α) (names : List WString) (w : World) :
    Guarded host (manager.setProtectedProcessNames host os names w).manager := by
  intro m' hm'
  rcases mem_sweep _ w m' hm' with ⟨m, _, w', hkept⟩
  unfold visitProtect at hkept
  let named : ActuatorManager α := { manager with protectedNames := names }
  -- The walk asks about the new list, not about the one before.
  change m' ∈ (if named.isProtected host m.batchProcessName m.batchProcessId = true
    then _ else _ : Visit α).kept at hkept
  by_cases hp : named.isProtected host m.batchProcessName m.batchProcessId = true
  · rw [if_pos hp] at hkept
    exact absurd hkept (Option.not_mem_none _)
  · rw [if_neg hp] at hkept
    cases hkept
    exact Bool.eq_false_iff.mpr hp

/-- What a new protection list drops was normal or becomes normal. -/
theorem recovered_setProtectedProcessNames (host : Host) (os : DWORD → OsCalls)
    (manager : ActuatorManager α) (names : List WString) (w : World) :
    Recovered manager (manager.setProtectedProcessNames host os names w) := by
  intro m hm hgone
  let named : ActuatorManager α := { manager with protectedNames := names }
  have hconcerned := concerned_visitProtect (α := α) os (named.isProtected host)
  have hfind := machineOf_of_mem manager.machines manager.distinct m hm
  rcases sweep_find_some hconcerned manager.machines manager.distinct w _ m hfind with
    ⟨w', _, _, hmachine, hfired⟩
  -- The machine is gone, so its visit dropped it, and it is on the new list.
  have hgone' : (visitProtect os (named.isProtected host) m w').kept = none :=
    hmachine.symm.trans hgone
  by_cases hprot : named.isProtected host m.batchProcessName m.batchProcessId = true
  · by_cases hnormal : m.state = .normal
    · exact Or.inl hnormal
    · -- The recovery is a transition, and its callback is among those of the walk.
      right
      have hvisit : visitProtect os (named.isProtected host) m w'
          = { kept := none
              world := (m.forceRecoverForShutdown (os m.batchProcessId) w').world
              fired := (m.forceRecoverForShutdown (os m.batchProcessId) w').fired.toList } :=
        if_pos hprot
      rw [hvisit] at hfired
      have hgoal : m.goal .forceRecoverForShutdown = some .normal := if_neg hnormal
      have hsome := m.exec_fired_isSome (os m.batchProcessId) .forceRecoverForShutdown w'
      rw [hgoal] at hsome
      rcases Option.map_eq_some_iff.mp hsome with ⟨t, ht, hnew⟩
      rcases m.exec_fired (os m.batchProcessId) .forceRecoverForShutdown w' t ht with
        ⟨hpid, hname, hold, _⟩
      have hmem : t ∈ firedFor m.batchProcessId
          (sweep (visitProtect os (named.isProtected host)) manager.machines w).fired := by
        rw [hfired]
        exact Option.mem_toList.mpr ht
      exact ⟨t, (List.mem_filter.mp hmem).1, hpid, hname, hold, hnew⟩
  · have hvisit : visitProtect os (named.isProtected host) m w'
        = { kept := some m, world := w' } := if_neg hprot
    rw [hvisit] at hgone'
    cases hgone'

/-- Every operation keeps protected processes out. -/
theorem guarded_perform (host : Host) (os : DWORD → OsCalls) (manager : ActuatorManager α)
    (w : World) (op : Operation α) (h : Guarded host manager) :
    Guarded host (manager.perform host os w op).manager := by
  cases op with
  | addBatchProcess processName processId opened =>
      exact guarded_addBatchProcess host opened manager processName processId h
  | setProtectedProcessNames names => exact guarded_setProtectedProcessNames host os manager names w
  | removeBatchProcess processId => exact fun m hm => h m (List.mem_of_mem_filter hm)
  | onThresholdEvent evt =>
      exact guarded_sweep host manager _ (keepsId_visitUpdate os _) (keepsName_visitUpdate os _) w h
  | updateAll x =>
      exact guarded_sweep host manager _ (keepsId_visitUpdate os x) (keepsName_visitUpdate os x) w h
  | setConfig config =>
      -- New thresholds change no name and no process id.
      intro m' hm'
      rcases List.mem_map.mp hm' with ⟨m, hm, rfl⟩
      exact h m hm
  | forceState processId newState x hold =>
      exact guarded_sweep host manager _ (keepsId_visitOne _ processId _)
        (keepsName_visitOne _ processId _) w h
  | releaseManualHold processId =>
      exact guarded_sweep host manager _ (keepsId_visitOne _ processId _)
        (keepsName_visitOne _ processId _) w h

/-- An operation of the manager, with the way its system calls come out, or a
    change of the system that the service has no part in. -/
inductive Input (α : Type*)
  | operation (os : DWORD → OsCalls) (op : Operation α)
  | elsewhere (w : World)

/-- One operation, or the change. -/
def operate (host : Host) (s : ActuatorManager α × World) : Input α → ActuatorManager α × World
  | .operation os op => let r := s.1.perform host os s.2 op; (r.manager, r.world)
  | .elsewhere w => (s.1, w)

/-- The list of protected names after an operation. -/
def Input.protects (names : List WString) : Input α → List WString
  | .operation _ (.setProtectedProcessNames names') => names'
  | _ => names

/-- Only `SetProtectedProcessNames` changes the list. -/
theorem protectedNames_operate (host : Host) (s : ActuatorManager α × World) (i : Input α) :
    (operate host s i).1.protectedNames = i.protects s.1.protectedNames := by
  cases i with
  | elsewhere w => rfl
  | operation os op =>
      cases op with
      | addBatchProcess processName processId opened =>
          -- A process that is refused, managed already or added leaves the list alone.
          change (s.1.addBatchProcess host opened processName processId).1.protectedNames = _
          unfold addBatchProcess
          by_cases hprot : s.1.isProtected host processName processId = true
          · rw [if_pos hprot]
            rfl
          · rw [if_neg hprot]
            split
            · rfl
            · rfl
      | _ => rfl

/-- After every run no managed process is protected by the list that is in force, which
    is the last one set, and what a new protection list drops then was normal or becomes
    normal. -/
theorem run_guarded_and_recovered (host : Host) (config : StateMachineConfig α) (w : World)
    (l : List (Input α)) :
    (run (operate host) ({ config := config }, w) l).1.protectedNames =
        l.foldl Input.protects [] ∧
      Guarded host (run (operate host) ({ config := config }, w) l).1 ∧
      ∀ (os : DWORD → OsCalls) (names : List WString),
        Recovered (run (operate host) ({ config := config }, w) l).1
          ((run (operate host) ({ config := config }, w) l).1.setProtectedProcessNames host os
            names (run (operate host) ({ config := config }, w) l).2) := by
  refine ⟨?_, ?_, fun os names => recovered_setProtectedProcessNames host os _ names _⟩
  · exact run_foldl (operate host) (fun s => s.1.protectedNames) Input.protects
      (protectedNames_operate host) l _
  -- The guard is an invariant, from a manager without machines.
  refine run_invariant (operate host) (fun s => Guarded host s.1) ?_ l _ ?_
  · intro s i h
    cases i with
    | operation os op => exact guarded_perform host os s.1 s.2 op h
    | elsewhere w => exact h
  · exact fun m hm => absurd hm List.not_mem_nil

end Actuator

end ThreadHaul
