import ThreadHaul.Actuator.Manager

/-!
# The Operations of the Manager

Everything its owner can ask of the manager, as one type, and what one
operation means for one process.

A walk over the machines calls each machine in turn, and a machine concerns its
own process only. So for a process without a machine a walk is nothing at all,
and for a process with one it is the visit to that machine: what becomes of the
machine, what happens to the process, and which callbacks name it. These are
`sweep_find_none` and `sweep_find_some`, and every operation is read through
them.

## Main definitions

* `Concerned`: A visit concerns the process of its machine only.
* `firedFor`: The callbacks that name a process.
* `Operation`, `perform`: A call of a public operation of the manager.

## Theorems

* `sweep_find_none`, `sweep_find_some`: A walk, as one process sees it.
* `find_addBatchProcess`, `find_removeBatchProcess`, `find_setConfig`: The
  operations that are no walks.
-/

namespace ThreadHaul

namespace Actuator

variable {α : Type*}

/-- A visit touches the process of its machine only, keeps the process id of
    the machine, and calls back about nothing else. -/
structure Concerned (visit : ProcessStateMachine α → World → Visit α) : Prop where
  keepsId : KeepsId visit
  sameFor : ∀ (p : DWORD) (m : ProcessStateMachine α) (w : World), p ≠ m.batchProcessId →
    w.SameFor p (visit m w).world
  fires : ∀ (m : ProcessStateMachine α) (w : World), ∀ t ∈ (visit m w).fired,
    t.batchProcessId = m.batchProcessId

/-- The callbacks that name a process. -/
def firedFor (p : DWORD) (fired : List (Transition α)) : List (Transition α) :=
  fired.filter fun t => t.batchProcessId == p

theorem firedFor_append (p : DWORD) (fired fired' : List (Transition α)) :
    firedFor p (fired ++ fired') = firedFor p fired ++ firedFor p fired' :=
  List.filter_append fired fired'

theorem firedFor_own (p : DWORD) (fired : List (Transition α))
    (h : ∀ t ∈ fired, t.batchProcessId = p) : firedFor p fired = fired := by
  refine List.filter_eq_self.mpr ?_
  intro t ht
  rw [h t ht]
  exact BEq.rfl

theorem firedFor_other (p q : DWORD) (fired : List (Transition α)) (hpq : p ≠ q)
    (h : ∀ t ∈ fired, t.batchProcessId = q) : firedFor p fired = [] := by
  refine List.filter_eq_nil_iff.mpr ?_
  intro t ht heq
  rw [h t ht, beq_iff_eq] at heq
  exact hpq heq.symm

/-- The machine of a process, in a list of machines. -/
def machineOf (ms : List (ProcessStateMachine α)) (p : DWORD) :
    Option (ProcessStateMachine α) :=
  ms.find? fun m => m.batchProcessId == p

theorem machineOf_cons_self (m : ProcessStateMachine α) (ms : List (ProcessStateMachine α)) :
    machineOf (m :: ms) m.batchProcessId = some m := by
  refine List.find?_cons_of_pos ?_
  exact beq_self_eq_true m.batchProcessId

theorem machineOf_cons_ne (m : ProcessStateMachine α) (ms : List (ProcessStateMachine α))
    (p : DWORD) (hp : p ≠ m.batchProcessId) : machineOf (m :: ms) p = machineOf ms p := by
  refine List.find?_cons_of_neg ?_
  rw [beq_iff_eq]
  exact fun heq => hp heq.symm

theorem machineOf_some (ms : List (ProcessStateMachine α)) (p : DWORD)
    (m : ProcessStateMachine α) (h : machineOf ms p = some m) :
    m ∈ ms ∧ m.batchProcessId = p :=
  have hid := List.find?_some (p := fun a : ProcessStateMachine α => a.batchProcessId == p) h
  ⟨List.mem_of_find?_eq_some h, beq_iff_eq.mp hid⟩

theorem machineOf_none (ms : List (ProcessStateMachine α)) (p : DWORD)
    (h : machineOf ms p = none) : ∀ m ∈ ms, p ≠ m.batchProcessId := by
  intro m hm heq
  have hnot := List.find?_eq_none.mp h m hm
  rw [heq] at hnot
  exact hnot BEq.rfl

theorem machineOf_eq_none (ms : List (ProcessStateMachine α)) (p : DWORD)
    (h : ∀ m ∈ ms, p ≠ m.batchProcessId) : machineOf ms p = none := by
  refine List.find?_eq_none.mpr ?_
  intro m hm heq
  exact h m hm (beq_iff_eq.mp heq).symm

/-- With distinct process ids, every machine is the one of its process. -/
theorem machineOf_of_mem (ms : List (ProcessStateMachine α))
    (hnd : (ms.map ProcessStateMachine.batchProcessId).Nodup) (m : ProcessStateMachine α)
    (hm : m ∈ ms) : machineOf ms m.batchProcessId = some m := by
  rcases hfind : machineOf ms m.batchProcessId with _ | m'
  · exact absurd rfl (machineOf_none ms _ hfind m hm)
  · rcases machineOf_some ms _ m' hfind with ⟨hm', hid⟩
    rw [List.inj_on_of_nodup_map hnd hm' hm hid]

section Sweep

variable {visit : ProcessStateMachine α → World → Visit α}

/-- A machine that a walk leaves has the process id of one it found. -/
theorem sweep_ids_subset (hv : Concerned visit) (ms : List (ProcessStateMachine α)) (w : World) :
    ∀ m' ∈ (sweep visit ms w).machines, ∃ m ∈ ms, m.batchProcessId = m'.batchProcessId := by
  intro m' hm'
  have hsub := (sweep_sublist visit hv.keepsId ms w).subset (List.mem_map_of_mem hm')
  exact List.mem_map.mp hsub

/-- A machine that a walk leaves is one that a visit kept. -/
theorem mem_sweep (ms : List (ProcessStateMachine α)) (w : World) :
    ∀ m' ∈ (sweep visit ms w).machines, ∃ m ∈ ms, ∃ w', m' ∈ (visit m w').kept := by
  induction ms generalizing w with
  | nil => exact fun m' hm' => absurd hm' List.not_mem_nil
  | cons m ms ih =>
      intro m' hm'
      simp only [sweep, List.mem_append] at hm'
      rcases hm' with hkept | hrest
      · exact ⟨m, List.mem_cons_self .., w, Option.mem_toList.mp hkept⟩
      · rcases ih (visit m w).world m' hrest with ⟨a, ha, w', hkept⟩
        exact ⟨a, List.mem_cons_of_mem _ ha, w', hkept⟩

/-- A walk that finds no machine of a process passes it by. -/
theorem sweep_find_none (hv : Concerned visit) (ms : List (ProcessStateMachine α)) (w : World)
    (p : DWORD) (h : machineOf ms p = none) :
    w.SameFor p (sweep visit ms w).world ∧
      machineOf (sweep visit ms w).machines p = none ∧
      firedFor p (sweep visit ms w).fired = [] := by
  have hne := machineOf_none ms p h
  refine ⟨sweep_sameFor visit p (hv.sameFor p) ms hne w, ?_, ?_⟩
  · refine machineOf_eq_none _ p ?_
    intro m' hm'
    rcases sweep_ids_subset hv ms w m' hm' with ⟨m, hm, hid⟩
    rw [← hid]
    exact hne m hm
  · -- No visit calls back about the process, since no machine is for it.
    clear h
    induction ms generalizing w with
    | nil => rfl
    | cons m ms ih =>
        have hm := hne m (List.mem_cons_self ..)
        simp only [sweep, firedFor_append]
        rw [firedFor_other p m.batchProcessId _ hm (hv.fires m w), List.nil_append]
        exact ih (visit m w).world (fun m' hm' => hne m' (List.mem_cons_of_mem _ hm'))

/-- For a process with a machine, a walk is the visit to that machine. -/
theorem sweep_find_some (hv : Concerned visit) (ms : List (ProcessStateMachine α))
    (hnd : (ms.map ProcessStateMachine.batchProcessId).Nodup) (w : World) (p : DWORD)
    (m : ProcessStateMachine α) (h : machineOf ms p = some m) :
    ∃ w', w.SameFor p w' ∧ (visit m w').world.SameFor p (sweep visit ms w).world ∧
      machineOf (sweep visit ms w).machines p = (visit m w').kept ∧
      firedFor p (sweep visit ms w).fired = (visit m w').fired := by
  induction ms generalizing w with
  | nil => cases h
  | cons a ms ih =>
      rw [List.map_cons, List.nodup_cons] at hnd
      by_cases hp : p = a.batchProcessId
      · -- This is the machine; the ones after it have other process ids.
        subst hp
        rw [machineOf_cons_self] at h
        cases h
        have hnone : machineOf ms m.batchProcessId = none := by
          refine machineOf_eq_none ms _ ?_
          intro m' hm' heq
          exact hnd.1 (by rw [heq]; exact List.mem_map_of_mem hm')
        rcases sweep_find_none hv ms (visit m w).world _ hnone with ⟨hworld, hmachine, hfired⟩
        refine ⟨w, World.SameFor.refl _ w, hworld, ?_, ?_⟩
        · simp only [sweep]
          rcases hk : (visit m w).kept with _ | m'
          · exact hmachine
          · have hid : m'.batchProcessId = m.batchProcessId := hv.keepsId m w m' hk
            rw [Option.toList_some, List.singleton_append, ← hid]
            exact machineOf_cons_self m' _
        · simp only [sweep, firedFor_append, hfired, List.append_nil]
          exact firedFor_own _ _ (hv.fires m w)
      · -- Another machine comes first; its visit has no part in this process.
        rw [machineOf_cons_ne a ms p hp] at h
        rcases ih hnd.2 (visit a w).world h with ⟨w', hw', hworld, hmachine, hfired⟩
        refine ⟨w', (hv.sameFor p a w hp).trans hw', hworld, ?_, ?_⟩
        · simp only [sweep]
          rcases hk : (visit a w).kept with _ | a'
          · exact hmachine
          · have hid : a'.batchProcessId = a.batchProcessId := hv.keepsId a w a' hk
            rw [Option.toList_some, List.singleton_append,
              machineOf_cons_ne a' _ p (by rw [hid]; exact hp)]
            exact hmachine
        · simp only [sweep, firedFor_append]
          rw [firedFor_other p a.batchProcessId _ hp (hv.fires a w), List.nil_append]
          exact hfired

end Sweep

namespace ProcessStateMachine

section Names

variable [LE α] [DecidableLE α] [LT α] [DecidableLT α]

@[simp] theorem noted_batchProcessName (m : ProcessStateMachine α) (c : Call α) :
    (m.noted c).batchProcessName = m.batchProcessName := by
  cases c <;> rfl

theorem next_batchProcessName (m : ProcessStateMachine α) (c : Call α) :
    (m.next c).batchProcessName = m.batchProcessName := by
  unfold next
  cases m.goal c with
  | none => exact noted_batchProcessName m c
  | some newState => exact noted_batchProcessName m c

end Names

variable [LE α] [DecidableLE α] [LT α] [DecidableLT α] [Zero α]

/-- The callback of an operation is about the transition it makes. -/
theorem exec_fired (os : OsCalls) (m : ProcessStateMachine α) (c : Call α) (w : World) :
    ∀ t ∈ (m.exec os c w).fired, t.batchProcessId = m.batchProcessId ∧
      t.batchProcessName = m.batchProcessName ∧ t.oldState = m.state ∧
      m.goal c = some t.newState := by
  intro t ht
  rw [exec_eq] at ht
  rcases hg : m.goal c with _ | newState
  · simp only [hg, Option.not_mem_none] at ht
  · simp only [hg, transitionTo, Option.mem_def, Option.some.injEq] at ht
    rw [← ht]
    exact ⟨noted_batchProcessId m c, noted_batchProcessName m c, noted_state m c, rfl⟩

theorem exec_fired_isSome (os : OsCalls) (m : ProcessStateMachine α) (c : Call α) (w : World) :
    (m.exec os c w).fired.map Transition.newState = m.goal c := by
  rw [exec_eq]
  cases m.goal c with
  | none => rfl
  | some newState => rfl

end ProcessStateMachine

namespace ActuatorManager

section Control

variable [LE α] [DecidableLE α] [LT α] [DecidableLT α] [Zero α]

theorem concerned_visitUpdate (os : DWORD → OsCalls) (x : α) :
    Concerned (visitUpdate os x) where
  keepsId := keepsId_visitUpdate os x
  sameFor := by
    intro p m w hp
    unfold visitUpdate
    by_cases hex : m.hasExited w
    · rw [if_pos hex]
      exact World.SameFor.refl p w
    · rw [if_neg hex]
      exact m.exec_sameFor (os m.batchProcessId) (.update x) w p hp
  -- A machine that is dropped fires nothing, and an update fires for its own process.
  fires := by
    intro m w t ht
    unfold visitUpdate at ht
    by_cases hex : m.hasExited w
    · rw [if_pos hex] at ht
      exact absurd ht List.not_mem_nil
    · rw [if_neg hex] at ht
      exact (m.exec_fired (os m.batchProcessId) (.update x) w t (Option.mem_toList.mp ht)).1

theorem concerned_visitProtect (os : DWORD → OsCalls) (isProtected : WString → DWORD → Bool) :
    Concerned (visitProtect (α := α) os isProtected) where
  keepsId := keepsId_visitProtect os isProtected
  sameFor := by
    intro p m w hp
    unfold visitProtect
    by_cases hprot : isProtected m.batchProcessName m.batchProcessId
    · rw [if_pos hprot]
      exact m.exec_sameFor (os m.batchProcessId) .forceRecoverForShutdown w p hp
    · rw [if_neg hprot]
      exact World.SameFor.refl p w
  -- Only a machine that is recovered calls back.
  fires := by
    intro m w t ht
    unfold visitProtect at ht
    by_cases hprot : isProtected m.batchProcessName m.batchProcessId
    · rw [if_pos hprot] at ht
      exact (m.exec_fired (os m.batchProcessId) .forceRecoverForShutdown w t
        (Option.mem_toList.mp ht)).1
    · rw [if_neg hprot] at ht
      exact absurd ht List.not_mem_nil

theorem concerned_visitOne (os : OsCalls) (processId : DWORD) (c : Call α) :
    Concerned (visitOne os processId c) where
  keepsId := keepsId_visitOne os processId c
  sameFor := by
    intro p m w hp
    unfold visitOne
    by_cases hid : m.batchProcessId = processId
    · rw [if_pos hid]
      exact m.exec_sameFor os c w p hp
    · rw [if_neg hid]
      exact World.SameFor.refl p w
  -- Only the machine that is meant calls back.
  fires := by
    intro m w t ht
    unfold visitOne at ht
    by_cases hid : m.batchProcessId = processId
    · rw [if_pos hid] at ht
      exact (m.exec_fired os c w t (Option.mem_toList.mp ht)).1
    · rw [if_neg hid] at ht
      exact absurd ht List.not_mem_nil

end Control

theorem find_eq_machineOf (manager : ActuatorManager α) (p : DWORD) :
    manager.find p = machineOf manager.machines p := rfl

/-- Adding a process adds a machine where there was none and the process is not
    protected. -/
theorem find_addBatchProcess (host : Host) (opened : Bool) (manager : ActuatorManager α)
    (processName : WString) (processId p : DWORD) :
    (manager.addBatchProcess host opened processName processId).1.find p =
      if p = processId ∧ manager.find p = none ∧
          manager.isProtected host processName processId = false then
        some (ProcessStateMachine.create processName processId manager.config opened)
      else manager.find p := by
  unfold addBatchProcess
  by_cases hprot : manager.isProtected host processName processId = true
  · rw [if_pos hprot, if_neg]
    exact fun hc => Bool.true_eq_false_eq_False (hprot.symm.trans hc.2.2)
  · rw [if_neg hprot]
    have hfalse : manager.isProtected host processName processId = false :=
      Bool.eq_false_iff.mpr hprot
    split
    · -- There is a machine already.
      next m hfind =>
      rw [if_neg]
      rintro ⟨rfl, hnone, _⟩
      rw [hnone] at hfind
      cases hfind
    · next hfind =>
      -- The new machine comes first, and only its own process id finds it.
      by_cases hp : p = processId
      · subst hp
        rw [if_pos ⟨rfl, hfind, hfalse⟩]
        exact machineOf_cons_self
          (ProcessStateMachine.create processName p manager.config opened) manager.machines
      · rw [if_neg (fun hc => hp hc.1)]
        exact machineOf_cons_ne
          (ProcessStateMachine.create processName processId manager.config opened)
          manager.machines p hp

theorem find_removeBatchProcess (manager : ActuatorManager α) (processId p : DWORD) :
    (manager.removeBatchProcess processId).find p =
      if p = processId then none else manager.find p := by
  by_cases hp : p = processId
  · subst hp
    rw [if_pos rfl]
    refine machineOf_eq_none _ p ?_
    intro m hm
    have hne := (List.mem_filter.mp hm).2
    rw [bne_iff_ne] at hne
    exact fun heq => hne heq.symm
  · rw [if_neg hp]
    -- Both filters together find what the second one finds.
    simp only [find, removeBatchProcess, List.find?_filter]
    congr 1
    funext m
    by_cases hm : m.batchProcessId = p
    · rw [hm]
      simp only [bne_iff_ne.mpr hp, BEq.rfl, and_self, decide_true]
    · rw [beq_eq_false_iff_ne.mpr hm]
      simp only [Bool.false_eq_true, and_false, decide_false]

theorem find_setConfig (manager : ActuatorManager α) (config : StateMachineConfig α)
    (p : DWORD) :
    (manager.setConfig config).find p = (manager.find p).map fun m => m.setConfig config := by
  simp only [find, setConfig, List.find?_map]
  rfl

end ActuatorManager

/-- What the manager is told of a threshold that was crossed. -/
structure ThresholdEvent (α : Type*) where
  criticalProcessId : DWORD
  observedCpuPercent : α

/-- A call of one of the operations of the manager. -/
inductive Operation (α : Type*)
  | addBatchProcess (processName : WString) (processId : DWORD) (opened : Bool)
  | setProtectedProcessNames (names : List WString)
  | removeBatchProcess (processId : DWORD)
  | onThresholdEvent (evt : ThresholdEvent α)
  | updateAll (cpuPercent : α)
  | setConfig (config : StateMachineConfig α)
  | forceState (processId : DWORD) (newState : ProcessState) (cpuPercent : α) (hold : Bool)
  | releaseManualHold (processId : DWORD)

namespace ActuatorManager

variable [LE α] [DecidableLE α] [LT α] [DecidableLT α] [Zero α]

/-- `OnThresholdEvent`. The critical process is informational. -/
def onThresholdEvent (os : DWORD → OsCalls) (manager : ActuatorManager α) (evt : ThresholdEvent α)
    (w : World) : Result α :=
  manager.updateAll os evt.observedCpuPercent w

/-- One operation. `os` says how the system calls for each process come out. -/
def perform (host : Host) (os : DWORD → OsCalls) (manager : ActuatorManager α) (w : World) :
    Operation α → Result α
  | .addBatchProcess processName processId opened =>
      let (manager', added) := manager.addBatchProcess host opened processName processId
      ⟨manager', w, added, []⟩
  | .setProtectedProcessNames names => manager.setProtectedProcessNames host os names w
  | .removeBatchProcess processId => ⟨manager.removeBatchProcess processId, w, true, []⟩
  | .onThresholdEvent evt => manager.onThresholdEvent os evt w
  | .updateAll x => manager.updateAll os x w
  | .setConfig config => ⟨manager.setConfig config, w, true, []⟩
  | .forceState processId newState x hold =>
      manager.forceState (os processId) processId newState x hold w
  | .releaseManualHold processId => manager.releaseManualHold (os processId) processId w

end ActuatorManager

end Actuator

end ThreadHaul
