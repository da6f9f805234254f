import ThreadHaul.Actuator.Suspension

/-!
# What the Manager Holds

A machine without its state and its counters: the process it stands for, the
handle, the configuration and the manual hold.

An update changes none of these, and every other operation changes them in a
way that does not depend on the system. So what the manager holds after an
operation is a function of what it held before, up to the machines that go
because their processes have ended: each operation has an equation about
`holdings`, and `UpdateAll` has a sublist.

## Main definitions

* `Holding`: A machine without its state.
* `ActuatorManager.holdings`: What the manager holds.
* `Holding.after`: What a call does to it.

## Theorems

* `holdings_sweep`, `holdings_sweep_sublist`: A walk over the machines.
* `holdings_addBatchProcess` and the others: The operations of the manager.
* `fired_updateAll`: What an update calls back about is not held by hand.
-/

namespace ThreadHaul

namespace Actuator

open ActuatorManager

variable {α : Type*}

/-- A machine without its state and its counters. -/
structure Holding (α : Type*) where
  batchProcessName : WString
  batchProcessId : DWORD
  processHandle : Bool
  config : StateMachineConfig α
  manualHold : Bool
  deriving DecidableEq

/-- What is kept of a machine. -/
def ProcessStateMachine.holding (m : ProcessStateMachine α) : Holding α where
  batchProcessName := m.batchProcessName
  batchProcessId := m.batchProcessId
  processHandle := m.processHandle
  config := m.config
  manualHold := m.manualHold

/-- What the manager holds. -/
def ActuatorManager.holdings (manager : ActuatorManager α) : List (Holding α) :=
  manager.machines.map ProcessStateMachine.holding

/-- What a call does to a machine, as far as it is not about the state. -/
def Holding.after (h : Holding α) : Call α → Holding α
  | .update _ => h
  | .setConfig config => { h with config := config }
  | .forceState _ _ hold => { h with manualHold := hold }
  | .releaseManualHold | .forceRecoverForShutdown => { h with manualHold := false }

@[simp] theorem Holding.after_batchProcessId (h : Holding α) (c : Call α) :
    (h.after c).batchProcessId = h.batchProcessId := by
  cases c <;> rfl

/-- A process has no machine exactly if nothing is held for it. -/
theorem find_eq_none_iff (manager : ActuatorManager α) (p : DWORD) :
    manager.find p = none ↔ ∀ h ∈ manager.holdings, h.batchProcessId ≠ p := by
  rw [find_eq_machineOf]
  constructor
  · intro hnone h hh heq
    rcases List.mem_map.mp hh with ⟨m, hm, rfl⟩
    exact machineOf_none manager.machines p hnone m hm heq.symm
  · intro hall
    refine machineOf_eq_none _ p ?_
    intro m hm heq
    exact hall m.holding (List.mem_map_of_mem hm) heq.symm

/-- The machine of a process is what is held for it. -/
theorem holding_mem_of_find (manager : ActuatorManager α) (p : DWORD)
    (m : ProcessStateMachine α) (h : manager.find p = some m) :
    m.holding ∈ manager.holdings ∧ m.batchProcessId = p := by
  have hm := machineOf_some manager.machines p m h
  exact ⟨List.mem_map_of_mem hm.1, hm.2⟩

section Walks

variable {visit : ProcessStateMachine α → World → Visit α}

/-- A walk whose visits have an effect on what is held that does not depend on
    the system. -/
theorem holdings_sweep (f : Holding α → Option (Holding α))
    (hv : ∀ m w, (visit m w).kept.map ProcessStateMachine.holding = f m.holding)
    (ms : List (ProcessStateMachine α)) (w : World) :
    (sweep visit ms w).machines.map ProcessStateMachine.holding
      = (ms.map ProcessStateMachine.holding).filterMap f := by
  induction ms generalizing w with
  | nil => rfl
  | cons m ms ih =>
      simp only [sweep, List.map_append, List.map_cons, List.filterMap_cons, ih, ← hv m w]
      rcases (visit m w).kept with _ | m'
      · rfl
      · rfl

/-- A walk whose visits keep what is held, where they keep the machine. -/
theorem holdings_sweep_sublist
    (hv : ∀ m w, ∀ m' ∈ (visit m w).kept, m'.holding = m.holding)
    (ms : List (ProcessStateMachine α)) (w : World) :
    ((sweep visit ms w).machines.map ProcessStateMachine.holding).Sublist
      (ms.map ProcessStateMachine.holding) := by
  induction ms generalizing w with
  | nil => exact List.Sublist.refl _
  | cons m ms ih =>
      simp only [sweep, List.map_append, List.map_cons]
      have hrest := ih (visit m w).world
      -- What a visit keeps is held as before, and what it drops is left out.
      rcases hk : (visit m w).kept with _ | m'
      · exact hrest.cons _
      · have hsame : m'.holding = m.holding := hv m w m' hk
        simp only [Option.toList_some, List.map_cons, List.map_nil, List.singleton_append, hsame]
        exact hrest.cons_cons _

/-- A callback of a walk is one of a visit. -/
theorem mem_sweep_fired (ms : List (ProcessStateMachine α)) (w : World) :
    ∀ t ∈ (sweep visit ms w).fired, ∃ m ∈ ms, ∃ w', t ∈ (visit m w').fired := by
  induction ms generalizing w with
  | nil => exact fun t ht => absurd ht List.not_mem_nil
  | cons m ms ih =>
      intro t ht
      simp only [sweep, List.mem_append] at ht
      rcases ht with hfirst | hrest
      · exact ⟨m, List.mem_cons_self .., w, hfirst⟩
      · rcases ih (visit m w).world t hrest with ⟨a, ha, w', hfired⟩
        exact ⟨a, List.mem_cons_of_mem _ ha, w', hfired⟩

end Walks

/-- Adding a process, as far as what is held. -/
theorem holdings_addBatchProcess (host : Host) (opened : Bool) (manager : ActuatorManager α)
    (processName : WString) (processId : DWORD) :
    (manager.addBatchProcess host opened processName processId).1.holdings =
      if manager.isProtected host processName processId = false ∧ manager.find processId = none
      then ⟨processName, processId, opened, manager.config, false⟩ :: manager.holdings
      else manager.holdings := by
  unfold addBatchProcess
  by_cases hprot : manager.isProtected host processName processId = true
  · rw [if_pos hprot, if_neg]
    exact fun hc => Bool.true_eq_false_eq_False (hprot.symm.trans hc.1)
  · rw [if_neg hprot]
    split
    · next m hfind =>
      rw [if_neg]
      exact fun hc => by rw [hc.2] at hfind; cases hfind
    · next hfind =>
      rw [if_pos ⟨Bool.eq_false_iff.mpr hprot, hfind⟩]
      rfl

theorem config_addBatchProcess (host : Host) (opened : Bool) (manager : ActuatorManager α)
    (processName : WString) (processId : DWORD) :
    (manager.addBatchProcess host opened processName processId).1.config = manager.config ∧
      (manager.addBatchProcess host opened processName processId).1.protectedNames
        = manager.protectedNames := by
  unfold addBatchProcess
  split
  · exact ⟨rfl, rfl⟩
  · split
    · exact ⟨rfl, rfl⟩
    · exact ⟨rfl, rfl⟩

/-- The answer of `AddBatchProcess` is whether the process may be managed. -/
theorem addBatchProcess_returns (host : Host) (opened : Bool) (manager : ActuatorManager α)
    (processName : WString) (processId : DWORD) :
    (manager.addBatchProcess host opened processName processId).2
      = !manager.isProtected host processName processId := by
  unfold addBatchProcess
  by_cases hprot : manager.isProtected host processName processId = true
  · rw [if_pos hprot, hprot]
    rfl
  · rw [if_neg hprot, Bool.eq_false_iff.mpr hprot]
    split
    · rfl
    · rfl

theorem holdings_removeBatchProcess (manager : ActuatorManager α) (processId : DWORD) :
    (manager.removeBatchProcess processId).holdings
      = manager.holdings.filter fun h => h.batchProcessId != processId := by
  simp only [holdings, removeBatchProcess, List.filter_map]
  rfl

theorem holdings_setConfig (manager : ActuatorManager α) (config : StateMachineConfig α) :
    (manager.setConfig config).holdings
      = manager.holdings.map fun h => { h with config := config } := by
  simp only [holdings, setConfig, List.map_map]
  rfl

section Control

variable [LE α] [DecidableLE α] [LT α] [DecidableLT α]

theorem holding_next (m : ProcessStateMachine α) (c : Call α) :
    (m.next c).holding = m.holding.after c := by
  have hnoted : (m.noted c).holding = m.holding.after c := by
    cases c <;> rfl
  unfold ProcessStateMachine.next
  cases m.goal c with
  | none => exact hnoted
  | some newState => exact hnoted

variable [Zero α]

/-- A visit that makes a call. -/
theorem holding_exec (os : OsCalls) (m : ProcessStateMachine α) (c : Call α) (w : World)
    (changed : Bool) :
    ((m.exec os c w).visit changed).kept.map ProcessStateMachine.holding
      = some (m.holding.after c) := by
  have hkept : ((m.exec os c w).visit changed).kept = some (m.next c) :=
    congrArg some (m.exec_machine os c w)
  rw [hkept, Option.map_some, holding_next]

/-- A walk that makes a call on the machine of one process. -/
theorem holdings_visitOne (os : OsCalls) (processId : DWORD) (c : Call α)
    (manager : ActuatorManager α) (w : World) :
    (manager.afterSweep _ (keepsId_visitOne os processId c) w).holdings
      = manager.holdings.map fun h => if h.batchProcessId = processId then h.after c else h := by
  refine (holdings_sweep (fun h => some (if h.batchProcessId = processId then h.after c else h))
    ?_ manager.machines w).trans (congrFun List.filterMap_eq_map' _)
  intro m u
  unfold visitOne
  by_cases hid : m.batchProcessId = processId
  · rw [if_pos hid, holding_exec]
    exact congrArg some (if_pos hid).symm
  · rw [if_neg hid]
    exact congrArg some (if_neg hid).symm

theorem holdings_forceState (os : OsCalls) (manager : ActuatorManager α) (processId : DWORD)
    (newState : ProcessState) (x : α) (hold : Bool) (w : World) :
    (manager.forceState os processId newState x hold w).manager.holdings
      = manager.holdings.map fun h =>
          if h.batchProcessId = processId then { h with manualHold := hold } else h :=
  holdings_visitOne os processId (.forceState newState x hold) manager w

theorem holdings_releaseManualHold (os : OsCalls) (manager : ActuatorManager α)
    (processId : DWORD) (w : World) :
    (manager.releaseManualHold os processId w).manager.holdings
      = manager.holdings.map fun h =>
          if h.batchProcessId = processId then { h with manualHold := false } else h :=
  holdings_visitOne os processId .releaseManualHold manager w

/-- After a call on the machine of one process, that machine is what the call
    makes of it and the others are as they were. -/
theorem find_visitOne (os : OsCalls) (processId : DWORD) (c : Call α)
    (manager : ActuatorManager α) (w : World) (p : DWORD) :
    (manager.afterSweep _ (keepsId_visitOne os processId c) w).find p
      = if p = processId then (manager.find p).map fun m => m.next c else manager.find p := by
  have hconcerned := concerned_visitOne (α := α) os processId c
  -- A process without a machine has none afterwards.
  rcases hfind : manager.find p with _ | m
  · rw [Option.map_none, ite_self]
    exact (sweep_find_none hconcerned manager.machines w p hfind).2.1
  · rcases sweep_find_some hconcerned manager.machines manager.distinct w p m hfind with
      ⟨u, _, _, hmachine, _⟩
    refine hmachine.trans ?_
    have hid := (machineOf_some manager.machines p m hfind).2
    -- Only the machine of the process that is meant takes the call.
    unfold visitOne
    by_cases hp : p = processId
    · rw [if_pos (hid.trans hp), if_pos hp, Option.map_some]
      exact congrArg some (m.exec_machine os c u)
    · rw [if_neg (fun h => hp (hid.symm.trans h)), if_neg hp]

theorem find_releaseManualHold (os : OsCalls) (manager : ActuatorManager α) (processId : DWORD)
    (w : World) (p : DWORD) :
    (manager.releaseManualHold os processId w).manager.find p
      = if p = processId then (manager.find p).map fun m => m.next .releaseManualHold
        else manager.find p :=
  find_visitOne os processId .releaseManualHold manager w p

/-- Recovering a machine and dropping it. -/
theorem holdings_drop (os : OsCalls) (manager : ActuatorManager α) (processId : DWORD)
    (w : World) :
    (manager.drop os processId w).manager.holdings
      = manager.holdings.filter fun h => h.batchProcessId != processId := by
  have hwalk := holdings_visitOne os processId .forceRecoverForShutdown manager w
  refine (holdings_removeBatchProcess _ processId).trans ?_
  rw [hwalk, List.filter_map]
  -- What is changed is what goes.
  have hids : ((fun h : Holding α => h.batchProcessId != processId) ∘ fun h =>
      if h.batchProcessId = processId then h.after .forceRecoverForShutdown else h)
      = fun h => h.batchProcessId != processId := by
    funext h
    by_cases hid : h.batchProcessId = processId
    · rw [Function.comp_apply, if_pos hid, Holding.after_batchProcessId]
    · rw [Function.comp_apply, if_neg hid]
  rw [hids]
  refine (List.map_congr_left (g := id) ?_).trans (List.map_id _)
  intro h hh
  have hne := (List.mem_filter.mp hh).2
  rw [bne_iff_ne] at hne
  exact if_neg hne

omit [LE α] [DecidableLE α] [LT α] [DecidableLT α] in
/-- A new protection list takes away what it protects. -/
theorem holdings_setProtectedProcessNames (host : Host) (os : DWORD → OsCalls)
    (manager : ActuatorManager α) (names : List WString) (w : World) :
    (manager.setProtectedProcessNames host os names w).manager.holdings
      = manager.holdings.filter fun h =>
          !({ manager with protectedNames := names } : ActuatorManager α).isProtected host
            h.batchProcessName h.batchProcessId := by
  let named : ActuatorManager α := { manager with protectedNames := names }
  refine (holdings_sweep (fun h => if named.isProtected host h.batchProcessName h.batchProcessId
    then none else some h) ?_ manager.machines w).trans ?_
  · intro m u
    unfold visitProtect
    by_cases hprot : named.isProtected host m.batchProcessName m.batchProcessId = true
    · rw [if_pos hprot]
      exact (if_pos hprot).symm
    · rw [if_neg hprot]
      exact (if_neg hprot).symm
  · rw [← List.filterMap_eq_filter]
    congr 1
    funext h
    -- `filter` is the `filterMap` that drops what is protected.
    change (if named.isProtected host h.batchProcessName h.batchProcessId = true then none
      else some h)
        = Option.guard (fun h => !named.isProtected host h.batchProcessName h.batchProcessId) h
    rw [Option.guard]
    by_cases hprot : named.isProtected host h.batchProcessName h.batchProcessId = true
    · rw [if_pos hprot, hprot]
      rfl
    · rw [if_neg hprot, Bool.eq_false_iff.mpr hprot]
      rfl

/-- An update takes away what has ended and changes nothing else. -/
theorem holdings_updateAll (os : DWORD → OsCalls) (manager : ActuatorManager α) (x : α)
    (w : World) :
    ((manager.updateAll os x w).manager.holdings).Sublist manager.holdings := by
  refine holdings_sweep_sublist ?_ manager.machines w
  intro m u m' hm'
  -- A machine that is kept was updated, and `Update` changes nothing that is held.
  unfold visitUpdate at hm'
  by_cases hex : m.hasExited u
  · rw [if_pos hex] at hm'
    exact absurd hm' (Option.not_mem_none _)
  · rw [if_neg hex] at hm'
    have hkept := holding_exec (os m.batchProcessId) m (.update x) u
      (m.update (os m.batchProcessId) x u).2
    rw [show ((m.exec (os m.batchProcessId) (.update x) u).visit
      (m.update (os m.batchProcessId) x u).2).kept = some m' from hm'] at hkept
    exact Option.some.inj hkept

/-- What an update calls back about is a transition of a machine that is not
    held by hand. -/
theorem fired_updateAll (os : DWORD → OsCalls) (manager : ActuatorManager α) (x : α) (w : World) :
    ∀ t ∈ (manager.updateAll os x w).fired, ∃ h ∈ manager.holdings,
      h.batchProcessId = t.batchProcessId ∧ h.manualHold = false := by
  intro t ht
  rcases mem_sweep_fired manager.machines w t ht with ⟨m, hm, u, hfired⟩
  unfold visitUpdate at hfired
  by_cases hex : m.hasExited u
  · rw [if_pos hex] at hfired
    exact absurd hfired List.not_mem_nil
  · rw [if_neg hex] at hfired
    have ht' := m.exec_fired (os m.batchProcessId) (.update x) u t (Option.mem_toList.mp hfired)
    refine ⟨m.holding, List.mem_map_of_mem hm, ht'.1.symm, ?_⟩
    -- A machine that is held makes no transition.
    have hgoal := ht'.2.2.2
    by_contra hheld
    have hhold : m.manualHold = true := Bool.eq_true_of_not_eq_false hheld
    rw [ProcessStateMachine.goal, if_pos hhold] at hgoal
    cases hgoal

end Control

end Actuator

end ThreadHaul
