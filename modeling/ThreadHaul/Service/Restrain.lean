import ThreadHaul.Service.Command

/-!
# Who Is Restrained

Which processes a command throttles, suspends or resumes.

What is done to one target changes how that process is managed and nothing
else: `act_others`. The process ids in a table are distinct, so for each target
the daemon is as it was before the command, and the calls of `ForceState` can be
read off the table: `actAll_forced`.

## Main definitions

* `forces`: Whether `ForceState` is called for a process.
* `picks`: Whether a command selects a process.

## Theorems

* `act_forced`: The calls made for one target.
* `act_others`: The other processes are managed as before.
* `actAll_forced`: The calls made for all targets.
* `handleManage_forced`: The calls made for a target, as it was sent.
* `handleCommand_manage`: What a line comes to.
-/

namespace ThreadHaul

namespace Actuator

namespace ActuatorManager

variable {α : Type*}

theorem find_isSome_iff (manager : ActuatorManager α) (processId : DWORD) :
    (manager.find processId).isSome = true ↔
      processId ∈ manager.machines.map ProcessStateMachine.batchProcessId := by
  rw [find, List.find?_isSome, List.mem_map]
  simp only [beq_iff_eq]

/-- Managers with the same processes find the same ones. -/
theorem find_isSome_congr (manager manager' : ActuatorManager α) (processId : DWORD)
    (h : processId ∈ manager'.machines.map ProcessStateMachine.batchProcessId ↔
      processId ∈ manager.machines.map ProcessStateMachine.batchProcessId) :
    (manager'.find processId).isSome = (manager.find processId).isSome := by
  rw [Bool.eq_iff_iff, find_isSome_iff, find_isSome_iff]
  exact h

/-- A walk that keeps every machine keeps every process id. -/
theorem sweep_ids (visit : ProcessStateMachine α → World → Visit α)
    (hv : ∀ m w, ∃ m', (visit m w).kept = some m' ∧ m'.batchProcessId = m.batchProcessId)
    (ms : List (ProcessStateMachine α)) (w : World) :
    (sweep visit ms w).machines.map ProcessStateMachine.batchProcessId =
      ms.map ProcessStateMachine.batchProcessId := by
  induction ms generalizing w with
  | nil => rfl
  | cons m ms ih =>
      obtain ⟨m', hkept, hid⟩ := hv m w
      simp only [sweep, hkept, Option.toList_some, List.singleton_append, List.map_cons, hid, ih]

section Control

variable [LE α] [DecidableLE α] [LT α] [DecidableLT α] [Zero α]

theorem visitOne_keeps (os : OsCalls) (processId : DWORD) (c : Call α)
    (m : ProcessStateMachine α) (w : World) :
    ∃ m', (visitOne os processId c m w).kept = some m' ∧
      m'.batchProcessId = m.batchProcessId := by
  unfold visitOne
  by_cases hp : m.batchProcessId = processId
  · rw [if_pos hp]
    exact ⟨(m.exec os c w).machine, rfl, exec_visit_keepsId os m c w false _ rfl⟩
  · rw [if_neg hp]
    exact ⟨m, rfl, rfl⟩

theorem forceState_ids (os : OsCalls) (manager : ActuatorManager α) (processId : DWORD)
    (newState : ProcessState) (x : α) (hold : Bool) (w : World) :
    (manager.forceState os processId newState x hold w).manager.machines.map
        ProcessStateMachine.batchProcessId =
      manager.machines.map ProcessStateMachine.batchProcessId :=
  sweep_ids _ (visitOne_keeps os processId _) manager.machines w

theorem releaseManualHold_ids (os : OsCalls) (manager : ActuatorManager α) (processId : DWORD)
    (w : World) :
    (manager.releaseManualHold os processId w).manager.machines.map
        ProcessStateMachine.batchProcessId =
      manager.machines.map ProcessStateMachine.batchProcessId :=
  sweep_ids _ (visitOne_keeps os processId _) manager.machines w

end Control

theorem addBatchProcess_ids (host : Host) (opened : Bool) (manager : ActuatorManager α)
    (processName : WString) (processId q : DWORD) (hq : q ≠ processId) :
    q ∈ (manager.addBatchProcess host opened processName processId).1.machines.map
        ProcessStateMachine.batchProcessId ↔
      q ∈ manager.machines.map ProcessStateMachine.batchProcessId := by
  unfold addBatchProcess
  by_cases hprotected : manager.isProtected host processName processId = true
  · rw [if_pos hprotected]
  · rw [if_neg hprotected]
    split
    · exact Iff.rfl
    · rw [List.map_cons, List.mem_cons]
      exact or_iff_right hq

theorem addBatchProcess_protectedNames (host : Host) (opened : Bool)
    (manager : ActuatorManager α) (processName : WString) (processId : DWORD) :
    (manager.addBatchProcess host opened processName processId).1.protectedNames =
      manager.protectedNames := by
  unfold addBatchProcess
  by_cases hprotected : manager.isProtected host processName processId = true
  · rw [if_pos hprotected]
  · rw [if_neg hprotected]
    split <;> rfl

theorem addBatchProcess_added (host : Host) (opened : Bool) (manager : ActuatorManager α)
    (processName : WString) (processId : DWORD) :
    (manager.addBatchProcess host opened processName processId).2 =
      !manager.isProtected host processName processId := by
  unfold addBatchProcess
  by_cases hprotected : manager.isProtected host processName processId = true
  · rw [if_pos hprotected, hprotected]
    rfl
  · have hfalse := Bool.eq_false_iff.mpr hprotected
    rw [if_neg hprotected, hfalse]
    split <;> rfl

theorem removeBatchProcess_ids (manager : ActuatorManager α) (processId q : DWORD)
    (hq : q ≠ processId) :
    q ∈ (manager.removeBatchProcess processId).machines.map
        ProcessStateMachine.batchProcessId ↔
      q ∈ manager.machines.map ProcessStateMachine.batchProcessId := by
  simp only [removeBatchProcess, List.mem_map, List.mem_filter, bne_iff_ne]
  constructor
  · rintro ⟨m, ⟨hm, _⟩, hid⟩
    exact ⟨m, hm, hid⟩
  · rintro ⟨m, hm, hid⟩
    exact ⟨m, ⟨hm, hid ▸ hq⟩, hid⟩

end ActuatorManager

end Actuator

namespace Service

open Actuator Telemetry Json

/-- The state a command puts its targets into. -/
def Manage.state : Manage → ProcessState
  | .throttle => .throttled
  | .suspend => .suspended
  | .resume | .release => .normal

/-- Whether a command calls `ForceState` for a process it selects. -/
def forces (host : Host) (d : Daemon) (verb : Manage) (e : ProcessEntry) : Bool :=
  !contains host d.criticalProcesses e.name &&
    match verb with
    | .throttle | .suspend =>
        (d.actuator.find e.pid).isSome || !d.actuator.isProtected host e.name e.pid
    | .resume => (d.actuator.find e.pid).isSome
    | .release => false

/-- The processes other than `p` are managed as before. -/
structure SameOthers (p : DWORD) (d d' : Daemon) : Prop where
  criticalProcesses : d'.criticalProcesses = d.criticalProcesses
  protectedNames : d'.actuator.protectedNames = d.actuator.protectedNames
  ids : ∀ q, q ≠ p → (q ∈ d'.actuator.machines.map ProcessStateMachine.batchProcessId ↔
    q ∈ d.actuator.machines.map ProcessStateMachine.batchProcessId)

namespace SameOthers

theorem refl (p : DWORD) (d : Daemon) : SameOthers p d d := ⟨rfl, rfl, fun _ _ => Iff.rfl⟩

theorem trans {p : DWORD} {a b c : Daemon} (h : SameOthers p a b) (h' : SameOthers p b c) :
    SameOthers p a c where
  criticalProcesses := h'.criticalProcesses.trans h.criticalProcesses
  protectedNames := h'.protectedNames.trans h.protectedNames
  ids := fun q hq => (h'.ids q hq).trans (h.ids q hq)

/-- What is done to a process depends on how that process is managed. -/
theorem forces_eq {p : DWORD} {d d' : Daemon} (h : SameOthers p d d') (host : Host)
    (verb : Manage) (e : ProcessEntry) (he : e.pid ≠ p) :
    forces host d' verb e = forces host d verb e := by
  have hfind := ActuatorManager.find_isSome_congr d.actuator d'.actuator e.pid (h.ids e.pid he)
  have hprotected : d'.actuator.isProtected host e.name e.pid =
      d.actuator.isProtected host e.name e.pid := by
    unfold ActuatorManager.isProtected
    rw [h.protectedNames]
  unfold forces
  rw [h.criticalProcesses, hfind, hprotected]

end SameOthers

section Act

variable (env : Env) (e : ProcessEntry) (d : Daemon) (w : World)

theorem forceHeld_others (state : ProcessState) :
    SameOthers e.pid d (forceHeld env e d w state).daemon where
  criticalProcesses := rfl
  protectedNames := rfl
  ids := by
    intro q _
    have hids := ActuatorManager.forceState_ids (env.os e.pid) d.actuator e.pid state d.pressure
      true w
    exact Iff.of_eq (congrArg (q ∈ ·) hids)

/-- A process is forced into a state unless it is unmanaged and protected. -/
theorem forceManaged_forced (state : ProcessState) (done : Answer) :
    (forceManaged env e d w state done).1.forced =
      if (d.actuator.find e.pid).isSome || !d.actuator.isProtected env.host e.name e.pid then
        [(e, state)]
      else [] := by
  unfold forceManaged
  cases hfind : d.actuator.find e.pid with
  | some m => rfl
  | none =>
      have hadded := d.actuator.addBatchProcess_added env.host (env.opened e.pid) e.name e.pid
      dsimp only
      rw [← hadded]
      cases (d.actuator.addBatchProcess env.host (env.opened e.pid) e.name e.pid).2 <;> rfl

theorem forceManaged_others (state : ProcessState) (done : Answer) :
    SameOthers e.pid d (forceManaged env e d w state done).1.daemon := by
  unfold forceManaged
  cases hfind : d.actuator.find e.pid with
  | some m => exact forceHeld_others env e d w state
  | none =>
      dsimp only
      -- The process is added first, which may be refused.
      have hadd : ∀ adhoc, SameOthers e.pid d { d with
          actuator := (d.actuator.addBatchProcess env.host (env.opened e.pid) e.name e.pid).1
          adhoc := adhoc } := by
        intro adhoc
        exact ⟨rfl, d.actuator.addBatchProcess_protectedNames _ _ _ _,
          d.actuator.addBatchProcess_ids _ _ _ _⟩
      split
      · exact hadd d.adhoc
      · exact (hadd _).trans (forceHeld_others env e _ w state)

theorem releaseHold_others : SameOthers e.pid d (releaseHold env e d w).1.daemon := by
  have hids := ActuatorManager.releaseManualHold_ids (env.os e.pid) d.actuator e.pid w
  unfold releaseHold
  dsimp only
  split
  · refine ⟨rfl, rfl, ?_⟩
    intro q hq
    exact (ActuatorManager.removeBatchProcess_ids _ e.pid q hq).trans
      (Iff.of_eq (congrArg (q ∈ ·) hids))
  · exact ⟨rfl, rfl, fun q _ => Iff.of_eq (congrArg (q ∈ ·) hids)⟩

/-- The calls of `ForceState` that are made for one target. -/
theorem act_forced (verb : Manage) :
    (act env e d w verb).1.forced =
      if forces env.host d verb e then [(e, verb.state)] else [] := by
  unfold act forces
  -- A critical process is refused with every verb.
  cases hcritical : contains env.host d.criticalProcesses e.name with
  | true => rfl
  | false =>
      rw [if_neg Bool.false_ne_true, Bool.not_false, Bool.true_and]
      cases verb with
      | throttle => exact forceManaged_forced env e d w .throttled .throttled
      | suspend => exact forceManaged_forced env e d w .suspended .suspended
      | resume => cases d.actuator.find e.pid <;> rfl
      | release =>
          cases d.actuator.find e.pid with
          | none => rfl
          | some m =>
              dsimp only [releaseHold]
              split <;> rfl

/-- What is done to one target concerns no other process. -/
theorem act_others (verb : Manage) :
    SameOthers e.pid d (act env e d w verb).1.daemon := by
  unfold act
  cases hcritical : contains env.host d.criticalProcesses e.name with
  | true => exact SameOthers.refl e.pid d
  | false =>
      rw [if_neg Bool.false_ne_true]
      -- Each verb works on the machine of its own target.
      cases verb with
      | throttle => exact forceManaged_others env e d w .throttled .throttled
      | suspend => exact forceManaged_others env e d w .suspended .suspended
      | resume =>
          cases d.actuator.find e.pid with
          | none => exact SameOthers.refl e.pid d
          | some m => exact forceHeld_others env e d w .normal
      | release =>
          cases d.actuator.find e.pid with
          | none => exact SameOthers.refl e.pid d
          | some m => exact releaseHold_others env e d w

end Act

/-- For each target the daemon is as it was before the first one. -/
theorem actAll_forced (env : Env) (verb : Manage) (targets : List ProcessEntry)
    (hdistinct : (targets.map ProcessEntry.pid).Nodup) (d : Daemon) (w : World) :
    (actAll env verb targets d w).1.forced =
      (targets.filter (forces env.host d verb)).map fun e => (e, verb.state) := by
  induction targets generalizing d w with
  | nil => rfl
  | cons e targets ih =>
      rw [List.map_cons, List.nodup_cons] at hdistinct
      have hothers := act_others env e d w verb
      -- An earlier target has another id, so it leaves the answer to this one.
      have hsame : ∀ e' ∈ targets,
          forces env.host (act env e d w verb).1.daemon verb e' = forces env.host d verb e' := by
        intro e' he'
        refine hothers.forces_eq env.host verb e' ?_
        intro hpid
        exact hdistinct.1 (hpid ▸ List.mem_map_of_mem he')
      simp only [actAll]
      rw [act_forced, ih hdistinct.2, List.filter_congr hsame, List.filter_cons]
      split
      · rw [List.map_cons]
        rfl
      · rfl

section Line

variable (env : Env) (d : Daemon) (w : World)

/-- Whether a command selects the process, if the test does not throw. -/
def picks (target : Bytes) (e : ProcessEntry) : Bool :=
  if Decimal.isDigits target then e.pid.toNat == Decimal.value target
  else sameName env.host e.name (env.widen target)

theorem answerOnly_forced (ok : Bool) (message : Bytes) (r : CommandResult)
    (h : answerOnly d w ok message = .ok r) : r.effect.forced = [] := by
  obtain ⟨j, _, hr⟩ := (bind_eq_ok_iff _ _ _).mp h
  rw [← Except.ok.inj hr]

/-- The calls made for the targets of a command that returns. -/
theorem handleManage_forced (hdistinct : (env.snapshot.map ProcessEntry.pid).Nodup)
    (verb : Manage) (target : Bytes) (hne : target ≠ []) (r : CommandResult)
    (h : handleManage env d w verb target = .ok r) :
    r.effect.forced = ((env.snapshot.filter (picks env target)).filter
      (forces env.host d verb)).map fun e => (e, verb.state) := by
  unfold handleManage at h
  rw [if_neg (fun hempty => hne (List.isEmpty_iff.mp hempty))] at h
  by_cases hlarge : TooLarge target ∧ env.snapshot ≠ []
  · rw [selectTargets_tooLarge env target env.snapshot hlarge.1 hlarge.2] at h
    cases h
  rw [selectTargets_eq env target env.snapshot hlarge] at h
  change (if (env.snapshot.filter (picks env target)).isEmpty then _ else _) = _ at h
  -- Without a target nothing is forced and the filter is empty.
  by_cases hnil : env.snapshot.filter (picks env target) = []
  · rw [hnil, List.isEmpty_nil, if_pos rfl] at h
    rw [hnil, answerOnly_forced d w _ _ r h]
    rfl
  · rw [if_neg (fun hempty => hnil (List.isEmpty_iff.mp hempty))] at h
    obtain ⟨j, _, hr⟩ := (bind_eq_ok_iff _ _ _).mp h
    rw [← Except.ok.inj hr]
    refine actAll_forced env verb _ ?_ d w
    exact (List.filter_sublist.map ProcessEntry.pid).nodup hdistinct

/-- Without a target a command does nothing. -/
theorem handleManage_nil_forced (verb : Manage) (r : CommandResult)
    (h : handleManage env d w verb [] = .ok r) : r.effect.forced = [] :=
  answerOnly_forced d w _ _ r h

/-- A command that selects a process returns. -/
theorem handleManage_returns (verb : Manage) (target : Bytes) (e : ProcessEntry)
    (he : e ∈ env.snapshot) (hpicks : picks env target e = true) :
    ∃ r, handleManage env d w verb target = .ok r := by
  have hreplies : Replies (handleManage env d w verb target) := by
    rw [handleManage_replies_iff]
    constructor
    · -- A number that is too large is the id of no process.
      rintro ⟨⟨hdigits, hlarge⟩, _⟩
      rw [picks, if_pos hdigits] at hpicks
      have hpid : e.pid.toNat = Decimal.value target := eq_of_beq hpicks
      have hlt := e.pid.toNat_lt
      omega
    · rintro ⟨hvalid, hunknown⟩
      have hdigits : ¬ Decimal.isDigits target = true :=
        fun hd => hvalid (valid_of_isDigits target hd)
      rw [picks, if_neg hdigits, hunknown e he] at hpicks
      cases hpicks
  obtain ⟨r, hr, _⟩ := hreplies
  exact ⟨r, hr⟩

theorem nextToken_word (v t : Bytes) (hne : v ≠ []) (hall : (v.all fun c => !isSpace c) = true) :
    nextToken (v ++ 32 :: t) = (v, 32 :: t) := by
  have hv := List.all_eq_true.mp hall
  -- The word begins at once, for it starts with no blank.
  have hdrop : (v ++ 32 :: t).dropWhile isSpace = v ++ 32 :: t := by
    cases v with
    | nil => exact absurd rfl hne
    | cons c v =>
        have hc : isSpace c = false := (Bool.not_eq_true' _).mp (hv c List.mem_cons_self)
        rw [List.cons_append, List.dropWhile_cons, hc]
        rfl
  unfold nextToken
  dsimp only
  rw [hdrop, List.takeWhile_append_of_pos hv, List.dropWhile_append_of_pos hv]
  have htake : (32 :: t).takeWhile (fun c => !isSpace c) = [] := rfl
  have hrest : (32 :: t).dropWhile (fun c => !isSpace c) = 32 :: t := rfl
  rw [htake, hrest, List.append_nil]

/-- A command for processes acts on the first word of what follows. -/
theorem handleCommand_manage (verb : Manage) (target : Bytes) :
    handleCommand env d w (verb.name ++ 32 :: target) =
      handleManage env d w verb (nextToken target).1 := by
  -- The first token is the verb, and the second the target.
  have htoken : nextToken (verb.name ++ 32 :: target) = (verb.name, 32 :: target) := by
    refine nextToken_word verb.name target ?_ ?_
    · cases verb <;> decide
    · cases verb <;> rfl
  have hverb : verbOf (verb.name ++ 32 :: target) = verb.name := by
    rw [verbOf, htoken]
    cases verb <;> rfl
  have htarget : targetOf (verb.name ++ 32 :: target) = (nextToken target).1 := by
    rw [targetOf, htoken]
    rfl
  unfold handleCommand
  dsimp only
  rw [hverb, htarget]
  cases verb <;> rfl

theorem handleExempt_forced (target : Bytes) (r : CommandResult)
    (h : handleExempt env d w target = .ok r) : r.effect.forced = [] := by
  unfold handleExempt at h
  dsimp only at h
  split at h
  · exact answerOnly_forced d w _ _ r h
  · split at h
    · exact answerOnly_forced d w _ _ r h
    · obtain ⟨j, _, hr⟩ := (bind_eq_ok_iff _ _ _).mp h
      rw [← Except.ok.inj hr]

/-- `exempt` calls `ForceState` for no process. -/
theorem handleCommand_exempt_forced (target : Bytes) (r : CommandResult)
    (h : handleCommand env d w (ascii "exempt" ++ 32 :: target) = .ok r) :
    r.effect.forced = [] := by
  have htoken : nextToken (ascii "exempt" ++ 32 :: target) = (ascii "exempt", 32 :: target) :=
    nextToken_word _ target (by decide) rfl
  have hverb : verbOf (ascii "exempt" ++ 32 :: target) = ascii "exempt" := by
    rw [verbOf, htoken]
    rfl
  unfold handleCommand at h
  dsimp only at h
  rw [hverb, if_neg (by decide), if_neg (by decide), if_pos rfl] at h
  exact handleExempt_forced env d w _ r h

end Line

end Service

end ThreadHaul
