import ThreadHaul.Actuator.Success
import ThreadHaul.Service.Restrain
import ThreadHaul.Service.System

/-!
# What a Command Says of Its Targets

`HandleCommand` answers a `throttle`, a `suspend` or a `resume` for each target,
in the reply and in the log, and `DirectAction` does the same work when no daemon
runs. `DirectAction` looks at what its calls return. `HandleCommand` calls
`ForceState`, which returns nothing and makes no call at all if the machine is in
that state already, and says that it is done.

A target that is not refused is reported as done, whatever the system said. So
the answer is true exactly if the daemon had a transition to make and its calls
went through, or the process was in that condition anyway; and it agrees with
`DirectAction` only if the calls that are made there go through as well.

## Main definitions

* `directAction`: `DirectAction`, once its targets are found.
* `exitCode`: What the program returns for the reply of a daemon.
* `Turn`, `turns`: A target, with the daemon and the system at its turn.
* `InCondition`: A process is throttled, suspended or running, in the system.
* `TellsTruth`: What a command says is so, and not more than `DirectAction` says.
* `Warranted`: A target of which it may be said.

## Theorems

* `directOne_succeeds_iff`: When `DirectAction` succeeds on one process.
* `act_ok`: What is answered.
* `performed_iff`: When the calls behind the answer succeed.
* `exitCode_eq_zero_iff`: When the program that sends a command returns zero.
* `tellsTruth_iff`: When a command tells the truth.
-/

namespace ThreadHaul

namespace Service

open Actuator Telemetry Json ProcessStateMachine

section Direct

/-- The manager that `DirectAction` asks what is protected. -/
def directGuard : ActuatorManager Rat where
  config := default

/-- The threads of the process, and its priority class if none of them failed. -/
def directResume (os : OsCalls) (p : DWORD) (w : World) : World × Bool :=
  let (w, r) := resumeAllThreads os w p
  if r.threadsFailed = 0 then
    let (w, result) := setProcessPriority os w p .normal
    (w, result == .success)
  else (w, false)

theorem directResume_succeeds_iff (os : OsCalls) (p : DWORD) (w : World) :
    (directResume os p w).2 = true ↔
      NoThreadFails os os.resumeThread w p ∧ os.setsPriority = true := by
  unfold directResume
  rw [← resumeAllThreads_threadsFailed_iff]
  by_cases hfailed : (resumeAllThreads os w p).2.threadsFailed = 0
  · simp only [hfailed, if_true, true_and]
    exact setProcessPriority_succeeds_iff _ _ _ _
  · simp only [hfailed, if_false]
    exact iff_of_false Bool.false_ne_true fun h => h.1

theorem directResume_threads (os : OsCalls) (p : DWORD) (w : World) :
    (directResume os p w).1.threads = w.threads := by
  have hresumed : (resumeAllThreads os w p).1.threads = w.threads := by
    rw [resumeAllThreads_world]
  unfold directResume
  dsimp only
  split
  · exact (setProcessPriority_threads _ _ _ _).trans hresumed
  · exact hresumed

variable (host : Host) (os : DWORD → OsCalls) (verb : Manage)

/-- What `DirectAction` does to one process, and whether it is done. -/
def directOne (e : ProcessEntry) (w : World) : World × Bool :=
  if directGuard.isProtected host e.name e.pid then (w, false)
  else
    match verb with
    | .throttle =>
        let (w, result) := setProcessPriority (os e.pid) w e.pid .idle
        (w, result == .success)
    | .suspend =>
        let (w, result) := suspendAllThreads (os e.pid) w e.pid
        (w, result.allSucceeded)
    -- `release` does not come here.
    | .resume | .release => directResume (os e.pid) e.pid w

/-- The loop over the processes that match. -/
def directAll : List ProcessEntry → World → World × List (ProcessEntry × Bool)
  | [], w => (w, [])
  | e :: matched, w =>
      let (w, ok) := directOne host os verb e w
      let (w, results) := directAll matched w
      (w, (e, ok) :: results)

/-- What is said of each process, and what the program returns. -/
structure DirectResult where
  world : World
  results : List (ProcessEntry × Bool)
  exitCode : Nat

/-- `DirectAction`, for the processes that match. -/
def directAction (matched : List ProcessEntry) (w : World) : DirectResult :=
  let (w, results) := directAll host os verb matched w
  let failed := results.countP fun result => !result.2
  { world := w
    results := results
    exitCode := if results.length = 0 then 1 else if failed = 0 then 0 else 1 }

/-- The process is not one that is protected in any case, and the calls on it go
    through. -/
def DirectSucceeds (e : ProcessEntry) (w : World) : Prop :=
  directGuard.isProtected host e.name e.pid = false ∧
    match verb with
    | .throttle => (os e.pid).setsPriority = true
    | .suspend =>
        AnyThread (os e.pid) w e.pid ∧ NoThreadFails (os e.pid) (os e.pid).suspendThread w e.pid
    | .resume | .release =>
        NoThreadFails (os e.pid) (os e.pid).resumeThread w e.pid ∧
          (os e.pid).setsPriority = true

/-- `DirectAction` reports what its calls come to. -/
theorem directOne_succeeds_iff (e : ProcessEntry) (w : World) :
    (directOne host os verb e w).2 = true ↔ DirectSucceeds host os verb e w := by
  unfold directOne DirectSucceeds
  by_cases hprotected : directGuard.isProtected host e.name e.pid = true
  · rw [if_pos hprotected, hprotected]
    exact iff_of_false Bool.false_ne_true fun h => Bool.noConfusion h.1
  · have hresume := directResume_succeeds_iff (os e.pid) e.pid w
    rw [if_neg hprotected, and_iff_right (Bool.eq_false_iff.mpr hprotected)]
    cases verb with
    | throttle => exact setProcessPriority_succeeds_iff _ _ _ _
    | suspend => exact suspendAllThreads_allSucceeded_iff _ _ _
    | resume => exact hresume
    | release => exact hresume

theorem directOne_threads (e : ProcessEntry) (w : World) :
    (directOne host os verb e w).1.threads = w.threads := by
  have hresume := directResume_threads (os e.pid) e.pid w
  unfold directOne
  split
  · rfl
  · cases verb with
    | throttle => exact setProcessPriority_threads _ _ _ _
    | suspend =>
        change (suspendAllThreads (os e.pid) w e.pid).1.threads = w.threads
        rw [suspendAllThreads_world]
    | resume => exact hresume
    | release => exact hresume

/-- The threads there are decide, not their suspensions. -/
theorem DirectSucceeds.congr (e : ProcessEntry) {w w' : World} (h : w'.threads = w.threads) :
    DirectSucceeds host os verb e w' ↔ DirectSucceeds host os verb e w := by
  unfold DirectSucceeds AnyThread NoThreadFails
  rw [h]

-- The loop, by induction on the processes: what it does to one of them changes no
-- threads, and so nothing for the others.
theorem mem_directAll_results (matched : List ProcessEntry) (w w' : World)
    (h : w'.threads = w.threads) (e : ProcessEntry) (ok : Bool) :
    (e, ok) ∈ (directAll host os verb matched w').2 ↔
      e ∈ matched ∧ (ok = true ↔ DirectSucceeds host os verb e w) := by
  -- By induction on the targets; a direct call leaves the threads, so each sees the first world.
  induction matched generalizing w' with
  | nil => exact iff_of_false List.not_mem_nil fun he => List.not_mem_nil he.1
  | cons e' matched ih =>
      have hsame := directOne_threads host os verb e' w'
      have hfirst := directOne_succeeds_iff host os verb e' w'
      rw [DirectSucceeds.congr host os verb e' h] at hfirst
      simp only [directAll, List.mem_cons, ih _ (hsame.trans h), Prod.mk.injEq]
      constructor
      · rintro (⟨rfl, rfl⟩ | ⟨he, hok⟩)
        · exact ⟨Or.inl rfl, hfirst⟩
        · exact ⟨Or.inr he, hok⟩
      · rintro ⟨rfl | he, hok⟩
        · exact Or.inl ⟨rfl, Bool.eq_iff_iff.mpr (hok.trans hfirst.symm)⟩
        · exact Or.inr ⟨he, hok⟩

/-- The program returns zero if there were processes, and it was done for each
    of them. -/
theorem directAction_exitCode_eq_zero (matched : List ProcessEntry) (w : World)
    (hne : matched ≠ [])
    (h : ∀ e ∈ matched, (e, false) ∉ (directAction host os verb matched w).results) :
    (directAction host os verb matched w).exitCode = 0 := by
  have hresults : ∀ result ∈ (directAll host os verb matched w).2, result.2 = true := by
    rintro ⟨e, ok⟩ hmem
    cases ok with
    | true => rfl
    | false =>
        have he := ((mem_directAll_results host os verb matched w w rfl e false).mp hmem).1
        exact absurd hmem (h e he)
  have hlength : (directAll host os verb matched w).2.length ≠ 0 := by
    cases matched with
    | nil => exact absurd rfl hne
    | cons e matched => exact Nat.succ_ne_zero _
  -- No result is a failure, so none is counted.
  have hfailed : (directAll host os verb matched w).2.countP (fun result => !result.2) = 0 := by
    rw [List.countP_eq_zero]
    intro result hmem
    rw [hresults result hmem]
    exact Bool.false_ne_true
  unfold directAction
  simp only [if_neg hlength, hfailed, if_true]

end Direct

/-- One target of a command, with the daemon and the system as it finds them. -/
structure Turn where
  entry : ProcessEntry
  daemon : Daemon
  world : World

section Answering

variable (env : Env) (verb : Manage)

/-- The targets, each with the daemon and the system after those before it. -/
def turns : List ProcessEntry → Daemon → World → List Turn
  | [], _, _ => []
  | e :: targets, d, w =>
      ⟨e, d, w⟩ :: turns targets (act env e d w verb).1.daemon (act env e d w verb).1.world

namespace Turn

variable (t : Turn)

/-- What is answered. -/
def answer : Answer := (act env t.entry t.daemon t.world verb).2

/-- The entry for the target in the reply. -/
def result : Json := resultJson t.entry (t.answer env verb).ok (t.answer env verb).text

end Turn

/-- The machine that a command finds for a process, or makes. -/
def machineFor (e : ProcessEntry) (d : Daemon) : ProcessStateMachine Rat :=
  (d.actuator.find e.pid).getD
    (create e.name e.pid d.actuator.config (env.opened e.pid))

/-- A transition of the process into the state is called back as a success. -/
def Succeeds (p : DWORD) (state : ProcessState) (fired : List (Transition Rat)) : Prop :=
  ∃ f ∈ fired, f.batchProcessId = p ∧ f.newState = state ∧ f.actuationSucceeded = true

/-- The transition that the target was to make is made, and its calls succeed. -/
def Turn.Performed (t : Turn) : Prop :=
  Succeeds t.entry.pid verb.state (act env t.entry t.daemon t.world verb).1.fired

theorem machineFor_pid (e : ProcessEntry) (d : Daemon) :
    (machineFor env e d).batchProcessId = e.pid := by
  unfold machineFor
  rcases hfind : d.actuator.find e.pid with _ | m
  · rfl
  · exact (machineOf_some _ _ m hfind).2

/-- The fields of the entry `manual_override` of the log. -/
def overrideJson (e : ProcessEntry) (a : Answer) : Json :=
  .object [(ascii "command", .string verb.name), (ascii "process_id", .integer e.pid.toNat),
    (ascii "process_name", .string (narrow e.name)), (ascii "ok", .boolean a.ok),
    (ascii "result", .string a.text)]

/-- The entries `manual_override` that a command writes. -/
def manualOverrides (targets : List ProcessEntry) (d : Daemon) (w : World) : List Json :=
  (actAll env verb targets d w).2.map fun a => overrideJson verb a.1 a.2

/-- The entry says that it was done. -/
def SaysOk (j : Json) : Prop :=
  ∃ members, j = .object members ∧ find members (ascii "ok") = some (.boolean true)

/-- The member `results` of a reply. -/
def resultsOf : Json → List Json
  | .object members =>
      match find members (ascii "results") with
      | some (.array results) => results
      | _ => []
  | _ => []

/-- The member `ok`, where it is a truth value. -/
def okOf : Json → Bool
  | .object members =>
      match find members (ascii "ok") with
      | some (.boolean ok) => ok
      | _ => false
  | _ => false

/-- What `main` returns for the reply of a daemon to one of these commands. It searches the
    text of the reply for `"ok":true`, which is there if the reply says so, or one of its
    results does: in a string that is written out, every quotation mark comes after a
    backslash. -/
def exitCode (reply : Json) : Nat :=
  if okOf reply || (resultsOf reply).any okOf then 0 else 1

/-- What is written is what was to be written. -/
theorem eq_of_finish {j j' : Json} (h : finish j = .ok j') : j' = j := by
  unfold finish at h
  rcases hdump : j.dump with e | j''
  · rw [hdump] at h
    cases h
  · rw [hdump] at h
    cases h
    exact eq_of_dump hdump

theorem commandTargets_some (line : Bytes) (targets : List ProcessEntry)
    (h : commandTargets env line = some (verb, targets)) :
    manageOf (verbOf line) = some verb ∧ ¬ (targetOf line).isEmpty = true ∧
      selectTargets env (targetOf line) env.snapshot = .ok targets := by
  unfold commandTargets at h
  split at h
  · cases h
  · next m hverb =>
    -- A line without a target, or with one that is not understood, has no targets.
    split_ifs at h with hempty
    split at h
    · cases h
    · next selected hselect =>
      cases h
      exact ⟨hverb, hempty, hselect⟩

theorem turns_entries (targets : List ProcessEntry) (d : Daemon) (w : World) :
    (turns env verb targets d w).map Turn.entry = targets := by
  induction targets generalizing d w with
  | nil => rfl
  | cons e targets ih => exact congrArg (e :: ·) (ih _ _)

theorem actAll_answers (targets : List ProcessEntry) (d : Daemon) (w : World) :
    (actAll env verb targets d w).2 =
      (turns env verb targets d w).map fun t => (t.entry, t.answer env verb) := by
  induction targets generalizing d w with
  | nil => rfl
  | cons e targets ih => exact congrArg ((e, _) :: ·) (ih _ _)

theorem saysOk_result_iff (e : ProcessEntry) (ok : Bool) (text : Bytes) :
    SaysOk (resultJson e ok text) ↔ ok = true := by
  constructor
  · rintro ⟨members, hj, hfind⟩
    cases hj
    cases ok with
    | true => rfl
    | false => cases hfind
  · rintro rfl
    exact ⟨_, rfl, rfl⟩

theorem saysOk_replyWithResults_iff (ok : Bool) (message : Bytes) (results : List Json) :
    SaysOk (replyWithResults ok message results) ↔ ok = true := by
  constructor
  · rintro ⟨members, hj, hfind⟩
    cases hj
    cases ok with
    | true => rfl
    | false => cases hfind
  · rintro rfl
    exact ⟨_, rfl, rfl⟩

theorem saysOk_override_iff (e : ProcessEntry) (a : Answer) :
    SaysOk (overrideJson verb e a) ↔ a.ok = true := by
  constructor
  · rintro ⟨members, hj, hfind⟩
    cases hj
    change some (Json.boolean a.ok) = some (.boolean true) at hfind
    cases hok : a.ok with
    | true => rfl
    | false =>
        rw [hok] at hfind
        cases hfind
  · intro hok
    exact ⟨_, rfl, congrArg (fun b => some (Json.boolean b)) hok⟩

/-- A target that is not refused is said to be done. -/
theorem act_ok (e : ProcessEntry) (d : Daemon) (w : World) (hverb : verb ≠ .release) :
    (act env e d w verb).2.ok = forces env.host d verb e := by
  -- A process without a machine gets one unless it is protected.
  have hmanaged : ∀ state (done : Answer), done.ok = true →
      (forceManaged env e d w state done).2.ok =
        ((d.actuator.find e.pid).isSome || !d.actuator.isProtected env.host e.name e.pid) := by
    intro state done hdone
    have hadded := d.actuator.addBatchProcess_added env.host (env.opened e.pid) e.name e.pid
    unfold forceManaged
    cases d.actuator.find e.pid with
    | some m => exact hdone
    | none =>
        dsimp only
        rw [← hadded]
        cases (d.actuator.addBatchProcess env.host (env.opened e.pid) e.name e.pid).2 with
        | false => rfl
        | true => exact hdone
  unfold act forces
  cases contains env.host d.criticalProcesses e.name with
  | true => rfl
  | false =>
      rw [if_neg Bool.false_ne_true, Bool.not_false, Bool.true_and]
      cases verb with
      | throttle => exact hmanaged .throttled .throttled rfl
      | suspend => exact hmanaged .suspended .suspended rfl
      | resume => cases d.actuator.find e.pid <;> rfl
      | release => exact absurd rfl hverb

/-- A command starts and ends no threads. -/
theorem act_threads (e : ProcessEntry) (d : Daemon) (w : World) :
    (act env e d w verb).1.world.threads = w.threads := by
  -- A sweep makes no thread and ends none, whatever state it forces.
  have hheld : ∀ d' : Daemon, ∀ state,
      (forceHeld env e d' w state).world.threads = w.threads :=
    fun d' state => d'.actuator.sweep_visitOne_threads (env.os e.pid) e.pid _ w
  have hmanaged : ∀ state done,
      (forceManaged env e d w state done).1.world.threads = w.threads := by
    intro state done
    unfold forceManaged
    split
    · exact hheld _ state
    · dsimp only
      split
      · rfl
      · exact hheld _ state
  unfold act
  split
  · rfl
  · cases verb with
    | throttle => exact hmanaged .throttled .throttled
    | suspend => exact hmanaged .suspended .suspended
    | resume =>
        dsimp only
        split
        · rfl
        · exact hheld d .normal
    | release =>
        dsimp only
        split
        · rfl
        · have hreleased := d.actuator.sweep_visitOne_threads (env.os e.pid) e.pid
            .releaseManualHold w
          dsimp only [releaseHold]
          split <;> exact hreleased

theorem turns_threads (targets : List ProcessEntry) (d : Daemon) (w : World) :
    ∀ t ∈ turns env verb targets d w, t.world.threads = w.threads := by
  induction targets generalizing d w with
  | nil => exact fun t ht => absurd ht List.not_mem_nil
  | cons e targets ih =>
      intro t ht
      rcases List.mem_cons.mp ht with rfl | ht
      · rfl
      · exact (ih _ _ t ht).trans (act_threads env verb e d w)

theorem not_succeeds_nil (p : DWORD) (state : ProcessState) : ¬ Succeeds p state [] := by
  rintro ⟨f, hf, _⟩
  exact List.not_mem_nil hf

theorem forceHeld_succeeds_iff (e : ProcessEntry) (d : Daemon) (w : World) (state : ProcessState)
    (m : ProcessStateMachine Rat) (hfind : d.actuator.find e.pid = some m) :
    Succeeds e.pid state (forceHeld env e d w state).fired ↔
      m.state ≠ state ∧ m.hasExited w = false ∧ m.CallsSucceed (env.os e.pid) state w :=
  d.actuator.forceState_succeeds_iff (env.os e.pid) e.pid state d.pressure true w m hfind

/-- A process that is forced has a machine by then. -/
theorem forceManaged_succeeds_iff (e : ProcessEntry) (d : Daemon) (w : World)
    (state : ProcessState) (done : Answer) :
    Succeeds e.pid state (forceManaged env e d w state done).1.fired ↔
      ((d.actuator.find e.pid).isSome || !d.actuator.isProtected env.host e.name e.pid) = true ∧
        (machineFor env e d).state ≠ state ∧ (machineFor env e d).hasExited w = false ∧
        (machineFor env e d).CallsSucceed (env.os e.pid) state w := by
  have hadded := d.actuator.addBatchProcess_added env.host (env.opened e.pid) e.name e.pid
  have hadd := d.actuator.find_addBatchProcess env.host (env.opened e.pid) e.name e.pid e.pid
  unfold forceManaged machineFor
  -- Without a machine one is made first, unless the process is protected.
  rcases hfind : d.actuator.find e.pid with _ | m
  · dsimp only
    rw [Option.isSome_none, Bool.false_or, ← hadded]
    rcases hprotected : d.actuator.isProtected env.host e.name e.pid with _ | _
    · -- A new machine is made, and it is the one that is forced.
      rw [hprotected, Bool.not_false] at hadded
      rw [if_pos ⟨rfl, hfind, hprotected⟩] at hadd
      rw [hadded, and_iff_right rfl]
      exact forceHeld_succeeds_iff env e _ w state _ hadd
    · rw [hprotected, Bool.not_true] at hadded
      rw [hadded]
      exact iff_of_false (not_succeeds_nil e.pid state) fun h => Bool.false_ne_true h.1
  · rw [Option.isSome_some, Bool.true_or, and_iff_right rfl]
    exact forceHeld_succeeds_iff env e d w state m hfind

/-- The transition is made and succeeds: `ForceState` is called for the target,
    finds it in another state and running, and the calls go through. -/
theorem performed_iff (e : ProcessEntry) (d : Daemon) (w : World) (hverb : verb ≠ .release) :
    Succeeds e.pid verb.state (act env e d w verb).1.fired ↔
      forces env.host d verb e = true ∧ (machineFor env e d).state ≠ verb.state ∧
        (machineFor env e d).hasExited w = false ∧
        (machineFor env e d).CallsSucceed (env.os e.pid) verb.state w := by
  unfold act forces
  -- A critical process is refused before any machine is asked.
  rcases contains env.host d.criticalProcesses e.name with _ | _
  · rw [if_neg Bool.false_ne_true, Bool.not_false, Bool.true_and]
    cases verb with
    | throttle => exact forceManaged_succeeds_iff env e d w .throttled .throttled
    | suspend => exact forceManaged_succeeds_iff env e d w .suspended .suspended
    | resume =>
        unfold machineFor
        rcases hfind : d.actuator.find e.pid with _ | m
        · exact iff_of_false (not_succeeds_nil e.pid .normal) fun h => Bool.false_ne_true h.1
        · rw [Option.isSome_some, and_iff_right rfl]
          exact forceHeld_succeeds_iff env e d w .normal m hfind
    | release => exact absurd rfl hverb
  · exact iff_of_false (not_succeeds_nil e.pid verb.state) fun h => Bool.false_ne_true h.1

end Answering

section Reading

variable (env : Env) (d : Daemon) (w : World) (line : Bytes)

theorem handleCommand_eq_handleManage (verb : Manage)
    (hverb : manageOf (verbOf line) = some verb) :
    handleCommand env d w line = handleManage env d w verb (targetOf line) := by
  have hname := name_of_manageOf (verbOf line) verb hverb
  unfold handleCommand
  dsimp only
  rw [hverb, ← hname]
  cases verb <;> rfl

/-- A command without targets is not done. -/
theorem handleCommand_of_no_targets (verb : Manage) (r : CommandResult)
    (htargets : commandTargets env line = some (verb, []))
    (hr : handleCommand env d w line = .ok r) :
    ¬ SaysOk r.reply := by
  rcases commandTargets_some env verb line [] htargets with ⟨hverb, hempty, hselect⟩
  rw [handleCommand_eq_handleManage env d w line verb hverb, handleManage, if_neg hempty,
    hselect] at hr
  change answerOnly d w false (noMatch (targetOf line)) = .ok r at hr
  -- The reply is `no match`, which says `ok` false.
  rcases (bind_eq_ok_iff _ _ _).mp hr with ⟨j, hj, hout⟩
  have hreply : r.reply = j := congrArg CommandResult.reply (Except.ok.inj hout).symm
  rw [hreply.trans (eq_of_finish hj)]
  rintro ⟨members, hmembers, hfind⟩
  cases hmembers
  cases hfind

/-- The reply to a command that has targets: a result for each of them, and
    whether it was done for all. -/
theorem handleCommand_of_targets (verb : Manage) (targets : List ProcessEntry)
    (htargets : commandTargets env line = some (verb, targets)) (hne : targets ≠ []) :
    ∃ r message, handleCommand env d w line = .ok r ∧
      r.reply = replyWithResults ((turns env verb targets d w).all fun t => (t.answer env verb).ok)
        message ((turns env verb targets d w).map fun t => t.result env verb) := by
  rcases commandTargets_some env verb line targets htargets with ⟨hverb, hempty, hselect⟩
  rcases replies_report (actAll env verb targets d w).1 (actAll env verb targets d w).2 with
    ⟨r, hr, _⟩
  -- There are targets, so the reply is the report on them.
  have hnil : ¬ targets.isEmpty = true := fun h => hne (List.isEmpty_iff.mp h)
  have hok : handleCommand env d w line = .ok r := by
    rw [handleCommand_eq_handleManage env d w line verb hverb, handleManage, if_neg hempty,
      hselect]
    change (if targets.isEmpty = true then _ else _) = _
    rw [if_neg hnil]
    exact hr
  rcases (bind_eq_ok_iff _ _ _).mp hr with ⟨j, hj, hout⟩
  have hreply : r.reply = j := congrArg CommandResult.reply (Except.ok.inj hout).symm
  have hj' := hreply.trans (eq_of_finish hj)
  rw [actAll_answers, List.all_map, List.map_map] at hj'
  exact ⟨r, _, hok, hj'⟩

-- The reply as a whole is positive only if every result is, so the results decide.
/-- The program that sends a command returns zero as soon as one target is answered with
    success. -/
theorem exitCode_eq_zero_iff (verb : Manage) (targets : List ProcessEntry)
    (htargets : commandTargets env line = some (verb, targets)) (hne : targets ≠ []) :
    ∃ r, handleCommand env d w line = .ok r ∧
      (exitCode r.reply = 0 ↔ ∃ t ∈ turns env verb targets d w, (t.answer env verb).ok = true) := by
  rcases handleCommand_of_targets env d w line verb targets htargets hne with
    ⟨r, message, hr, hreply⟩
  refine ⟨r, hr, ?_⟩
  have hwhole : okOf r.reply
      = (turns env verb targets d w).all fun t => (t.answer env verb).ok := by
    rw [hreply]
    rfl
  have hresults : (resultsOf r.reply).any okOf =
      (turns env verb targets d w).any fun t => (t.answer env verb).ok := by
    rw [hreply]
    exact List.any_map
  have hsome : (turns env verb targets d w).all (fun t => (t.answer env verb).ok) = true →
      (turns env verb targets d w).any (fun t => (t.answer env verb).ok) = true := by
    intro hall
    -- There is a target, and so there is a turn.
    cases hturns : turns env verb targets d w with
    | nil =>
        have hentries := turns_entries env verb targets d w
        rw [hturns] at hentries
        exact absurd hentries.symm hne
    | cons t rest =>
        rw [hturns, List.all_cons, Bool.and_eq_true] at hall
        rw [List.any_cons, hall.1, Bool.true_or]
  rw [exitCode, hwhole, hresults, Bool.or_eq_right_iff_imp.mpr hsome, ← List.any_eq_true]
  cases (turns env verb targets d w).any fun t => (t.answer env verb).ok with
  | true => exact iff_of_true rfl rfl
  | false => exact iff_of_false Nat.one_ne_zero Bool.false_ne_true

end Reading

/-- What others do to the processes. -/
structure Elsewhere where
  /-- The suspensions of a thread that the service has no part in. -/
  suspends : DWORD → Nat
  /-- The priority class of a process to which the service gave none. -/
  priorityClass : DWORD → Option PriorityLevel

section Conditions

variable (elsewhere : Elsewhere) (w : World) (p : DWORD)

/-- The process runs, with the priority class. A thread that others keep
    suspended is no business of the service. -/
def RunsAt (level : PriorityLevel) : Prop :=
  w.exited p = false ∧ (∀ t ∈ w.threads, t.ownerProcessId = p → w.suspends t.id = 0) ∧
    (w.priorityGiven p).or (elsewhere.priorityClass p) = some level

/-- The process is throttled, suspended or normal, as far as the system is
    concerned. -/
def InCondition : ProcessState → Prop
  | .throttled => RunsAt elsewhere w p .idle
  | .normal => RunsAt elsewhere w p .normal
  | .suspended =>
      w.exited p = false ∧ (∃ t ∈ w.threads, t.ownerProcessId = p) ∧
        ∀ t ∈ w.threads, t.ownerProcessId = p → 0 < w.suspends t.id + elsewhere.suspends t.id

end Conditions

section Truth

variable (env : Env) (client : DWORD) (elsewhere : Elsewhere) (d : Daemon) (w : World)
  (line : Bytes)

/-- The system as it is for the program that sends the command. -/
def clientHost : Host := { env.host with currentProcessId := client }

/-- What is said of each target, in the reply and in the log. -/
def statements (verb : Manage) (targets : List ProcessEntry) (reply : Json) :
    List (Turn × Json) :=
  (turns env verb targets d w).zip (resultsOf reply) ++
    (turns env verb targets d w).zip (manualOverrides env verb targets d w)

/-- A `throttle`, a `suspend` or a `resume` says that it was done only of a
    process on which it succeeded, or which was in that condition already, and
    only where the program would say so without a daemon. -/
structure TellsTruth : Prop where
  each : ∀ verb targets r, commandTargets env line = some (verb, targets) → verb ≠ .release →
    handleCommand env d w line = .ok r →
      ∀ said ∈ statements env d w verb targets r.reply, SaysOk said.2 →
        (said.1.Performed env verb ∨
          InCondition elsewhere said.1.world said.1.entry.pid verb.state) ∧
        (said.1.entry, false) ∉
          (directAction (clientHost env client) env.os verb targets w).results
  whole : ∀ verb targets r, commandTargets env line = some (verb, targets) → verb ≠ .release →
    handleCommand env d w line = .ok r → SaysOk r.reply →
      (directAction (clientHost env client) env.os verb targets w).exitCode = 0

/-- The record of the process is changed, it runs as far as the daemon can see,
    and if it was suspended its threads are resumed. -/
structure Turn.Moves (verb : Manage) (t : Turn) : Prop where
  state : (machineFor env t.entry t.daemon).state ≠ verb.state
  running : (machineFor env t.entry t.daemon).hasExited t.world = false
  resumes : (machineFor env t.entry t.daemon).Resumes (env.os t.entry.pid) t.world

/-- The target is refused; or the calls of `DirectAction` on it go through, and
    it is in that condition already or is brought into it. -/
def Turn.Warranted (verb : Manage) (t : Turn) : Prop :=
  forces env.host t.daemon verb t.entry = false ∨
    DirectSucceeds (clientHost env client) env.os verb t.entry t.world ∧
      (InCondition elsewhere t.world t.entry.pid verb.state ∨ t.Moves env verb)

/-- Every target of a `throttle`, a `suspend` or a `resume` is one of which it
    may be said, at its turn. -/
def AllWarranted : Prop :=
  ∀ verb targets, commandTargets env line = some (verb, targets) → verb ≠ .release →
    ∀ t ∈ turns env verb targets d w, t.Warranted env client elsewhere verb

-- Beyond the calls that `DirectAction` makes, a transition only resumes.
theorem callsSucceed_iff_resumes (verb : Manage) (t : Turn) (hverb : verb ≠ .release)
    (hdirect : DirectSucceeds (clientHost env client) env.os verb t.entry t.world)
    (hstate : (machineFor env t.entry t.daemon).state ≠ verb.state) :
    (machineFor env t.entry t.daemon).CallsSucceed (env.os t.entry.pid) verb.state t.world ↔
      (machineFor env t.entry t.daemon).Resumes (env.os t.entry.pid) t.world := by
  have hpid := machineFor_pid env t.entry t.daemon
  cases verb with
  | throttle => exact and_iff_left hdirect.2
  | suspend =>
      -- The process is not recorded as suspended, so there is nothing to resume.
      refine iff_of_true ?_ fun hsuspended => absurd hsuspended hstate
      change AnyThread _ _ _ ∧ NoThreadFails _ _ _ _
      rw [hpid]
      exact hdirect.2
  | resume => exact and_iff_left hdirect.2.2
  | release => exact absurd rfl hverb

/-- It may be said of a target exactly if it is so. -/
theorem warranted_iff (verb : Manage) (t : Turn) (hverb : verb ≠ .release) :
    t.Warranted env client elsewhere verb ↔
      ((t.answer env verb).ok = true →
        (t.Performed env verb ∨ InCondition elsewhere t.world t.entry.pid verb.state) ∧
          DirectSucceeds (clientHost env client) env.os verb t.entry t.world) := by
  have hok : (t.answer env verb).ok = forces env.host t.daemon verb t.entry :=
    act_ok env verb t.entry t.daemon t.world hverb
  have hperformed : t.Performed env verb ↔ _ :=
    performed_iff env verb t.entry t.daemon t.world hverb
  rw [hok]
  -- A process that is refused is reported as such, and nothing else is said of it.
  by_cases hforces : forces env.host t.daemon verb t.entry = true
  · have hnot : ¬ forces env.host t.daemon verb t.entry = false := by
      rw [hforces]
      exact fun h => Bool.noConfusion h
    rw [forall_prop_of_true hforces, Turn.Warranted, or_iff_right hnot, and_comm]
    refine and_congr_left fun hdirect => ?_
    rw [or_comm, hperformed, and_iff_right hforces]
    refine or_congr_left ?_
    constructor
    · intro h
      refine ⟨h.state, h.running, ?_⟩
      exact (callsSucceed_iff_resumes env client verb t hverb hdirect h.state).mpr h.resumes
    · rintro ⟨hstate, hrunning, hcalls⟩
      refine ⟨hstate, hrunning, ?_⟩
      exact (callsSucceed_iff_resumes env client verb t hverb hdirect hstate).mp hcalls
  · exact iff_of_true (Or.inl (Bool.eq_false_iff.mpr hforces)) fun h => absurd h hforces

/-- What is said of the targets is what was answered, once in the reply and once
    in the log. -/
theorem mem_statements (verb : Manage) (targets : List ProcessEntry) (ok : Bool)
    (message : Bytes) (said : Turn × Json) :
    said ∈ statements env d w verb targets (replyWithResults ok message
        ((turns env verb targets d w).map fun t => t.result env verb)) ↔
      said.1 ∈ turns env verb targets d w ∧
        (said.2 = said.1.result env verb ∨
          said.2 = overrideJson verb said.1.entry (said.1.answer env verb)) := by
  have hresults : resultsOf (replyWithResults ok message
      ((turns env verb targets d w).map fun t => t.result env verb)) =
        (turns env verb targets d w).map fun t => t.result env verb := rfl
  -- The log is written from the answers that the reply is made of.
  have hlog : manualOverrides env verb targets d w = (turns env verb targets d w).map fun t =>
      overrideJson verb t.entry (t.answer env verb) := by
    rw [manualOverrides, actAll_answers, List.map_map]
    rfl
  rcases said with ⟨t, j⟩
  rw [statements, hresults, hlog, ← List.map_prod_left_eq_zip, ← List.map_prod_left_eq_zip,
    List.mem_append, List.mem_map, List.mem_map]
  constructor
  · rintro (⟨t', ht, heq⟩ | ⟨t', ht, heq⟩)
    · cases heq
      exact ⟨ht, Or.inl rfl⟩
    · cases heq
      exact ⟨ht, Or.inr rfl⟩
  · rintro ⟨ht, hj | hj⟩
    · exact Or.inl ⟨t, ht, congrArg (Prod.mk t) hj.symm⟩
    · exact Or.inr ⟨t, ht, congrArg (Prod.mk t) hj.symm⟩

-- What `DirectAction` reports of a target does not depend on when it comes to it.
theorem not_mem_results_iff (verb : Manage) (targets : List ProcessEntry) (t : Turn)
    (ht : t ∈ turns env verb targets d w) :
    (t.entry, false) ∉ (directAction (clientHost env client) env.os verb targets w).results ↔
      DirectSucceeds (clientHost env client) env.os verb t.entry t.world := by
  have he : t.entry ∈ targets := by
    rw [← turns_entries env verb targets d w]
    exact List.mem_map_of_mem ht
  have hmem := mem_directAll_results (clientHost env client) env.os verb targets w w rfl
    t.entry false
  rw [DirectSucceeds.congr _ _ _ _ (turns_threads env verb targets d w t ht)]
  refine (not_congr hmem).trans ?_
  rw [and_iff_right he, iff_false_left Bool.false_ne_true, not_not]

/-- What holds of a target that is answered with success. -/
theorem AllWarranted.answered {verb : Manage} {targets : List ProcessEntry}
    (h : AllWarranted env client elsewhere d w line)
    (htargets : commandTargets env line = some (verb, targets)) (hverb : verb ≠ .release)
    (t : Turn) (ht : t ∈ turns env verb targets d w) (hok : (t.answer env verb).ok = true) :
    (t.Performed env verb ∨ InCondition elsewhere t.world t.entry.pid verb.state) ∧
      (t.entry, false) ∉
        (directAction (clientHost env client) env.os verb targets w).results := by
  rcases (warranted_iff env client elsewhere verb t hverb).mp (h verb targets htargets hverb t ht)
    hok with ⟨hdone, hsucceeds⟩
  exact ⟨hdone, (not_mem_results_iff env client d w verb targets t ht).mpr hsucceeds⟩

theorem allWarranted_of_tellsTruth (h : TellsTruth env client elsewhere d w line) :
    AllWarranted env client elsewhere d w line := by
  intro verb targets htargets hverb t ht
  have hne : targets ≠ [] := by
    rintro rfl
    exact absurd ht List.not_mem_nil
  rcases handleCommand_of_targets env d w line verb targets htargets hne with
    ⟨r, message, hr, hreply⟩
  rw [warranted_iff env client elsewhere verb t hverb]
  intro hok
  -- Of a target that is answered with success, the reply says so.
  have hsaid : (t, t.result env verb) ∈ statements env d w verb targets r.reply := by
    rw [hreply]
    exact (mem_statements env d w verb targets _ message _).mpr ⟨ht, Or.inl rfl⟩
  have heach := h.each verb targets r htargets hverb hr _ hsaid
    ((saysOk_result_iff _ _ _).mpr hok)
  exact ⟨heach.1, (not_mem_results_iff env client d w verb targets t ht).mp heach.2⟩

theorem tellsTruth_of_allWarranted (h : AllWarranted env client elsewhere d w line) :
    TellsTruth env client elsewhere d w line where
  each := by
    intro verb targets r htargets hverb hr said hsaid hok
    by_cases hne : targets = []
    · rw [hne] at hsaid
      exact absurd hsaid List.not_mem_nil
    · rcases handleCommand_of_targets env d w line verb targets htargets hne with
        ⟨r', message, hr', hreply⟩
      rw [Except.ok.inj (hr.symm.trans hr'), hreply] at hsaid
      rcases (mem_statements env d w verb targets _ message said).mp hsaid with ⟨ht, hj | hj⟩
      · rw [hj] at hok
        exact h.answered env client elsewhere d w line htargets hverb said.1 ht
          ((saysOk_result_iff _ _ _).mp hok)
      · rw [hj] at hok
        exact h.answered env client elsewhere d w line htargets hverb said.1 ht
          ((saysOk_override_iff _ _ _).mp hok)
  whole := by
    intro verb targets r htargets hverb hr hok
    by_cases hne : targets = []
    · rw [hne] at htargets
      exact absurd hok (handleCommand_of_no_targets env d w line verb r htargets hr)
    · rcases handleCommand_of_targets env d w line verb targets htargets hne with
        ⟨r', message, hr', hreply⟩
      rw [Except.ok.inj (hr.symm.trans hr'), hreply] at hok
      -- The reply is positive only if all the answers are.
      have hall := (saysOk_replyWithResults_iff _ _ _).mp hok
      refine directAction_exitCode_eq_zero _ _ _ _ _ hne ?_
      intro e he
      rw [← turns_entries env verb targets d w] at he
      rcases List.mem_map.mp he with ⟨t, ht, rfl⟩
      exact (h.answered env client elsewhere d w line htargets hverb t ht
        (List.all_eq_true.mp hall t ht)).2

/-- A command tells the truth exactly if it may be said of each of its targets. The exit
    code of the program that sends it is another matter: one target that is answered with
    success is enough for it. -/
theorem tellsTruth_iff :
    (TellsTruth env client elsewhere d w line ↔ AllWarranted env client elsewhere d w line) ∧
      ∀ verb targets, commandTargets env line = some (verb, targets) → targets ≠ [] →
        ∃ r, handleCommand env d w line = .ok r ∧ (exitCode r.reply = 0 ↔
          ∃ t ∈ turns env verb targets d w, (t.answer env verb).ok = true) :=
  ⟨⟨allWarranted_of_tellsTruth env client elsewhere d w line,
    tellsTruth_of_allWarranted env client elsewhere d w line⟩,
    exitCode_eq_zero_iff env d w line⟩

end Truth

/-- The priority class of the only process cannot be set. -/
def deniedEnv : Env :=
  { oneProcess "a.exe" 4821 with
    os := fun _ => { OsCalls.succeeding with setPriorityClassError := some .accessDenied } }

/-- It is said to be throttled all the same. -/
theorem not_tellsTruth_denied :
    ¬ TellsTruth deniedEnv 2000 ⟨fun _ => 0, fun _ => none⟩ started sampleWorld
      (ascii "throttle a.exe") := by
  intro h
  let t : Turn := ⟨⟨wide "a.exe", 4821⟩, started, sampleWorld⟩
  have htargets : commandTargets deniedEnv (ascii "throttle a.exe")
      = some (.throttle, [⟨wide "a.exe", 4821⟩]) := rfl
  -- The reply says that the process is throttled.
  have hsaid : ∃ r, handleCommand deniedEnv started sampleWorld (ascii "throttle a.exe") = .ok r ∧
      (t, t.result deniedEnv .throttle) ∈ statements deniedEnv started sampleWorld .throttle
        [⟨wide "a.exe", 4821⟩] r.reply := ⟨_, rfl, List.mem_cons_self ..⟩
  rcases hsaid with ⟨r, hr, hsaid⟩
  have heach := h.each .throttle _ r htargets (by decide) hr _ hsaid ⟨_, rfl, rfl⟩
  rcases heach.1 with ⟨f, hf, _, _, hok⟩ | hcondition
  · -- The only callback is that of the call that was denied.
    have hfired : (act deniedEnv t.entry started sampleWorld .throttle).1.fired.all
        (fun f => !f.actuationSucceeded) = true := by decide +kernel
    have hnot := List.all_eq_true.mp hfired f hf
    rw [hok] at hnot
    cases hnot
  · cases hcondition.2.2

end Service

end ThreadHaul
