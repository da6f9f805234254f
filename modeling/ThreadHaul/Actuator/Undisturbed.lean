import Mathlib.Logic.Relation
import ThreadHaul.Actuator.Stages

/-!
# Transitions That Nothing Disturbs

The stages of a transition come to what `actuate` says, if nothing happens in
between.

`Next` is one system call with the outcome that `OsCalls` gives it, and
`Agrees` says that the two models are about the same process: its exit, its
threads in the order of the walk, and that what is said to open can be opened.
Then a transition runs to its end, its calls change the system as `actuate`
changes it, and it reports what `transitionTo` reports (`leads_transition`). An
operation of a machine comes to what `exec` says (`leads_call`).

## Main definitions

* `Work.reply`, `Next`, `Leads`: The next system call, and what it leads to.
* `Hit.apply`: What a call does to the system.
* `Agrees`: The two models are about the same process.

## Theorems

* `leads_loop`: The loop over the threads.
* `leads_priority`: The two calls for the priority class.
* `leads_transition`: A transition.
* `leads_call`: An operation of a machine.
-/

namespace ThreadHaul

namespace Actuator

namespace Stages

open Identifiers Relation

variable {α : Type*}

/-- The outcome of the call on a thread. -/
def ThreadCall.comesOut (os : OsCalls) : ThreadCall → DWORD → Bool
  | .suspend => os.suspendThread
  | .resume => os.resumeThread

/-- What the call does to the suspensions of a thread. -/
def ThreadCall.effect : ThreadCall → Nat → Nat
  | .suspend => (· + 1)
  | .resume => (· - 1)

/-- What a call does to the system. -/
def Hit.apply (v : World) (h : Hit) : World :=
  if h.succeeded then
    match h.call with
    | .thread call =>
        { v with suspends := Function.update v.suspends h.id (call.effect (v.suspends h.id)) }
    | .setPriorityClass level =>
        { v with priorityGiven := Function.update v.priorityGiven h.id (some level) }
  else v

/-- How the next system call comes out. -/
def Work.reply (os : OsCalls) (walk : List DWORD) (w : Work α) : Reply :=
  match w.stage with
  | .hasExited | .openThread _ [] _ => {}
  | .enumerateThreadIds _ => { walk := walk }
  | .openThread _ (tid :: _) _ => { error := os.openThreadError tid }
  | .threadOpen call tid _ _ _ => { succeeds := call.comesOut os tid }
  | .openProcess _ _ => { error := os.openProcessError }
  | .processOpen _ _ _ => { succeeds := os.setPriorityClassError.isNone }

/-- The transition under way makes its next system call. -/
def Next (os : OsCalls) (walk : List DWORD) (s s' : State α) : Prop :=
  ∃ w, s.work = some w ∧ s' = s.proceed w (w.reply os walk)

/-- The transition under way gets there, and nothing else happens. -/
def Leads (os : OsCalls) (walk : List DWORD) : State α → State α → Prop :=
  ReflTransGen (Next os walk)

/-- The process, its threads in the order of the walk, and the outcomes are the
    same in both models. -/
structure Agrees (s : State α) (os : OsCalls) (walk : List DWORD) (v : World) (m : Managed α) :
    Prop where
  exited : s.hasExited m = m.machine.hasExited v
  listed : walk.filter (s.belongs m.machine.batchProcessId)
    = enumerateThreadIds os v m.machine.batchProcessId
  runs : os.openProcessError = none → (s.running m.machine.batchProcessId).isSome = true

namespace State

/-- The transition has come to a stage, with the calls it has made so far. -/
def reached (s : State α) (w : Work α) (hits : List Hit) (stage : Stage) : State α :=
  { s with
    hits := s.hits ++ hits
    work := some { w with stage := stage } }

/-- The transition has come to its end. -/
def ended (s : State α) (w : Work α) (hits : List Hit) (succeeded : Bool) : State α :=
  { s with hits := s.hits ++ hits }.finish w succeeded

end State

section Calls

variable (os : OsCalls) (walk : List DWORD) (s : State α) (w : Work α) (hits : List Hit)

/-- What runs can be opened, whoever has a handle to it. -/
theorem found_of_runs (r : Registry DWORD) (held : Nat → Bool) (k : DWORD) (o : Nat)
    (h : r.found (fun _ => false) k = some o) : r.found held k = some o := by
  rw [Registry.found_eq_some_iff] at h ⊢
  exact ⟨h.1, Or.inl (h.2.resolve_right Bool.false_ne_true)⟩

/-- One turn of the loop over the threads. -/
theorem leads_turn (call : ThreadCall) (tid : DWORD) (threadIds : List DWORD)
    (result : ThreadOpResult) (v : World)
    (hruns : (s.threads.found (fun _ => false) tid).isSome = true) :
    ∃ hits', Leads os walk (s.reached w hits (.openThread call (tid :: threadIds) result))
        (s.reached w (hits ++ hits') (.openThread call threadIds
          (threadOp os (call.comesOut os) call.effect (v, result) tid).2)) ∧
      (threadOp os (call.comesOut os) call.effect (v, result) tid).1 = hits'.foldl Hit.apply v := by
  rcases Option.isSome_iff_exists.mp hruns with ⟨t, ht⟩
  have hfound : (s.reached w hits (.openThread call (tid :: threadIds) result)).foundThread tid
      = some t := found_of_runs s.threads _ tid t ht
  unfold threadOp
  rcases herror : os.openThreadError tid with _ | e
  · -- The thread is opened, and the call is made.
    let made : Hit :=
      { call := .thread call
        id := tid
        succeeded := call.comesOut os tid
        process := s.owner t
        subject := w.managed.subject }
    have hopen : Next os walk (s.reached w hits (.openThread call (tid :: threadIds) result))
        (s.reached w hits (.threadOpen call tid t threadIds result)) := by
      refine ⟨_, rfl, ?_⟩
      simp only [State.proceed, Work.reply, herror, hfound]
      rfl
    have hmade : Next os walk (s.reached w hits (.threadOpen call tid t threadIds result))
        (s.reached w (hits ++ [made]) (.openThread call threadIds
          (if call.comesOut os tid then result.succeeded else result.failed))) := by
      refine ⟨_, rfl, ?_⟩
      simp only [State.reached, ← List.append_assoc]
      rfl
    refine ⟨[made], ?_, ?_⟩
    · dsimp only
      by_cases hok : call.comesOut os tid = true
      · rw [if_pos hok] at hmade ⊢
        exact (ReflTransGen.single hopen).tail hmade
      · rw [if_neg hok] at hmade ⊢
        exact (ReflTransGen.single hopen).tail hmade
    · simp only [List.foldl_cons, List.foldl_nil, Hit.apply, made]
      split_ifs <;> rfl
  · refine ⟨[], ?_, ?_⟩
    · rw [List.append_nil]
      refine ReflTransGen.single ⟨_, rfl, ?_⟩
      cases e <;> simp only [State.proceed, Work.reply, herror] <;> rfl
    · -- A thread that cannot be opened is counted as failed, and nothing is made of it.
      cases e <;> rfl

/-- The loop over the threads. -/
theorem leads_loop (call : ThreadCall) (threadIds : List DWORD) (result : ThreadOpResult)
    (v : World)
    (hruns : ∀ tid ∈ threadIds, (s.threads.found (fun _ => false) tid).isSome = true) :
    ∃ hits', Leads os walk (s.reached w hits (.openThread call threadIds result))
        (s.reached w (hits ++ hits') (.openThread call []
          (threadIds.foldl (threadOp os (call.comesOut os) call.effect) (v, result)).2)) ∧
      (threadIds.foldl (threadOp os (call.comesOut os) call.effect) (v, result)).1
        = hits'.foldl Hit.apply v := by
  induction threadIds generalizing hits result v with
  | nil =>
      refine ⟨[], ?_, rfl⟩
      rw [List.append_nil]
      exact ReflTransGen.refl
  | cons tid threadIds ih =>
      -- The first turn, and then the loop from where it ends.
      rcases leads_turn os walk s w hits call tid threadIds result v
        (hruns tid (List.mem_cons_self ..)) with ⟨first, hfirst, hworld⟩
      rcases ih (hits ++ first) (threadOp os (call.comesOut os) call.effect (v, result) tid).2
        (threadOp os (call.comesOut os) call.effect (v, result) tid).1
        (fun tid' htid' => hruns tid' (List.mem_cons_of_mem _ htid')) with ⟨rest, hrest, hworld'⟩
      refine ⟨first ++ rest, ?_, ?_⟩
      · rw [← List.append_assoc]
        exact hfirst.trans hrest
      · rw [List.foldl_append, ← hworld]
        exact hworld'

/-- The two calls for the priority class. -/
theorem leads_priority (level : PriorityLevel) (resumed : Bool) (v : World)
    (hruns : os.openProcessError = none → (s.running w.pid).isSome = true) :
    ∃ hits', Leads os walk (s.reached w hits (.openProcess level resumed))
        (s.ended w (hits ++ hits')
          (resumed && (setProcessPriority os v w.pid level).2 == .success)) ∧
      (setProcessPriority os v w.pid level).1 = hits'.foldl Hit.apply v := by
  unfold setProcessPriority
  rcases herror : os.openProcessError with _ | e
  · rcases Option.isSome_iff_exists.mp (hruns herror) with ⟨p, hp⟩
    have hfound : (s.reached w hits (.openProcess level resumed)).foundProcess w.pid = some p :=
      found_of_runs s.processes _ w.pid p hp
    -- The process is opened, and the call is made.
    let made : Hit :=
      { call := .setPriorityClass level
        id := w.pid
        succeeded := os.setPriorityClassError.isNone
        process := p
        subject := w.managed.subject }
    have hopen : Next os walk (s.reached w hits (.openProcess level resumed))
        (s.reached w hits (.processOpen level resumed p)) := by
      refine ⟨_, rfl, ?_⟩
      have hpid : Work.pid { w with stage := Stage.openProcess level resumed } = w.pid := rfl
      simp only [State.proceed, Work.reply, herror, hpid, hfound]
      rfl
    have hmade : Next os walk (s.reached w hits (.processOpen level resumed p))
        (s.ended w (hits ++ [made]) (resumed && os.setPriorityClassError.isNone)) := by
      refine ⟨_, rfl, ?_⟩
      simp only [State.ended, ← List.append_assoc]
      rfl
    refine ⟨[made], (ReflTransGen.single hopen).tail ?_, ?_⟩
    · rcases hset : os.setPriorityClassError with _ | e
      · rw [hset] at hmade
        exact hmade
      · rw [hset] at hmade
        cases e <;> exact hmade
    · rcases hset : os.setPriorityClassError with _ | e
      · simp only [List.foldl_cons, List.foldl_nil, Hit.apply, made, hset, Option.isNone_none,
          if_true]
      · cases e <;> simp only [List.foldl_cons, List.foldl_nil, Hit.apply, made, hset,
          Option.isNone_some, Bool.false_eq_true, if_false]
  · refine ⟨[], ?_, ?_⟩
    · rw [List.append_nil]
      refine ReflTransGen.single ⟨_, rfl, ?_⟩
      cases e <;> simp only [State.proceed, Work.reply, herror] <;> cases resumed <;> rfl
    · cases e <;> rfl

/-- What the thread snapshot shows runs. -/
theorem runs_of_belongs (pid tid : DWORD) (h : s.belongs pid tid = true) :
    (s.threads.found (fun _ => false) tid).isSome = true := by
  unfold State.belongs at h
  rcases hfound : s.threads.found (fun _ => false) tid with _ | t
  · rw [hfound] at h
    cases h
  · rfl

/-- The snapshot of the threads and the loop over them. -/
theorem leads_threads (call : ThreadCall) (v : World) (hagree : Agrees s os walk v w.managed) :
    ∃ hits', Leads os walk (s.reached w hits (.enumerateThreadIds call))
        (s.reached w (hits ++ hits') (.openThread call []
          ((enumerateThreadIds os v w.pid).foldl
            (threadOp os (call.comesOut os) call.effect) (v, {})).2)) ∧
      ((enumerateThreadIds os v w.pid).foldl
          (threadOp os (call.comesOut os) call.effect) (v, {})).1 = hits'.foldl Hit.apply v := by
  have hlisted : walk.filter (s.belongs w.pid) = enumerateThreadIds os v w.pid := hagree.listed
  have hsnapshot : Next os walk (s.reached w hits (.enumerateThreadIds call))
      (s.reached w hits (.openThread call (enumerateThreadIds os v w.pid) {})) := by
    rw [← hlisted]
    exact ⟨_, rfl, rfl⟩
  -- Every listed thread still runs, so the loop gets to all of them.
  rcases leads_loop os walk s w hits call (enumerateThreadIds os v w.pid) {} v
    (fun tid htid => by
      rw [← hlisted] at htid
      exact runs_of_belongs s w.pid tid (List.mem_filter.mp htid).2) with ⟨hits', hloop, hworld⟩
  exact ⟨hits', (ReflTransGen.single hsnapshot).trans hloop, hworld⟩

/-- The threads are resumed if the process is suspended. -/
theorem leads_resume (v : World) (level : PriorityLevel)
    (hfirst : firstStage w.managed.machine w.newState
      = if w.managed.machine.state = .suspended then .enumerateThreadIds .resume
        else .openProcess level true)
    (hlast : ∀ result, lastStage result w.newState
      = if result.allSucceeded = true ∨ w.newState = .normal then
          some (.openProcess level result.allSucceeded)
        else none)
    (hagree : Agrees s os walk v w.managed) :
    ∃ hits', (w.managed.machine.resumeIfSuspended os v).1 = hits'.foldl Hit.apply v ∧
      Leads os walk (s.reached w [] (firstStage w.managed.machine w.newState))
        (if (w.managed.machine.resumeIfSuspended os v).2 = true ∨ w.newState = .normal then
          s.reached w hits' (.openProcess level (w.managed.machine.resumeIfSuspended os v).2)
        else s.ended w hits' false) := by
  rw [hfirst]
  unfold ProcessStateMachine.resumeIfSuspended
  by_cases hs : w.managed.machine.state = .suspended
  · rw [if_pos hs, if_pos hs]
    rcases leads_threads os walk s w [] .resume v hagree with ⟨hits', hloop, hworld⟩
    rw [List.nil_append] at hloop
    change (resumeAllThreads os v w.pid).1 = hits'.foldl Hit.apply v at hworld
    refine ⟨hits', hworld, hloop.tail ?_⟩
    change Next os walk
      (s.reached w hits' (.openThread .resume [] (resumeAllThreads os v w.pid).2))
      (if (resumeAllThreads os v w.pid).2.allSucceeded = true ∨ w.newState = .normal then
        s.reached w hits' (.openProcess level (resumeAllThreads os v w.pid).2.allSucceeded)
      else s.ended w hits' false)
    refine ⟨_, rfl, ?_⟩
    have hstage := hlast (resumeAllThreads os v w.pid).2
    simp only [State.proceed, hstage]
    -- Where a thread was not resumed, only the way to `Normal` goes on.
    by_cases hgoes : (resumeAllThreads os v w.pid).2.allSucceeded = true ∨ w.newState = .normal
    · rw [if_pos hgoes, if_pos hgoes]
      rfl
    · have hfailed := Bool.eq_false_iff.mpr fun h => hgoes (Or.inl h)
      rw [if_neg hgoes, if_neg hgoes, hfailed]
      rfl
  · -- Nothing is suspended, and the priority class comes first.
    rw [if_neg hs, if_neg hs]
    exact ⟨[], rfl, ReflTransGen.refl⟩

/-- To `Normal`: the priority class is set, whether or not the threads were
    resumed. -/
theorem leads_normal (v : World) (hnew : w.newState = .normal)
    (hexited : ¬ w.managed.machine.hasExited v = true)
    (hagree : Agrees s os walk v w.managed) :
    ∃ hits', Leads os walk (s.reached w [] (firstStage w.managed.machine .normal))
        (s.ended w hits' (w.managed.machine.actuate os .normal v).2) ∧
      (w.managed.machine.actuate os .normal v).1 = hits'.foldl Hit.apply v := by
  rcases leads_resume os walk s w v .normal (by rw [hnew]; rfl)
    (fun result => by rw [hnew, if_pos (Or.inr rfl)]; rfl) hagree with ⟨hits', hworld, hresume⟩
  rw [if_pos (Or.inr hnew), hnew] at hresume
  -- The class is set after the threads, whatever became of them.
  rcases leads_priority os walk s w hits' .normal (w.managed.machine.resumeIfSuspended os v).2
    (w.managed.machine.resumeIfSuspended os v).1 hagree.runs with ⟨hits'', hpriority, hworld'⟩
  unfold ProcessStateMachine.actuate
  rw [if_neg hexited]
  refine ⟨hits' ++ hits'', hresume.trans hpriority, ?_⟩
  rw [List.foldl_append, ← hworld]
  exact hworld'

/-- To `Throttled`: the priority class is set only if the threads were
    resumed. -/
theorem leads_throttled (v : World) (hnew : w.newState = .throttled)
    (hexited : ¬ w.managed.machine.hasExited v = true)
    (hagree : Agrees s os walk v w.managed) :
    ∃ hits', Leads os walk (s.reached w [] (firstStage w.managed.machine .throttled))
        (s.ended w hits' (w.managed.machine.actuate os .throttled v).2) ∧
      (w.managed.machine.actuate os .throttled v).1 = hits'.foldl Hit.apply v := by
  -- The class is set only after all threads were resumed.
  have hlast : ∀ result, lastStage result w.newState
      = if result.allSucceeded = true ∨ w.newState = .normal then
          some (.openProcess .idle result.allSucceeded)
        else none := by
    intro result
    rw [hnew]
    by_cases hok : result.allSucceeded = true
    · rw [if_pos (Or.inl hok), hok]
      exact if_pos hok
    · rw [if_neg (fun h => h.elim hok (by decide))]
      exact if_neg hok
  rcases leads_resume os walk s w v .idle (by rw [hnew]; rfl) hlast hagree
    with ⟨hits', hworld, hresume⟩
  rw [hnew] at hresume
  unfold ProcessStateMachine.actuate
  rw [if_neg hexited]
  by_cases hok : (w.managed.machine.resumeIfSuspended os v).2 = true
  · rw [if_pos (Or.inl hok), hok] at hresume
    rcases leads_priority os walk s w hits' .idle true
      (w.managed.machine.resumeIfSuspended os v).1 hagree.runs with ⟨hits'', hpriority, hworld'⟩
    simp only [hok, if_true]
    refine ⟨hits' ++ hits'', hresume.trans hpriority, ?_⟩
    rw [List.foldl_append, ← hworld]
    exact hworld'
  · -- A thread could not be resumed, and the transition is given up.
    have hgoes : ¬ ((w.managed.machine.resumeIfSuspended os v).2 = true ∨
        ProcessState.throttled = .normal) :=
      fun h => h.elim hok (by decide)
    rw [if_neg hgoes] at hresume
    simp only [hok, Bool.false_eq_true, if_false]
    exact ⟨hits', hresume, hworld⟩

/-- To `Suspended`: the loop over the threads is all there is. -/
theorem leads_suspended (v : World) (hnew : w.newState = .suspended)
    (hexited : ¬ w.managed.machine.hasExited v = true)
    (hagree : Agrees s os walk v w.managed) :
    ∃ hits', Leads os walk (s.reached w [] (firstStage w.managed.machine .suspended))
        (s.ended w hits' (w.managed.machine.actuate os .suspended v).2) ∧
      (w.managed.machine.actuate os .suspended v).1 = hits'.foldl Hit.apply v := by
  rcases leads_threads os walk s w [] .suspend v hagree with ⟨hits', hloop, hworld⟩
  rw [List.nil_append] at hloop
  have hlast : ∀ result, lastStage result w.newState = none := by
    rw [hnew]
    exact fun _ => rfl
  unfold ProcessStateMachine.actuate
  rw [if_neg hexited]
  -- There is no class to set, so the loop is the whole transition.
  refine ⟨hits', hloop.tail ⟨_, rfl, ?_⟩, hworld⟩
  simp only [State.proceed, hlast]
  rfl

/-- A transition runs to its end, changes the system as `actuate` does, and
    reports the same. -/
theorem leads_transition (v : World) (hw : s.work = some w) (hstage : w.stage = .hasExited)
    (hagree : Agrees s os walk v w.managed) :
    ∃ hits', Leads os walk s
        (s.ended w hits' (w.managed.machine.actuate os w.newState v).2) ∧
      (w.managed.machine.actuate os w.newState v).1 = hits'.foldl Hit.apply v := by
  -- The first call asks whether the process still runs.
  have hcheck : Next os walk s
      (if w.managed.machine.hasExited v = true then s.ended w [] false
        else s.reached w [] (firstStage w.managed.machine w.newState)) := by
    rw [← hagree.exited]
    refine ⟨w, hw, ?_⟩
    simp only [State.proceed, hstage]
    by_cases hexited : s.hasExited w.managed = true
    · rw [if_pos hexited, if_pos hexited]
      simp only [State.ended, List.append_nil]
    · rw [if_neg hexited, if_neg hexited]
      simp only [State.goto, State.reached, List.append_nil]
  by_cases hexited : w.managed.machine.hasExited v = true
  · rw [if_pos hexited] at hcheck
    unfold ProcessStateMachine.actuate
    rw [if_pos hexited]
    exact ⟨[], ReflTransGen.single hcheck, rfl⟩
  rw [if_neg hexited] at hcheck
  -- The remaining calls are those of the new state.
  have hrest : ∃ hits', Leads os walk (s.reached w [] (firstStage w.managed.machine w.newState))
        (s.ended w hits' (w.managed.machine.actuate os w.newState v).2) ∧
      (w.managed.machine.actuate os w.newState v).1 = hits'.foldl Hit.apply v := by
    rcases hnew : w.newState with _ | _ | _
    · exact leads_normal os walk s w v hnew hexited hagree
    · exact leads_throttled os walk s w v hnew hexited hagree
    · exact leads_suspended os walk s w v hnew hexited hagree
  rcases hrest with ⟨hits', hleads, hworld⟩
  exact ⟨hits', ReflTransGen.head hcheck hleads, hworld⟩

end Calls

/-- An operation that nothing disturbs does to its machine and to the system what
    `exec` says, and calls back the same. -/
theorem leads_call [LE α] [DecidableLE α] [LT α] [DecidableLT α] [Zero α] (host : Host)
    (os : OsCalls) (walk : List DWORD) (s : State α) (v : World) (pid : DWORD) (c : Call α)
    (m : Managed α) (hm : s.machines pid = some m) (hpid : m.machine.batchProcessId = pid)
    (hagree : Agrees s os walk v m) (hw : s.work = none) :
    ∃ s' hits', Leads os walk (s.operate host (.call pid c)) s' ∧ s'.work = none ∧
      s'.machines
        = Function.update s.machines pid
            (some { m with machine := (m.machine.exec os c v).machine }) ∧
      s'.fired = s.fired ++ (m.machine.exec os c v).fired.toList ∧
      s'.hits = s.hits ++ hits' ∧ (m.machine.exec os c v).world = hits'.foldl Hit.apply v := by
  rw [ProcessStateMachine.exec_eq]
  have hid := ProcessStateMachine.noted_batchProcessId m.machine c
  rcases hgoal : m.machine.goal c with _ | newState
  · -- There is no transition.
    refine ⟨s.setMachine { m with machine := m.machine.noted c }, [], ?_, hw, ?_, ?_, ?_, rfl⟩
    · simp only [State.operate, hm, hgoal]
      exact ReflTransGen.refl
    · simp only [State.setMachine, hid, hpid]
    · exact (List.append_nil _).symm
    · exact (List.append_nil _).symm
  · let noted : Managed α := { m with machine := m.machine.noted c }
    let w : Work α := ⟨noted, newState, c.percent, .hasExited⟩
    have hbegin : s.operate host (.call pid c) = { s.setMachine noted with work := some w } := by
      simp only [State.operate, hm, hgoal]
      rfl
    have hagree' : Agrees { s.setMachine noted with work := some w } os walk v noted := by
      refine ⟨?_, ?_, ?_⟩
      · rw [ProcessStateMachine.hasExited, ProcessStateMachine.noted_processHandle, hid]
        exact hagree.exited
      · rw [hid]
        exact hagree.listed
      · rw [hid]
        exact hagree.runs
    rcases leads_transition os walk _ w v rfl rfl hagree' with ⟨hits', hleads, hworld⟩
    refine ⟨_, hits', by rw [hbegin]; exact hleads, rfl, ?_, rfl, rfl, hworld⟩
    -- The machine is stored twice, as it was noted and as it ends up.
    change Function.update (Function.update s.machines (m.machine.noted c).batchProcessId _)
      (m.machine.noted c).batchProcessId _ = _
    rw [hid, hpid, Function.update_idem]
    rfl

end Stages

end Actuator

end ThreadHaul
