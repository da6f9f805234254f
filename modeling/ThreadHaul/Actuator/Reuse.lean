import Mathlib.Algebra.Order.Field.Rat
import ThreadHaul.Actuator.Stages
import ThreadHaul.Lib.Runs

/-!
# Process Ids That Are Used Again

Every system call of a transition opens a process or a thread by its id, and the
id may be somebody else's by then.

The handle of a machine keeps its process id from being given away, as long as
the constructor got one and got it to the process of the snapshot. Nothing does
that for a thread id between the snapshot of the threads and `OpenThread`.
`Steady` excludes the reuse of an id that the daemon relies on without a handle,
and `run_aimed` says that then every call hits the process that the machine was
made for.

## Main definitions

* `Managed.Fits`: The process id is still that of the process.
* `Work.Targets`: A transition has opened its own process only.
* `State.OnTarget`: Every call that was made hit its own process.
* `Aimed`: All three.
* `Steady`: A step that takes no id that the daemon relies on.

## Theorems

* `foundProcess_of_handle`: What the handle is good for.
* `aimed_proceed`: A system call aims at the process of its machine.
* `aimed_step`: What a step keeps.
* `run_aimed`: Every run.
-/

namespace ThreadHaul

namespace Actuator

namespace Stages

open Identifiers Runs

variable {α : Type*}

section Aim

/-- The process id of the machine is still that of the process it was made for,
    and the handle is to that process, if there is one. -/
structure Managed.Fits (m : Managed α) (processes : Registry DWORD) : Prop where
  named : processes.named m.machine.batchProcessId = some m.subject
  handle : m.handle = none ∨ m.handle = some m.subject

/-- What a transition has opened, and what it will find under the thread ids it
    has listed, belongs to the process of its machine. -/
structure Work.Targets (w : Work α) (threads : Registry DWORD) (owner : Nat → Nat) : Prop where
  listed : ∀ tid ∈ w.threadIds, ∀ t, threads.named tid = some t → owner t = w.managed.subject
  thread : ∀ t, w.opensThread t = true → t < threads.count ∧ owner t = w.managed.subject
  process : ∀ p, w.opensProcess p = true → p = w.managed.subject

/-- Every call that was made hit the process that its machine was made for. -/
def State.OnTarget (s : State α) : Prop := ∀ h ∈ s.hits, h.process = h.subject

/-- Whether every call hit its process can be decided: there are finitely many. -/
instance (s : State α) : Decidable s.OnTarget :=
  inferInstanceAs (Decidable (∀ h ∈ s.hits, h.process = h.subject))

/-- Every machine fits, the transition under way aims at its process, and so did
    every call that was made. -/
structure Aimed (s : State α) : Prop where
  machines : ∀ pid m, s.machines pid = some m → m.machine.batchProcessId = pid ∧ m.Fits s.processes
  work : ∀ w, s.work = some w → s.machines w.pid = some w.managed ∧ w.Targets s.threads s.owner
  hits : s.OnTarget

/-- A step that takes no id that the daemon relies on without a handle. A
    process id belongs to the process of the snapshot until its machine is made,
    and to the process of a machine without a handle as long as there is the
    machine. A thread id belongs to a thread of the same process from the
    snapshot of the threads until it is opened. -/
def Steady (host : Host) (s : State α) : Event α → Prop
  | .change (.processStarts _ pid) =>
      s.foundProcess pid = none → ∀ m, s.machines pid = some m → m.handle ≠ none
  | .change (.threadStarts tid pid) =>
      s.foundThread tid = none → ∀ p, s.running pid = some p →
        ∀ w, s.work = some w → tid ∈ w.threadIds → p = w.managed.subject
  | .operation (.create name pid _ _) =>
      ∀ p, s.picks host name pid = some p → s.processes.named pid = some p
  | .change (.processEnds _) | .change (.threadEnds _) | .operation (.takeSnapshot _)
  | .operation (.call _ _) | .operation (.remove _) | .proceed _ => True

/-- The handle of a machine keeps its process id from being given away. -/
theorem foundProcess_of_handle (s : State α) (m : Managed α)
    (hm : s.machines m.machine.batchProcessId = some m) (hfits : m.Fits s.processes)
    (hhandle : m.handle ≠ none) :
    s.foundProcess m.machine.batchProcessId = some m.subject := by
  have hopen := hfits.handle.resolve_left hhandle
  refine s.processes.found_of_held _ _ _ hfits.named ?_
  rw [State.holdsProcess, hm, Option.any_some, hopen, BEq.rfl, Bool.true_or]

/-- A process that starts takes no process id that fits a machine. -/
theorem aimed_processStarts (host : Host) (s : State α) (name : WString) (pid : DWORD)
    (hgood : Steady host s (.change (.processStarts name pid))) (h : Aimed s) :
    Aimed (s.change (.processStarts name pid)) := by
  simp only [State.change]
  by_cases hfree : s.foundProcess pid = none
  · rw [if_pos hfree]
    refine ⟨?_, ?_, h.hits⟩
    · intro pid' m hm
      rcases h.machines pid' m hm with ⟨hid, hfits⟩
      refine ⟨hid, s.processes.named_assign_of_ne _ _ _ _ hfits.named ?_, hfits.handle⟩
      rintro heq _
      -- The machine has no handle, or else its process would be found.
      rw [hid] at heq
      subst heq
      subst hid
      have hfound := foundProcess_of_handle s m hm hfits (hgood hfree m hm)
      rw [hfree] at hfound
      cases hfound
    · exact h.work
  · rw [if_neg hfree]
    exact h

/-- A thread that starts takes no thread id that is still to be opened, unless it
    belongs to the same process. -/
theorem aimed_threadStarts (host : Host) (s : State α) (tid pid : DWORD)
    (hgood : Steady host s (.change (.threadStarts tid pid))) (h : Aimed s) :
    Aimed (s.change (.threadStarts tid pid)) := by
  simp only [State.change]
  rcases hrunning : s.running pid with _ | p
  · exact h
  · dsimp only
    by_cases hfree : s.foundThread tid = none
    · rw [if_pos hfree]
      refine ⟨h.machines, ?_, h.hits⟩
      intro w hw
      -- The transition under way keeps its threads; the new one is judged by the condition.
      rcases h.work w hw with ⟨hm, htargets⟩
      have hcount := s.threads.count_le_assign s.holdsThread tid
      refine ⟨hm, ?_, ?_, htargets.process⟩
      · intro tid' htid' t ht
        rcases s.threads.named_assign_cases _ _ _ _ ht with hold | ⟨heq, _, hnew⟩
        · -- The thread was there before.
          have hlt := s.threads.known tid' t hold
          change Function.update s.owner s.threads.count p t = w.managed.subject
          rw [Function.update_of_ne (by omega)]
          exact htargets.listed tid' htid' t hold
        · subst heq
          subst hnew
          change Function.update s.owner s.threads.count p s.threads.count = w.managed.subject
          rw [Function.update_self]
          exact hgood hfree p hrunning w hw htid'
      · intro t ht
        rcases htargets.thread t ht with ⟨hlt, howner⟩
        refine ⟨Nat.lt_of_lt_of_le hlt hcount, ?_⟩
        change Function.update s.owner s.threads.count p t = w.managed.subject
        rw [Function.update_of_ne (by omega)]
        exact howner
    · rw [if_neg hfree]
      exact h

/-- What ends takes no id from anybody. -/
theorem aimed_change (host : Host) (s : State α) (c : Change)
    (hgood : Steady host s (.change c)) (h : Aimed s) : Aimed (s.change c) := by
  cases c with
  | processStarts name pid => exact aimed_processStarts host s name pid hgood h
  | threadStarts tid pid => exact aimed_threadStarts host s tid pid hgood h
  | processEnds pid =>
      simp only [State.change]
      rcases s.running pid with _ | p
      · exact h
      · -- The end of a process takes no process id and no handle away.
        refine ⟨fun pid' m hm => ?_, fun w hw => ?_, h.hits⟩
        · rcases h.machines pid' m hm with ⟨hid, hfits⟩
          exact ⟨hid, hfits.named, hfits.handle⟩
        · rcases h.work w hw with ⟨hm, htargets⟩
          exact ⟨hm, htargets.listed, htargets.thread, htargets.process⟩
  | threadEnds tid =>
      simp only [State.change]
      rcases s.threads.named tid with _ | t
      · exact h
      · refine ⟨h.machines, fun w hw => ?_, h.hits⟩
        rcases h.work w hw with ⟨hm, htargets⟩
        exact ⟨hm, htargets.listed, htargets.thread, htargets.process⟩

/-- A machine that fits can be stored. -/
theorem machines_setMachine (s : State α) (m : Managed α) (hm : m.Fits s.processes)
    (h : ∀ pid m', s.machines pid = some m' →
      m'.machine.batchProcessId = pid ∧ m'.Fits s.processes) :
    ∀ pid m', (s.setMachine m).machines pid = some m' →
      m'.machine.batchProcessId = pid ∧ m'.Fits s.processes := by
  intro pid m' hm'
  change Function.update s.machines m.machine.batchProcessId (some m) pid = some m' at hm'
  by_cases hpid : pid = m.machine.batchProcessId
  · rw [hpid, Function.update_self] at hm'
    cases hm'
    exact ⟨hpid.symm, hm⟩
  · rw [Function.update_of_ne hpid] at hm'
    exact h pid m' hm'

theorem aimed_goto (s : State α) (w : Work α) (stage : Stage) (hw : s.work = some w)
    (htargets : Work.Targets { w with stage := stage } s.threads s.owner) (h : Aimed s) :
    Aimed (s.goto w stage) := by
  refine ⟨h.machines, ?_, h.hits⟩
  intro w' hw'
  cases hw'
  exact ⟨(h.work w hw).1, htargets⟩

theorem aimed_hit (s : State α) (w : Work α) (call : ActuatorCall) (id : DWORD)
    (succeeded : Bool) (p : Nat) (hp : p = w.managed.subject) (h : Aimed s) :
    Aimed (s.hit w call id succeeded p) := by
  refine ⟨h.machines, h.work, ?_⟩
  intro a ha
  rcases List.mem_append.mp ha with ha | ha
  · exact h.hits a ha
  · rw [List.mem_singleton.mp ha]
    exact hp

/-- The end of a transition leaves a machine for the same process. -/
theorem aimed_finish (s : State α) (w : Work α) (succeeded : Bool) (hw : s.work = some w)
    (h : Aimed s) : Aimed (s.finish w succeeded) := by
  have hfits := (h.machines w.pid w.managed (h.work w hw).1).2
  have hmachines := machines_setMachine s
    { w.managed with machine := w.managed.machine.entered w.newState }
    ⟨hfits.named, hfits.handle⟩ h.machines
  exact ⟨hmachines, (fun w' hw' => by cases hw'), h.hits⟩

/-- Nothing is open at the stage, and no thread is listed. -/
def Stage.closed : Stage → Bool
  | .hasExited | .enumerateThreadIds _ | .openProcess _ _ => true
  | .openThread _ _ _ | .threadOpen _ _ _ _ _ | .processOpen _ _ _ => false

theorem closed_firstStage (m : ProcessStateMachine α) (newState : ProcessState) :
    (firstStage m newState).closed = true := by
  cases newState with
  | suspended => rfl
  | throttled =>
      rw [firstStage]
      split <;> rfl
  | normal =>
      rw [firstStage]
      split <;> rfl

theorem closed_lastStage (result : ThreadOpResult) (newState : ProcessState) (stage : Stage)
    (h : lastStage result newState = some stage) : stage.closed = true := by
  cases newState with
  | suspended => cases h
  | throttled =>
      rw [lastStage] at h
      split at h
      · cases h
        rfl
      · cases h
  | normal =>
      cases h
      rfl

theorem targets_of_closed (s : State α) (w : Work α) (stage : Stage) (h : stage.closed = true) :
    Work.Targets { w with stage := stage } s.threads s.owner := by
  cases stage with
  | hasExited | enumerateThreadIds | openProcess =>
      exact ⟨fun _ htid => absurd htid List.not_mem_nil, (fun _ ht => by cases ht),
        (fun _ hp => by cases hp)⟩
  | openThread | threadOpen | processOpen => cases h

/-- Thread ids are listed, and nothing is open. -/
theorem targets_openThread (s : State α) (w : Work α) (call : ThreadCall)
    (threadIds : List DWORD) (result : ThreadOpResult)
    (h : ∀ tid ∈ threadIds, ∀ t, s.threads.named tid = some t → s.owner t = w.managed.subject) :
    Work.Targets { w with stage := .openThread call threadIds result } s.threads s.owner :=
  ⟨h, (fun _ ht => by cases ht), (fun _ hp => by cases hp)⟩

/-- What the thread snapshot shows for a process id belongs to the process that
    has it. -/
theorem owner_of_belongs (s : State α) (pid tid : DWORD) (p t : Nat)
    (hpid : s.processes.named pid = some p) (hbelongs : s.belongs pid tid = true)
    (ht : s.threads.named tid = some t) : s.owner t = p := by
  unfold State.belongs at hbelongs
  rcases hfound : s.threads.found (fun _ => false) tid with _ | t'
  · rw [hfound] at hbelongs
    cases hbelongs
  · have hnamed := ((s.threads.found_eq_some_iff _ tid t').mp hfound).1
    rw [ht] at hnamed
    cases hnamed
    rw [hfound, Option.any_some, beq_iff_eq, hpid] at hbelongs
    exact (Option.some.inj hbelongs).symm

/-- A system call of a transition aims at the process of its machine. -/
theorem aimed_proceed (s : State α) (w : Work α) (r : Reply) (hw : s.work = some w)
    (h : Aimed s) : Aimed (s.proceed w r) := by
  -- One case for each stage: what it opens or calls is the subject of the machine,
  -- and what is still to be opened was listed for it.
  rcases h.work w hw with ⟨hm, htargets⟩
  have hnamed := (h.machines w.pid w.managed hm).2.named
  have hfinish := fun succeeded => aimed_finish s w succeeded hw h
  unfold State.proceed
  split
  · -- `HasExited`
    split
    · exact hfinish _
    · exact aimed_goto s w _ hw (targets_of_closed s w _ (closed_firstStage _ _)) h
  · -- the snapshot of the threads
    refine aimed_goto s w _ hw (targets_openThread s w _ _ _ ?_) h
    intro tid htid t ht
    exact owner_of_belongs s w.pid tid _ t hnamed (List.mem_filter.mp htid).2 ht
  · -- the end of the loop
    split
    · exact hfinish _
    · next stage hstage =>
      exact aimed_goto s w stage hw (targets_of_closed s w stage (closed_lastStage _ _ _ hstage)) h
  · -- `OpenThread`
    next call tid threadIds result hstage =>
    have hlisted : ∀ tid' ∈ tid :: threadIds, ∀ t, s.threads.named tid' = some t →
        s.owner t = w.managed.subject := by
      have hall := htargets.listed
      rwa [Work.threadIds, hstage] at hall
    have hrest := fun tid' htid' => hlisted tid' (List.mem_cons_of_mem _ htid')
    split
    · next t _ hfound =>
      have hthread := ((s.threads.found_eq_some_iff _ tid t).mp hfound).1
      refine aimed_goto s w _ hw ⟨hrest, ?_, (fun _ hp => by cases hp)⟩ h
      intro t' ht'
      rw [← beq_iff_eq.mp ht']
      exact ⟨s.threads.known tid t hthread, hlisted tid (List.mem_cons_self ..) t hthread⟩
    · exact aimed_goto s w _ hw (targets_openThread s w _ _ _ hrest) h
    · exact aimed_goto s w _ hw (targets_openThread s w _ _ _ hrest) h
    · exact aimed_goto s w _ hw (targets_openThread s w _ _ _ hrest) h
  · -- the call on the thread that is open
    next call tid t threadIds result hstage =>
    have howner := (htargets.thread t (by rw [Work.opensThread, hstage]; exact BEq.rfl)).2
    have hrest := htargets.listed
    rw [Work.threadIds, hstage] at hrest
    exact aimed_goto (s.hit w (.thread call) tid r.succeeds (s.owner t)) w _ hw
      (targets_openThread _ w _ _ _ hrest) (aimed_hit s w _ _ _ _ howner h)
  · -- `OpenProcess`
    next level resumed hstage =>
    split
    · next p _ hfound =>
      have hprocess := ((s.processes.found_eq_some_iff _ w.pid p).mp hfound).1
      refine aimed_goto s w _ hw ⟨fun _ htid => absurd htid List.not_mem_nil,
        (fun _ ht => by cases ht), ?_⟩ h
      intro p' hp'
      rw [← beq_iff_eq.mp hp']
      exact Option.some.inj (hprocess.symm.trans hnamed)
    · exact hfinish _
  · -- `SetPriorityClass` on the process that is open
    next level resumed p hstage =>
    have hprocess := htargets.process p (by rw [Work.opensProcess, hstage]; exact BEq.rfl)
    exact aimed_finish (s.hit w (.setPriorityClass level) w.pid r.succeeds p) w _ hw
      (aimed_hit s w _ _ _ _ hprocess h)

/-- No transition is under way, so only the machines matter. -/
theorem aimed_of_idle (s : State α) (hw : s.work = none)
    (hmachines : ∀ pid m, s.machines pid = some m →
      m.machine.batchProcessId = pid ∧ m.Fits s.processes)
    (hhits : s.OnTarget) : Aimed s := by
  refine ⟨hmachines, fun w hsome => ?_, hhits⟩
  rw [hw] at hsome
  cases hsome

section Runs

variable [LE α] [DecidableLE α] [LT α] [DecidableLT α] [Zero α]

/-- A machine is made for the process that the snapshot showed. -/
theorem aimed_create (host : Host) (s : State α) (name : WString) (pid : DWORD)
    (config : StateMachineConfig α) (opened : Bool) (hw : s.work = none)
    (hgood : Steady host s (.operation (.create name pid config opened))) (h : Aimed s) :
    Aimed (s.operate host (.create name pid config opened)) := by
  simp only [State.operate]
  rcases hpick : s.picks host name pid with _ | p
  · exact h
  · dsimp only
    have hnamed := hgood p hpick
    refine aimed_of_idle _ hw ?_ h.hits
    refine machines_setMachine s _ ⟨hnamed, ?_⟩ h.machines
    dsimp only
    cases opened with
    | false => exact Or.inl rfl
    | true =>
        -- The constructor opens the process that has the process id now.
        rw [if_pos rfl]
        rcases hfound : s.foundProcess pid with _ | p'
        · exact Or.inl rfl
        · have hnamed' := ((s.processes.found_eq_some_iff _ pid p').mp hfound).1
          rw [hnamed] at hnamed'
          exact Or.inr hnamed'.symm

/-- A call leaves the machine with the process it was made for. -/
theorem aimed_call (host : Host) (s : State α) (pid : DWORD) (c : Call α) (hw : s.work = none)
    (h : Aimed s) : Aimed (s.operate host (.call pid c)) := by
  simp only [State.operate]
  rcases hm : s.machines pid with _ | m
  · exact h
  · dsimp only
    rcases h.machines pid m hm with ⟨hid, hfits⟩
    let noted : Managed α := { m with machine := m.machine.noted c }
    have hnoted : noted.Fits s.processes := by
      refine ⟨?_, hfits.handle⟩
      change s.processes.named (m.machine.noted c).batchProcessId = some m.subject
      rw [ProcessStateMachine.noted_batchProcessId]
      exact hfits.named
    -- The machine notes the call and stays aimed at its process.
    have hmachines := machines_setMachine s noted hnoted h.machines
    rcases m.machine.goal c with _ | newState
    · exact aimed_of_idle (s.setMachine noted) hw hmachines h.hits
    · refine ⟨hmachines, fun w hw' => ?_, h.hits⟩
      cases hw'
      refine ⟨?_, targets_of_closed _ ⟨noted, newState, c.percent, .hasExited⟩ .hasExited rfl⟩
      exact Function.update_self ..

theorem aimed_remove (host : Host) (s : State α) (pid : DWORD) (hw : s.work = none)
    (h : Aimed s) : Aimed (s.operate host (.remove pid)) := by
  refine aimed_of_idle _ hw ?_ h.hits
  intro pid' m hm
  change Function.update s.machines pid none pid' = some m at hm
  by_cases hpid : pid' = pid
  · rw [hpid, Function.update_self] at hm
    cases hm
  · rw [Function.update_of_ne hpid] at hm
    exact h.machines pid' m hm

/-- A step that takes no id that the daemon relies on keeps its aim. -/
theorem aimed_step (host : Host) (s : State α) (i : Event α) (hgood : Steady host s i)
    (h : Aimed s) : Aimed (step host s i) := by
  cases i with
  | change c => exact aimed_change host s c hgood h
  | operation o =>
      simp only [step]
      rcases hw : s.work with _ | w
      · -- An operation starts only while no transition is under way.
        cases o with
        | takeSnapshot shown => exact aimed_of_idle _ hw h.machines h.hits
        | create name pid config opened =>
            exact aimed_create host s name pid config opened hw hgood h
        | call pid c => exact aimed_call host s pid c hw h
        | remove pid => exact aimed_remove host s pid hw h
      · exact h
  | proceed r =>
      simp only [step]
      rcases hw : s.work with _ | w
      · exact h
      · exact aimed_proceed s w r hw h

/-- In a run in which no id is taken that the daemon relies on, every call hits
    the process that the snapshot showed when the machine was made. -/
theorem run_aimed (host : Host) (processes threads : Registry DWORD) (name : Nat → WString)
    (owner : Nat → Nat) (l : List (Event α))
    (hl : Along (step host) (Steady host)
      { processes := processes, threads := threads, name := name, owner := owner } l) :
    (run (step host)
      { processes := processes, threads := threads, name := name, owner := owner } l).OnTarget := by
  have hstart : Aimed ({ processes := processes, threads := threads, name := name, owner := owner }
      : State α) :=
    aimed_of_idle _ rfl (fun pid m hm => by cases hm) (fun h hh => absurd hh List.not_mem_nil)
  exact (run_invariant_along (step host) (Steady host) Aimed
    (fun s i hi hs => aimed_step host s i hi hs) l _ hl hstart).hits

end Runs

end Aim

section Samples

/-- Nothing runs yet. -/
def quiet : State Rat where
  processes := Registry.empty
  threads := Registry.empty
  name _ := []
  owner _ := 0

/-- A host on which a letter is its own upper case. -/
def plainHost : Host := ⟨1000, id⟩

/-- `a.exe` starts as 4821 with one thread, and a snapshot shows it. -/
def shown : List (Event Rat) :=
  [.change (.processStarts (wide "a.exe") 4821), .change (.threadStarts 100 4821),
    .operation (.takeSnapshot fun _ => true)]

/-- A machine is made for `a.exe`. -/
def made (opened : Bool) : Event Rat := .operation (.create (wide "a.exe") 4821 default opened)

/-- The process ends, and `b.exe` gets its process id. -/
def replaced : List (Event Rat) :=
  [.change (.processEnds 4821), .change (.processStarts (wide "b.exe") 4821)]

/-- `HasExited`, `OpenProcess` and `SetPriorityClass`. -/
def throttled : List (Event Rat) :=
  [.operation (.call 4821 (.forceState .throttled 95 true)), .proceed {}, .proceed {}, .proceed {}]

/-- The constructor gets no handle, and the process id is used again. -/
def unguarded : List (Event Rat) := shown ++ [made false] ++ replaced ++ throttled

/-- The process id is used again before the constructor opens it. -/
def openedLate : List (Event Rat) := shown ++ replaced ++ [made true] ++ throttled

/-- The machine has its handle. The thread that is listed ends, and another
    process gets a thread with its id before `OpenThread`. -/
def threadReplaced : List (Event Rat) :=
  shown ++ [made true, .operation (.call 4821 (.forceState .suspended 95 true)), .proceed {},
    .proceed { walk := [100] }, .change (.threadEnds 100),
    .change (.processStarts (wide "b.exe") 7000), .change (.threadStarts 100 7000),
    .proceed {}, .proceed {}]

/-- The machine has its handle, so nobody gets the process id. -/
def guarded : List (Event Rat) := shown ++ [made true] ++ throttled ++ replaced

/-- Every call of the guarded run hits `a.exe`. -/
theorem run_aimed_guarded : (run (step plainHost) quiet guarded).OnTarget := by
  refine run_aimed plainHost Registry.empty Registry.empty (fun _ => []) (fun _ => 0) guarded ?_
  -- Three of the steps have something to meet; the others are free.
  refine ⟨?_, ?_, trivial, ?_, trivial, trivial, trivial, trivial, trivial, ?_, trivial⟩
  · intro _ m hm
    cases hm
  · intro _ p _ w hw
    cases hw
  · -- The process id is still that of the process that was shown.
    intro p hp
    have hpick :
        (run (step plainHost) quiet shown).picks plainHost (wide "a.exe") 4821 = some 0 := by
      decide +kernel
    cases hpick.symm.trans hp
    rfl
  · -- The handle keeps `b.exe` from starting under the process id.
    intro hfree
    exact absurd hfree (by decide +kernel)

/-- `b.exe` is hit in the other three runs. -/
theorem not_aimed_reused :
    ¬ (run (step plainHost) quiet unguarded).OnTarget ∧
      ¬ (run (step plainHost) quiet openedLate).OnTarget ∧
        ¬ (run (step plainHost) quiet threadReplaced).OnTarget := by
  decide +kernel

end Samples

end Stages

end Actuator

end ThreadHaul
