import ThreadHaul.Lib.Runs
import ThreadHaul.Service.Command
import ThreadHaul.Service.Poll

/-!
# The Daemon and the Processes

The daemon at work: polls, reloads and commands in any order, each of them under
the lock of the daemon, and processes that start and end in between.

A process is known by its process id and its start time, and `instances` says
what the process is. The system may hand out a process id again once its process
has ended and nobody has a handle to it. `Lawful` is what the system promises:
what it lists is running under the name it shows, and no process starts under a
process id to which the daemon has a handle.

A configuration is what `ParseConfig` accepts, from the first one on. `Acted` is
what a command does to the machines, one target at a time.

## Main definitions

* `commandTargets`: What a command asks for.
* `command`, `reload`: `HandleCommand` and `CheckConfigReload`, once there is
  something to load.
* `System`, `Event`, `step`: The daemon, the processes, and what happens.
* `Lawful`: What the system promises.
* `start`: The daemon after `Initialize`.

## Theorems

* `command_eq`: A command is what it does to its targets.
* `acted_act`: The machines after a command has come to a target.
* `commandEffect_invariant`: What every target keeps, a command keeps.
* `reload_cases`: A reload does nothing, or it applies what is accepted.
* `accepted_step`: The configuration is always one that is accepted.
-/

namespace ThreadHaul

namespace Service

open Actuator Telemetry OrderedMap Config Runs

section Command

/-- The system as a command finds it. -/
structure CommandReadings where
  widen : Bytes → WString
  snapshot : List ProcessEntry
  opened : DWORD → Bool
  os : DWORD → OsCalls
  auto : AutoReadings
  /-- The client is connected to the controller. -/
  connected : Bool

/-- What `HandleCommand` finds. -/
def CommandReadings.env (host : Host) (r : CommandReadings) : Env where
  host := host
  widen := r.widen
  snapshot := r.snapshot
  opened := r.opened
  os := r.os

/-- What a command sees of the daemon. -/
def DaemonState.seen (d : DaemonState) (connected : Bool) : Daemon where
  criticalProcesses := d.cfg.criticalProcesses
  actuator := d.actuator
  adhoc := d.adhoc
  pressure := d.pressure
  pressureSignal := d.pressureSignal
  criticalPid := d.criticalPid
  base := d.base
  effective := d.effective
  coordinationConnected := d.coordination && connected
  lastSamples := d.lastSamples.map fun s => ⟨s.name, s.pid, s.cpuPercent⟩
  remoteStopEvent := d.remoteStopEvent

/-- One call of `Exempt` in the loop over the targets. -/
def exemptTarget (r : AutoReadings) (acc : AutoResult) (e : ProcessEntry) : AutoResult :=
  let out := exempt r acc.auto e.pid
  { out with sets := acc.sets ++ out.sets }

/-- `HandleCommand`. Where an exception escapes, nothing has been done. -/
def command (host : Host) (line : Bytes) (r : CommandReadings) (d : DaemonState) (w : World) :
    Progress :=
  match handleCommand (r.env host) (d.seen r.connected) w line with
  | .error _ => { daemon := d, world := w }
  | .ok out =>
      let auto := out.exempted.foldl (exemptTarget r.auto) { auto := d.autoProtect }
      { daemon :=
          { d with
            actuator := out.effect.daemon.actuator
            adhoc := out.effect.daemon.adhoc
            autoProtect := auto.auto }
        world := out.effect.world
        fired := out.effect.fired
        sets := auto.sets }

/-- The verb and the targets of a command that acts on processes. -/
def commandTargets (env : Env) (line : Bytes) : Option (Manage × List ProcessEntry) :=
  match manageOf (verbOf line) with
  | none => none
  | some verb =>
      if (targetOf line).isEmpty then none
      else
        match selectTargets env (targetOf line) env.snapshot with
        | .error _ => none
        | .ok targets => some (verb, targets)

end Command

section Reload

/-- The configuration is one that `ParseConfig` accepts. -/
def Accepted (os : Platform) (cfg : DaemonConfig) : Prop :=
  ∃ text, parseConfig os text = .ok cfg

/-- `LoadAndVerify` and `ApplyConfig`, with what is in the file. What is rejected
    changes nothing. -/
def reload (os : Platform) (text : Bytes) (writable : Bool) (r : ReloadReadings) (d : DaemonState)
    (w : World) : Progress :=
  match parseConfig os text with
  | .error _ => { daemon := d, world := w }
  | .ok cfg =>
      if writable && cfg.requireProtectedConfig then { daemon := d, world := w }
      else applyConfig os.host r cfg d w

end Reload

/-- The daemon, the system behind the calls of the machines, and the start time
    of the process that runs under a process id. -/
structure System where
  daemon : DaemonState
  world : World
  running : DWORD → Option UInt64

/-- What happens to the daemon. -/
inductive Event
  | poll (r : PollReadings)
  | reload (text : Bytes) (writable : Bool) (r : ReloadReadings)
  | command (line : Bytes) (r : CommandReadings)
  /-- Processes start and end. -/
  | elsewhere (world : World) (running : DWORD → Option UInt64)

section Steps

variable (os : Platform)

/-- What a step of the daemon comes to. -/
def progress (s : System) : Event → Progress
  | .poll r => poll os.host r s.daemon s.world
  | .reload text writable r => reload os text writable r s.daemon s.world
  | .command line r => command os.host line r s.daemon s.world
  | .elsewhere world _ => { daemon := s.daemon, world := world }

/-- One event. -/
def step (s : System) (i : Event) : System where
  daemon := (progress os s i).daemon
  world := (progress os s i).world
  running :=
    match i with
    | .elsewhere _ running => running
    | _ => s.running

/-- The daemon after `Initialize`. -/
def start (cfg : { cfg : DaemonConfig // Accepted os cfg }) (r : ReloadReadings) (cores : Nat)
    (remoteStopEvent : Bool) (w : World) (running : DWORD → Option UInt64) : System :=
  let p := applyConfig os.host r cfg.1 { cores := cores, remoteStopEvent := remoteStopEvent } w
  { daemon := p.daemon, world := p.world, running := running }

end Steps

section Law

variable (instances : DWORD → UInt64 → Instance)

/-- A snapshot shows what is running. -/
def System.Lists (s : System) (snapshot : List ProcessEntry) : Prop :=
  ∀ e ∈ snapshot, ∃ start, s.running e.pid = some start ∧ (instances e.pid start).name = e.name

/-- The daemon has a handle to the process. -/
def System.Holds (s : System) (p : DWORD) : Prop :=
  (∃ h ∈ s.daemon.actuator.holdings, h.batchProcessId = p ∧ h.processHandle = true) ∨
    p ∈ keys s.daemon.autoProtect.throttled ∨
    ∃ t ∈ s.daemon.critical, p ∈ keys t.2.instances

/-- What the system shows is so, and it does not hand out a process id to which
    the daemon has a handle. -/
def Lawful (s : System) : Event → Prop
  | .poll r =>
      s.Lists instances r.snapshot ∧
        ∀ essential, s.Lists instances ((r.auto.rows essential).map fun row => ⟨row.name, row.pid⟩)
  | .reload _ _ r => ∀ p, s.Lists instances (r.snapshot p)
  | .command _ r => s.Lists instances r.snapshot
  | .elsewhere _ running =>
      ∀ p start, s.Holds p → running p = some start → s.running p = some start

end Law

section Accepted

variable {os : Platform}

/-- A configuration that is accepted, in a file with accepted access rights, is
    applied. -/
theorem reload_of_accepts (text : Bytes) (writable : Bool) (r : ReloadReadings) (d : DaemonState)
    (w : World) (cfg : DaemonConfig) (hparse : parseConfig os text = .ok cfg)
    (haccepts : (writable && cfg.requireProtectedConfig) = false) :
    reload os text writable r d w = applyConfig os.host r cfg d w := by
  simp only [reload, hparse, haccepts, Bool.false_eq_true, if_false]

theorem reload_of_rejected (text : Bytes) (writable : Bool) (r : ReloadReadings) (d : DaemonState)
    (w : World) (h : ∀ cfg, parseConfig os text = .ok cfg →
      (writable && cfg.requireProtectedConfig) = true) :
    reload os text writable r d w = { daemon := d, world := w } := by
  unfold reload
  cases hparse : parseConfig os text with
  | error e => rfl
  | ok cfg => exact if_pos (h cfg hparse)

/-- A configuration is not applied, or it is accepted and applied. -/
theorem rejected_or_accepted (os : Platform) (text : Bytes) (writable : Bool) :
    (∀ cfg, parseConfig os text = .ok cfg → (writable && cfg.requireProtectedConfig) = true) ∨
      ∃ cfg, parseConfig os text = .ok cfg ∧ (writable && cfg.requireProtectedConfig) = false := by
  by_cases h : ∀ cfg, parseConfig os text = .ok cfg →
      (writable && cfg.requireProtectedConfig) = true
  · exact Or.inl h
  · simp only [not_forall, Bool.not_eq_true] at h
    rcases h with ⟨cfg, hparse, haccepts⟩
    exact Or.inr ⟨cfg, hparse, haccepts⟩

/-- A reload does nothing, or it applies what is accepted. -/
theorem reload_cases (text : Bytes) (writable : Bool) (r : ReloadReadings) (d : DaemonState)
    (w : World) :
    (reload os text writable r d w = { daemon := d, world := w }) ∨
      ∃ cfg, parseConfig os text = .ok cfg ∧ (writable && cfg.requireProtectedConfig) = false ∧
        reload os text writable r d w = applyConfig os.host r cfg d w := by
  rcases rejected_or_accepted os text writable with hrejected | ⟨cfg, hparse, haccepts⟩
  · exact Or.inl (reload_of_rejected text writable r d w hrejected)
  · exact Or.inr
      ⟨cfg, hparse, haccepts, reload_of_accepts text writable r d w cfg hparse haccepts⟩

theorem cfg_poll (host : Host) (r : PollReadings) (d : DaemonState) (w : World) :
    (poll host r d w).daemon.cfg = d.cfg := by
  rcases poll_cases host r d w with ⟨_, heq⟩ | ⟨c, _, heq⟩
  · rw [heq]
    rfl
  · rw [heq]
    simp only [respond, adapt]
    split <;> rfl

theorem cfg_command (host : Host) (line : Bytes) (r : CommandReadings) (d : DaemonState)
    (w : World) : (command host line r d w).daemon.cfg = d.cfg := by
  unfold command
  split <;> rfl

/-- The configuration is always one that is accepted. -/
theorem accepted_step (s : System) (i : Event) (h : Accepted os s.daemon.cfg) :
    Accepted os (step os s i).daemon.cfg := by
  -- Only a reload changes the configuration, and to one that was parsed.
  cases i with
  | poll r =>
      change Accepted os (poll os.host r s.daemon s.world).daemon.cfg
      rw [cfg_poll]
      exact h
  | reload text writable r =>
      simp only [step, progress]
      rcases reload_cases text writable r s.daemon s.world with heq | ⟨cfg, hparse, _, heq⟩
      · rwa [heq]
      · rw [heq]
        exact ⟨text, hparse⟩
  | command line r =>
      change Accepted os (command os.host line r s.daemon s.world).daemon.cfg
      rw [cfg_command]
      exact h
  | elsewhere world running => exact h

end Accepted

/-- There are no machines after `Initialize`. -/
theorem holdings_start (os : Platform) (cfg : { cfg : DaemonConfig // Accepted os cfg })
    (r : ReloadReadings) (cores : Nat) (remoteStopEvent : Bool) (w : World)
    (running : DWORD → Option UInt64) :
    (start os cfg r cores remoteStopEvent w running).daemon.actuator.holdings = [] := by
  let d : DaemonState := { cores := cores, remoteStopEvent := remoteStopEvent }
  let effective := (d.adaptive.setSettings (toAdaptive cfg.1)).adjust (toStateMachineConfig cfg.1)
    (d.bias r.externalBias)
  exact (reconfigure_spec os.host r.os cfg.1 effective d.adhoc d.actuator w).1

section Targets

variable (env : Env) (line : Bytes) (d : Daemon) (w : World)

/-- What a command does to the machines, which is nothing unless it acts on
    processes. -/
def commandEffect : Effect :=
  match commandTargets env line with
  | none => { daemon := d, world := w }
  | some (verb, targets) => (actAll env verb targets d w).1

theorem selectTargets_subset (target : Bytes) (snapshot targets : List ProcessEntry)
    (h : selectTargets env target snapshot = .ok targets) : ∀ e ∈ targets, e ∈ snapshot := by
  induction snapshot generalizing targets with
  | nil =>
      cases h
      exact fun e he => he
  | cons a snapshot ih =>
      simp only [selectTargets, bind_eq_ok_iff] at h
      rcases h with ⟨found, _, rest, hrest, h⟩
      cases h
      intro e he
      -- Each process is taken or left out.
      cases found with
      | false => exact List.mem_cons_of_mem _ (ih rest hrest e he)
      | true =>
          rcases List.mem_cons.mp he with rfl | he
          · exact List.mem_cons_self ..
          · exact List.mem_cons_of_mem _ (ih rest hrest e he)

/-- The targets of a command are processes of the snapshot. -/
theorem commandTargets_subset (verb : Manage) (targets : List ProcessEntry)
    (h : commandTargets env line = some (verb, targets)) : ∀ e ∈ targets, e ∈ env.snapshot := by
  unfold commandTargets at h
  split at h
  · cases h
  · split_ifs at h
    split at h
    · cases h
    · next hselect =>
      cases h
      exact selectTargets_subset env _ env.snapshot targets hselect

/-- What has been done when a command ends, with a reply or without. -/
def effectOf (x : Except Escape CommandResult) : Effect :=
  match x with
  | .error _ => { daemon := d, world := w }
  | .ok out => out.effect

/-- A reply that is only text comes with nothing done. -/
theorem effectOf_finish (j : Json) (out : Json → CommandResult)
    (hout : ∀ j', (out j').effect = { daemon := d, world := w }) :
    effectOf d w (do
      let j' ← finish j
      return out j') = { daemon := d, world := w } := by
  rcases hfinish : finish j with e | j'
  · rfl
  · exact hout j'

theorem effectOf_answerOnly (ok : Bool) (message : Bytes) :
    effectOf d w (answerOnly d w ok message) = { daemon := d, world := w } :=
  effectOf_finish d w _ _ fun _ => rfl

theorem effectOf_handleManage (verb : Manage) (hverb : manageOf (verbOf line) = some verb) :
    effectOf d w (handleManage env d w verb (targetOf line)) = commandEffect env line d w := by
  unfold handleManage commandEffect commandTargets
  simp only [hverb]
  by_cases hempty : (targetOf line).isEmpty = true
  · rw [if_pos hempty, if_pos hempty]
    exact effectOf_answerOnly d w _ _
  · rw [if_neg hempty, if_neg hempty]
    rcases hselect : selectTargets env (targetOf line) env.snapshot with e | targets
    · rfl
    · cases targets with
      | nil => exact effectOf_answerOnly d w _ _
      | cons e targets =>
          -- The report on the targets is always made.
          rcases replies_report (actAll env verb (e :: targets) d w).1
            (actAll env verb (e :: targets) d w).2 with ⟨out, hout, _⟩
          rcases (bind_eq_ok_iff _ _ _).mp hout with ⟨j, hj, _⟩
          change effectOf d w (do
            let j ← finish _
            return { reply := j, effect := (actAll env verb (e :: targets) d w).1 }) = _
          rw [hj]
          rfl

/-- A command is what it does to its targets. -/
theorem effectOf_handleCommand :
    effectOf d w (handleCommand env d w line) = commandEffect env line d w := by
  have hnothing : manageOf (verbOf line) = none →
      commandEffect env line d w = { daemon := d, world := w } := by
    intro hnone
    simp only [commandEffect, commandTargets, hnone]
  unfold handleCommand
  dsimp only
  -- The verbs that only answer have no targets.
  by_cases hstatus : verbOf line = ascii "status"
  · rw [if_pos hstatus, hnothing (by rw [hstatus]; decide)]
    exact effectOf_finish d w _ _ fun _ => rfl
  rw [if_neg hstatus]
  by_cases hstop : verbOf line = ascii "stop"
  · rw [if_pos hstop, hnothing (by rw [hstop]; decide)]
    split
    · exact effectOf_answerOnly d w _ _
    · exact effectOf_finish d w _ _ fun _ => rfl
  rw [if_neg hstop]
  by_cases hexempt : verbOf line = ascii "exempt"
  · rw [if_pos hexempt, hnothing (by rw [hexempt]; decide)]
    unfold handleExempt
    split
    · exact effectOf_answerOnly d w _ _
    · dsimp only
      split
      · exact effectOf_answerOnly d w _ _
      · exact effectOf_finish d w _ _ fun _ => rfl
  rw [if_neg hexempt]
  rcases hverb : manageOf (verbOf line) with _ | verb
  · rw [hnothing hverb]
    exact effectOf_answerOnly d w _ _
  · exact effectOf_handleManage env line d w verb hverb

/-- A command changes the machines and what is managed on request as it changes
    them for its targets. -/
theorem command_eq (host : Host) (line : Bytes) (r : CommandReadings) (d : DaemonState)
    (w : World) :
    (command host line r d w).daemon.actuator
        = (commandEffect (r.env host) line (d.seen r.connected) w).daemon.actuator ∧
      (command host line r d w).daemon.adhoc
        = (commandEffect (r.env host) line (d.seen r.connected) w).daemon.adhoc ∧
      (command host line r d w).fired
        = (commandEffect (r.env host) line (d.seen r.connected) w).fired := by
  rw [← effectOf_handleCommand]
  unfold command effectOf
  rcases handleCommand (r.env host) (d.seen r.connected) w line with e | out
  · exact ⟨rfl, rfl, rfl⟩
  · exact ⟨rfl, rfl, rfl⟩

end Targets

/-- What is held after a command has come to a target: what was held, the machine
    of the target in other hands, or a new machine for it. A target that is
    critical is left alone. -/
inductive Acted (env : Env) (e : ProcessEntry) (d : Daemon) (verb : Manage) : Holding Rat → Prop
  | kept (h : Holding Rat) (hh : h ∈ d.actuator.holdings) : Acted env e d verb h
  | held (h : Holding Rat) (hh : h ∈ d.actuator.holdings) (hpid : h.batchProcessId = e.pid)
      (hcritical : contains env.host d.criticalProcesses e.name = false) :
      Acted env e d verb { h with manualHold := true }
  | freed (m : ProcessStateMachine Rat) (hm : d.actuator.find e.pid = some m)
      (hcritical : contains env.host d.criticalProcesses e.name = false) (hverb : verb = .release)
      (hkept : ¬ (e.pid ∈ d.adhoc ∧ m.state = .normal)) :
      Acted env e d verb { m.holding with manualHold := false }
  | added (hcritical : contains env.host d.criticalProcesses e.name = false)
      (hverb : verb = .throttle ∨ verb = .suspend) (hfree : d.actuator.find e.pid = none)
      (hallowed : protects env.host d.actuator.protectedNames e.name e.pid = false) :
      Acted env e d verb ⟨e.name, e.pid, env.opened e.pid, d.actuator.config, true⟩

/-- What a command leaves as it is. -/
structure Framed (d d' : Daemon) : Prop where
  criticalProcesses : d'.criticalProcesses = d.criticalProcesses
  config : d'.actuator.config = d.actuator.config
  protectedNames : d'.actuator.protectedNames = d.actuator.protectedNames

theorem Framed.refl (d : Daemon) : Framed d d := ⟨rfl, rfl, rfl⟩

theorem Framed.trans {d d' d'' : Daemon} (h : Framed d d') (h' : Framed d' d'') : Framed d d'' :=
  ⟨h'.criticalProcesses.trans h.criticalProcesses, h'.config.trans h.config,
    h'.protectedNames.trans h.protectedNames⟩

section Acting

variable {env : Env} {e : ProcessEntry} {d : Daemon} {w : World} {verb : Manage}

theorem holdings_forceHeld (state : ProcessState) :
    (forceHeld env e d w state).daemon.actuator.holdings = d.actuator.holdings.map fun h =>
      if h.batchProcessId = e.pid then { h with manualHold := true } else h :=
  holdings_forceState (env.os e.pid) d.actuator e.pid state d.pressure true w

theorem acted_forceHeld (state : ProcessState)
    (hcritical : contains env.host d.criticalProcesses e.name = false) :
    ∀ h ∈ (forceHeld env e d w state).daemon.actuator.holdings, Acted env e d verb h := by
  intro h' hh'
  rw [holdings_forceHeld] at hh'
  rcases List.mem_map.mp hh' with ⟨h, hh, rfl⟩
  by_cases hpid : h.batchProcessId = e.pid
  · rw [if_pos hpid]
    exact Acted.held h hh hpid hcritical
  · rw [if_neg hpid]
    exact Acted.kept h hh

theorem acted_forceManaged (state : ProcessState) (done : Answer)
    (hcritical : contains env.host d.criticalProcesses e.name = false)
    (hverb : verb = .throttle ∨ verb = .suspend) :
    (∀ h ∈ (forceManaged env e d w state done).1.daemon.actuator.holdings,
        Acted env e d verb h) ∧ Framed d (forceManaged env e d w state done).1.daemon := by
  unfold forceManaged
  -- Without a machine one is added; the other one is forced where it is.
  rcases hfind : d.actuator.find e.pid with _ | m
  · have hadd := holdings_addBatchProcess env.host (env.opened e.pid) d.actuator e.name e.pid
    have hsame := config_addBatchProcess env.host (env.opened e.pid) d.actuator e.name e.pid
    have hreturn := addBatchProcess_returns env.host (env.opened e.pid) d.actuator e.name e.pid
    rcases hout : d.actuator.addBatchProcess env.host (env.opened e.pid) e.name e.pid with
      ⟨actuator, managed⟩
    rw [hout] at hadd hsame hreturn
    dsimp only at hadd hsame hreturn ⊢
    rw [isProtected_eq] at hadd hreturn
    by_cases hprot : protects env.host d.actuator.protectedNames e.name e.pid = true
    · -- The process is on the protection list, and nothing is held for it.
      rw [hprot] at hreturn
      rw [if_neg (fun hc => Bool.true_eq_false_eq_False (hprot.symm.trans hc.1))] at hadd
      simp only [hreturn, Bool.not_true, Bool.not_false, if_true]
      refine ⟨fun h hh => ?_, rfl, hsame.1, hsame.2⟩
      rw [hadd] at hh
      exact Acted.kept h hh
    · have hallowed := Bool.eq_false_iff.mpr hprot
      rw [hallowed] at hreturn
      rw [if_pos ⟨hallowed, hfind⟩] at hadd
      simp only [hreturn, Bool.not_false, Bool.not_true, Bool.false_eq_true, if_false]
      refine ⟨fun h' hh' => ?_, rfl, hsame.1, hsame.2⟩
      rw [holdings_forceHeld] at hh'
      rcases List.mem_map.mp hh' with ⟨h, hh, rfl⟩
      change h ∈ actuator.holdings at hh
      rw [hadd] at hh
      rcases List.mem_cons.mp hh with rfl | hh
      · rw [if_pos rfl]
        exact Acted.added hcritical hverb hfind hallowed
      · rw [if_neg ((find_eq_none_iff d.actuator e.pid).mp hfind h hh)]
        exact Acted.kept h hh
  · exact ⟨acted_forceHeld state hcritical, rfl, rfl, rfl⟩

/-- After a release the machine is gone, or it is not held by hand. -/
theorem acted_releaseHold (m : ProcessStateMachine Rat) (hm : d.actuator.find e.pid = some m)
    (hcritical : contains env.host d.criticalProcesses e.name = false) (hverb : verb = .release) :
    (∀ h ∈ (releaseHold env e d w).1.daemon.actuator.holdings, Acted env e d verb h) ∧
      Framed d (releaseHold env e d w).1.daemon := by
  have hheld := holdings_releaseManualHold (env.os e.pid) d.actuator e.pid w
  have hfind := find_releaseManualHold (env.os e.pid) d.actuator e.pid w e.pid
  rw [if_pos rfl, hm, Option.map_some] at hfind
  unfold releaseHold
  dsimp only
  rw [hfind]
  have hnormal : ((some (m.next .releaseManualHold)).any fun m => m.state == .normal) = true ↔
      m.state = .normal := beq_iff_eq
  -- An ad-hoc machine in state Normal goes away with its hold.
  by_cases hgone : e.pid ∈ d.adhoc ∧ m.state = .normal
  · rw [if_pos (by rw [Bool.and_eq_true, decide_eq_true_eq, hnormal]; exact hgone)]
    refine ⟨fun h' hh' => ?_, rfl, rfl, rfl⟩
    rw [holdings_removeBatchProcess, hheld] at hh'
    rcases List.mem_filter.mp hh' with ⟨hmem, hpid⟩
    rcases List.mem_map.mp hmem with ⟨h, hh, rfl⟩
    by_cases hid : h.batchProcessId = e.pid
    · rw [if_pos hid, bne_iff_ne] at hpid
      exact absurd hid hpid
    · rw [if_neg hid]
      exact Acted.kept h hh
  · rw [if_neg (by rw [Bool.and_eq_true, decide_eq_true_eq, hnormal]; exact hgone)]
    refine ⟨fun h' hh' => ?_, rfl, rfl, rfl⟩
    rw [hheld] at hh'
    rcases List.mem_map.mp hh' with ⟨h, hh, rfl⟩
    by_cases hid : h.batchProcessId = e.pid
    · -- This is the machine of the target.
      have hown := holding_mem_of_find d.actuator e.pid m hm
      rw [if_pos hid, holdings_inj d.actuator h m.holding hh hown.1 (hid.trans hown.2.symm)]
      exact Acted.freed m hm hcritical hverb hgone
    · rw [if_neg hid]
      exact Acted.kept h hh

variable (env e d w verb) in
/-- What a command does to one target. -/
theorem acted_act :
    (∀ h ∈ (act env e d w verb).1.daemon.actuator.holdings, Acted env e d verb h) ∧
      Framed d (act env e d w verb).1.daemon := by
  have hnothing : (∀ h ∈ d.actuator.holdings, Acted env e d verb h) ∧ Framed d d :=
    ⟨fun h hh => Acted.kept h hh, Framed.refl d⟩
  unfold act
  by_cases hcontained : contains env.host d.criticalProcesses e.name = true
  · rw [if_pos hcontained]
    exact hnothing
  · -- The target is not critical, and the verb decides.
    rw [if_neg hcontained]
    have hcritical := Bool.eq_false_iff.mpr hcontained
    cases verb with
    | throttle => exact acted_forceManaged .throttled .throttled hcritical (Or.inl rfl)
    | suspend => exact acted_forceManaged .suspended .suspended hcritical (Or.inr rfl)
    | resume =>
        -- Without a machine there is nothing to resume.
        rcases d.actuator.find e.pid with _ | m
        · exact hnothing
        · exact ⟨acted_forceHeld .normal hcritical, rfl, rfl, rfl⟩
    | release =>
        rcases hfind : d.actuator.find e.pid with _ | m
        · exact hnothing
        · exact acted_releaseHold m hfind hcritical rfl

/-- What every target keeps, a command keeps. -/
theorem actAll_invariant (I : Daemon → Prop) (targets : List ProcessEntry)
    (hact : ∀ e ∈ targets, ∀ d w, I d → I (act env e d w verb).1.daemon) (d : Daemon) (w : World)
    (h : I d) : I (actAll env verb targets d w).1.daemon := by
  induction targets generalizing d w with
  | nil => exact h
  | cons e targets ih =>
      have hfirst := hact e (List.mem_cons_self ..) d w h
      exact ih (fun e' he' => hact e' (List.mem_cons_of_mem _ he')) (act env e d w verb).1.daemon
        (act env e d w verb).1.world hfirst

/-- The same of the whole command, for what holds before it. -/
theorem commandEffect_invariant (I : Daemon → Prop) (line : Bytes)
    (hact : ∀ verb targets, commandTargets env line = some (verb, targets) →
      ∀ e ∈ targets, e ∈ env.snapshot → ∀ d w, I d → I (act env e d w verb).1.daemon)
    (d : Daemon) (w : World) (h : I d) : I (commandEffect env line d w).daemon := by
  unfold commandEffect
  rcases htargets : commandTargets env line with _ | ⟨verb, targets⟩
  · exact h
  · have hsub := commandTargets_subset env line verb targets htargets
    exact actAll_invariant I targets
      (fun e he => hact verb targets htargets e he (hsub e he)) d w h

end Acting

section Samples

/-- A threshold with one sample. -/
def sampleThreshold (percent : Int) : Json :=
  .object [(ascii "percent", .integer percent), (ascii "consecutive_samples", .integer 1)]

/-- A document with names and with pins to paths. One sample is enough for every
    decision. -/
def sampleDocument (critical batch : List String) (pins : List (String × String)) : Json :=
  .object
    [(ascii "polling", .object [(ascii "interval_ms", .integer 1000)]),
      (ascii "thresholds", .object
        [(ascii "high", sampleThreshold 85), (ascii "critical", sampleThreshold 90),
          (ascii "low", sampleThreshold 60)]),
      (ascii "processes", .object
        [(ascii "critical", .array (critical.map fun name => .string (ascii name))),
          (ascii "batch", .array (batch.map fun name => .string (ascii name)))]),
      (ascii "logging", .object
        [(ascii "log_path", .string (ascii "log.txt")), (ascii "max_file_size_mb", .integer 50),
          (ascii "max_rotated_files", .integer 5)]),
      (ascii "identity", .object (pins.map fun pin =>
        (ascii pin.1, .object [(ascii "path", .string (ascii pin.2))]))),
      (ascii "auto_protect", .object [(ascii "throttle_samples", .integer 1)])]

/-- What such a document says. -/
def sampleConfig (critical batch : List String) (pins : List (String × String)) :
    DaemonConfig where
  high := ⟨85, 1⟩
  critical := ⟨90, 1⟩
  low := ⟨60, 1⟩
  criticalProcesses := critical.map wide
  batchProcesses := batch.map wide
  logPath := wide "log.txt"
  identities := pins.map fun pin => ⟨wide pin.1, wide pin.2, []⟩
  autoThrottleSamples := 1

/-- A system with two documents, the first of them in the empty file. -/
def samplePlatform (first second : Json) : Platform where
  host := ⟨1000, id⟩
  parse text := .ok (if text = [] then first else second)
  toWide s := some (s.map UInt8.toUInt16)
  toUtf8 w := w.map UInt16.toUInt8
  unprotectSecret s := .ok s

/-- Every process can be opened and runs at normal priority. -/
def sampleAuto (systemCpu : Rat) (rows : List Row) : AutoReadings where
  systemCpu := systemCpu
  rows _ := rows
  exited _ := false
  opened _ := true
  getPriorityClass _ := some .normal
  setPriorityClass _ := true
  tickCount := 0

/-- A reload in which every call succeeds. -/
def sampleReload (snapshot : List ProcessEntry) : ReloadReadings where
  externalBias := 0
  os _ := .succeeding
  auto := sampleAuto 0 []
  snapshot _ := snapshot

/-- A command in which every call succeeds. -/
def sampleCommand (snapshot : List ProcessEntry) : CommandReadings where
  widen := List.map UInt8.toUInt16
  snapshot := snapshot
  opened _ := true
  os _ := .succeeding
  auto := sampleAuto 0 []
  connected := false

/-- Critical processes use one core. -/
def samplePoll (snapshot : List ProcessEntry) (image : DWORD → WString) (auto : AutoReadings)
    (ticks : UInt64) : PollReadings where
  snapshot := snapshot
  identity := { startTime := fun _ => 1, imagePath := image, signer := fun _ => [] }
  measurements :=
    { exitCode := fun _ => none
      openProcessError := fun _ => none
      cpuTicks := fun _ => some ticks
      wallTicks := fun _ => ticks
      ioBytes := fun _ => none
      workingSetSize := fun _ => none }
  memoryLoad := 0
  opened _ := true
  externalBias := 0
  os _ := .succeeding
  auto := auto

/-- The processes that are listed run since 1. -/
def sampleRunning (snapshot : List ProcessEntry) : DWORD → Option UInt64 := fun p =>
  if (snapshot.any fun e => e.pid == p) = true then some 1 else none

/-- One thread runs in every process that is listed. -/
def sampleWorld : World where
  threads := [⟨100, 4821⟩, ⟨200, 7000⟩]
  distinct := by decide
  suspends _ := 0
  priorityGiven _ := none
  exited _ := false

end Samples

end Service

end ThreadHaul
