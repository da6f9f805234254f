import ThreadHaul.Service.System

/-!
# The Causes of Transitions

Whether an `actuator_action` entry names what made the transition.

The trigger is a member of the daemon. It is set before the calls that a command, a
shutdown or the loss of a role makes, and set back after them. What logs a transition
is the callback of the machine, which takes the value that the member has then.

Applying a configuration has two ways to make transitions. The loop over the machines
that have lost their role sets the member, and `SetProtectedProcessNames`, which comes
before it, does not. So a process that is recovered since its name is protected now has
an entry that says `automatic`.

## Main definitions

* `Trigger`, `ActionEntry`, `onTransition`: The entries.
* `Triggered`, `DaemonEvent`, `logged`: The daemon with the member, and what is logged.
* `cause`: What made the transitions of an event.
* `NamesCause`: What is promised of an event.
* `Unprotected`: A reload protects no process that is restrained.

## Theorems

* `entries_logged`: Every transition has its entry.
* `fired_visitProtect_eq_nil_iff`: When a protection list makes no transition.
* `along_namesCause_iff`: Every run.
-/

namespace ThreadHaul

namespace Service

open Actuator Telemetry Config Runs

/-- The values of `trigger_`. -/
inductive Trigger
  | automatic
  | manual
  | shutdown
  | configReload
  deriving DecidableEq

/-- `ActionName`. -/
def actionName : ProcessState → Bytes
  | .throttled => ascii "priority_lowered"
  | .suspended => ascii "threads_suspended"
  | .normal => ascii "recovered"

/-- An `actuator_action` entry. -/
structure ActionEntry where
  batchProcessId : DWORD
  batchProcessName : WString
  criticalProcessId : DWORD
  action : Bytes
  fromState : Bytes
  toState : Bytes
  cpuPercent : Rat
  actuationSucceeded : Bool
  trigger : Trigger
  deriving DecidableEq

/-- `OnTransition`: the entry of a transition, with the values of two members of the
    daemon. -/
def onTransition (criticalPid : DWORD) (trigger : Trigger) (t : Transition Rat) :
    ActionEntry where
  batchProcessId := t.batchProcessId
  batchProcessName := t.batchProcessName
  criticalProcessId := criticalPid
  action := actionName t.newState
  fromState := stateName t.oldState
  toState := stateName t.newState
  cpuPercent := round1 t.cpuPercentAtTransition
  actuationSucceeded := t.actuationSucceeded
  trigger := trigger

/-- What is logged, and the trigger afterwards. -/
structure Logged where
  entries : List ActionEntry := []
  trigger : Trigger

section Reload

variable (host : Host) (os : DWORD → OsCalls) (cfg : DaemonConfig) (criticalPid : DWORD)

/-- One turn of the loop that drops machines, with the trigger. -/
def dropLogged (a : Actuated × Logged) (pid : DWORD) : Actuated × Logged :=
  let r := a.1.manager.drop (os pid) pid a.1.world
  (a.1.drop os pid,
    { entries := a.2.entries ++ r.fired.map (onTransition criticalPid .configReload)
      trigger := .automatic })

/-- `SetConfig`, `SetProtectedProcessNames`, and the loop that drops machines, with the
    trigger. -/
def reconfigureLogged (effective : StateMachineConfig Rat) (adhoc : List DWORD)
    (manager : ActuatorManager Rat) (w : World) (trigger : Trigger) : Actuated × Logged :=
  let r := (manager.setConfig effective).setProtectedProcessNames host os cfg.protectedProcesses w
  (droppedPids host cfg adhoc r.manager).foldl (dropLogged os criticalPid)
    ({ manager := r.manager, world := r.world, fired := r.fired },
      { entries := r.fired.map (onTransition criticalPid trigger), trigger := trigger })

end Reload

/-- The daemon and the processes, with the member `trigger_`. -/
structure Triggered where
  system : System
  trigger : Trigger := .automatic

/-- The system as the end of `Run` finds it. -/
structure ShutdownReadings where
  os : DWORD → OsCalls
  auto : AutoReadings

/-- What happens to the daemon, the end of `Run` included. -/
inductive DaemonEvent
  | event (i : Event)
  | shutdown (r : ShutdownReadings)

/-- The end of `Run`: all machines are recovered, and auto-protect restores. -/
def shutdown (r : ShutdownReadings) (d : DaemonState) (w : World) : Progress :=
  let recovered := d.actuator.forceRecoverAllForShutdown r.os w
  let restored := restoreAll r.auto d.autoProtect
  { daemon := { d with actuator := recovered.manager, autoProtect := restored.auto }
    world := recovered.world
    fired := recovered.fired
    sets := restored.sets }

section Steps

variable (os : Platform)

/-- What an event does. -/
def daemonProgress (s : System) : DaemonEvent → Progress
  | .event i => progress os s i
  | .shutdown r => shutdown r s.daemon s.world

/-- The thresholds that `ApplyConfig` puts in force. -/
def reloadThresholds (r : ReloadReadings) (cfg : DaemonConfig) (d : DaemonState) :
    StateMachineConfig Rat :=
  (d.adaptive.setSettings (toAdaptive cfg)).adjust (toStateMachineConfig cfg)
    (d.bias r.externalBias)

/-- What a reload logs. -/
def reloadLogged (text : Bytes) (writable : Bool) (r : ReloadReadings) (s : Triggered) : Logged :=
  match parseConfig os text with
  | .error _ => { trigger := s.trigger }
  | .ok cfg =>
      if writable && cfg.requireProtectedConfig then { trigger := s.trigger }
      else
        let d := s.system.daemon
        (reconfigureLogged os.host r.os cfg d.criticalPid (reloadThresholds r cfg d) d.adhoc
          d.actuator s.system.world s.trigger).2

/-- What a command logs. The trigger is set once there are targets. -/
def commandLogged (line : Bytes) (r : CommandReadings) (s : Triggered) : Logged :=
  match commandTargets (r.env os.host) line with
  | some (_, _ :: _) =>
      { entries := (command os.host line r s.system.daemon s.system.world).fired.map
          (onTransition s.system.daemon.criticalPid .manual)
        trigger := .automatic }
  | _ => { trigger := s.trigger }

/-- The entries of an event. -/
def logged (s : Triggered) : DaemonEvent → Logged
  | .event (.poll r) =>
      let p := poll os.host r s.system.daemon s.system.world
      { entries := p.fired.map (onTransition p.daemon.criticalPid s.trigger)
        trigger := s.trigger }
  | .event (.reload text writable r) => reloadLogged os text writable r s
  | .event (.command line r) => commandLogged os line r s
  | .event (.elsewhere _ _) => { trigger := s.trigger }
  | .shutdown r =>
      { entries := (shutdown r s.system.daemon s.system.world).fired.map
          (onTransition s.system.daemon.criticalPid .shutdown)
        trigger := .automatic }

/-- One event, with the entries that are written. -/
def daemonStep (s : Triggered) (i : DaemonEvent) : Triggered where
  system :=
    { daemon := (daemonProgress os s.system i).daemon
      world := (daemonProgress os s.system i).world
      running :=
        match i with
        | .event (.elsewhere _ running) => running
        | _ => s.system.running }
  trigger := (logged os s i).trigger

/-- What makes the transitions of an event. -/
def cause : DaemonEvent → Trigger
  | .event (.poll _) => .automatic
  | .event (.reload _ _ _) => .configReload
  | .event (.command _ _) => .manual
  | .event (.elsewhere _ _) => .automatic
  | .shutdown _ => .shutdown

/-- Every entry names what made the transition. -/
def NamesCause (s : Triggered) (i : DaemonEvent) : Prop :=
  ∀ e ∈ (logged os s i).entries, e.trigger = cause i

/-- Whether every entry names its cause can be decided. -/
instance (s : Triggered) (i : DaemonEvent) : Decidable (NamesCause os s i) :=
  inferInstanceAs (Decidable (∀ e ∈ _, _ = _))

/-- A configuration that is applied protects no process that is restrained. -/
def Unprotected (s : Triggered) : DaemonEvent → Prop
  | .event (.reload text writable _) => ∀ cfg, parseConfig os text = .ok cfg →
      (writable && cfg.requireProtectedConfig) = false →
      ∀ m ∈ s.system.daemon.actuator.machines,
        protects os.host cfg.protectedProcesses m.batchProcessName m.batchProcessId = true →
        m.state = .normal
  | _ => True

end Steps

/-! ### Entries and transitions -/

section Entries

variable {os : Platform}

/-- The entries are those of the transitions, each with some trigger. -/
def EntriesOf (criticalPid : DWORD) (fired : List (Transition Rat)) (entries : List ActionEntry) :
    Prop :=
  ∃ triggers : List Trigger, triggers.length = fired.length ∧
    entries = List.zipWith (onTransition criticalPid) triggers fired

theorem entriesOf_map (criticalPid : DWORD) (trigger : Trigger) (fired : List (Transition Rat)) :
    EntriesOf criticalPid fired (fired.map (onTransition criticalPid trigger)) := by
  refine ⟨List.replicate fired.length trigger, List.length_replicate, ?_⟩
  induction fired with
  | nil => rfl
  | cons t fired ih =>
      rw [List.map_cons, List.length_cons, List.replicate_succ, List.zipWith_cons_cons, ih]

theorem entriesOf_append (criticalPid : DWORD) (fired fired' : List (Transition Rat))
    (entries entries' : List ActionEntry) (h : EntriesOf criticalPid fired entries)
    (h' : EntriesOf criticalPid fired' entries') :
    EntriesOf criticalPid (fired ++ fired') (entries ++ entries') := by
  rcases h with ⟨triggers, hlength, rfl⟩
  rcases h' with ⟨triggers', hlength', rfl⟩
  refine ⟨triggers ++ triggers', ?_, ?_⟩
  · rw [List.length_append, List.length_append, hlength, hlength']
  · rw [List.zipWith_append hlength]

/-- The loop that drops machines does with the member what it does without, and its
    transitions have entries that say `config_reload`. -/
theorem foldl_dropLogged (calls : DWORD → OsCalls) (criticalPid : DWORD) (pids : List DWORD)
    (a : Actuated × Logged) :
    (pids.foldl (dropLogged calls criticalPid) a).1 = pids.foldl (Actuated.drop calls) a.1 ∧
      (a.2.trigger = .automatic →
        (pids.foldl (dropLogged calls criticalPid) a).2.trigger = .automatic) ∧
      ∃ more, (pids.foldl (Actuated.drop calls) a.1).fired = a.1.fired ++ more ∧
        (pids.foldl (dropLogged calls criticalPid) a).2.entries
          = a.2.entries ++ more.map (onTransition criticalPid .configReload) := by
  -- Each drop logs what it fired, with the trigger of the reload.
  induction pids generalizing a with
  | nil => exact ⟨rfl, id, [], (List.append_nil _).symm, (List.append_nil _).symm⟩
  | cons pid pids ih =>
      rcases ih (dropLogged calls criticalPid a pid) with ⟨hsame, htrigger, more, hfired, hentries⟩
      refine ⟨hsame, fun _ => htrigger rfl,
        (a.1.manager.drop (calls pid) pid a.1.world).fired ++ more, ?_, ?_⟩
      · exact hfired.trans (List.append_assoc ..)
      · rw [List.map_append, ← List.append_assoc]
        exact hentries

section Reconfigure

variable (host : Host) (calls : DWORD → OsCalls) (cfg : DaemonConfig) (criticalPid : DWORD)
  (effective : StateMachineConfig Rat) (adhoc : List DWORD) (manager : ActuatorManager Rat)
  (w : World) (trigger : Trigger)

/-- The transitions of a protection list. -/
def protectFired : List (Transition Rat) :=
  ((manager.setConfig effective).setProtectedProcessNames host calls cfg.protectedProcesses w).fired

/-- A reload with the member does what it does without. What the protection list does is
    logged with the trigger that there is, and the rest as `config_reload`. -/
theorem reconfigureLogged_spec :
    (reconfigureLogged host calls cfg criticalPid effective adhoc manager w trigger).1
        = reconfigure host calls cfg effective adhoc manager w ∧
      (trigger = .automatic →
        (reconfigureLogged host calls cfg criticalPid effective adhoc manager w
          trigger).2.trigger = .automatic) ∧
      ∃ more, (reconfigure host calls cfg effective adhoc manager w).fired
          = protectFired host calls cfg effective manager w ++ more ∧
        (reconfigureLogged host calls cfg criticalPid effective adhoc manager w
          trigger).2.entries
          = (protectFired host calls cfg effective manager w).map
              (onTransition criticalPid trigger)
            ++ more.map (onTransition criticalPid .configReload) :=
  foldl_dropLogged calls criticalPid _ _

end Reconfigure

/-- What a reload logs: what the protection list does, with the trigger that there is,
    and the rest as `config_reload`. -/
theorem reloadLogged_spec (text : Bytes) (writable : Bool) (r : ReloadReadings) (s : Triggered)
    (cfg : DaemonConfig) (hparse : parseConfig os text = .ok cfg)
    (haccepts : (writable && cfg.requireProtectedConfig) = false) :
    ∃ more,
      (reload os text writable r s.system.daemon s.system.world).fired
          = protectFired os.host r.os cfg (reloadThresholds r cfg s.system.daemon)
              s.system.daemon.actuator s.system.world ++ more ∧
        (reloadLogged os text writable r s).entries
          = (protectFired os.host r.os cfg (reloadThresholds r cfg s.system.daemon)
              s.system.daemon.actuator s.system.world).map
              (onTransition s.system.daemon.criticalPid s.trigger)
            ++ more.map (onTransition s.system.daemon.criticalPid .configReload) ∧
        (s.trigger = .automatic → (reloadLogged os text writable r s).trigger = .automatic) := by
  -- The reload is accepted, so it reconfigures the machines and logs as that does.
  rcases reconfigureLogged_spec os.host r.os cfg s.system.daemon.criticalPid
    (reloadThresholds r cfg s.system.daemon) s.system.daemon.adhoc s.system.daemon.actuator
    s.system.world s.trigger with ⟨_, htrigger, more, hfired, hentries⟩
  refine ⟨more, ?_, ?_, ?_⟩
  · rw [reload_of_accepts text writable r _ _ cfg hparse haccepts]
    exact hfired
  · simp only [reloadLogged, hparse, haccepts, Bool.false_eq_true, if_false]
    exact hentries
  · simp only [reloadLogged, hparse, haccepts, Bool.false_eq_true, if_false]
    exact htrigger

/-- A reload that is not applied logs nothing. -/
theorem reloadLogged_of_rejected (text : Bytes) (writable : Bool) (r : ReloadReadings)
    (s : Triggered) (h : ∀ cfg, parseConfig os text = .ok cfg →
      (writable && cfg.requireProtectedConfig) = true) :
    reloadLogged os text writable r s = { trigger := s.trigger } := by
  unfold reloadLogged
  cases hparse : parseConfig os text with
  | error e => rfl
  | ok cfg => exact if_pos (h cfg hparse)

/-- A command without targets makes no transition. -/
theorem fired_command_of_no_targets (line : Bytes) (r : CommandReadings) (d : DaemonState)
    (w : World) (h : ∀ verb e targets, commandTargets (r.env os.host) line
      ≠ some (verb, e :: targets)) : (command os.host line r d w).fired = [] := by
  rw [(command_eq os.host line r d w).2.2, commandEffect]
  rcases htargets : commandTargets (r.env os.host) line with _ | ⟨verb, targets⟩
  · rfl
  · cases targets with
    | nil => rfl
    | cons e targets => exact absurd htargets (h verb e targets)

theorem criticalPid_command (host : Host) (line : Bytes) (r : CommandReadings) (d : DaemonState)
    (w : World) : (command host line r d w).daemon.criticalPid = d.criticalPid := by
  unfold command
  rcases handleCommand (r.env host) (d.seen r.connected) w line with e | out
  · rfl
  · rfl

/-- What a command logs. -/
theorem commandLogged_eq (line : Bytes) (r : CommandReadings) (s : Triggered) :
    (commandLogged os line r s).entries
        = (command os.host line r s.system.daemon s.system.world).fired.map
            (onTransition s.system.daemon.criticalPid .manual) ∧
      (s.trigger = .automatic → (commandLogged os line r s).trigger = .automatic) := by
  unfold commandLogged
  -- Without targets nothing is fired and the trigger is not set.
  rcases htargets : commandTargets (r.env os.host) line with _ | ⟨verb, targets⟩
  · rw [fired_command_of_no_targets line r _ _ fun verb e targets heq => by
      rw [htargets] at heq
      cases heq]
    exact ⟨rfl, id⟩
  · cases targets with
    | nil =>
        rw [fired_command_of_no_targets line r _ _ fun verb e targets heq => by
          rw [htargets] at heq
          cases heq]
        exact ⟨rfl, id⟩
    | cons e targets => exact ⟨rfl, fun _ => rfl⟩

/-- Every transition has its entry. -/
theorem entries_logged (s : Triggered) (i : DaemonEvent) :
    EntriesOf (daemonProgress os s.system i).daemon.criticalPid (daemonProgress os s.system i).fired
      (logged os s i).entries := by
  -- Each event logs exactly what it fired; only a reload changes its trigger on the way.
  cases i with
  | shutdown r => exact entriesOf_map _ .shutdown _
  | event i =>
      cases i with
      | poll r => exact entriesOf_map _ s.trigger _
      | elsewhere world running => exact entriesOf_map _ s.trigger []
      | command line r =>
          change EntriesOf
            (command os.host line r s.system.daemon s.system.world).daemon.criticalPid _
            (commandLogged os line r s).entries
          rw [criticalPid_command, (commandLogged_eq line r s).1]
          exact entriesOf_map _ .manual _
      | reload text writable r =>
          rcases rejected_or_accepted os text writable with hrejected | ⟨cfg, hparse, haccepts⟩
          · have hlogged := reloadLogged_of_rejected text writable r s hrejected
            have hreload := reload_of_rejected text writable r s.system.daemon s.system.world
              hrejected
            simp only [logged, daemonProgress, progress, hlogged, hreload]
            exact entriesOf_map _ s.trigger []
          · -- What the protection list does comes first, with the trigger of before.
            rcases reloadLogged_spec text writable r s cfg hparse haccepts with
              ⟨more, hfired, hentries, _⟩
            have hpid : (daemonProgress os s.system
                (.event (.reload text writable r))).daemon.criticalPid
                  = s.system.daemon.criticalPid := by
              simp only [daemonProgress, progress,
                reload_of_accepts text writable r _ _ cfg hparse haccepts]
              rfl
            rw [hpid]
            simp only [logged, daemonProgress, progress, hfired, hentries]
            exact entriesOf_append _ _ _ _ _ (entriesOf_map _ s.trigger _)
              (entriesOf_map _ .configReload _)

end Entries

/-! ### What a protection list does -/

section Protection

/-- A protection list makes no transition exactly if what it protects is not restrained. -/
theorem fired_visitProtect_eq_nil_iff (calls : DWORD → OsCalls)
    (isProtected : WString → DWORD → Bool) (ms : List (ProcessStateMachine Rat)) (w : World) :
    (sweep (ActuatorManager.visitProtect calls isProtected) ms w).fired = [] ↔
      ∀ m ∈ ms, isProtected m.batchProcessName m.batchProcessId = true → m.state = .normal := by
  induction ms generalizing w with
  | nil => exact iff_of_true rfl fun _ hm => absurd hm List.not_mem_nil
  | cons m ms ih =>
      have hone : ∀ w, (ActuatorManager.visitProtect calls isProtected m w).fired = [] ↔
          (isProtected m.batchProcessName m.batchProcessId = true → m.state = .normal) := by
        intro w
        unfold ActuatorManager.visitProtect ProcessStateMachine.forceRecoverForShutdown
        -- A machine fires when it is protected and not Normal, and nothing otherwise.
        by_cases hprotected : isProtected m.batchProcessName m.batchProcessId = true
        · rw [if_pos hprotected]
          by_cases hnormal : m.state = .normal
          · rw [if_pos hnormal]
            exact iff_of_true rfl fun _ => hnormal
          · rw [if_neg hnormal]
            exact iff_of_false (List.cons_ne_nil _ _) fun h => hnormal (h hprotected)
        · rw [if_neg hprotected]
          exact iff_of_true rfl fun h => absurd h hprotected
      rw [sweep, List.append_eq_nil_iff, hone, ih, List.forall_mem_cons]

end Protection

/-! ### Runs -/

section Runs

variable {os : Platform}

/-- Between the events the trigger is `automatic`. -/
theorem automatic_step (s : Triggered) (i : DaemonEvent) (h : s.trigger = .automatic) :
    (daemonStep os s i).trigger = .automatic := by
  -- A command and a reload set the trigger and put it back at their end.
  cases i with
  | shutdown r => rfl
  | event i =>
      cases i with
      | poll r => exact h
      | elsewhere world running => exact h
      | command line r => exact (commandLogged_eq line r s).2 h
      | reload text writable r =>
          rcases rejected_or_accepted os text writable with hrejected | ⟨cfg, hparse, haccepts⟩
          · have hlogged := reloadLogged_of_rejected text writable r s hrejected
            simp only [daemonStep, logged, hlogged]
            exact h
          · rcases reloadLogged_spec text writable r s cfg hparse haccepts with
              ⟨_, _, _, htrigger⟩
            exact htrigger h

theorem trigger_of_mem_map {criticalPid : DWORD} {trigger : Trigger}
    {fired : List (Transition Rat)} :
    ∀ e ∈ fired.map (onTransition criticalPid trigger), e.trigger = trigger := by
  intro e he
  rcases List.mem_map.mp he with ⟨t, _, rfl⟩
  rfl

/-- The entries of a reload say `config_reload` unless it protects a process that is
    restrained. -/
theorem namesCause_reload_iff (s : Triggered) (text : Bytes) (writable : Bool)
    (r : ReloadReadings) (h : s.trigger = .automatic) :
    (∀ e ∈ (reloadLogged os text writable r s).entries, e.trigger = .configReload) ↔
      Unprotected os s (.event (.reload text writable r)) := by
  rcases rejected_or_accepted os text writable with hrejected | ⟨cfg, hparse, haccepts⟩
  · rw [reloadLogged_of_rejected text writable r s hrejected]
    refine iff_of_true (fun e he => absurd he List.not_mem_nil) ?_
    intro cfg hparse haccepts
    rw [hrejected cfg hparse] at haccepts
    cases haccepts
  · rcases reloadLogged_spec text writable r s cfg hparse haccepts with ⟨more, _, hentries, _⟩
    -- The sweep of the protection list is silent just when no machine it hits has to recover.
    have hnone : protectFired os.host r.os cfg (reloadThresholds r cfg s.system.daemon)
        s.system.daemon.actuator s.system.world = [] ↔
        ∀ m ∈ s.system.daemon.actuator.machines, protects os.host
          cfg.protectedProcesses m.batchProcessName m.batchProcessId = true →
          m.state = .normal :=
      (fired_visitProtect_eq_nil_iff r.os _ _ s.system.world).trans
        List.forall_mem_map
    constructor
    · -- What the protection list does has the wrong trigger, so it does nothing.
      intro hnames cfg' hparse' _
      rw [hparse] at hparse'
      cases hparse'
      refine hnone.mp (List.eq_nil_iff_forall_not_mem.mpr fun t ht => ?_)
      have hentry := hnames (onTransition s.system.daemon.criticalPid s.trigger t) (by
        rw [hentries]
        exact List.mem_append_left _ (List.mem_map_of_mem ht))
      rw [onTransition, h] at hentry
      cases hentry
    · intro hunprotected
      rw [hentries, hnone.mpr (hunprotected cfg hparse haccepts)]
      exact trigger_of_mem_map

/-- The entries of an event name its cause, unless a reload protects a process that is
    restrained. -/
theorem namesCause_iff (s : Triggered) (i : DaemonEvent) (h : s.trigger = .automatic) :
    NamesCause os s i ↔ Unprotected os s i := by
  -- Every event but a reload logs with one trigger, and it is the right one.
  cases i with
  | shutdown r => exact iff_of_true trigger_of_mem_map trivial
  | event i =>
      cases i with
      | poll r =>
          refine iff_of_true (fun e he => ?_) trivial
          exact (trigger_of_mem_map e he).trans h
      | elsewhere world running =>
          exact iff_of_true (fun e he => absurd he List.not_mem_nil) trivial
      | command line r =>
          refine iff_of_true ?_ trivial
          change ∀ e ∈ (commandLogged os line r s).entries, e.trigger = .manual
          rw [(commandLogged_eq line r s).1]
          exact trigger_of_mem_map
      | reload text writable r => exact namesCause_reload_iff s text writable r h

/-- In every run from `Initialize` on, all entries name the cause of their transition
    exactly if no configuration that is applied protects a process that is restrained. -/
theorem along_namesCause_iff (cfg : { cfg : DaemonConfig // Accepted os cfg })
    (r : ReloadReadings) (cores : Nat) (remoteStopEvent : Bool) (w : World)
    (running : DWORD → Option UInt64) (l : List DaemonEvent) :
    Along (daemonStep os) (NamesCause os)
        { system := start os cfg r cores remoteStopEvent w running } l ↔
      Along (daemonStep os) (Unprotected os)
        { system := start os cfg r cores remoteStopEvent w running } l :=
  along_iff_along (daemonStep os) (NamesCause os) (Unprotected os)
    (fun s => s.trigger = .automatic) automatic_step namesCause_iff l _ rfl

end Runs

section Mislabelled

/-- A document that protects `a.exe`. -/
def protectingDocument : Json :=
  match sampleDocument [] [] [] with
  | .object members => .object (members.map fun e =>
      if e.1 = ascii "processes" then
        (e.1, .object [(ascii "critical", .array []), (ascii "batch", .array []),
          (ascii "protected", .array [.string (ascii "a.exe")])])
      else e)
  | other => other

/-- A file that protects what was managed before. -/
def protectingPlatform : Platform := samplePlatform (sampleDocument [] [] []) protectingDocument

/-- `a.exe` runs. -/
def protectingStart : Triggered where
  system := start protectingPlatform ⟨sampleConfig [] [] [], [], rfl⟩ (sampleReload []) 1 true
    sampleWorld (sampleRunning [⟨wide "a.exe", 4821⟩])

/-- `a.exe` is throttled by hand, and then a configuration protects it. -/
def protectingEvents : List DaemonEvent :=
  [.event (.command (ascii "throttle a.exe") (sampleCommand [⟨wide "a.exe", 4821⟩])),
    .event (.reload [0] false (sampleReload []))]

/-- The process is recovered by the reload, and the entry says `automatic`. -/
theorem not_namesCause_protected :
    ¬ Along (daemonStep protectingPlatform) (NamesCause protectingPlatform) protectingStart
      protectingEvents := by
  decide +kernel

end Mislabelled

end Service

end ThreadHaul
