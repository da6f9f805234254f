import ThreadHaul.Actuator.Holding
import ThreadHaul.Config.Parse
import ThreadHaul.Service.AutoProtect
import ThreadHaul.Telemetry.ProcessIdentity
import ThreadHaul.Telemetry.ProcessMonitor

/-!
# Polls and Reloads

`ApplyConfig` and `Poll`: what the daemon does when it gets a configuration, and
what it does once in every interval.

A poll has two halves. The first one looks: the snapshot goes through the
identity filter, the critical processes are measured, and batch processes that
are new are picked up. The second one acts on the pressure, and it is left out
while nothing was measured yet. `reconfigure_spec` and `poll_spec` say where
the machines come from that there are afterwards.

`retrack_spec` and `critical_poll` say the same of the critical processes.

What is logged is left out, and so are the parts of a configuration that only
concern the log, the alerts, the dashboard and the connection to the controller.

## Main definitions

* `ThresholdTracker`: The streaks that are reported.
* `DaemonState`: The fields of `Daemon`.
* `ReloadReadings`, `applyConfig`: `ApplyConfig`.
* `PollReadings`, `sense`, `respond`, `poll`: `Poll`.
* `stays`: Whether a machine is left when a configuration is applied.
* `Found`: What a poll picks up.

## Theorems

* `reconfigure_spec`: What a configuration leaves.
* `retrack_spec`, `critical_poll`: Where what is tracked comes from.
* `discovered_sense`: What the first half of a poll picks up.
* `respond_spec`: The second half picks nothing up.
* `poll_spec`: The machines after a poll.
-/

namespace ThreadHaul

namespace Service

open Actuator Telemetry OrderedMap Config

/-- `ThresholdType`. -/
inductive ThresholdType
  | high
  | critical
  | low
  deriving DecidableEq

/-- `ThresholdTracker`. -/
structure ThresholdTracker where
  high : Int32 := 0
  critical : Int32 := 0
  low : Int32 := 0
  deriving DecidableEq

/-- `ThresholdTracker::Add`, with the streaks that reach their length. -/
def ThresholdTracker.add (t : ThresholdTracker) (percent : Rat) (cfg : StateMachineConfig Rat) :
    ThresholdTracker × List (ThresholdType × Int32) :=
  let high := if cfg.throttleThresholdPercent ≤ percent then t.high + 1 else 0
  let critical := if cfg.escalateThresholdPercent ≤ percent then t.critical + 1 else 0
  let low := if percent < cfg.recoverThresholdPercent then t.low + 1 else 0
  ({ high := high, critical := critical, low := low },
    (if high = cfg.throttleConsecutiveSamples then [(.high, high)] else []) ++
      (if critical = cfg.escalateConsecutiveSamples then [(.critical, critical)] else []) ++
      (if low = cfg.recoverConsecutiveSamples then [(.low, low)] else []))

/-- `ToStateMachineConfig`. -/
def toStateMachineConfig (c : DaemonConfig) : StateMachineConfig Rat where
  throttleThresholdPercent := c.high.percent
  throttleConsecutiveSamples := Int32.ofInt c.high.consecutiveSamples
  escalateThresholdPercent := c.critical.percent
  escalateConsecutiveSamples := Int32.ofInt c.critical.consecutiveSamples
  recoverThresholdPercent := c.low.percent
  recoverConsecutiveSamples := Int32.ofInt c.low.consecutiveSamples

/-- `ToAdaptive`. -/
def toAdaptive (c : DaemonConfig) : AdaptiveSettings where
  enabled := c.adaptiveEnabled
  windowSamples := c.adaptiveWindowSamples
  horizonSamples := c.adaptiveHorizonSamples
  maxAdjustPercent := c.adaptiveMaxAdjustPercent

/-- The settings that `ApplyConfig` makes for `AutoProtector`. -/
def toAutoProtect (c : DaemonConfig) : AutoProtectSettings where
  enabled := c.autoEnabled
  throttlePercent := c.autoThrottlePercent
  throttleSamples := Int32.ofInt c.autoThrottleSamples
  useIdle := c.autoUseIdle
  idlePercent := c.autoIdlePercent
  idleSamples := Int32.ofInt c.autoIdleSamples
  recoverPercent := c.autoRecoverPercent
  recoverSamples := Int32.ofInt c.autoRecoverSamples
  maxProcesses := Int32.ofInt c.autoMaxProcesses
  minProcessCpuPercent := c.autoMinProcessCpuPercent

/-- How processor time is counted. -/
def toNormalization (c : DaemonConfig) : CpuNormalization :=
  if c.cpuPerCore then .perCore else .totalSystem

/-- The pins, by name. -/
def toPins (c : DaemonConfig) : List (WString × ExpectedIdentity) :=
  c.identities.foldl (fun m p => assign m p.name ⟨p.path, p.publisher⟩) []

/-- The name has a role. -/
def isConfigured (host : Host) (c : DaemonConfig) (name : WString) : Bool :=
  contains host c.criticalProcesses name || contains host c.batchProcesses name ||
    contains host c.protectedProcesses name

/-- The fields of `Daemon`, as they are before `Initialize`. -/
structure DaemonState where
  cfg : DaemonConfig := {}
  base : StateMachineConfig Rat := default
  effective : StateMachineConfig Rat := default
  actuator : ActuatorManager Rat := { config := default }
  /-- There is a client of the controller. -/
  coordination : Bool := false
  critical : List (WString × TrackedProcess) := []
  tracker : ThresholdTracker := {}
  adaptive : AdaptiveThresholds := {}
  cores : Nat := 1
  adhoc : List DWORD := []
  lastSamples : List Telemetry.ProcessSample := []
  pressure : Rat := 0
  pressureSignal : Signal := .cpu
  criticalPid : DWORD := 0
  remoteStopEvent : Bool := true
  autoProtect : AutoProtector := {}
  identity : IdentityFilter := {}

/-- The daemon and the system after a step, the callbacks of the machines, and
    the priority classes that `AutoProtector` set. -/
structure Progress where
  daemon : DaemonState
  world : World
  fired : List (Transition Rat) := []
  sets : List (DWORD × PriorityClass) := []

section ApplyConfig

/-- The system as `ApplyConfig` finds it. -/
structure ReloadReadings where
  /-- `ExternalBias`, if there is a client. -/
  externalBias : Rat
  os : DWORD → OsCalls
  auto : AutoReadings
  /-- The snapshot that is taken for an entry of `AutoProtector`. -/
  snapshot : DWORD → List ProcessEntry

/-- `coordination_ ? coordination_->ExternalBias() : 0.0`. -/
def DaemonState.bias (d : DaemonState) (externalBias : Rat) : Rat :=
  if d.coordination then externalBias else 0

/-- One turn of the loop that adds names. -/
def track (cfg : DaemonConfig) (cores : Nat) (m : List (WString × TrackedProcess))
    (name : WString) : List (WString × TrackedProcess) :=
  if name ∈ keys m then m
  else assign m name { name := name, normalization := toNormalization cfg, cores := cores }

/-- The critical names that stay, and the new ones. -/
def retrack (host : Host) (cfg : DaemonConfig) (cores : Nat)
    (critical : List (WString × TrackedProcess)) : List (WString × TrackedProcess) :=
  let kept := (critical.filter fun t => contains host cfg.criticalProcesses t.1).map fun t =>
    (t.1, { t.2 with normalization := toNormalization cfg })
  cfg.criticalProcesses.foldl (track cfg cores) kept

/-- The machines whose names are no longer configured. -/
def droppedPids (host : Host) (cfg : DaemonConfig) (adhoc : List DWORD)
    (manager : ActuatorManager Rat) : List DWORD :=
  (manager.holdings.filter fun h =>
    !contains host cfg.batchProcesses h.batchProcessName &&
      !decide (h.batchProcessId ∈ adhoc)).map Holding.batchProcessId

/-- The machines, the system and the callbacks. -/
structure Actuated where
  manager : ActuatorManager Rat
  world : World
  fired : List (Transition Rat) := []

/-- One turn of the loop that drops machines. -/
def Actuated.drop (os : DWORD → OsCalls) (a : Actuated) (pid : DWORD) : Actuated :=
  let r := a.manager.drop (os pid) pid a.world
  { manager := r.manager, world := r.world, fired := a.fired ++ r.fired }

/-- `SetConfig`, `SetProtectedProcessNames`, and the loop that drops machines. -/
def reconfigure (host : Host) (os : DWORD → OsCalls) (cfg : DaemonConfig)
    (effective : StateMachineConfig Rat) (adhoc : List DWORD) (manager : ActuatorManager Rat)
    (w : World) : Actuated :=
  let r := (manager.setConfig effective).setProtectedProcessNames host os cfg.protectedProcesses w
  (droppedPids host cfg adhoc r.manager).foldl (Actuated.drop os)
    { manager := r.manager, world := r.world, fired := r.fired }

/-- One entry of a snapshot, in the loop that exempts processes with a role. -/
def exemptEntry (host : Host) (r : AutoReadings) (cfg : DaemonConfig) (pid : DWORD)
    (acc : AutoResult) (e : ProcessEntry) : AutoResult :=
  if e.pid = pid ∧ isConfigured host cfg e.name = true then
    let out := exempt r acc.auto pid
    { out with sets := acc.sets ++ out.sets }
  else acc

/-- `Configure`, and the loop that exempts processes with a role. -/
def reprotect (host : Host) (r : ReloadReadings) (cfg : DaemonConfig) (auto : AutoProtector) :
    AutoResult :=
  let configured := configure r.auto auto (toAutoProtect cfg) alwaysProtectedNames
  (keys configured.auto.throttled).foldl
    (fun acc pid => (r.snapshot pid).foldl (exemptEntry host r.auto cfg pid) acc) configured

/-- `ApplyConfig`. -/
def applyConfig (host : Host) (r : ReloadReadings) (cfg : DaemonConfig) (d : DaemonState)
    (w : World) : Progress :=
  let base := toStateMachineConfig cfg
  let adaptive := d.adaptive.setSettings (toAdaptive cfg)
  let effective := adaptive.adjust base (d.bias r.externalBias)
  let actuated := reconfigure host r.os cfg effective d.adhoc d.actuator w
  let auto := reprotect host r cfg d.autoProtect
  { daemon :=
      { d with
        cfg := cfg
        base := base
        adaptive := adaptive
        effective := effective
        actuator := actuated.manager
        identity := setExpected (toPins cfg)
        critical := retrack host cfg d.cores d.critical
        autoProtect := auto.auto
        coordination := cfg.coordinationEnabled }
    world := actuated.world
    fired := actuated.fired
    sets := auto.sets }

end ApplyConfig

section Poll

/-- The system as `Poll` finds it. -/
structure PollReadings where
  snapshot : List ProcessEntry
  identity : Readings
  measurements : Measurements
  /-- `SystemMemoryLoadPercent`. -/
  memoryLoad : Rat
  /-- The constructor of a machine gets a handle. -/
  opened : DWORD → Bool
  externalBias : Rat
  os : DWORD → OsCalls
  auto : AutoReadings

/-- One pressure and where it comes from. -/
structure Pressure where
  percent : Rat
  signal : Signal

/-- `if (x > p)`. -/
def Pressure.raise (p : Pressure) (x : Rat) (signal : Signal) : Pressure :=
  if p.percent < x then { percent := x, signal := signal } else p

/-- The pressure of one critical instance. -/
def pressureOf (cfg : DaemonConfig) (memLoad : Rat) (s : Telemetry.ProcessSample) : Pressure :=
  let p : Pressure := { percent := s.cpuPercent, signal := .cpu }
  let p :=
    if cfg.memoryTriggerEnabled then
      let p := p.raise (100 * memLoad / cfg.systemMemoryLimitPercent) .systemMemory
      if 0 < cfg.criticalWorkingSetLimitMb then
        p.raise (100 * s.workingSetMb / cfg.criticalWorkingSetLimitMb) .workingSet
      else p
    else p
  if cfg.ioTriggerEnabled then
    p.raise (100 * s.ioMbPerSec / cfg.criticalIoLimitMbPerSec) .io
  else p

/-- The highest pressure so far. -/
structure Combined where
  pressure : Pressure := ⟨0, .cpu⟩
  pid : DWORD := 0
  anyValid : Bool := false

/-- One turn of the loop over the samples. -/
def Combined.add (cfg : DaemonConfig) (memLoad : Rat) (c : Combined)
    (s : Telemetry.ProcessSample) : Combined :=
  if !s.valid then c
  else
    let p := pressureOf cfg memLoad s
    if c.pressure.percent ≤ p.percent then { pressure := p, pid := s.pid, anyValid := true }
    else { c with anyValid := true }

/-- One process of a batch name that was found. -/
def discoverOne (host : Host) (opened : DWORD → Bool) (name : WString)
    (manager : ActuatorManager Rat) (pid : DWORD) : ActuatorManager Rat :=
  if (manager.find pid).isSome then manager
  else (manager.addBatchProcess host (opened pid) name pid).1

/-- `DiscoverBatchProcesses`. -/
def discoverBatchProcesses (host : Host) (opened : DWORD → Bool) (snapshot : List ProcessEntry)
    (names : List WString) (manager : ActuatorManager Rat) : ActuatorManager Rat :=
  names.foldl
    (fun manager name =>
      (findByName host snapshot name).foldl (discoverOne host opened name) manager)
    manager

/-- The first half of `Poll`, and the pressure if there is one to act on. -/
def sense (host : Host) (r : PollReadings) (d : DaemonState) : DaemonState × Option Combined :=
  let filtered := d.identity.filter host r.identity r.snapshot
  let polled := d.critical.map fun t => (t.1, t.2.poll r.measurements host filtered.passed)
  let samples := polled.flatMap fun t => t.2.2.1
  let memLoad := if d.cfg.memoryTriggerEnabled then r.memoryLoad else 0
  let combined := samples.foldl (Combined.add d.cfg memLoad) {}
  ({ d with
      identity := filtered.filter
      critical := polled.map fun t => (t.1, t.2.1)
      lastSamples := samples
      actuator :=
        discoverBatchProcesses host r.opened filtered.passed d.cfg.batchProcesses d.actuator },
    if !samples.isEmpty && !combined.anyValid then none else some combined)

/-- The thresholds after one more sample: they follow the adjustment once it
    has moved by half a point. -/
def adapt (externalBias : Rat) (pressure : Rat) (d : DaemonState) : DaemonState :=
  let adaptive := d.adaptive.addSample pressure
  let eff := adaptive.adjust d.base (d.bias externalBias)
  if 1 / 2 ≤ |eff.throttleThresholdPercent - d.effective.throttleThresholdPercent| then
    { d with adaptive := adaptive, effective := eff, actuator := d.actuator.setConfig eff }
  else { d with adaptive := adaptive }

/-- The processes that a tick of `AutoProtector` leaves alone. -/
def excluded (host : Host) (d : DaemonState) (name : WString) (pid : DWORD) : Bool :=
  isConfigured host d.cfg name || (d.actuator.find pid).isSome

/-- The second half of `Poll`. -/
def respond (host : Host) (r : PollReadings) (c : Combined) (d : DaemonState) (w : World) :
    Progress :=
  let sampled :=
    { d with
      pressure := c.pressure.percent
      pressureSignal := c.pressure.signal
      criticalPid := c.pid }
  let adapted := adapt r.externalBias c.pressure.percent sampled
  let added := (adapted.tracker.add c.pressure.percent adapted.effective).1
  let updated := adapted.actuator.updateAll r.os c.pressure.percent w
  let settled :=
    { adapted with
      actuator := updated.manager
      tracker := if updated.returned then {} else added
      adhoc := adapted.adhoc.filter fun pid => (updated.manager.find pid).isSome }
  let ticked := tick r.auto (excluded host settled) settled.autoProtect
  { daemon := { settled with autoProtect := ticked.auto }
    world := updated.world
    fired := updated.fired
    sets := ticked.sets }

/-- `Poll`. -/
def poll (host : Host) (r : PollReadings) (d : DaemonState) (w : World) : Progress :=
  let (d, combined) := sense host r d
  match combined with
  | none => { daemon := d, world := w }
  | some c => respond host r c d w

end Poll

/-- Two holdings for one process, under configurations that may differ. -/
structure Like (h h' : Holding Rat) : Prop where
  batchProcessName : h'.batchProcessName = h.batchProcessName
  batchProcessId : h'.batchProcessId = h.batchProcessId
  processHandle : h'.processHandle = h.processHandle
  manualHold : h'.manualHold = h.manualHold

theorem Like.refl (h : Holding Rat) : Like h h := ⟨rfl, rfl, rfl, rfl⟩

/-- Whether a list of names protects a process. -/
def protects (host : Host) (names : List WString) (name : WString) (pid : DWORD) : Bool :=
  pid == host.currentProcessId || alwaysProtectedNames.any (namesEqualIgnoreCase host name) ||
    names.any (namesEqualIgnoreCase host name)

theorem isProtected_eq (host : Host) (manager : ActuatorManager Rat) (name : WString)
    (pid : DWORD) :
    manager.isProtected host name pid = protects host manager.protectedNames name pid := rfl

/-- Whether a machine is left when a configuration is applied. -/
def stays (host : Host) (cfg : DaemonConfig) (adhoc : List DWORD) (h : Holding Rat) : Bool :=
  !protects host cfg.protectedProcesses h.batchProcessName h.batchProcessId &&
    (contains host cfg.batchProcesses h.batchProcessName || decide (h.batchProcessId ∈ adhoc))

section Reload

theorem foldl_drop (os : DWORD → OsCalls) (pids : List DWORD) (a : Actuated) :
    (pids.foldl (Actuated.drop os) a).manager.holdings
        = (a.manager.holdings.filter fun h => !decide (h.batchProcessId ∈ pids)) ∧
      (pids.foldl (Actuated.drop os) a).manager.config = a.manager.config ∧
      (pids.foldl (Actuated.drop os) a).manager.protectedNames = a.manager.protectedNames := by
  induction pids generalizing a with
  | nil =>
      refine ⟨(List.filter_eq_self.mpr ?_).symm, rfl, rfl⟩
      intro h _
      simp only [List.not_mem_nil, decide_false, Bool.not_false]
  | cons pid pids ih =>
      rw [List.foldl_cons]
      have hone := holdings_drop (os pid) a.manager pid a.world
      rcases ih (a.drop os pid) with ⟨hholdings, hconfig, hnames⟩
      refine ⟨?_, hconfig, hnames⟩
      -- What is dropped first is missing from what is left for the rest.
      rw [hholdings]
      change (((a.manager.drop (os pid) pid a.world).manager.holdings).filter _) = _
      rw [hone, List.filter_filter]
      congr 1
      funext h
      simp only [List.mem_cons, Bool.decide_or, Bool.not_or]
      rw [Bool.and_comm]
      congr 1

/-- What is held for one process is one thing. -/
theorem holdings_inj (manager : ActuatorManager Rat) (h h' : Holding Rat)
    (hh : h ∈ manager.holdings) (hh' : h' ∈ manager.holdings)
    (heq : h.batchProcessId = h'.batchProcessId) : h = h' := by
  rcases List.mem_map.mp hh with ⟨m, hm, rfl⟩
  rcases List.mem_map.mp hh' with ⟨m', hm', rfl⟩
  rw [List.inj_on_of_nodup_map manager.distinct hm hm' heq]

/-- A process id is dropped if its own machine has no role any more. -/
theorem mem_droppedPids_iff (host : Host) (cfg : DaemonConfig) (adhoc : List DWORD)
    (manager : ActuatorManager Rat) (h : Holding Rat) (hh : h ∈ manager.holdings) :
    h.batchProcessId ∈ droppedPids host cfg adhoc manager ↔
      (!contains host cfg.batchProcesses h.batchProcessName &&
        !decide (h.batchProcessId ∈ adhoc)) = true := by
  constructor
  · intro hmem
    rcases List.mem_map.mp hmem with ⟨h', hh', hpid⟩
    rcases List.mem_filter.mp hh' with ⟨hheld, hdropped⟩
    rw [← holdings_inj manager h' h hheld hh hpid]
    exact hdropped
  · intro hdropped
    exact List.mem_map_of_mem (List.mem_filter.mpr ⟨hh, hdropped⟩)

/-- What is not dropped is a batch process or was managed on request. -/
theorem filter_droppedPids (host : Host) (cfg : DaemonConfig) (adhoc : List DWORD)
    (manager : ActuatorManager Rat) :
    manager.holdings.filter
        (fun h => !decide (h.batchProcessId ∈ droppedPids host cfg adhoc manager))
      = manager.holdings.filter fun h =>
          contains host cfg.batchProcesses h.batchProcessName ||
            decide (h.batchProcessId ∈ adhoc) := by
  refine List.filter_congr ?_
  intro h hh
  have hiff := mem_droppedPids_iff host cfg adhoc manager h hh
  -- The ids that are dropped are those of the machines that do not stay.
  by_cases hmem : h.batchProcessId ∈ droppedPids host cfg adhoc manager
  · have hgone := hiff.mp hmem
    simp only [Bool.and_eq_true, Bool.not_eq_true'] at hgone
    simp only [hmem, hgone, decide_true, Bool.not_true, Bool.or_false]
  · have hstays := mt hiff.mpr hmem
    rw [← Bool.not_or, Bool.not_eq_true', Bool.not_eq_false] at hstays
    simp only [hmem, hstays, decide_false, Bool.not_false]

/-- A configuration leaves what it does not protect and what is a batch process
    or was managed on request. -/
theorem reconfigure_spec (host : Host) (os : DWORD → OsCalls) (cfg : DaemonConfig)
    (effective : StateMachineConfig Rat) (adhoc : List DWORD) (manager : ActuatorManager Rat)
    (w : World) :
    (reconfigure host os cfg effective adhoc manager w).manager.holdings
        = (manager.holdings.map fun h => { h with config := effective }).filter
            (stays host cfg adhoc) ∧
      (reconfigure host os cfg effective adhoc manager w).manager.config = effective ∧
      (reconfigure host os cfg effective adhoc manager w).manager.protectedNames
        = cfg.protectedProcesses := by
  have hset := holdings_setProtectedProcessNames host os (manager.setConfig effective)
    cfg.protectedProcesses w
  rw [holdings_setConfig] at hset
  let r := (manager.setConfig effective).setProtectedProcessNames host os cfg.protectedProcesses w
  rcases foldl_drop os (droppedPids host cfg adhoc r.manager)
    { manager := r.manager, world := r.world, fired := r.fired } with ⟨hdrop, hconfig, hnames⟩
  refine ⟨hdrop.trans ?_, hconfig, hnames⟩
  change (r.manager.holdings.filter _) = _
  have hprotected : r.manager.holdings = _ := hset
  -- The list of names takes its part first, and the drops theirs.
  rw [filter_droppedPids host cfg adhoc r.manager, hprotected, List.filter_filter]
  congr 1
  funext h
  rw [Bool.and_comm]
  rfl

/-- A name is tracked from now on, or its instances come from before. -/
inductive Retracked (host : Host) (cfg : DaemonConfig) (critical : List (WString × TrackedProcess))
    (t : WString × TrackedProcess) : Prop
  | added (hname : t.1 ∈ cfg.criticalProcesses) (hsame : t.2.name = t.1)
      (hempty : t.2.instances = [])
  | kept (old : WString × TrackedProcess) (hold : old ∈ critical)
      (hcontains : contains host cfg.criticalProcesses old.1 = true) (hkey : t.1 = old.1)
      (hname : t.2.name = old.2.name) (hinstances : t.2.instances = old.2.instances)

theorem retrack_spec (host : Host) (cfg : DaemonConfig) (cores : Nat)
    (critical : List (WString × TrackedProcess)) :
    ∀ t ∈ retrack host cfg cores critical, Retracked host cfg critical t := by
  refine List.foldlRecOn (motive := fun m : List (WString × TrackedProcess) =>
    ∀ t ∈ m, Retracked host cfg critical t) cfg.criticalProcesses _ ?_ ?_
  · intro t ht
    rcases List.mem_map.mp ht with ⟨old, hmem, rfl⟩
    rcases List.mem_filter.mp hmem with ⟨hold, hcontains⟩
    exact Retracked.kept old hold hcontains rfl rfl rfl
  · -- A name that is tracked already is left; any other one gets a new tracker.
    intro m hm name hname t ht
    unfold track at ht
    split_ifs at ht with htracked
    · exact hm t ht
    · rcases mem_assign m _ _ t ht with rfl | ht
      · exact Retracked.added hname rfl rfl
      · exact hm t ht

end Reload

section Found

variable {host : Host} {snapshot : List ProcessEntry} {names : List WString}
  {manager : ActuatorManager Rat}

/-- What is picked up: a machine for a process of the snapshot under a batch
    name. -/
structure Found (host : Host) (snapshot : List ProcessEntry) (names : List WString)
    (manager : ActuatorManager Rat) (h : Holding Rat) : Prop where
  listed : ∃ e ∈ snapshot, e.pid = h.batchProcessId ∧
    namesEqualIgnoreCase host e.name h.batchProcessName = true
  batch : h.batchProcessName ∈ names
  allowed : protects host manager.protectedNames h.batchProcessName h.batchProcessId = false
  config : h.config = manager.config
  free : h.manualHold = false

/-- The configuration and the protection list are the same, and what is held
    was held before or is found. -/
structure Discovered (host : Host) (snapshot : List ProcessEntry) (names : List WString)
    (manager manager' : ActuatorManager Rat) : Prop where
  config : manager'.config = manager.config
  protectedNames : manager'.protectedNames = manager.protectedNames
  holdings : ∀ h ∈ manager'.holdings, h ∈ manager.holdings ∨ Found host snapshot names manager h

theorem mem_findByName (name : WString) (pid : DWORD) :
    pid ∈ findByName host snapshot name ↔
      ∃ e ∈ snapshot, namesEqualIgnoreCase host e.name name = true ∧ e.pid = pid := by
  simp only [findByName, List.mem_map, List.mem_filter, and_assoc]

theorem discovered_one (opened : DWORD → Bool) (name : WString) (hname : name ∈ names)
    (manager' : ActuatorManager Rat) (pid : DWORD) (hpid : pid ∈ findByName host snapshot name)
    (h : Discovered host snapshot names manager manager') :
    Discovered host snapshot names manager (discoverOne host opened name manager' pid) := by
  unfold discoverOne
  -- A process that is managed already is passed over.
  split_ifs with hfound
  · exact h
  · have hconfig := config_addBatchProcess host (opened pid) manager' name pid
    refine ⟨hconfig.1.trans h.config, hconfig.2.trans h.protectedNames, ?_⟩
    intro a ha
    rw [holdings_addBatchProcess] at ha
    split_ifs at ha with hadded
    · rcases List.mem_cons.mp ha with rfl | ha
      · -- This is the machine that is picked up.
        rcases (mem_findByName name pid).mp hpid with ⟨e, he, hsame, hid⟩
        have hallowed := hadded.1
        rw [isProtected_eq, h.protectedNames] at hallowed
        exact Or.inr ⟨⟨e, he, hid, hsame⟩, hname, hallowed, h.config, rfl⟩
      · exact h.holdings a ha
    · exact h.holdings a ha

/-- Discovery picks up what it finds under a batch name. -/
theorem discovered_discoverBatchProcesses (opened : DWORD → Bool) :
    Discovered host snapshot names manager
      (discoverBatchProcesses host opened snapshot names manager) := by
  have hstart : Discovered host snapshot names manager manager :=
    ⟨rfl, rfl, fun _ ha => Or.inl ha⟩
  refine List.foldlRecOn names _ hstart ?_
  intro manager' h name hname
  refine List.foldlRecOn (findByName host snapshot name) (discoverOne host opened name) h ?_
  intro manager'' h' pid hpid
  exact discovered_one opened name hname manager'' pid hpid h'

end Found

section Polls

variable (host : Host) (r : PollReadings) (d : DaemonState) (w : World)

/-- What a snapshot comes to after the identity filter. -/
def admitted : List ProcessEntry := (d.identity.filter host r.identity r.snapshot).passed

theorem mem_snapshot_of_admitted (e : ProcessEntry) (he : e ∈ admitted host r d) :
    e ∈ r.snapshot := passed_subset host r.identity d.identity r.snapshot e he

/-- The first half picks up batch processes and leaves the other machines. -/
theorem discovered_sense :
    Discovered host (admitted host r d) d.cfg.batchProcesses d.actuator
      (sense host r d).1.actuator :=
  discovered_discoverBatchProcesses r.opened

/-- The thresholds reach every machine. -/
theorem adapt_spec (externalBias pressure : Rat) :
    (∀ h' ∈ (adapt externalBias pressure d).actuator.holdings,
        ∃ h ∈ d.actuator.holdings, Like h h') ∧
      (adapt externalBias pressure d).actuator.protectedNames = d.actuator.protectedNames := by
  unfold adapt
  dsimp only
  split_ifs with hmoved
  · refine ⟨?_, rfl⟩
    intro h' hh'
    rw [holdings_setConfig] at hh'
    rcases List.mem_map.mp hh' with ⟨h, hh, rfl⟩
    exact ⟨h, hh, ⟨rfl, rfl, rfl, rfl⟩⟩
  · exact ⟨fun h' hh' => ⟨h', hh', Like.refl h'⟩, rfl⟩

/-- The second half picks nothing up, and it calls back only about what is not
    held by hand. -/
theorem respond_spec (c : Combined) :
    (∀ h' ∈ (respond host r c d w).daemon.actuator.holdings,
        ∃ h ∈ d.actuator.holdings, Like h h') ∧
      ∀ t ∈ (respond host r c d w).fired, ∃ h ∈ d.actuator.holdings,
        h.batchProcessId = t.batchProcessId ∧ h.manualHold = false := by
  let sampled : DaemonState :=
    { d with
      pressure := c.pressure.percent
      pressureSignal := c.pressure.signal
      criticalPid := c.pid }
  -- The new thresholds reach the machines before they are updated.
  have hadapt := (adapt_spec sampled r.externalBias c.pressure.percent).1
  let manager := (adapt r.externalBias c.pressure.percent sampled).actuator
  constructor
  · intro h' hh'
    exact hadapt h' ((holdings_updateAll r.os manager c.pressure.percent w).subset hh')
  · intro t ht
    rcases fired_updateAll r.os manager c.pressure.percent w t ht with ⟨h', hh', hpid, hfree⟩
    rcases hadapt h' hh' with ⟨h, hh, hlike⟩
    exact ⟨h, hh, hlike.batchProcessId.symm.trans hpid, hlike.manualHold.symm.trans hfree⟩

/-- A poll ends after its first half, which has then read nothing, or it responds
    to what was read. -/
theorem poll_cases :
    ((sense host r d).2 = none ∧
        poll host r d w = { daemon := (sense host r d).1, world := w }) ∨
      ∃ c, (sense host r d).2 = some c ∧
        poll host r d w = respond host r c (sense host r d).1 w := by
  unfold poll
  rcases sense host r d with ⟨d', combined⟩
  cases combined with
  | none => exact Or.inl ⟨rfl, rfl⟩
  | some c => exact Or.inr ⟨c, rfl, rfl⟩

/-- The critical processes are polled on what the filter admits, and the filter
    is the one after that call. -/
theorem critical_poll :
    (poll host r d w).daemon.critical
        = d.critical.map (fun t => (t.1, (t.2.poll r.measurements host (admitted host r d)).1)) ∧
      (poll host r d w).daemon.identity
        = (d.identity.filter host r.identity r.snapshot).filter := by
  have hsense : (sense host r d).1.critical
      = d.critical.map fun t => (t.1, (t.2.poll r.measurements host (admitted host r d)).1) :=
    List.map_map ..
  -- The second half of the poll leaves the trackers.
  rcases poll_cases host r d w with ⟨_, heq⟩ | ⟨c, _, heq⟩
  · rw [heq]
    exact ⟨hsense, rfl⟩
  · rw [heq, ← hsense]
    simp only [respond, adapt]
    split <;> exact ⟨rfl, rfl⟩

theorem protectedNames_poll :
    (poll host r d w).daemon.actuator.protectedNames = d.actuator.protectedNames := by
  have hsense := (discovered_sense host r d).protectedNames
  rcases poll_cases host r d w with ⟨_, heq⟩ | ⟨c, _, heq⟩
  · rw [heq]
    exact hsense
  · rw [heq]
    let sampled : DaemonState :=
      { (sense host r d).1 with
        pressure := c.pressure.percent
        pressureSignal := c.pressure.signal
        criticalPid := c.pid }
    exact (adapt_spec sampled r.externalBias c.pressure.percent).2.trans hsense

/-- After a poll, what is held was held before or was found, and a poll calls
    back only about such machines that are not held by hand. -/
theorem poll_spec :
    (∀ h' ∈ (poll host r d w).daemon.actuator.holdings, ∃ h, Like h h' ∧
        (h ∈ d.actuator.holdings ∨
          Found host (admitted host r d) d.cfg.batchProcesses d.actuator h)) ∧
      ∀ t ∈ (poll host r d w).fired, ∃ h : Holding Rat,
        h.batchProcessId = t.batchProcessId ∧ h.manualHold = false ∧
          (h ∈ d.actuator.holdings ∨
            Found host (admitted host r d) d.cfg.batchProcesses d.actuator h) := by
  have hsense := (discovered_sense host r d).holdings
  rcases poll_cases host r d w with ⟨_, heq⟩ | ⟨c, _, heq⟩
  · rw [heq]
    exact ⟨fun h' hh' => ⟨h', Like.refl h', hsense h' hh'⟩,
      fun t ht => absurd ht List.not_mem_nil⟩
  · -- The second half of the poll starts from what the first half has found.
    have hrespond := respond_spec host r (sense host r d).1 w c
    rw [heq]
    constructor
    · intro h' hh'
      rcases hrespond.1 h' hh' with ⟨h, hh, hlike⟩
      exact ⟨h, hlike, hsense h hh⟩
    · intro t ht
      rcases hrespond.2 t ht with ⟨h, hh, hpid, hfree⟩
      exact ⟨h, hpid, hfree, hsense h hh⟩

end Polls

end Service

end ThreadHaul
