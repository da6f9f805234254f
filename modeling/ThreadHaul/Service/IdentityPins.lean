import ThreadHaul.Service.CriticalProcesses

/-!
# Identity Pins Across Reloads

A name that is pinned should not give a role to anything but what it is pinned
to. Every snapshot goes through the filter before a process is picked up by it,
so no impostor gets a role while its pin is in force.

The filter does not look at what has been picked up before. A reload puts new
pins in force and leaves the instances of the critical names and the machines
as they are, and a process that started under the process id of a machine is
not looked at either. `Checked` excludes both, and what the filter itself lets
through because it looks the pins up by another name. `run_bound` says that
then the pins bind in every state, whatever pins a process was picked up under.

## Main definitions

* `Meets`: A process is what the pins of its name ask for.
* `Bound`: Every process with a role meets the pins.
* `Legible`: What a poll reads about a process is so.
* `Checked`: A step that gives or leaves no impostor a role.
* `Pinned`: What is kept from step to step.

## Theorems

* `meets_of_admitted`: What the filter admits meets the pins.
* `pinned_poll`, `pinned_applyConfig`: A poll and a reload.
* `run_bound`: Every run.
-/

namespace ThreadHaul

namespace Service

open Actuator Telemetry OrderedMap Config Runs

/-- The process is what every pin of its name asks for. -/
def Meets (host : Host) (pins : List (WString × ExpectedIdentity)) (i : Instance) : Prop :=
  ∀ p ∈ pins, sameName host i.name p.1 = true → Matches host p.2 (i.observe p.2)

section Bound

variable (os : Platform) (instances : DWORD → UInt64 → Instance)

/-- Every running process that is tracked, and every one that is managed as a
    batch process, meets the pins of the configuration. -/
structure Bound (s : System) : Prop where
  tracked : ∀ t ∈ s.daemon.critical, ∀ p ∈ keys t.2.instances, ∀ start,
    s.running p = some start → Meets os.host (toPins s.daemon.cfg) (instances p start)
  managed : ∀ h ∈ s.daemon.actuator.holdings,
    contains os.host s.daemon.cfg.batchProcesses h.batchProcessName = true →
      ∀ start, s.running h.batchProcessId = some start →
        Meets os.host (toPins s.daemon.cfg) (instances h.batchProcessId start)

/-- What a poll reads about the processes it lists is so, or it cannot open
    them. There are no commands. -/
def Legible (s : System) : Event → Prop
  | .poll r =>
      ∀ e ∈ r.snapshot, ∀ start, s.running e.pid = some start →
        (r.identity.startTime e.pid = 0 → r.identity.imagePath e.pid = []) ∧
          (r.identity.startTime e.pid ≠ 0 →
            r.identity.startTime e.pid = start ∧
              r.identity.imagePath e.pid = (instances e.pid start).path ∧
              r.identity.signer (r.identity.imagePath e.pid) = (instances e.pid start).signer)
  | .command _ _ => False
  | .reload _ _ _ | .elsewhere _ _ => True

/-- A poll has a role for the process, and can take it. -/
def System.Takes (s : System) (r : PollReadings) (e : ProcessEntry) : Prop :=
  (contains os.host s.daemon.cfg.criticalProcesses e.name = true ∧
      r.measurements.openProcessError e.pid = none) ∨
    ∃ name ∈ s.daemon.cfg.batchProcesses, namesEqualIgnoreCase os.host e.name name = true ∧
      protects os.host s.daemon.actuator.protectedNames name e.pid = false

/-- What a poll takes and a pin of its name objects to, the pin in force under
    its name with small ASCII letters objects to as well. A reload leaves a role
    to no process that its pins object to, and none starts under the process id
    of a machine. -/
def Checked (s : System) : Event → Prop
  | .poll r =>
      ∀ e ∈ r.snapshot, s.Takes os r e → ∀ start, s.running e.pid = some start →
        ¬ Meets os.host (toPins s.daemon.cfg) (instances e.pid start) →
          ∃ want, (inForce (toPins s.daemon.cfg)).lookup (lower e.name) = some want ∧
            ¬ Matches os.host want (r.identity.observe want e.pid)
  | .reload text writable _ =>
      ∀ cfg, parseConfig os text = .ok cfg → (writable && cfg.requireProtectedConfig) = false →
        (∀ t ∈ s.daemon.critical, contains os.host cfg.criticalProcesses t.1 = true →
          ∀ p ∈ keys t.2.instances, ∀ start, s.running p = some start →
            Meets os.host (toPins cfg) (instances p start)) ∧
        ∀ h ∈ s.daemon.actuator.holdings, stays os.host cfg s.daemon.adhoc h = true →
          contains os.host cfg.batchProcesses h.batchProcessName = true →
            ∀ start, s.running h.batchProcessId = some start →
              Meets os.host (toPins cfg) (instances h.batchProcessId start)
  | .command _ _ => True
  | .elsewhere _ running =>
      ∀ h ∈ s.daemon.actuator.holdings,
        contains os.host s.daemon.cfg.batchProcesses h.batchProcessName = true →
          ∀ start, running h.batchProcessId = some start →
            s.running h.batchProcessId ≠ some start →
              Meets os.host (toPins s.daemon.cfg) (instances h.batchProcessId start)

/-- The pins bind, the filter has the pins of the configuration and right
    verdicts, and what is tracked is tracked under a critical name. -/
structure Pinned (s : System) : Prop where
  bound : Bound os instances s
  accepted : Accepted os s.daemon.cfg
  expected : s.daemon.identity.expected = inForce (toPins s.daemon.cfg)
  right : Right os.host instances (inForce (toPins s.daemon.cfg)) s.daemon.identity.cache
  trackers : ∀ t ∈ s.daemon.critical, t.2.name = t.1 ∧
    contains os.host s.daemon.cfg.criticalProcesses t.1 = true

variable {os instances}

/-- The pins of an accepted configuration ask for something. -/
theorem asks_toPins (cfg : DaemonConfig) (h : Accepted os cfg) : Asks (toPins cfg) := by
  rcases h with ⟨text, hparse⟩
  have hpins := pins_ask text cfg hparse
  refine List.foldlRecOn (motive := Asks) cfg.identities _
    (fun p hp => absurd hp List.not_mem_nil) ?_
  intro m hm pin hpin q hq
  rcases mem_assign m _ _ q hq with rfl | hq
  · exact hpins pin hpin
  · exact hm q hq

/-- The readings of a poll are those of the processes that run. -/
theorem instances_of_lawful (s : System) (r : PollReadings) (hlaw : Lawful instances s (.poll r))
    (hlegible : Legible instances s (.poll r)) : Instances instances r.identity r.snapshot := by
  intro e he
  rcases hlaw.1 e he with ⟨start, hrunning, hname⟩
  rcases hlegible e he start hrunning with ⟨hunread, hread⟩
  refine ⟨hunread, ?_⟩
  intro hzero
  rcases hread hzero with ⟨hstart, hpath, hsigner⟩
  rw [hstart]
  exact ⟨hname.symm, hpath, hsigner⟩

/-- What a poll takes from the filter meets the pins. -/
theorem meets_of_admitted (s : System) (r : PollReadings) (hlaw : Lawful instances s (.poll r))
    (hlegible : Legible instances s (.poll r)) (hgood : Checked os instances s (.poll r))
    (h : Pinned os instances s) (e : ProcessEntry) (he : e ∈ admitted os.host r s.daemon)
    (htakes : s.Takes os r e) (start : UInt64) (hstart : s.running e.pid = some start) :
    Meets os.host (toPins s.daemon.cfg) (instances e.pid start) := by
  have hasks : Asks s.daemon.identity.expected := by
    rw [h.expected]
    exact asks_inForce _ (asks_toPins s.daemon.cfg h.accepted)
  have hfilter := (filter_right os.host instances s.daemon.identity hasks
    (by rw [h.expected]; exact h.right) r.identity r.snapshot
    (instances_of_lawful s r hlaw hlegible)).1
  rw [admitted, hfilter, List.mem_filter, h.expected, passes] at he
  by_contra hmeets
  -- The pin in force objects, and the filter has passed the process.
  rcases hgood e he.1 htakes start hstart hmeets with ⟨want, hwant, hno⟩
  rw [hwant] at he
  exact hno ((isEmpty_mismatch_iff want _).mp he.2)

/-- A poll tracks no impostor as critical. -/
theorem tracked_poll (s : System) (r : PollReadings) (hlaw : Lawful instances s (.poll r))
    (hlegible : Legible instances s (.poll r)) (hgood : Checked os instances s (.poll r))
    (h : Pinned os instances s) :
    ∀ t ∈ (step os s (.poll r)).daemon.critical, ∀ p ∈ keys t.2.instances, ∀ start,
      s.running p = some start → Meets os.host (toPins s.daemon.cfg) (instances p start) := by
  have hcritical : (step os s (.poll r)).daemon.critical = _ :=
    (critical_poll os.host r s.daemon s.world).1
  rw [hcritical]
  intro t ht p hp start hstart
  rcases List.mem_map.mp ht with ⟨old, hold, rfl⟩
  -- A tracked instance was tracked before, or was found by this poll.
  rcases (mem_poll os.host (admitted os.host r s.daemon) old.2 p).1.mp hp with hkept | hfound
  · exact h.bound.tracked old hold p hkept.1 start hstart
  · -- It was found under the name that is tracked.
    rcases (mem_findByName old.2.name p).mp hfound.1 with ⟨e, he, hsame, rfl⟩
    rcases h.trackers old hold with ⟨hname, hcontains⟩
    rcases (contains_iff _ _).mp hcontains with ⟨c, hc, hcsame⟩
    have hrole : contains os.host s.daemon.cfg.criticalProcesses e.name = true := by
      refine (contains_iff _ _).mpr ⟨c, hc, ?_⟩
      rw [namesEqual_iff] at hcsame hsame ⊢
      rw [hcsame, hsame, hname]
    exact meets_of_admitted s r hlaw hlegible hgood h e he (Or.inl ⟨hrole, hfound.2⟩) start hstart

/-- A poll adds no impostor to the actuator. -/
theorem managed_poll (s : System) (r : PollReadings) (hlaw : Lawful instances s (.poll r))
    (hlegible : Legible instances s (.poll r)) (hgood : Checked os instances s (.poll r))
    (h : Pinned os instances s) :
    ∀ a ∈ (step os s (.poll r)).daemon.actuator.holdings,
      contains os.host s.daemon.cfg.batchProcesses a.batchProcessName = true →
        ∀ start, s.running a.batchProcessId = some start →
          Meets os.host (toPins s.daemon.cfg) (instances a.batchProcessId start) := by
  intro h' hh' hbatch start hstart
  -- A machine was held before, or is for a process that passed the filter.
  rcases (poll_spec os.host r s.daemon s.world).1 h' hh' with ⟨a, hlike, hheld | hfound⟩
  · rw [hlike.batchProcessName] at hbatch
    rw [hlike.batchProcessId] at hstart ⊢
    exact h.bound.managed a hheld hbatch start hstart
  · rcases hfound.listed with ⟨e, he, hpid, hsame⟩
    rw [hlike.batchProcessId, ← hpid] at hstart ⊢
    refine meets_of_admitted s r hlaw hlegible hgood h e he
      (Or.inr ⟨a.batchProcessName, hfound.batch, hsame, ?_⟩) start hstart
    rw [hpid]
    exact hfound.allowed

/-- A poll gives no impostor a role, and it changes no pin. -/
theorem pinned_poll (s : System) (r : PollReadings) (hlaw : Lawful instances s (.poll r))
    (hlegible : Legible instances s (.poll r)) (hgood : Checked os instances s (.poll r))
    (h : Pinned os instances s) : Pinned os instances (step os s (.poll r)) := by
  have hcfg : (step os s (.poll r)).daemon.cfg = s.daemon.cfg :=
    cfg_poll os.host r s.daemon s.world
  have hpoll := critical_poll os.host r s.daemon s.world
  have hcritical : (step os s (.poll r)).daemon.critical = _ := hpoll.1
  have hidentity : (step os s (.poll r)).daemon.identity = _ := hpoll.2
  -- The filter keeps its pins, and its verdicts stay right.
  have hasks : Asks s.daemon.identity.expected := by
    rw [h.expected]
    exact asks_inForce _ (asks_toPins s.daemon.cfg h.accepted)
  have hfilter := filter_right os.host instances s.daemon.identity hasks
    (by rw [h.expected]; exact h.right) r.identity r.snapshot
    (instances_of_lawful s r hlaw hlegible)
  refine ⟨⟨?_, ?_⟩, accepted_step s (.poll r) h.accepted, ?_, ?_, ?_⟩
  · rw [hcfg]
    exact tracked_poll s r hlaw hlegible hgood h
  · rw [hcfg]
    exact managed_poll s r hlaw hlegible hgood h
  · rw [hidentity, hcfg, hfilter.2.1]
    exact h.expected
  · rw [hidentity, hcfg, ← h.expected]
    exact hfilter.2.2
  · -- No tracker is renamed.
    rw [hcritical, hcfg]
    intro t ht
    rcases List.mem_map.mp ht with ⟨old, hold, rfl⟩
    have hname := (mem_poll (r := r.measurements) os.host (admitted os.host r s.daemon) old.2 0).2
    exact ⟨hname.trans (h.trackers old hold).1, (h.trackers old hold).2⟩

/-- A configuration puts its own pins in force. They bind if what it leaves
    meets them. -/
theorem pinned_applyConfig (s : System) (cfg : DaemonConfig) (r : ReloadReadings)
    (hcfg : Accepted os cfg)
    (htrackers : ∀ t ∈ s.daemon.critical, t.2.name = t.1)
    (htracked : ∀ t ∈ s.daemon.critical, contains os.host cfg.criticalProcesses t.1 = true →
      ∀ p ∈ keys t.2.instances, ∀ start, s.running p = some start →
        Meets os.host (toPins cfg) (instances p start))
    (hmanaged : ∀ h ∈ s.daemon.actuator.holdings, stays os.host cfg s.daemon.adhoc h = true →
      contains os.host cfg.batchProcesses h.batchProcessName = true →
        ∀ start, s.running h.batchProcessId = some start →
          Meets os.host (toPins cfg) (instances h.batchProcessId start)) :
    Pinned os instances
      { s with
        daemon := (applyConfig os.host r cfg s.daemon s.world).daemon
        world := (applyConfig os.host r cfg s.daemon s.world).world } := by
  let effective := (s.daemon.adaptive.setSettings (toAdaptive cfg)).adjust
    (toStateMachineConfig cfg) (s.daemon.bias r.externalBias)
  have hholdings : (applyConfig os.host r cfg s.daemon s.world).daemon.actuator.holdings = _ :=
    (reconfigure_spec os.host r.os cfg effective s.daemon.adhoc s.daemon.actuator s.world).1
  have hretrack := retrack_spec os.host cfg s.daemon.cores s.daemon.critical
  refine ⟨⟨?_, ?_⟩, hcfg, rfl, (fun pid c hc => by cases hc), ?_⟩
  · intro t ht p hp start hstart
    cases hretrack t ht with
    | added hname hsame hempty =>
        -- A new tracker has found nothing yet.
        rw [hempty] at hp
        exact absurd hp List.not_mem_nil
    | kept old hold hcontains hkey hname hinstances =>
        rw [hinstances] at hp
        exact htracked old hold hcontains p hp start hstart
  · -- What stays in the actuator was there before.
    intro h' hh' hbatch start hstart
    change h' ∈ (applyConfig os.host r cfg s.daemon s.world).daemon.actuator.holdings at hh'
    rw [hholdings] at hh'
    rcases List.mem_filter.mp hh' with ⟨hmem, hstays⟩
    rcases List.mem_map.mp hmem with ⟨a, ha, rfl⟩
    exact hmanaged a ha hstays hbatch start hstart
  · intro t ht
    cases hretrack t ht with
    | added hname hsame hempty =>
        refine ⟨hsame, (contains_iff _ _).mpr ⟨t.1, hname, ?_⟩⟩
        rw [namesEqual_iff]
    | kept old hold hcontains hkey hname hinstances =>
        rw [hkey]
        exact ⟨hname.trans (htrackers old hold), hcontains⟩

/-- A step that checks what has a role keeps the pins binding. -/
theorem pinned_step (s : System) (i : Event)
    (hi : (Lawful instances s i ∧ Legible instances s i) ∧ Checked os instances s i)
    (h : Pinned os instances s) : Pinned os instances (step os s i) := by
  rcases hi with ⟨⟨hlaw, hlegible⟩, hgood⟩
  cases i with
  | poll r => exact pinned_poll s r hlaw hlegible hgood h
  | reload text writable r =>
      simp only [step, progress]
      rcases reload_cases text writable r s.daemon s.world with
        heq | ⟨cfg, hparse, haccepts, heq⟩
      · rw [heq]
        exact h
      · rw [heq]
        have hleft := hgood cfg hparse haccepts
        exact pinned_applyConfig s cfg r ⟨text, hparse⟩ (fun t ht => (h.trackers t ht).1)
          hleft.1 hleft.2
  | command line r => exact hlegible.elim
  | elsewhere world running =>
      refine ⟨⟨?_, ?_⟩, h.accepted, h.expected, h.right, h.trackers⟩
      · intro t ht p hp start hstart
        -- The process is held, so it is the one that ran before.
        have hold := hlaw p start (Or.inr (Or.inr ⟨t, ht, hp⟩)) hstart
        exact h.bound.tracked t ht p hp start hold
      · intro a ha hbatch start hstart
        by_cases hold : s.running a.batchProcessId = some start
        · exact h.bound.managed a ha hbatch start hold
        · exact hgood a ha hbatch start hstart hold

/-- In a run of polls and reloads from `Initialize` on, in which every step
    checks what has a role, the pins in force bind in every state. -/
theorem run_bound (cfg : { cfg : DaemonConfig // Accepted os cfg }) (r : ReloadReadings)
    (cores : Nat) (remoteStopEvent : Bool) (w : World) (running : DWORD → Option UInt64)
    (l : List Event)
    (hl : Along (step os) (fun s i => Lawful instances s i ∧ Legible instances s i)
      (start os cfg r cores remoteStopEvent w running) l)
    (hgood : Along (step os) (Checked os instances)
      (start os cfg r cores remoteStopEvent w running) l) :
    Throughout (step os) (Bound os instances)
      (start os cfg r cores remoteStopEvent w running) l := by
  -- Nothing has a role yet.
  have hstart : Pinned os instances (start os cfg r cores remoteStopEvent w running) :=
    pinned_applyConfig
      { daemon := { cores := cores, remoteStopEvent := remoteStopEvent }
        world := w
        running := running }
      cfg.1 r cfg.2 (fun t ht => absurd ht List.not_mem_nil)
      (fun t ht => absurd ht List.not_mem_nil) (fun h hh => absurd hh List.not_mem_nil)
  exact throughout_of_along (step os) _ (Pinned os instances) (Bound os instances)
    (fun s h => h.bound) pinned_step l _ (along_and (step os) _ _ _ l hl hgood) hstart

end Bound

section Repinned

/-- `a.exe` is a batch process, and then it is pinned to `C:\a.exe` as well. -/
def repinnedPlatform : Platform :=
  samplePlatform (sampleDocument [] ["a.exe"] [])
    (sampleDocument [] ["a.exe"] [("a.exe", "C:\\a.exe")])

/-- `a.exe` runs from one file. -/
def repinnedInstances (path : String) : DWORD → UInt64 → Instance :=
  fun _ _ => ⟨wide "a.exe", wide path, []⟩

/-- `a.exe` runs. -/
def repinnedSnapshot : List ProcessEntry := [⟨wide "a.exe", 4821⟩]

/-- The daemon after `Initialize`. -/
def repinnedStart : System :=
  start repinnedPlatform ⟨sampleConfig [] ["a.exe"] [], [], rfl⟩ (sampleReload []) 1 true
    sampleWorld (sampleRunning repinnedSnapshot)

/-- A poll, with the program at a path. -/
def repinnedPoll (path : String) : Event :=
  .poll (samplePoll repinnedSnapshot (fun _ => wide path) (sampleAuto 0 []) 0)

/-- The pin comes into force between two polls. -/
def repinnedRun (path : String) : List Event :=
  [repinnedPoll path, .reload [1] false (sampleReload repinnedSnapshot), repinnedPoll path]

theorem lawful_repinnedPoll (path : String) (s : System)
    (h : s.running = sampleRunning repinnedSnapshot) :
    Lawful (repinnedInstances path) s (repinnedPoll path) ∧
      Legible (repinnedInstances path) s (repinnedPoll path) := by
  refine ⟨⟨?_, fun _ e he => absurd he List.not_mem_nil⟩, ?_⟩
  · intro e he
    rw [List.mem_singleton.mp he, h]
    exact ⟨1, rfl, rfl⟩
  · -- The readings are those of the one instance, which could be opened.
    intro e he start hstart
    rw [List.mem_singleton.mp he, h] at hstart
    cases hstart
    refine ⟨fun hzero => ?_, fun _ => ⟨rfl, rfl, rfl⟩⟩
    change (1 : UInt64) = 0 at hzero
    exact absurd hzero (by decide)

theorem lawful_repinnedRun (path : String) :
    Along (step repinnedPlatform) (fun s i => Lawful (repinnedInstances path) s i ∧
      Legible (repinnedInstances path) s i) repinnedStart (repinnedRun path) := by
  refine ⟨lawful_repinnedPoll path _ rfl, ⟨?_, trivial⟩, lawful_repinnedPoll path _ rfl, trivial⟩
  intro p e he
  rw [List.mem_singleton.mp he]
  exact ⟨1, rfl, rfl⟩

/-- `a.exe` runs from `C:\a.exe` all the time. -/
theorem run_bound_repinned :
    Throughout (step repinnedPlatform) (Bound repinnedPlatform (repinnedInstances "C:\\a.exe"))
      repinnedStart (repinnedRun "C:\\a.exe") := by
  have hmeets : Meets repinnedPlatform.host
      (toPins (sampleConfig [] ["a.exe"] [("a.exe", "C:\\a.exe")]))
      ⟨wide "a.exe", wide "C:\\a.exe", []⟩ := by
    intro p hp _
    rw [List.mem_singleton.mp hp]
    decide
  have hparse : parseConfig repinnedPlatform [1]
      = .ok (sampleConfig [] ["a.exe"] [("a.exe", "C:\\a.exe")]) := rfl
  -- The reload pins the path that the process has.
  refine run_bound _ _ _ _ _ _ _ (lawful_repinnedRun _) ⟨?_, ?_, ?_, trivial⟩
  · intro e _ _ start _ hno
    exact absurd (fun p hp => absurd hp List.not_mem_nil) hno
  · intro cfg hcfg _
    rw [hparse] at hcfg
    cases hcfg
    exact ⟨fun _ _ _ _ _ _ _ => hmeets, fun _ _ _ _ _ _ => hmeets⟩
  · intro e _ _ start _ hno
    exact absurd hmeets hno

/-- `a.exe` runs from `D:\b.exe` all the time. After the last poll it is still
    managed. -/
theorem not_bound_repinned :
    Along (step repinnedPlatform) (fun s i => Lawful (repinnedInstances "D:\\b.exe") s i ∧
        Legible (repinnedInstances "D:\\b.exe") s i) repinnedStart (repinnedRun "D:\\b.exe") ∧
      ¬ Bound repinnedPlatform (repinnedInstances "D:\\b.exe")
        (run (step repinnedPlatform) repinnedStart (repinnedRun "D:\\b.exe")) := by
  refine ⟨lawful_repinnedRun _, ?_⟩
  intro h
  have hpins : toPins (run (step repinnedPlatform) repinnedStart
      (repinnedRun "D:\\b.exe")).daemon.cfg = [(wide "a.exe", ⟨wide "C:\\a.exe", []⟩)] := by
    decide +kernel
  -- The process is still managed under the name, and its path is another one.
  have hheld : (run (step repinnedPlatform) repinnedStart
      (repinnedRun "D:\\b.exe")).daemon.actuator.holdings.any (fun h =>
        decide (h.batchProcessName = wide "a.exe" ∧ h.batchProcessId = 4821)) = true := by
    decide +kernel
  rcases List.any_eq_true.mp hheld with ⟨a, ha, hwhat⟩
  rcases of_decide_eq_true hwhat with ⟨hname, hpid⟩
  have hbatch : contains repinnedPlatform.host (run (step repinnedPlatform) repinnedStart
      (repinnedRun "D:\\b.exe")).daemon.cfg.batchProcesses (wide "a.exe") = true := by
    decide +kernel
  have hmeets := h.managed a ha (by rw [hname]; exact hbatch) 1 (by rw [hpid]; rfl)
  rw [hpins, hpid] at hmeets
  exact absurd (hmeets _ (List.mem_singleton_self _) (by decide)) (by decide)

end Repinned

end Service

end ThreadHaul
