import ThreadHaul.Service.System

/-!
# Critical Processes Are Not Managed

A command refuses to touch a critical process, and a process of a batch name is
not critical, since no accepted configuration has a name in both lists. So a
critical process gets no machine. But a process that has a machine can become
critical: a reload may name it, and it keeps its machine if it was managed on
request; and a process may start under the process id of a machine that could
not open its own process.

`Considerate` excludes these two, and `run_spared_iff` says that nothing else
goes wrong.

## Main definitions

* `Spared`: No critical process has a machine.
* `Considerate`: A step that gives no critical process a machine.
* `Sparing`: What is kept from target to target of a command.

## Theorems

* `spared_iff`: The same of what is held.
* `spared_poll`, `spared_command`: Polls and commands spare critical processes.
* `spared_applyConfig_iff`: A reload spares them if it drops the machines of the
  processes that it makes critical.
* `run_spared_iff`: Every run.
-/

namespace ThreadHaul

namespace Service

open Actuator Telemetry Config Runs

section Names

variable {host : Host}

theorem namesEqual_iff (a b : WString) :
    namesEqualIgnoreCase host a b = true ↔
      (cStr a).map host.upcase = (cStr b).map host.upcase := beq_iff_eq

theorem namesEqual_trans {a b c : WString} (hab : namesEqualIgnoreCase host a b = true)
    (hbc : namesEqualIgnoreCase host b c = true) : namesEqualIgnoreCase host a c = true := by
  rw [namesEqual_iff] at hab hbc ⊢
  exact hab.trans hbc

theorem contains_iff (names : List WString) (name : WString) :
    contains host names name = true ↔
      ∃ n ∈ names, namesEqualIgnoreCase host n name = true := List.any_eq_true

end Names

section Spared

variable (os : Platform) (instances : DWORD → UInt64 → Instance)

/-- No running process with a critical name has a machine. -/
def Spared (s : System) : Prop :=
  ∀ p start, s.running p = some start →
    contains os.host s.daemon.cfg.criticalProcesses (instances p start).name = true →
      s.daemon.actuator.find p = none

/-- A reload drops the machine of every process that it makes critical, and no
    critical process starts under the process id of a machine. -/
def Considerate (s : System) : Event → Prop
  | .poll _ | .command _ _ => True
  | .reload text writable _ =>
      ∀ cfg, parseConfig os text = .ok cfg → (writable && cfg.requireProtectedConfig) = false →
        ∀ h ∈ s.daemon.actuator.holdings, ∀ start, s.running h.batchProcessId = some start →
          contains os.host cfg.criticalProcesses (instances h.batchProcessId start).name = true →
            stays os.host cfg s.daemon.adhoc h = false
  | .elsewhere _ running =>
      ∀ h ∈ s.daemon.actuator.holdings, ∀ start, running h.batchProcessId = some start →
        s.running h.batchProcessId ≠ some start →
          contains os.host s.daemon.cfg.criticalProcesses
            (instances h.batchProcessId start).name = false

/-- The critical names are those of `s`, and no critical process has a machine. -/
structure Sparing (s : System) (d : Daemon) : Prop where
  criticalProcesses : d.criticalProcesses = s.daemon.cfg.criticalProcesses
  holdings : ∀ a ∈ d.actuator.holdings, ∀ start, s.running a.batchProcessId = some start →
    contains os.host s.daemon.cfg.criticalProcesses (instances a.batchProcessId start).name = false

variable {os instances}

/-- What is held is held for processes that are not critical. -/
theorem spared_iff (s : System) :
    Spared os instances s ↔
      ∀ h ∈ s.daemon.actuator.holdings, ∀ start, s.running h.batchProcessId = some start →
        contains os.host s.daemon.cfg.criticalProcesses
          (instances h.batchProcessId start).name = false := by
  -- A machine is found by its id, and the holdings list all machines.
  constructor
  · intro hspared h hh start hstart
    by_contra hcritical
    have hnone := hspared h.batchProcessId start hstart (Bool.eq_true_of_not_eq_false hcritical)
    exact (find_eq_none_iff s.daemon.actuator _).mp hnone h hh rfl
  · intro hheld p start hstart hcritical
    rw [find_eq_none_iff]
    rintro h hh rfl
    exact Bool.false_ne_true ((hheld h hh start hstart).symm.trans hcritical)

/-- A name in the batch list is not in the critical list. -/
theorem not_critical_of_batch (cfg : DaemonConfig) (hcfg : Accepted os cfg) (name b : WString)
    (hb : b ∈ cfg.batchProcesses) (hname : namesEqualIgnoreCase os.host name b = true) :
    contains os.host cfg.criticalProcesses name = false := by
  rcases hcfg with ⟨text, hparse⟩
  by_contra hcritical
  rcases (contains_iff _ _).mp (Bool.eq_true_of_not_eq_false hcritical) with ⟨c, hc, hsame⟩
  have hdisjoint := disjoint_names text cfg hparse c hc b hb
  exact Bool.false_ne_true (hdisjoint.symm.trans (namesEqual_trans hsame hname))

/-- What a poll picks up runs under a batch name. -/
theorem spared_poll (s : System) (r : PollReadings) (hcfg : Accepted os s.daemon.cfg)
    (hlaw : Lawful instances s (.poll r)) (h : Spared os instances s) :
    Spared os instances (step os s (.poll r)) := by
  rw [spared_iff] at h ⊢
  intro h' hh' start hstart
  change h' ∈ (poll os.host r s.daemon s.world).daemon.actuator.holdings at hh'
  change s.running h'.batchProcessId = some start at hstart
  change contains os.host (poll os.host r s.daemon s.world).daemon.cfg.criticalProcesses _ = false
  rw [cfg_poll]
  -- What is held after the poll was held before or was found by it.
  rcases (poll_spec os.host r s.daemon s.world).1 h' hh' with ⟨a, hlike, hheld | hfound⟩
  · rw [hlike.batchProcessId] at hstart ⊢
    exact h a hheld start hstart
  · -- The entry it was found by shows the name of the process that runs.
    rcases hfound.listed with ⟨e, he, hpid, hsame⟩
    rcases hlaw.1 e (mem_snapshot_of_admitted os.host r s.daemon e he) with
      ⟨start', hrunning, hname⟩
    rw [hlike.batchProcessId, ← hpid, hrunning] at hstart
    cases hstart
    rw [hlike.batchProcessId, ← hpid, hname]
    exact not_critical_of_batch s.daemon.cfg hcfg e.name _ hfound.batch hsame

/-- A critical target is refused. -/
theorem sparing_act (s : System) (line : Bytes) (r : CommandReadings)
    (hlaw : Lawful instances s (.command line r)) (e : ProcessEntry) (he : e ∈ r.snapshot)
    (verb : Manage) (d : Daemon) (w : World) (h : Sparing os instances s d) :
    Sparing os instances s (act (r.env os.host) e d w verb).1.daemon := by
  rcases acted_act (r.env os.host) e d w verb with ⟨hacted, hframed⟩
  refine ⟨hframed.criticalProcesses.trans h.criticalProcesses, ?_⟩
  intro a ha start hstart
  cases hacted a ha with
  | kept _ hh => exact h.holdings a hh start hstart
  | held b hh hpid hcritical => exact h.holdings b hh start hstart
  | freed m hm hcritical hverb hkeeps =>
      exact h.holdings m.holding (holding_mem_of_find d.actuator e.pid m hm).1 start hstart
  | added hcritical hverb hfree hallowed =>
      -- The new machine is for a process whose name was looked up.
      rcases hlaw e he with ⟨start', hrunning, hname⟩
      change s.running e.pid = some start at hstart
      rw [hrunning] at hstart
      cases hstart
      change contains os.host s.daemon.cfg.criticalProcesses (instances e.pid start).name = false
      rw [hname, ← h.criticalProcesses]
      exact hcritical

/-- A command refuses a critical process. -/
theorem spared_command (s : System) (line : Bytes) (r : CommandReadings)
    (hlaw : Lawful instances s (.command line r)) (h : Spared os instances s) :
    Spared os instances (step os s (.command line r)) := by
  rw [spared_iff] at h ⊢
  -- Each target keeps the invariant, so the command does.
  have heffect := @commandEffect_invariant (r.env os.host) (Sparing os instances s) line
    (fun verb _ _ e _ he d w => sparing_act s line r hlaw e he verb d w)
    (s.daemon.seen r.connected) s.world ⟨rfl, h⟩
  have hmachines := (command_eq os.host line r s.daemon s.world).1
  intro a ha start hstart
  change a ∈ (command os.host line r s.daemon s.world).daemon.actuator.holdings at ha
  change contains os.host (command os.host line r s.daemon s.world).daemon.cfg.criticalProcesses _
    = false
  rw [cfg_command]
  rw [hmachines] at ha
  exact heffect.holdings a ha start hstart

/-- A reload spares critical processes if it drops the machines of those it
    makes critical. -/
theorem spared_applyConfig_iff (s : System) (cfg : DaemonConfig) (r : ReloadReadings) :
    Spared os instances
        { s with daemon := (applyConfig os.host r cfg s.daemon s.world).daemon } ↔
      ∀ h ∈ s.daemon.actuator.holdings, ∀ start, s.running h.batchProcessId = some start →
        contains os.host cfg.criticalProcesses (instances h.batchProcessId start).name = true →
          stays os.host cfg s.daemon.adhoc h = false := by
  rw [spared_iff]
  let effective := (s.daemon.adaptive.setSettings (toAdaptive cfg)).adjust
    (toStateMachineConfig cfg) (s.daemon.bias r.externalBias)
  have hholdings : (applyConfig os.host r cfg s.daemon s.world).daemon.actuator.holdings = _ :=
    (reconfigure_spec os.host r.os cfg effective s.daemon.adhoc s.daemon.actuator s.world).1
  constructor
  · intro h a ha start hstart hcritical
    by_contra hstays
    -- The machine is left, and its process is critical now.
    have hleft : ({ a with config := effective } : Holding Rat) ∈
        (applyConfig os.host r cfg s.daemon s.world).daemon.actuator.holdings := by
      rw [hholdings]
      exact List.mem_filter.mpr ⟨List.mem_map_of_mem ha, Bool.eq_true_of_not_eq_false hstays⟩
    have hspared := h _ hleft start hstart
    exact Bool.false_ne_true (hspared.symm.trans hcritical)
  · intro h a' ha' start hstart
    change a' ∈ (applyConfig os.host r cfg s.daemon s.world).daemon.actuator.holdings at ha'
    rw [hholdings] at ha'
    rcases List.mem_filter.mp ha' with ⟨hmem, hstays⟩
    rcases List.mem_map.mp hmem with ⟨a, ha, rfl⟩
    by_contra hcritical
    have hdropped := h a ha start hstart (Bool.eq_true_of_not_eq_false hcritical)
    exact Bool.false_ne_true (hdropped.symm.trans hstays)

/-- A good step spares critical processes, and the configuration is accepted. -/
theorem spared_step (s : System) (i : Event) (hlaw : Lawful instances s i)
    (hgood : Considerate os instances s i)
    (h : Spared os instances s ∧ Accepted os s.daemon.cfg) :
    Spared os instances (step os s i) ∧ Accepted os (step os s i).daemon.cfg := by
  refine ⟨?_, accepted_step s i h.2⟩
  cases i with
  | poll r => exact spared_poll s r h.2 hlaw h.1
  | reload text writable r =>
      simp only [step, progress]
      rcases reload_cases text writable r s.daemon s.world with
        heq | ⟨cfg, hparse, haccepts, heq⟩
      · rw [heq]
        exact h.1
      · rw [heq]
        exact (spared_applyConfig_iff s cfg r).mpr (hgood cfg hparse haccepts)
  | command line r => exact spared_command s line r hlaw h.1
  | elsewhere world running =>
      have hbefore := (spared_iff s).mp h.1
      refine (@spared_iff os instances _).mpr ?_
      intro a ha start hstart
      -- The process was there before, or it has just started.
      by_cases hold : s.running a.batchProcessId = some start
      · exact hbefore a ha start hold
      · exact hgood a ha start hstart hold

/-- Any other step gives a critical process a machine. -/
theorem not_spared_step (s : System) (i : Event) (hbad : ¬ Considerate os instances s i) :
    ¬ Spared os instances (step os s i) := by
  intro hspared
  -- A poll and a command are always considerate, so only two events are left.
  refine hbad ?_
  cases i with
  | poll r => trivial
  | command line r => trivial
  | reload text writable r =>
      intro cfg hparse haccepts
      refine (@spared_applyConfig_iff os instances s cfg r).mp ?_
      simp only [step, progress, reload_of_accepts text writable r _ _ cfg hparse haccepts]
        at hspared
      exact hspared
  | elsewhere world running =>
      intro a ha start hstart _
      exact (spared_iff (step os s (.elsewhere world running))).mp hspared a ha start hstart

/-- In a run from `Initialize` on, no critical process ever has a machine exactly
    if every step is considerate. -/
theorem run_spared_iff (cfg : { cfg : DaemonConfig // Accepted os cfg }) (r : ReloadReadings)
    (cores : Nat) (remoteStopEvent : Bool) (w : World) (running : DWORD → Option UInt64)
    (l : List Event)
    (hl : Along (step os) (Lawful instances) (start os cfg r cores remoteStopEvent w running) l) :
    Throughout (step os) (Spared os instances) (start os cfg r cores remoteStopEvent w running) l ↔
      Along (step os) (Considerate os instances)
        (start os cfg r cores remoteStopEvent w running) l := by
  refine throughout_iff_along_of (step os) (Lawful instances) (Considerate os instances)
    (fun s => Spared os instances s ∧ Accepted os s.daemon.cfg) (Spared os instances)
    (fun s h => h.1) spared_step (fun s i _ _ => not_spared_step s i) l _ hl ⟨?_, cfg.2⟩
  -- There are no machines yet.
  intro p start hstart hcritical
  rw [find_eq_none_iff]
  intro h hh
  rw [holdings_start] at hh
  exact absurd hh List.not_mem_nil

end Spared

section Named

/-- Nothing is configured, then `a.exe` is critical. -/
def namedPlatform : Platform :=
  samplePlatform (sampleDocument [] [] []) (sampleDocument ["a.exe"] [] [])

/-- `a.exe` runs. -/
def namedInstances : DWORD → UInt64 → Instance := fun _ _ => ⟨wide "a.exe", wide "C:\\a.exe", []⟩

/-- `a.exe` runs. -/
def namedSnapshot : List ProcessEntry := [⟨wide "a.exe", 4821⟩]

/-- The daemon after `Initialize`. -/
def namedStart : System :=
  start namedPlatform ⟨sampleConfig [] [] [], [], rfl⟩ (sampleReload []) 1 true sampleWorld
    (sampleRunning namedSnapshot)

/-- `a.exe` is throttled on request. -/
def namedThrottle : Event := .command (ascii "throttle a.exe") (sampleCommand namedSnapshot)

theorem lists_named (s : System) (h : s.running = sampleRunning namedSnapshot) :
    s.Lists namedInstances namedSnapshot := by
  intro e he
  rw [List.mem_singleton.mp he, h]
  exact ⟨1, rfl, rfl⟩

/-- `a.exe` is throttled on request, and the file is read again. -/
theorem run_spared_iff_unnamed :
    Throughout (step namedPlatform) (Spared namedPlatform namedInstances) namedStart
        [namedThrottle, .reload [] false (sampleReload namedSnapshot)] ↔
      Along (step namedPlatform) (Considerate namedPlatform namedInstances) namedStart
        [namedThrottle, .reload [] false (sampleReload namedSnapshot)] :=
  run_spared_iff _ _ _ _ _ _ _ ⟨lists_named _ rfl, fun _ => lists_named _ rfl, trivial⟩

/-- `a.exe` is throttled on request and then made critical. -/
theorem not_spared_named :
    Along (step namedPlatform) (Lawful namedInstances) namedStart
        [namedThrottle, .reload [1] false (sampleReload namedSnapshot)] ∧
      ¬ Throughout (step namedPlatform) (Spared namedPlatform namedInstances) namedStart
        [namedThrottle, .reload [1] false (sampleReload namedSnapshot)] := by
  refine ⟨⟨lists_named _ rfl, fun _ => lists_named _ rfl, trivial⟩, ?_⟩
  intro h
  have hnone := throughout_final _ _ _ _ h 4821 1 rfl rfl
  have hsome : ((run (step namedPlatform) namedStart
      [namedThrottle, .reload [1] false (sampleReload namedSnapshot)]).daemon.actuator.find
        4821).isSome = true := rfl
  rw [hnone] at hsome
  cases hsome

end Named

end Service

end ThreadHaul
