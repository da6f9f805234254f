import ThreadHaul.Service.System

/-!
# Auto-Protect and the Critical Processes

Auto-protect looks at the whole machine and not at the critical processes, so
two daemons that find the same load and the same process table should protect
the machine alike, whatever their critical processes do.

The tick of `AutoProtector` is at the end of a poll, though, and a poll ends
early if critical processes were measured and for none of them there is a
measurement to compare with. `Blind` says that of a poll. Two daemons without
batch processes stay alike while they are blind at the same polls, which is
`Together`; a critical process that was just restarted makes one of them blind.

## Main definitions

* `bothPoll`: Two daemons that poll at the same times.
* `Blind`: Nothing critical can be compared with the poll before.
* `SameProtection`: Level and lowered processes are the same.
* `Alike`, `Together`: Two daemons that auto-protect treats alike.

## Theorems

* `sense_eq_none_iff`: A poll ends early if it is blind.
* `autoProtect_poll`: What a poll does to `AutoProtector`.
* `alike_bothPoll`: Two polls that are both blind or both not.
* `sameProtection_of_together`: Over runs.
-/

namespace ThreadHaul

namespace Service

open Actuator Telemetry OrderedMap Config Runs

/-- One poll. -/
def pollStep (host : Host) (s : DaemonState × World) (r : PollReadings) : DaemonState × World :=
  ((poll host r s.1 s.2).daemon, (poll host r s.1 s.2).world)

/-- Two daemons, each with a system of its own. -/
abbrev Pair := (DaemonState × World) × (DaemonState × World)

/-- Both daemons poll. -/
def bothPoll (host : Host) (s : Pair) (r : PollReadings × PollReadings) : Pair :=
  (pollStep host s.1 r.1, pollStep host s.2 r.2)

/-- The instances of critical processes that a poll goes to measure. -/
def heldInstances (host : Host) (r : PollReadings) (d : DaemonState) :
    List (DWORD × TrackedInstance) :=
  d.critical.flatMap fun t =>
    (acquire r.measurements host (admitted host r d)
      (dropExited r.measurements t.2)).tracked.instances

/-- Critical processes can be measured, but none of them was measured before at
    an earlier time. -/
def Blind (host : Host) (r : PollReadings) (d : DaemonState) : Prop :=
  (∃ i ∈ heldInstances host r d, (r.measurements.cpuTicks i.1).isSome = true) ∧
    ∀ i ∈ heldInstances host r d, (r.measurements.cpuTicks i.1).isSome = true →
      ¬ (i.2.primed = true ∧ i.2.lastWallTicks < r.measurements.wallTicks i.1)

/-- Whether a poll sees nothing can be decided. -/
instance (host : Host) (r : PollReadings) (d : DaemonState) : Decidable (Blind host r d) :=
  inferInstanceAs (Decidable (_ ∧ _))

/-- Auto-protect is at the same level and has lowered the same processes. -/
def SameProtection (s : Pair) : Prop :=
  s.2.1.autoProtect.state.level = s.1.1.autoProtect.state.level ∧
    s.2.1.autoProtect.throttled = s.1.1.autoProtect.throttled

/-- The settings and the state of auto-protect are the same, and there are no
    batch processes. -/
structure Alike (s : Pair) : Prop where
  cfg : s.2.1.cfg = s.1.1.cfg
  batch : s.1.1.cfg.batchProcesses = []
  first : s.1.1.actuator.holdings = []
  second : s.2.1.actuator.holdings = []
  autoProtect : s.2.1.autoProtect = s.1.1.autoProtect

/-- While auto-protect is on, both daemons are blind or none of them is. -/
def Together (host : Host) (s : Pair) (r : PollReadings × PollReadings) : Prop :=
  s.1.1.autoProtect.settings.enabled = true →
    (Blind host r.1 s.1.1 ↔ Blind host r.2 s.2.1)

section Blind

variable (host : Host) (r : PollReadings) (d : DaemonState)

/-- An instance is measured if its times can be read, and the sample is valid
    if there is an earlier one. -/
theorem sampleInstance_cases (m : Measurements) (t : TrackedProcess) (pid : DWORD)
    (i : TrackedInstance) :
    ((m.cpuTicks pid).isSome = false ∧ sampleInstance m t pid i = none) ∨
      ((m.cpuTicks pid).isSome = true ∧ ∃ s, sampleInstance m t pid i = some s ∧
        s.2.valid = (i.primed && decide (i.lastWallTicks < m.wallTicks pid))) := by
  unfold sampleInstance
  rcases m.cpuTicks pid with _ | cpu
  · exact Or.inl ⟨rfl, rfl⟩
  · exact Or.inr ⟨rfl, _, rfl, rfl⟩

/-- The samples of a poll, and whether they are valid. -/
theorem mem_lastSamples (valid : Bool) :
    (∃ s ∈ (sense host r d).1.lastSamples, s.valid = valid) ↔
      ∃ i ∈ heldInstances host r d, (r.measurements.cpuTicks i.1).isSome = true ∧
        (i.2.primed && decide (i.2.lastWallTicks < r.measurements.wallTicks i.1)) = valid := by
  have hsamples : (sense host r d).1.lastSamples
      = d.critical.flatMap fun t => (t.2.poll r.measurements host (admitted host r d)).2.1 := by
    simp only [sense, List.flatMap_map]
    rfl
  rw [hsamples]
  simp only [heldInstances, List.mem_flatMap]
  -- The instances are those that `poll` has left and found before it samples them.
  constructor
  · rintro ⟨s, ⟨t, ht, hs⟩, hvalid⟩
    simp only [TrackedProcess.poll, sampleAll, List.mem_filterMap, List.mem_map] at hs
    rcases hs with ⟨_, ⟨i, hi, rfl⟩, hs⟩
    rcases sampleInstance_cases r.measurements _ i.1 i.2 with ⟨_, hnone⟩ | ⟨hsome, s', hs', hv⟩
    · rw [hnone] at hs
      cases hs
    · rw [hs'] at hs
      cases hs
      exact ⟨i, ⟨t, ht, hi⟩, hsome, hv.symm.trans hvalid⟩
  · rintro ⟨i, ⟨t, ht, hi⟩, hsome, hvalid⟩
    rcases sampleInstance_cases r.measurements
      (acquire r.measurements host (admitted host r d) (dropExited r.measurements t.2)).tracked
      i.1 i.2 with ⟨hnone, _⟩ | ⟨_, s', hs', hv⟩
    · rw [hnone] at hsome
      cases hsome
    · refine ⟨s'.2, ⟨t, ht, ?_⟩, hv.trans hvalid⟩
      simp only [TrackedProcess.poll, sampleAll, List.mem_filterMap, List.mem_map]
      exact ⟨_, ⟨i, hi, rfl⟩, by rw [hs']; rfl⟩

/-- There is a valid sample if there was one or one is added. -/
theorem anyValid_foldl (cfg : DaemonConfig) (memLoad : Rat)
    (samples : List Telemetry.ProcessSample) (c : Combined) :
    (samples.foldl (Combined.add cfg memLoad) c).anyValid = true ↔
      c.anyValid = true ∨ ∃ s ∈ samples, s.valid = true := by
  induction samples generalizing c with
  | nil => simp
  | cons s samples ih =>
      rw [List.foldl_cons, ih]
      -- One valid sample sets the flag, and an invalid one changes nothing.
      by_cases hvalid : s.valid = true
      · have hadded : (c.add cfg memLoad s).anyValid = true := by
          simp only [Combined.add, hvalid, Bool.not_true, Bool.false_eq_true, if_false]
          split_ifs <;> rfl
        simp [hadded, hvalid]
      · have hsame : c.add cfg memLoad s = c := by simp [Combined.add, hvalid]
        simp [hsame, hvalid]

/-- A poll ends after its first half exactly if it is blind. -/
theorem sense_eq_none_iff : (sense host r d).2 = none ↔ Blind host r d := by
  let samples := (sense host r d).1.lastSamples
  let combined := samples.foldl
    (Combined.add d.cfg (if d.cfg.memoryTriggerEnabled then r.memoryLoad else 0)) {}
  have hsense : (sense host r d).2
      = if (!samples.isEmpty && !combined.anyValid) = true then none else some combined := rfl
  have hany : combined.anyValid = true ↔ ∃ s ∈ samples, s.valid = true := by
    rw [anyValid_foldl]
    simp
  have hskip : (sense host r d).2 = none ↔
      (∃ s ∈ samples, s.valid = false) ∧ ¬ ∃ s ∈ samples, s.valid = true := by
    rw [hsense, ← hany]
    split_ifs with hends
    · simp only [Bool.and_eq_true, Bool.not_eq_true', List.isEmpty_eq_false_iff] at hends
      refine iff_of_true rfl ⟨?_, by simp [hends.2]⟩
      -- There is a sample, and it is not valid.
      rcases List.exists_mem_of_ne_nil samples hends.1 with ⟨s, hs⟩
      refine ⟨s, hs, Bool.eq_false_iff.mpr fun hvalid => ?_⟩
      rw [hany.mpr ⟨s, hs, hvalid⟩] at hends
      exact absurd hends.2 (by decide)
    · refine iff_of_false (by simp) ?_
      rintro ⟨⟨s, hs, _⟩, hnone⟩
      refine hends ?_
      simp only [Bool.and_eq_true, Bool.not_eq_true', List.isEmpty_eq_false_iff]
      exact ⟨List.ne_nil_of_mem hs, Bool.eq_false_iff.mpr hnone⟩
  rw [hskip, mem_lastSamples, mem_lastSamples]
  constructor
  · rintro ⟨⟨i, hi, hsome, _⟩, hnone⟩
    refine ⟨⟨i, hi, hsome⟩, fun i hi hsome hknown => hnone ⟨i, hi, hsome, ?_⟩⟩
    simp [hknown]
  · rintro ⟨⟨i, hi, hsome⟩, hnone⟩
    refine ⟨⟨i, hi, hsome, ?_⟩, ?_⟩
    · have hnot := hnone i hi hsome
      rw [← Bool.not_eq_true, Bool.and_eq_true, decide_eq_true_eq]
      exact hnot
    · rintro ⟨i, hi, hsome, hknown⟩
      rw [Bool.and_eq_true, decide_eq_true_eq] at hknown
      exact hnone i hi hsome hknown

end Blind

section Polls

variable (host : Host) (r : PollReadings) (d : DaemonState) (w : World)

/-- Without batch names and machines, a poll finds none. -/
theorem holdings_poll_nil (hbatch : d.cfg.batchProcesses = []) (hnone : d.actuator.holdings = []) :
    (poll host r d w).daemon.actuator.holdings = [] := by
  refine List.eq_nil_iff_forall_not_mem.mpr fun h' hh' => ?_
  rcases (poll_spec host r d w).1 h' hh' with ⟨h, _, hold | hfound⟩
  · rw [hnone] at hold
    exact absurd hold List.not_mem_nil
  · have hname := hfound.batch
    rw [hbatch] at hname
    exact absurd hname List.not_mem_nil

/-- The tick at the end of a poll leaves alone what has a role or a machine. -/
theorem autoProtect_respond (c : Combined) :
    (respond host r c d w).daemon.autoProtect
      = (tick r.auto (excluded host (respond host r c d w).daemon) d.autoProtect).auto := by
  have hadapt : ∀ d' : DaemonState,
      (adapt r.externalBias c.pressure.percent d').autoProtect = d'.autoProtect := by
    intro d'
    simp only [adapt]
    split <;> rfl
  simp only [respond]
  rw [hadapt]
  rfl

/-- What a poll does to `AutoProtector`: nothing if it is blind, and a tick
    otherwise. -/
theorem autoProtect_poll (hbatch : d.cfg.batchProcesses = [])
    (hnone : d.actuator.holdings = []) :
    (poll host r d w).daemon.autoProtect
      = if Blind host r d then d.autoProtect
        else (tick r.auto (fun name _ => isConfigured host d.cfg name) d.autoProtect).auto := by
  have hcfg := cfg_poll host r d w
  have hempty := holdings_poll_nil host r d w hbatch hnone
  have hiff := sense_eq_none_iff host r d
  rcases poll_cases host r d w with ⟨hcombined, hpoll⟩ | ⟨c, hcombined, hpoll⟩
  · rw [hpoll, if_pos (hiff.mp hcombined)]
    rfl
  · have hnot : ¬ Blind host r d := by
      intro hblind
      rw [hiff.mpr hblind] at hcombined
      cases hcombined
    rw [hpoll] at hcfg hempty ⊢
    rw [if_neg hnot, autoProtect_respond]
    -- Without machines only the names with a role are left alone.
    have hexcluded : excluded host (respond host r c (sense host r d).1 w).daemon
        = fun name _ => isConfigured host d.cfg name := by
      funext name pid
      have hfind := (find_eq_none_iff _ pid).mpr fun h hh => by
        rw [hempty] at hh
        exact absurd hh List.not_mem_nil
      rw [excluded, hcfg, hfind]
      simp
    rw [hexcluded]
    rfl

end Polls

section Runs

variable {host : Host}

/-- Polls that are both blind or both not keep the daemons alike. -/
theorem alike_bothPoll (s : Pair) (r : PollReadings × PollReadings) (hsame : r.2.auto = r.1.auto)
    (htogether : Together host s r) (h : Alike s) : Alike (bothPoll host s r) := by
  have hbatch : s.2.1.cfg.batchProcesses = [] := by rw [h.cfg, h.batch]
  have hfirst := autoProtect_poll host r.1 s.1.1 s.1.2 h.batch h.first
  have hsecond := autoProtect_poll host r.2 s.2.1 s.2.2 hbatch h.second
  refine ⟨?_, ?_, holdings_poll_nil host _ _ _ h.batch h.first,
    holdings_poll_nil host _ _ _ hbatch h.second, ?_⟩
  · simp only [bothPoll, pollStep, cfg_poll, h.cfg]
  · simp only [bothPoll, pollStep, cfg_poll, h.batch]
  · simp only [bothPoll, pollStep]
    rw [hfirst, hsecond, h.cfg, h.autoProtect, hsame]
    -- The tick sees the same readings and, by assumption, excludes the same processes.
    by_cases henabled : s.1.1.autoProtect.settings.enabled = true
    · simp only [htogether henabled]
    · -- A tick does nothing while auto-protect is off.
      have hoff : ∀ exclude, (tick r.1.auto exclude s.1.1.autoProtect).auto
          = s.1.1.autoProtect := by
        intro exclude
        simp [tick, henabled]
      simp only [hoff, ite_self]

/-- Two daemons with the same settings and no batch processes, which find the
    same load and the same process table at every poll and are blind at the same
    polls, protect the machine alike. -/
theorem sameProtection_of_together (s : Pair) (h : Alike s)
    (polls : List (PollReadings × PollReadings)) (hsame : ∀ r ∈ polls, r.2.auto = r.1.auto)
    (htogether : Along (bothPoll host) (Together host) s polls) :
    Throughout (bothPoll host) SameProtection s polls := by
  refine throughout_of_along (bothPoll host)
    (fun s r => r.2.auto = r.1.auto ∧ Together host s r) Alike SameProtection ?_
    (fun s r hr hs => alike_bothPoll s r hr.1 hr.2 hs) polls s
    (along_and _ _ _ s polls (along_of_forall_mem _ _ s polls hsame) htogether) h
  intro s hs
  rw [SameProtection, hs.autoProtect]
  exact ⟨rfl, rfl⟩

end Runs

section Restarted

/-- A critical process runs on a busy machine. -/
def gameHost : Host := ⟨1000, id⟩

/-- The daemon and the system after `Initialize`. -/
def gameStart : DaemonState × World :=
  ((applyConfig gameHost (sampleReload []) (sampleConfig ["game.exe"] [] []) {} sampleWorld).daemon,
    sampleWorld)

/-- A poll while `a.exe` uses the processor. -/
def gamePoll (systemCpu : Rat) (ticks : UInt64) : PollReadings :=
  samplePoll [⟨wide "game.exe", 300⟩] (fun _ => [])
    (sampleAuto systemCpu [⟨4, wide "a.exe", 80, true, .normal⟩]) ticks

/-- Since the poll before, the process has crashed and was started again. -/
def restartedPoll (systemCpu : Rat) (ticks : UInt64) : PollReadings :=
  { gamePoll systemCpu ticks with
    measurements := { (gamePoll systemCpu ticks).measurements with exitCode := fun _ => some 1 } }

/-- One daemon's critical process goes on, and the other one's is restarted
    before the poll that finds the machine busy. -/
def restartedPolls : List (PollReadings × PollReadings) :=
  [(gamePoll 0 10, gamePoll 0 10), (gamePoll 100 20, restartedPoll 100 20)]

/-- The first daemon lowers a process, and the second one does not. -/
theorem protection_differs : Alike (gameStart, gameStart) ∧
    (∀ r ∈ restartedPolls, r.2.auto = r.1.auto) ∧
    ¬ Throughout (bothPoll gameHost) SameProtection (gameStart, gameStart) restartedPolls := by
  refine ⟨⟨rfl, rfl, rfl, rfl, rfl⟩, ?_, fun h => ?_⟩
  · simp [restartedPolls, restartedPoll]
  · have hlevel := (throughout_final _ _ _ _ h).1
    exact absurd hlevel (by decide +kernel)

/-- Both critical processes go on, with different loads. -/
theorem sameProtection_running :
    Throughout (bothPoll gameHost) SameProtection (gameStart, gameStart)
      [(gamePoll 0 10, gamePoll 0 11), (gamePoll 100 20, gamePoll 100 30)] :=
  sameProtection_of_together (gameStart, gameStart) ⟨rfl, rfl, rfl, rfl, rfl⟩ _
    (by simp [gamePoll, samplePoll])
    ⟨fun _ => by decide +kernel, fun _ => by decide +kernel, trivial⟩

end Restarted

end Service

end ThreadHaul
