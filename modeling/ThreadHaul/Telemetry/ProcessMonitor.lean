import ThreadHaul.Lib.OrderedMap
import ThreadHaul.Telemetry.AdaptiveThresholds
import ThreadHaul.Telemetry.ProcessSafety

/-!
# Tracked Processes

`TrackedProcess`: the running instances of one executable name, each with a
handle and with what was measured of it last.

A poll goes through the instances three times. It lets go of the ones that have
ended, picks up the ones in the snapshot that it does not have, and measures
what it has then. `mem_poll` says where an instance comes from.

## Main definitions

* `findByName`: `FindByName`.
* `cpuPercentFromTicks`: `CpuPercentFromTicks`.
* `TrackedProcess`, `TrackedInstance`: The instances of a name.
* `Measurements`: What the system says during one poll.
* `dropExited`, `acquire`, `sampleAll`, `poll`: `TrackedProcess::Poll`.

## Theorems

* `mem_poll`: Where an instance comes from.
-/

namespace ThreadHaul

namespace Telemetry

open Actuator OrderedMap

/-- `FindByName`. -/
def findByName (host : Host) (snapshot : List ProcessEntry) (name : WString) : List DWORD :=
  (snapshot.filter fun e => namesEqualIgnoreCase host e.name name).map ProcessEntry.pid

/-- `CpuNormalization`. -/
inductive CpuNormalization
  | perCore
  | totalSystem
  deriving DecidableEq

/-- `CpuPercentFromTicks`. -/
def cpuPercentFromTicks (processTicksDelta wallTicksDelta : UInt64) (logicalCores : Nat)
    (normalization : CpuNormalization) : Rat :=
  if wallTicksDelta = 0 then 0
  else
    let cores : Rat := if logicalCores = 0 then 1 else logicalCores
    let perCore : Rat := 100 * processTicksDelta.toNat / wallTicksDelta.toNat
    match normalization with
    | .totalSystem => clamp (perCore / cores) 0 100
    | .perCore => clamp perCore 0 (100 * cores)

/-- What a poll found for one instance. It is not valid before there is a
    difference to the poll before. -/
structure ProcessSample where
  name : WString
  pid : DWORD
  valid : Bool := false
  cpuPercent : Rat := 0
  workingSetMb : Rat := 0
  ioMbPerSec : Rat := 0

/-- `LifecycleKind`. -/
inductive LifecycleKind
  | acquired
  | exited
  | crashed
  | restarted
  | accessDenied
  deriving DecidableEq

/-- `LifecycleEvent`. -/
structure LifecycleEvent where
  kind : LifecycleKind
  name : WString
  pid : DWORD
  previousPid : DWORD := 0
  exitCode : DWORD := 0

/-- An instance that is held, with what was measured of it last. -/
structure TrackedInstance where
  lastCpuTicks : UInt64 := 0
  lastWallTicks : UInt64 := 0
  lastIoBytes : UInt64 := 0
  primed : Bool := false

/-- `TrackedProcess`. -/
structure TrackedProcess where
  name : WString
  normalization : CpuNormalization
  cores : Nat
  instances : List (DWORD × TrackedInstance) := []
  /-- The processes whose refusal was reported. -/
  deniedReported : List DWORD := []
  lastExitedPid : DWORD := 0

/-- What the system says about processes during one poll. -/
structure Measurements where
  /-- The exit code, once the process has ended. -/
  exitCode : DWORD → Option DWORD
  openProcessError : DWORD → Option Win32Error
  /-- Kernel and user time, if they can be read. -/
  cpuTicks : DWORD → Option UInt64
  wallTicks : DWORD → UInt64
  ioBytes : DWORD → Option UInt64
  workingSetSize : DWORD → Option UInt64

/-- A process with what has been reported about it. -/
structure Tracking where
  tracked : TrackedProcess
  events : List LifecycleEvent := []

section Poll

variable (r : Measurements)

/-- One turn of the loop that lets go of instances. -/
def dropOne (acc : Tracking) (pid : DWORD) : Tracking :=
  match r.exitCode pid with
  | none => acc
  | some code =>
      { tracked :=
          { acc.tracked with
            instances := erase acc.tracked.instances pid
            lastExitedPid := pid }
        events := acc.events ++
          [{ kind := if code = 0 then .exited else .crashed
             name := acc.tracked.name
             pid := pid
             exitCode := code }] }

/-- The instances that have ended are let go. -/
def dropExited (t : TrackedProcess) : Tracking :=
  (keys t.instances).foldl (dropOne r) { tracked := t }

/-- One turn of the loop that picks up instances. -/
def acquireOne (acc : Tracking) (pid : DWORD) : Tracking :=
  if pid ∈ keys acc.tracked.instances then acc
  else
    match r.openProcessError pid with
    | some e =>
        -- Reported once, and tried again on every poll.
        if e = .accessDenied ∧ pid ∉ acc.tracked.deniedReported then
          { tracked :=
              { acc.tracked with deniedReported := pid :: acc.tracked.deniedReported }
            events := acc.events ++
              [{ kind := .accessDenied, name := acc.tracked.name, pid := pid }] }
        else acc
    | none =>
        let restart := acc.tracked.instances.isEmpty && acc.tracked.lastExitedPid != 0 &&
          acc.tracked.lastExitedPid != pid
        { tracked :=
            { acc.tracked with
              instances := assign acc.tracked.instances pid {}
              deniedReported := acc.tracked.deniedReported.filter fun p => p != pid
              lastExitedPid := 0 }
          events := acc.events ++
            [{ kind := if restart then .restarted else .acquired
               name := acc.tracked.name
               pid := pid
               previousPid := if restart then acc.tracked.lastExitedPid else 0 }] }

/-- The instances in the snapshot are picked up. -/
def acquire (host : Host) (snapshot : List ProcessEntry) (acc : Tracking) : Tracking :=
  (findByName host snapshot acc.tracked.name).foldl (acquireOne r) acc

/-- `SampleInstance`: nothing if the times cannot be read. -/
def sampleInstance (t : TrackedProcess) (pid : DWORD) (i : TrackedInstance) :
    Option (TrackedInstance × ProcessSample) :=
  match r.cpuTicks pid with
  | none => none
  | some cpu =>
      let wall := r.wallTicks pid
      let ioBytes := (r.ioBytes pid).getD 0
      let workingSetMb : Rat := ((r.workingSetSize pid).getD 0).toNat / 1048576
      let known : Bool := i.primed && i.lastWallTicks < wall
      let wallDelta := wall - i.lastWallTicks
      some
        ({ lastCpuTicks := cpu, lastWallTicks := wall, lastIoBytes := ioBytes, primed := true },
          { name := t.name
            pid := pid
            valid := known
            cpuPercent := if known then
                cpuPercentFromTicks (cpu - i.lastCpuTicks) wallDelta t.cores t.normalization
              else 0
            workingSetMb := workingSetMb
            ioMbPerSec := if known ∧ i.lastIoBytes ≤ ioBytes then
                (ioBytes - i.lastIoBytes).toNat / 1048576 / (wallDelta.toNat / 10000000)
              else 0 })

/-- Every instance is measured. -/
def sampleAll (t : TrackedProcess) : TrackedProcess × List ProcessSample :=
  let sampled := t.instances.map fun i => (i, sampleInstance r t i.1 i.2)
  ({ t with instances := sampled.map fun s => (s.1.1, (s.2.map Prod.fst).getD s.1.2) },
    sampled.filterMap fun s => s.2.map Prod.snd)

/-- `TrackedProcess::Poll`. -/
def TrackedProcess.poll (host : Host) (snapshot : List ProcessEntry) (t : TrackedProcess) :
    TrackedProcess × List ProcessSample × List LifecycleEvent :=
  let acquired := acquire r host snapshot (dropExited r t)
  let (t, samples) := sampleAll r acquired.tracked
  (t, samples, acquired.events)

variable {r}

theorem dropOne_instances (acc : Tracking) (pid : DWORD) :
    (dropOne r acc pid).tracked.instances =
        (if (r.exitCode pid).isSome then erase acc.tracked.instances pid
          else acc.tracked.instances) ∧
      (dropOne r acc pid).tracked.name = acc.tracked.name := by
  unfold dropOne
  rcases r.exitCode pid with _ | code
  · exact ⟨rfl, rfl⟩
  · exact ⟨rfl, rfl⟩

theorem foldl_dropOne (pids : List DWORD) (acc : Tracking) :
    (∀ p, p ∈ keys (pids.foldl (dropOne r) acc).tracked.instances ↔
      p ∈ keys acc.tracked.instances ∧ (p ∈ pids → r.exitCode p = none)) ∧
      (pids.foldl (dropOne r) acc).tracked.name = acc.tracked.name := by
  -- Each turn drops its own instance at most.
  induction pids generalizing acc with
  | nil => exact ⟨fun p => ⟨fun h => ⟨h, fun hp => absurd hp List.not_mem_nil⟩, fun h => h.1⟩, rfl⟩
  | cons pid pids ih =>
      have hdone := ih (dropOne r acc pid)
      have hone := dropOne_instances (r := r) acc pid
      rw [List.foldl_cons]
      refine ⟨fun p => ?_, hdone.2.trans hone.2⟩
      rw [hdone.1 p, hone.1]
      rcases hcode : r.exitCode pid with _ | code
      · -- The process runs and stays.
        simp only [Option.isSome_none, Bool.false_eq_true, if_false, List.mem_cons]
        refine and_congr_right fun _ => ⟨fun h hp => ?_, fun h hp => h (Or.inr hp)⟩
        rcases hp with rfl | hp
        · exact hcode
        · exact h hp
      · simp only [Option.isSome_some, if_true, mem_keys_erase, List.mem_cons, and_assoc]
        refine and_congr_right fun _ => ⟨fun h hp => ?_, fun h => ⟨?_, fun hp => h (Or.inr hp)⟩⟩
        · rcases hp with rfl | hp
          · exact absurd rfl h.1
          · exact h.2 hp
        · rintro rfl
          rw [h (Or.inl rfl)] at hcode
          cases hcode

/-- What is left after letting go is what has not ended. -/
theorem mem_dropExited (t : TrackedProcess) (p : DWORD) :
    p ∈ keys (dropExited r t).tracked.instances ↔
      p ∈ keys t.instances ∧ r.exitCode p = none := by
  rw [dropExited, (foldl_dropOne (keys t.instances) { tracked := t }).1 p]
  exact and_congr_right fun hp => ⟨fun h => h hp, fun h _ => h⟩

theorem acquireOne_keys (acc : Tracking) (pid p : DWORD) :
    (p ∈ keys (acquireOne r acc pid).tracked.instances ↔
      p ∈ keys acc.tracked.instances ∨ (p = pid ∧ r.openProcessError pid = none)) ∧
      (acquireOne r acc pid).tracked.name = acc.tracked.name := by
  unfold acquireOne
  by_cases hin : pid ∈ keys acc.tracked.instances
  · rw [if_pos hin]
    refine ⟨⟨Or.inl, ?_⟩, rfl⟩
    rintro (h | ⟨rfl, _⟩)
    · exact h
    · exact hin
  · rw [if_neg hin]
    -- Only an id that can be opened is added.
    rcases hopen : r.openProcessError pid with _ | e
    · refine ⟨?_, rfl⟩
      rw [mem_keys_assign, and_iff_left rfl]
      exact or_comm
    · simp only [reduceCtorEq, and_false, or_false]
      split_ifs <;> exact ⟨Iff.rfl, rfl⟩

theorem foldl_acquireOne (pids : List DWORD) (acc : Tracking) (p : DWORD) :
    (p ∈ keys (pids.foldl (acquireOne r) acc).tracked.instances ↔
      p ∈ keys acc.tracked.instances ∨ (p ∈ pids ∧ r.openProcessError p = none)) ∧
      (pids.foldl (acquireOne r) acc).tracked.name = acc.tracked.name := by
  -- Each turn adds its own id at most, and no turn removes one.
  induction pids generalizing acc with
  | nil => exact ⟨⟨Or.inl, fun h => h.resolve_right (fun hc => absurd hc.1 List.not_mem_nil)⟩, rfl⟩
  | cons pid pids ih =>
      have hone := acquireOne_keys (r := r) acc pid p
      have hdone := ih (acquireOne r acc pid)
      rw [List.foldl_cons]
      refine ⟨?_, hdone.2.trans hone.2⟩
      rw [hdone.1, hone.1, or_assoc, List.mem_cons]
      refine or_congr_right ⟨?_, ?_⟩
      · rintro (⟨rfl, h⟩ | ⟨hp, h⟩)
        · exact ⟨Or.inl rfl, h⟩
        · exact ⟨Or.inr hp, h⟩
      · rintro ⟨rfl | hp, h⟩
        · exact Or.inl ⟨rfl, h⟩
        · exact Or.inr ⟨hp, h⟩

theorem keys_sampleAll (t : TrackedProcess) :
    keys (sampleAll r t).1.instances = keys t.instances := by
  simp only [sampleAll, keys, List.map_map]
  rfl

/-- An instance was tracked before and runs, or it is in the snapshot under the
    name and could be opened. -/
theorem mem_poll (host : Host) (snapshot : List ProcessEntry) (t : TrackedProcess) (p : DWORD) :
    (p ∈ keys (t.poll r host snapshot).1.instances ↔
      (p ∈ keys t.instances ∧ r.exitCode p = none) ∨
        (p ∈ findByName host snapshot t.name ∧ r.openProcessError p = none)) ∧
      (t.poll r host snapshot).1.name = t.name := by
  have hname : (dropExited r t).tracked.name = t.name :=
    (foldl_dropOne (keys t.instances) { tracked := t }).2
  have hacquired := foldl_acquireOne (r := r)
    (findByName host snapshot (dropExited r t).tracked.name) (dropExited r t) p
  refine ⟨?_, hacquired.2.trans hname⟩
  simp only [TrackedProcess.poll, keys_sampleAll, acquire]
  rw [hacquired.1, mem_dropExited, hname]

end Poll

end Telemetry

end ThreadHaul
