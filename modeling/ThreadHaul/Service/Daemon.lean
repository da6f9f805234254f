import Mathlib.Algebra.Order.Field.Rat
import ThreadHaul.Actuator.Manager
import ThreadHaul.Common.Json
import ThreadHaul.Telemetry.ProcessSafety

/-!
# The Daemon

The state of the service as far as its commands read or change it, and what it
reports about itself.

`dump` throws on a string that is not UTF-8. Names of processes are UTF-16, and
`narrow` makes UTF-8 of any of them; every other string in a report is a
literal. So a report never throws: `allText_statusJson`.

## Main definitions

* `narrow`: `Narrow`.
* `Daemon`: The state of the service.
* `Env`: The system as a request finds it.
* `reply`, `statusJson`: `Reply` and `StatusJson`.

## Theorems

* `valid_narrow`: A narrowed name is text.
* `allText_statusJson`: So is everything in a status report.
-/

namespace ThreadHaul

namespace Service

open Actuator Telemetry Json

section Wide

/-- A pair of surrogates as a character. -/
def joinSurrogates (high low : UInt16) : Char :=
  Char.ofNat (0x10000 + (high.toNat - 0xD800) * 0x400 + (low.toNat - 0xDC00))

/-- UTF-16 as characters. A surrogate without its partner becomes U+FFFD. -/
def decodeWide : WString → List Char
  | [] => []
  | [u] => [if 0xD800 ≤ u ∧ u < 0xE000 then Char.ofNat 0xFFFD else Char.ofNat u.toNat]
  | u :: v :: rest =>
      -- A high surrogate needs a low one after it; any other surrogate stands alone.
      if 0xD800 ≤ u ∧ u < 0xDC00 ∧ 0xDC00 ≤ v ∧ v < 0xE000 then
        joinSurrogates u v :: decodeWide rest
      else if 0xD800 ≤ u ∧ u < 0xE000 then Char.ofNat 0xFFFD :: decodeWide (v :: rest)
      else Char.ofNat u.toNat :: decodeWide (v :: rest)

/-- `Narrow`: `WideCharToMultiByte` to UTF-8. -/
def narrow (w : WString) : Bytes := Utf8.encode (decodeWide w)

/-- A narrowed name is text. -/
theorem valid_narrow (w : WString) : Utf8.Valid (narrow w) := Utf8.valid_encode _

end Wide

/-- Where the pressure came from. -/
inductive Signal
  | cpu
  | systemMemory
  | workingSet
  | io

/-- The signal as it is written. -/
def Signal.name : Signal → Bytes
  | .cpu => ascii "cpu"
  | .systemMemory => ascii "system_memory"
  | .workingSet => ascii "working_set"
  | .io => ascii "io"

/-- What the last poll found for one critical process. -/
structure ProcessSample where
  name : WString
  pid : DWORD
  cpuPercent : Rat

/-- The fields of `Daemon` that its commands use. -/
structure Daemon where
  criticalProcesses : List WString
  actuator : ActuatorManager Rat
  /-- `adhoc_`: the processes managed on request. -/
  adhoc : List DWORD
  pressure : Rat
  pressureSignal : Signal
  criticalPid : DWORD
  base : StateMachineConfig Rat
  effective : StateMachineConfig Rat
  coordinationConnected : Bool
  lastSamples : List ProcessSample
  /-- There is an event by which `stop` ends the daemon. -/
  remoteStopEvent : Bool

/-- The system as a request finds it: the process table, the outcomes of the
    calls on each process, and the conversion of `Widen`. -/
structure Env where
  host : Host
  widen : Bytes → WString
  snapshot : List ProcessEntry
  opened : DWORD → Bool
  os : DWORD → OsCalls

/-- `SameName`. -/
def sameName (host : Host) (a b : WString) : Bool := namesEqualIgnoreCase host a b

/-- `Contains`. -/
def contains (host : Host) (names : List WString) (name : WString) : Bool :=
  names.any fun n => sameName host n name

/-- The state of a machine, as it is reported. -/
def stateName : ProcessState → Bytes
  | .normal => ascii "normal"
  | .throttled => ascii "throttled"
  | .suspended => ascii "suspended"

/-- `Round1`: to one digit after the point, halves away from zero. -/
def round1 (x : Rat) : Rat :=
  -- `std::round` cuts off the fraction after half a unit is added in the direction of the sign.
  let scaled := x * 10 + (if 0 ≤ x then 1 / 2 else -1 / 2)
  (scaled.num.tdiv scaled.den : Rat) / 10

/-- `Reply`. -/
def reply (ok : Bool) (message : Bytes) : Json :=
  .object [(ascii "ok", .boolean ok), (ascii "message", .string message)]

/-- The reply to a command with targets. -/
def replyWithResults (ok : Bool) (message : Bytes) (results : List Json) : Json :=
  .object [(ascii "ok", .boolean ok), (ascii "message", .string message),
    (ascii "results", .array results)]

/-- A sample in the reply to `status`. -/
def sampleJson (s : ProcessSample) : Json :=
  .object [(ascii "name", .string (narrow s.name)), (ascii "pid", .integer s.pid.toNat),
    (ascii "cpu_percent", .float (round1 s.cpuPercent))]

/-- A machine in the reply to `status`. -/
def machineJson (m : ProcessStateMachine Rat) : Json :=
  .object [(ascii "name", .string (narrow m.batchProcessName)),
    (ascii "pid", .integer m.batchProcessId.toNat), (ascii "state", .string (stateName m.state)),
    (ascii "manual_hold", .boolean m.manualHold)]

/-- `StatusJson`. -/
def statusJson (d : Daemon) : Json :=
  .object [(ascii "ok", .boolean true),
    (ascii "pressure_percent", .float (round1 d.pressure)),
    (ascii "pressure_signal", .string d.pressureSignal.name),
    (ascii "critical_process_id", .integer d.criticalPid.toNat),
    (ascii "offset_percent", .float
      (round1 (d.base.throttleThresholdPercent - d.effective.throttleThresholdPercent))),
    (ascii "thresholds", .object
      [(ascii "high", .float (round1 d.effective.throttleThresholdPercent)),
        (ascii "critical", .float (round1 d.effective.escalateThresholdPercent)),
        (ascii "low", .float (round1 d.effective.recoverThresholdPercent))]),
    (ascii "coordination_connected", .boolean d.coordinationConnected),
    (ascii "critical", .array (d.lastSamples.map sampleJson)),
    (ascii "batch", .array (d.actuator.machines.map machineJson))]

section Text

theorem allText_reply (ok : Bool) (message : Bytes) :
    AllText (reply ok message) ↔ Utf8.Valid message := by
  simp only [reply, allText_object, List.forall_mem_cons, List.not_mem_nil, false_implies,
    implies_true, and_true, allText_boolean, allText_string]
  constructor
  · intro h
    exact h.2.2
  · intro h
    exact ⟨valid_ascii _ rfl, valid_ascii _ rfl, h⟩

theorem allText_replyWithResults (ok : Bool) (message : Bytes) (results : List Json) :
    AllText (replyWithResults ok message results) ↔
      Utf8.Valid message ∧ ∀ j ∈ results, AllText j := by
  simp only [replyWithResults, allText_object, List.forall_mem_cons, List.not_mem_nil,
    false_implies, implies_true, and_true, allText_boolean, allText_string, allText_array]
  constructor
  · intro h
    exact ⟨h.2.1.2, h.2.2.2⟩
  · intro h
    exact ⟨valid_ascii _ rfl, ⟨valid_ascii _ rfl, h.1⟩,
      valid_ascii _ rfl, h.2⟩

theorem allText_sampleJson (s : ProcessSample) : AllText (sampleJson s) := by
  simp only [sampleJson, allText_object, List.forall_mem_cons, List.not_mem_nil, false_implies,
    implies_true, and_true, allText_integer, allText_float, allText_string, valid_narrow]
  decide +kernel

theorem allText_machineJson (m : ProcessStateMachine Rat) : AllText (machineJson m) := by
  have hstate : Utf8.Valid (stateName m.state) := by
    cases m.state <;> exact valid_ascii _ rfl
  simp only [machineJson, allText_object, List.forall_mem_cons, List.not_mem_nil, false_implies,
    implies_true, and_true, allText_integer, allText_boolean, allText_string, valid_narrow, hstate]
  decide +kernel

/-- A status report is text. -/
theorem allText_statusJson (d : Daemon) : AllText (statusJson d) := by
  -- The only texts that are not the program's own are narrowed names.
  have hsignal : Utf8.Valid d.pressureSignal.name := by
    cases d.pressureSignal <;> exact valid_ascii _ rfl
  simp only [statusJson, allText_object, List.forall_mem_cons, List.not_mem_nil, false_implies,
    implies_true, and_true, allText_integer, allText_boolean, allText_float, allText_string,
    allText_array, List.forall_mem_map, hsignal, allText_sampleJson, allText_machineJson]
  decide +kernel

end Text

end Service

end ThreadHaul
