import Mathlib.Algebra.Order.Field.Rat
import Mathlib.Data.Rat.Floor
import ThreadHaul.Actuator.Manager
import ThreadHaul.Common.Json
import ThreadHaul.Lib.Decimal

/-!
# Reading a Configuration

`ParseConfig`: the configuration in a JSON document, or the first thing that is
wrong with it.

Each field is read by one of a few readers, which check its type and its range
and name the field in what they throw. The sections of the document are read one
after the other, and what a section comes to is a structure of its own, so that
a configuration is its sections and nothing else: `parseRoot_eq_ok` takes an
accepted document apart, and each reader has a lemma that says what it accepts.

An integer is converted to 64 bits before its range is checked.

## Main definitions

* `DaemonConfig`: The configuration, by sections.
* `Platform`: What the operating system and the JSON library do for the reader.
* `integer`, `percent`, `optNumber`, `nameList`: The readers.
* `parseConfig`: `ParseConfig`.

## Theorems

* `integerOf_eq_ok`, `optNumber_eq_ok`: What the readers accept.
* `parseRoot_eq_ok`: An accepted document, section by section.
* `thresholds_sound`, `samples_range`, `adaptive_range`, `disjoint_names`,
  `pins_ask`: What an accepted configuration promises.
-/

namespace ThreadHaul

namespace Config

open Actuator

/-- What is thrown: a message that names the field. -/
abbrev ConfigError := Bytes

/-- `ThresholdSpec`. -/
structure ThresholdSpec where
  percent : Rat
  consecutiveSamples : Int
  deriving DecidableEq

/-- The section `polling`. -/
structure PollingSettings where
  pollIntervalMs : Int := 1000
  deriving DecidableEq

/-- The section `thresholds`. -/
structure ThresholdSettings where
  high : ThresholdSpec := ⟨85, 3⟩
  critical : ThresholdSpec := ⟨90, 5⟩
  low : ThresholdSpec := ⟨60, 5⟩
  deriving DecidableEq

/-- The section `processes`. -/
structure ProcessSettings where
  criticalProcesses : List WString := []
  batchProcesses : List WString := []
  protectedProcesses : List WString := []
  deriving DecidableEq

/-- The section `logging`. -/
structure LoggingSettings where
  logPath : WString := []
  maxFileSizeMb : Int := 50
  maxRotatedFiles : Int := 5
  deriving DecidableEq

/-- The section `telemetry`. -/
structure TelemetrySettings where
  cpuPerCore : Bool := true
  logSamples : Bool := true
  selfMonitorIntervalSec : Int := 30
  deriving DecidableEq

/-- The section `triggers.memory`. -/
structure MemorySettings where
  memoryTriggerEnabled : Bool := false
  systemMemoryLimitPercent : Rat := 95
  criticalWorkingSetLimitMb : Rat := 0
  deriving DecidableEq

/-- The section `triggers.io`. -/
structure IoSettings where
  ioTriggerEnabled : Bool := false
  criticalIoLimitMbPerSec : Rat := 200
  deriving DecidableEq

/-- The section `adaptive`. -/
structure AdaptiveSection where
  adaptiveEnabled : Bool := false
  adaptiveWindowSamples : Int := 10
  adaptiveHorizonSamples : Int := 3
  adaptiveMaxAdjustPercent : Rat := 10
  deriving DecidableEq

/-- The section `alerts`. -/
structure AlertSettings where
  alertPopup : Bool := true
  alertWebhookUrl : WString := []
  deriving DecidableEq

/-- An entry of the section `identity`. -/
structure PinnedIdentity where
  name : WString
  path : WString
  publisher : WString
  deriving DecidableEq

/-- The section `coordination`. -/
structure CoordinationSettings where
  coordinationEnabled : Bool := false
  controllerHost : WString := wide "127.0.0.1"
  controllerPort : Int := 7878
  sharedToken : Bytes := []
  heartbeatSeconds : Int := 5
  deriving DecidableEq

/-- The section `auto_protect`. -/
structure AutoSettings where
  autoEnabled : Bool := true
  autoThrottlePercent : Rat := 90
  autoThrottleSamples : Int := 5
  autoUseIdle : Bool := true
  autoIdlePercent : Rat := 97
  autoIdleSamples : Int := 10
  autoRecoverPercent : Rat := 75
  autoRecoverSamples : Int := 10
  autoMaxProcesses : Int := 3
  autoMinProcessCpuPercent : Rat := 50
  deriving DecidableEq

/-- The section `dashboard`. -/
structure DashboardSettings where
  dashboardEnabled : Bool := true
  dashboardPort : Int := 8787
  deriving DecidableEq

/-- `DaemonConfig`. -/
structure DaemonConfig extends PollingSettings, ThresholdSettings, ProcessSettings,
    LoggingSettings, TelemetrySettings, MemorySettings, IoSettings, AdaptiveSection,
    AlertSettings, CoordinationSettings, AutoSettings, DashboardSettings where
  identities : List PinnedIdentity := []
  requireProtectedConfig : Bool := false
  deriving DecidableEq

/-- What the operating system and the JSON library do for the reader. -/
structure Platform where
  host : Host
  /-- `json::parse`, with what its exception says. -/
  parse : Bytes → Except Bytes Json
  /-- `MultiByteToWideChar` with `MB_ERR_INVALID_CHARS`. -/
  toWide : Bytes → Option WString
  /-- `WideCharToMultiByte`. -/
  toUtf8 : WString → Bytes
  /-- `UnprotectSecret`, with its error. -/
  unprotectSecret : Bytes → Except Bytes Bytes

section Texts

/-- `std::to_string` of an integer. -/
def showInt (n : Int) : Bytes :=
  if n < 0 then ascii "-" ++ Decimal.decimal n.natAbs else Decimal.decimal n.natAbs

/-- The last six digits of a number. -/
def sixDigits (n : Nat) : Bytes :=
  [100000, 10000, 1000, 100, 10, 1].map fun d => UInt8.ofNat (48 + n / d % 10)

/-- `std::to_string` of a `double` that is not negative. -/
def showDouble (x : Rat) : Bytes :=
  let n := (x * 1000000 + 1 / 2).floor.natAbs
  Decimal.decimal (n / 1000000) ++ ascii "." ++ sixDigits (n % 1000000)

end Texts

section Readers

/-- `Utf8ToWide`. -/
def utf8ToWide (os : Platform) (s : Bytes) : Except ConfigError WString :=
  if s = [] then .ok []
  else
    match os.toWide s with
    | some w => .ok w
    | none => .error (ascii "config contains text that is not valid UTF-8")

/-- `obj.find(key)`. -/
def member (obj : Json) (key : Bytes) : Option Json :=
  match obj with
  | .object members => Json.find members key
  | _ => none

/-- `Field`. -/
def field (obj : Json) (key path : Bytes) : Except ConfigError Json :=
  match member obj key with
  | some v => .ok v
  | none => .error (ascii "missing required field: " ++ path)

/-- `Object`. -/
def object (obj : Json) (key path : Bytes) : Except ConfigError Json := do
  let v ← field obj key path
  if v.isObject then .ok v else .error (path ++ ascii " must be an object")

/-- `Integer`, once the member is there. -/
def integerOf (v : Json) (path : Bytes) (min max : Int) : Except ConfigError Int :=
  match v with
  | .integer n =>
      let x := (Int64.ofInt n).toInt
      if x < min ∨ max < x then
        .error (path ++ ascii " must be between " ++ showInt min ++ ascii " and " ++ showInt max ++
          ascii ", got " ++ showInt x)
      else .ok x
  | _ => .error (path ++ ascii " must be an integer")

/-- `Integer`. -/
def integer (obj : Json) (key path : Bytes) (min max : Int) : Except ConfigError Int := do
  let v ← field obj key path
  integerOf v path min max

/-- `Percent`. -/
def percent (obj : Json) (key path : Bytes) : Except ConfigError Rat := do
  let v ← field obj key path
  match v.getDouble with
  | .error _ => .error (path ++ ascii " must be a number")
  | .ok x =>
      if 0 < x ∧ x ≤ 100 then .ok x
      else .error (path ++ ascii " must be greater than 0 and at most 100")

/-- An entry of a list of names. -/
def nameOf (os : Platform) (item : Bytes) : Json → Except ConfigError WString
  | .string name =>
      if name = [] then .error (item ++ ascii " must not be empty")
      else if name.any fun c => c == 92 || c == 47 then
        .error (item ++ ascii " must be an executable name such as \"app.exe\", not a path")
      else utf8ToWide os name
  | _ => .error (item ++ ascii " must be a string")

/-- The loop of `NameList`, from the entry with index `i` on. -/
def namesFrom (os : Platform) (path : Bytes) : List Json → Nat → Except ConfigError (List WString)
  | [], _ => .ok []
  | v :: rest, i => do
      let name ← nameOf os (path ++ ascii "[" ++ Decimal.decimal i ++ ascii "]") v
      let names ← namesFrom os path rest (i + 1)
      return name :: names

/-- `NameList`. -/
def nameList (os : Platform) (v : Json) (path : Bytes) : Except ConfigError (List WString) :=
  match v with
  | .array elements => namesFrom os path elements 0
  | _ => .error (path ++ ascii " must be an array of process names")

/-- `Threshold`. -/
def threshold (thresholds : Json) (key : Bytes) : Except ConfigError ThresholdSpec := do
  let path := ascii "thresholds." ++ key
  let t ← object thresholds key path
  let p ← percent t (ascii "percent") (path ++ ascii ".percent")
  let n ← integer t (ascii "consecutive_samples") (path ++ ascii ".consecutive_samples") 1 100
  return { percent := p, consecutiveSamples := n }

/-- `OptBool`. -/
def optBool (obj : Json) (key path : Bytes) (default : Bool) : Except ConfigError Bool :=
  match member obj key with
  | none => .ok default
  | some (.boolean b) => .ok b
  | some _ => .error (path ++ ascii " must be true or false")

/-- `OptInteger`. -/
def optInteger (obj : Json) (key path : Bytes) (min max default : Int) : Except ConfigError Int :=
  match member obj key with
  | none => .ok default
  | some v => integerOf v path min max

/-- `OptNumber`. -/
def optNumber (obj : Json) (key path : Bytes) (min max default : Rat) : Except ConfigError Rat :=
  match member obj key with
  | none => .ok default
  | some v =>
      match v.getDouble with
      | .error _ => .error (path ++ ascii " must be a number")
      | .ok x =>
          if x < min ∨ max < x then
            .error (path ++ ascii " must be between " ++ showDouble min ++ ascii " and " ++
              showDouble max)
          else .ok x

/-- `OptString`. -/
def optString (obj : Json) (key path default : Bytes) : Except ConfigError Bytes :=
  match member obj key with
  | none => .ok default
  | some (.string s) => .ok s
  | some _ => .error (path ++ ascii " must be a string")

/-- `OptObject`. -/
def optObject (obj : Json) (key path : Bytes) : Except ConfigError (Option Json) :=
  match member obj key with
  | none => .ok none
  | some v => if v.isObject then .ok (some v) else .error (path ++ ascii " must be an object")

/-- `Secret`: decrypts a value. -/
def secret (os : Platform) (value path : Bytes) : Except ConfigError Bytes :=
  match os.unprotectSecret value with
  | .ok plain => .ok plain
  | .error e => .error (path ++ ascii ": " ++ e)

/-- A section that may be missing. -/
def optSection {σ : Type} (obj : Json) (key path : Bytes) (default : σ)
    (read : Json → Except ConfigError σ) : Except ConfigError σ := do
  match ← optObject obj key path with
  | none => .ok default
  | some s => read s

end Readers

section Sections

variable (os : Platform)

/-- Reading `polling`. -/
def parsePolling (root : Json) : Except ConfigError PollingSettings := do
  let polling ← object root (ascii "polling") (ascii "polling")
  let n ← integer polling (ascii "interval_ms") (ascii "polling.interval_ms") 100 60000
  return { pollIntervalMs := n }

/-- Reading `thresholds`, whose values have an order. -/
def parseThresholds (root : Json) : Except ConfigError ThresholdSettings := do
  let thresholds ← object root (ascii "thresholds") (ascii "thresholds")
  let high ← threshold thresholds (ascii "high")
  let critical ← threshold thresholds (ascii "critical")
  let low ← threshold thresholds (ascii "low")
  if critical.percent < high.percent then
    .error (ascii "thresholds.critical.percent must be at least thresholds.high.percent")
  else if high.percent ≤ low.percent then
    .error (ascii "thresholds.low.percent must be below thresholds.high.percent")
  else return { high := high, critical := critical, low := low }

/-- The list of protected names may be missing. -/
def parseProtected (processes : Json) : Except ConfigError (List WString) :=
  match member processes (ascii "protected") with
  | none => .ok []
  | some v => nameList os v (ascii "processes.protected")

/-- Reading `processes`, whose lists do not overlap. -/
def parseProcesses (root : Json) : Except ConfigError ProcessSettings := do
  let processes ← object root (ascii "processes") (ascii "processes")
  let criticalList ← field processes (ascii "critical") (ascii "processes.critical")
  let criticalNames ← nameList os criticalList (ascii "processes.critical")
  let batchList ← field processes (ascii "batch") (ascii "processes.batch")
  let batchNames ← nameList os batchList (ascii "processes.batch")
  let protectedNames ← parseProtected os processes
  match criticalNames.find? fun c => batchNames.any fun b => namesEqualIgnoreCase os.host c b with
  | some c => .error (ascii "\"" ++ os.toUtf8 c ++
      ascii "\" is listed in both processes.critical and processes.batch")
  | none =>
      return { criticalProcesses := criticalNames
               batchProcesses := batchNames
               protectedProcesses := protectedNames }

/-- The path of the log. -/
def logPathOf (v : Json) : Except ConfigError WString :=
  match v with
  | .string (c :: path) => utf8ToWide os (c :: path)
  | _ => .error (ascii "logging.log_path must be a non-empty string")

/-- Reading `logging`. -/
def parseLogging (root : Json) : Except ConfigError LoggingSettings := do
  let logging ← object root (ascii "logging") (ascii "logging")
  let v ← field logging (ascii "log_path") (ascii "logging.log_path")
  let path ← logPathOf os v
  let size ← integer logging (ascii "max_file_size_mb") (ascii "logging.max_file_size_mb") 1 1024
  let files ←
    integer logging (ascii "max_rotated_files") (ascii "logging.max_rotated_files") 0 100
  return { logPath := path, maxFileSizeMb := size, maxRotatedFiles := files }

/-- Reading `telemetry`, if it is there. -/
def readTelemetry (t : Json) : Except ConfigError TelemetrySettings := do
  let norm ← optString t (ascii "cpu_normalization") (ascii "telemetry.cpu_normalization")
    (ascii "per_core")
  if norm ≠ ascii "per_core" ∧ norm ≠ ascii "total" then
    .error (ascii "telemetry.cpu_normalization must be \"per_core\" or \"total\"")
  else do
    let samples ← optBool t (ascii "log_samples") (ascii "telemetry.log_samples") true
    let interval ← optInteger t (ascii "self_monitor_interval_seconds")
      (ascii "telemetry.self_monitor_interval_seconds") 0 86400 30
    return { cpuPerCore := norm == ascii "per_core"
             logSamples := samples
             selfMonitorIntervalSec := interval }

/-- Reading `triggers.memory`, if it is there. -/
def readMemory (m : Json) : Except ConfigError MemorySettings := do
  let enabled ← optBool m (ascii "enabled") (ascii "triggers.memory.enabled") false
  let load ← optNumber m (ascii "system_load_limit_percent")
    (ascii "triggers.memory.system_load_limit_percent") 1 100 95
  let workingSet ← optNumber m (ascii "critical_working_set_limit_mb")
    (ascii "triggers.memory.critical_working_set_limit_mb") 0 1048576 0
  return { memoryTriggerEnabled := enabled
           systemMemoryLimitPercent := load
           criticalWorkingSetLimitMb := workingSet }

/-- Reading `triggers.io`, if it is there. -/
def readIo (io : Json) : Except ConfigError IoSettings := do
  let enabled ← optBool io (ascii "enabled") (ascii "triggers.io.enabled") false
  let limit ← optNumber io (ascii "critical_io_limit_mb_per_sec")
    (ascii "triggers.io.critical_io_limit_mb_per_sec") (1 / 10) 100000 200
  return { ioTriggerEnabled := enabled, criticalIoLimitMbPerSec := limit }

/-- Reading `triggers`, if it is there. -/
def readTriggers (tr : Json) : Except ConfigError (MemorySettings × IoSettings) := do
  let memory ← optSection tr (ascii "memory") (ascii "triggers.memory") {} readMemory
  let io ← optSection tr (ascii "io") (ascii "triggers.io") {} readIo
  return (memory, io)

/-- Reading `adaptive`, if it is there. -/
def readAdaptive (a : Json) : Except ConfigError AdaptiveSection := do
  let enabled ← optBool a (ascii "enabled") (ascii "adaptive.enabled") false
  let window ← optInteger a (ascii "window_samples") (ascii "adaptive.window_samples") 3 600 10
  let horizon ← optInteger a (ascii "horizon_samples") (ascii "adaptive.horizon_samples") 1 60 3
  let maxAdjust ← optNumber a (ascii "max_adjust_percent") (ascii "adaptive.max_adjust_percent")
    0 50 10
  return { adaptiveEnabled := enabled
           adaptiveWindowSamples := window
           adaptiveHorizonSamples := horizon
           adaptiveMaxAdjustPercent := maxAdjust }

/-- Reading `alerts`, if it is there. -/
def readAlerts (al : Json) : Except ConfigError AlertSettings := do
  let popup ← optBool al (ascii "popup") (ascii "alerts.popup") true
  let stored ← optString al (ascii "webhook_url") (ascii "alerts.webhook_url") []
  let url ← secret os stored (ascii "alerts.webhook_url")
  if url ≠ [] ∧ ¬ (ascii "http://").isPrefixOf url ∧ ¬ (ascii "https://").isPrefixOf url then
    .error (ascii "alerts.webhook_url must start with http:// or https://")
  else do
    let webhook ← utf8ToWide os url
    return { alertPopup := popup, alertWebhookUrl := webhook }

/-- The key names an executable: it has no slash, and it ends in `.exe`. -/
def isExecutableName (name : Bytes) : Bool :=
  5 ≤ name.length && !(name.any fun c => c == 92 || c == 47) &&
    ((name.drop (name.length - 4)).map fun c => if 65 ≤ c ∧ c ≤ 90 then c + 32 else c)
      == ascii ".exe"

/-- The path starts with a drive, or with two backslashes. -/
def isFullPath (path : WString) : Bool :=
  (3 ≤ path.length && path[1]? == some 58 && path[2]? == some 92) || [92, 92].isPrefixOf path

/-- One pin. -/
def identityOf (name : Bytes) (spec : Json) : Except ConfigError PinnedIdentity := do
  let label := ascii "identity." ++ name
  if !isExecutableName name then
    .error (label ++ ascii ": key must be an executable name such as app.exe")
  else if !spec.isObject then .error (label ++ ascii " must be an object")
  else do
    let wideName ← utf8ToWide os name
    let path ← optString spec (ascii "path") (label ++ ascii ".path") []
    let widePath ← utf8ToWide os path
    let publisher ← optString spec (ascii "publisher") (label ++ ascii ".publisher") []
    let widePublisher ← utf8ToWide os publisher
    if widePath = [] ∧ widePublisher = [] then
      .error (label ++ ascii " needs a path, a publisher, or both")
    else if widePath ≠ [] ∧ !isFullPath widePath then
      .error (label ++ ascii ".path must be a full path such as C:\\\\Apps\\\\app.exe")
    else return { name := wideName, path := widePath, publisher := widePublisher }

/-- The loop over the pinned programs. -/
def identitiesOf : List (Bytes × Json) → Except ConfigError (List PinnedIdentity)
  | [] => .ok []
  | (name, spec) :: items => do
      let pin ← identityOf os name spec
      let pins ← identitiesOf items
      return pin :: pins

/-- Reading `identity`, which is an object if it comes here. -/
def readIdentities (id : Json) : Except ConfigError (List PinnedIdentity) :=
  match id with
  | .object members => identitiesOf os members
  | _ => .ok []

/-- Reading `coordination`, if it is there. -/
def readCoordination (c : Json) : Except ConfigError CoordinationSettings := do
  let enabled ← optBool c (ascii "enabled") (ascii "coordination.enabled") false
  let host ← optString c (ascii "controller_host") (ascii "coordination.controller_host")
    (ascii "127.0.0.1")
  let wideHost ← utf8ToWide os host
  let port ←
    optInteger c (ascii "controller_port") (ascii "coordination.controller_port") 1 65535 7878
  let stored ← optString c (ascii "shared_token") (ascii "coordination.shared_token") []
  let token ← secret os stored (ascii "coordination.shared_token")
  let heartbeat ←
    optInteger c (ascii "heartbeat_seconds") (ascii "coordination.heartbeat_seconds") 1 3600 5
  if enabled ∧ wideHost = [] then
    .error (ascii "coordination.controller_host must not be empty when enabled")
  else if enabled ∧ token.length < 16 then
    .error (ascii "coordination.shared_token must be at least 16 characters when enabled")
  else
    return { coordinationEnabled := enabled
             controllerHost := wideHost
             controllerPort := port
             sharedToken := token
             heartbeatSeconds := heartbeat }

/-- Reading `security`, if it is there. -/
def readSecurity (sec : Json) : Except ConfigError Bool :=
  optBool sec (ascii "require_protected_config") (ascii "security.require_protected_config") false

/-- Reading `auto_protect`, if it is there. -/
def readAutoProtect (a : Json) : Except ConfigError AutoSettings := do
  let enabled ← optBool a (ascii "enabled") (ascii "auto_protect.enabled") true
  let throttlePercent ← optNumber a (ascii "throttle_at_percent")
    (ascii "auto_protect.throttle_at_percent") 10 100 90
  let throttleSamples ← optInteger a (ascii "throttle_samples")
    (ascii "auto_protect.throttle_samples") 1 600 5
  let useIdle ← optBool a (ascii "use_idle") (ascii "auto_protect.use_idle") true
  let idlePercent ← optNumber a (ascii "idle_at_percent") (ascii "auto_protect.idle_at_percent")
    10 100 97
  let idleSamples ← optInteger a (ascii "idle_samples") (ascii "auto_protect.idle_samples")
    1 600 10
  let recoverPercent ← optNumber a (ascii "recover_below_percent")
    (ascii "auto_protect.recover_below_percent") 1 100 75
  let recoverSamples ← optInteger a (ascii "recover_samples")
    (ascii "auto_protect.recover_samples") 1 600 10
  let maxProcesses ← optInteger a (ascii "max_processes") (ascii "auto_protect.max_processes")
    1 50 3
  let minCpu ← optNumber a (ascii "min_process_cpu_percent")
    (ascii "auto_protect.min_process_cpu_percent") 1 6400 50
  if throttlePercent ≤ recoverPercent then
    .error (ascii
      "auto_protect.recover_below_percent must be below auto_protect.throttle_at_percent")
  else if useIdle ∧ idlePercent < throttlePercent then
    .error (ascii
      "auto_protect.idle_at_percent must be at least auto_protect.throttle_at_percent")
  else
    return { autoEnabled := enabled
             autoThrottlePercent := throttlePercent
             autoThrottleSamples := throttleSamples
             autoUseIdle := useIdle
             autoIdlePercent := idlePercent
             autoIdleSamples := idleSamples
             autoRecoverPercent := recoverPercent
             autoRecoverSamples := recoverSamples
             autoMaxProcesses := maxProcesses
             autoMinProcessCpuPercent := minCpu }

/-- Reading `dashboard`, if it is there. -/
def readDashboard (d : Json) : Except ConfigError DashboardSettings := do
  let enabled ← optBool d (ascii "enabled") (ascii "dashboard.enabled") true
  let port ← optInteger d (ascii "port") (ascii "dashboard.port") 1024 65535 8787
  return { dashboardEnabled := enabled, dashboardPort := port }

/-- The sections of a document in the order in which they are read. -/
def parseRoot (root : Json) : Except ConfigError DaemonConfig := do
  let polling ← parsePolling root
  let thresholds ← parseThresholds root
  let processes ← parseProcesses os root
  let logging ← parseLogging os root
  let telemetry ← optSection root (ascii "telemetry") (ascii "telemetry") {} readTelemetry
  let triggers ← optSection root (ascii "triggers") (ascii "triggers") ({}, {}) readTriggers
  let adaptive ← optSection root (ascii "adaptive") (ascii "adaptive") {} readAdaptive
  let alerts ← optSection root (ascii "alerts") (ascii "alerts") {} (readAlerts os)
  let pins ← optSection root (ascii "identity") (ascii "identity") [] (readIdentities os)
  let coordination ← optSection root (ascii "coordination") (ascii "coordination") {}
    (readCoordination os)
  let security ← optSection root (ascii "security") (ascii "security") false readSecurity
  let auto ← optSection root (ascii "auto_protect") (ascii "auto_protect") {} readAutoProtect
  let dashboard ← optSection root (ascii "dashboard") (ascii "dashboard") {} readDashboard
  return { toPollingSettings := polling
           toThresholdSettings := thresholds
           toProcessSettings := processes
           toLoggingSettings := logging
           toTelemetrySettings := telemetry
           toMemorySettings := triggers.1
           toIoSettings := triggers.2
           toAdaptiveSection := adaptive
           toAlertSettings := alerts
           toCoordinationSettings := coordination
           toAutoSettings := auto
           toDashboardSettings := dashboard
           identities := pins
           requireProtectedConfig := security }

/-- `ParseConfig`. -/
def parseConfig (jsonText : Bytes) : Except ConfigError DaemonConfig :=
  match os.parse jsonText with
  | .error e => .error (ascii "config is not valid JSON: " ++ e)
  | .ok root =>
      if root.isObject then parseRoot os root else .error (ascii "config must be a JSON object")

end Sections

section Accepted

variable {os : Platform}

theorem field_eq_ok_iff (obj v : Json) (key path : Bytes) :
    field obj key path = .ok v ↔ member obj key = some v := by
  unfold field
  cases member obj key <;> simp

theorem object_eq_ok_iff (obj v : Json) (key path : Bytes) :
    object obj key path = .ok v ↔ member obj key = some v ∧ v.isObject = true := by
  simp only [object, bind_eq_ok_iff, field_eq_ok_iff]
  constructor
  · rintro ⟨w, hw, h⟩
    split_ifs at h with hobject
    cases h
    exact ⟨hw, hobject⟩
  · rintro ⟨hv, hobject⟩
    exact ⟨v, hv, by rw [if_pos hobject]⟩

/-- An accepted integer is in its range. -/
theorem integerOf_eq_ok (v : Json) (path : Bytes) (min max x : Int)
    (h : integerOf v path min max = .ok x) : min ≤ x ∧ x ≤ max := by
  cases v with
  | integer n =>
      simp only [integerOf] at h
      -- The value is compared after it was converted, so the bounds are those of the result.
      split_ifs at h with hrange
      cases h
      omega
  | discarded => cases h
  | null => cases h
  | boolean b => cases h
  | float y => cases h
  | string s => cases h
  | array elements => cases h
  | object members => cases h

/-- An accepted number is in its range. -/
theorem optNumber_eq_ok (obj : Json) (key path : Bytes) (min max default x : Rat)
    (hdefault : min ≤ default ∧ default ≤ max)
    (h : optNumber obj key path min max default = .ok x) : min ≤ x ∧ x ≤ max := by
  unfold optNumber at h
  split at h
  · cases h
    exact hdefault
  · split at h
    · cases h
    · split_ifs at h with hrange
      cases h
      rw [not_or, not_lt, not_lt] at hrange
      exact hrange

/-- An accepted section is missing, or it is what its reader accepted. -/
theorem optSection_eq_ok {σ : Type} (obj : Json) (key path : Bytes) (default x : σ)
    (read : Json → Except ConfigError σ) (h : optSection obj key path default read = .ok x) :
    x = default ∨ ∃ s, read s = .ok x := by
  unfold optSection at h
  rw [bind_eq_ok_iff] at h
  rcases h with ⟨o, _, h⟩
  cases o with
  | none =>
      cases h
      exact Or.inl rfl
  | some s => exact Or.inr ⟨s, h⟩

/-- An accepted document, section by section. -/
theorem parseRoot_eq_ok (root : Json) (cfg : DaemonConfig) (h : parseRoot os root = .ok cfg) :
    parseThresholds root = .ok cfg.toThresholdSettings ∧
      parseProcesses os root = .ok cfg.toProcessSettings ∧
      optSection root (ascii "adaptive") (ascii "adaptive") {} readAdaptive
        = .ok cfg.toAdaptiveSection ∧
      optSection root (ascii "identity") (ascii "identity") [] (readIdentities os)
        = .ok cfg.identities := by
  simp only [parseRoot, bind_eq_ok_iff] at h
  rcases h with ⟨polling, _, thresholds, hthresholds, processes, hprocesses, logging, _,
    telemetry, _, triggers, _, adaptive, hadaptive, alerts, _, pins, hpins, coordination, _,
    security, _, auto, _, dashboard, _, h⟩
  cases h
  exact ⟨hthresholds, hprocesses, hadaptive, hpins⟩

theorem parseConfig_eq_ok (jsonText : Bytes) (cfg : DaemonConfig)
    (h : parseConfig os jsonText = .ok cfg) : ∃ root, parseRoot os root = .ok cfg := by
  unfold parseConfig at h
  split at h
  · cases h
  · split_ifs at h
    exact ⟨_, h⟩

/-- Recovery lies below throttling, and throttling not above suspension. -/
theorem thresholds_sound (jsonText : Bytes) (cfg : DaemonConfig)
    (h : parseConfig os jsonText = .ok cfg) :
    cfg.low.percent < cfg.high.percent ∧ cfg.high.percent ≤ cfg.critical.percent := by
  rcases parseConfig_eq_ok jsonText cfg h with ⟨root, hroot⟩
  have hsection := (parseRoot_eq_ok root cfg hroot).1
  simp only [parseThresholds, bind_eq_ok_iff] at hsection
  rcases hsection with ⟨t, _, high, _, critical, _, low, _, hsection⟩
  split_ifs at hsection with hcritical hlow
  simp only [pure, Except.pure, Except.ok.injEq] at hsection
  rw [← hsection]
  exact ⟨not_le.mp hlow, not_lt.mp hcritical⟩

theorem threshold_eq_ok (thresholds : Json) (key : Bytes) (t : ThresholdSpec)
    (h : threshold thresholds key = .ok t) :
    1 ≤ t.consecutiveSamples ∧ t.consecutiveSamples ≤ 100 := by
  simp only [threshold, bind_eq_ok_iff] at h
  rcases h with ⟨obj, _, p, _, n, hn, h⟩
  simp only [pure, Except.pure, Except.ok.injEq] at h
  rw [← h]
  rw [integer, bind_eq_ok_iff] at hn
  rcases hn with ⟨v, _, hn⟩
  exact integerOf_eq_ok v _ 1 100 n hn

/-- The three counts of samples are between one and a hundred. -/
theorem samples_range (jsonText : Bytes) (cfg : DaemonConfig)
    (h : parseConfig os jsonText = .ok cfg) :
    ∀ t ∈ [cfg.high, cfg.critical, cfg.low],
      1 ≤ t.consecutiveSamples ∧ t.consecutiveSamples ≤ 100 := by
  rcases parseConfig_eq_ok jsonText cfg h with ⟨root, hroot⟩
  have hsection := (parseRoot_eq_ok root cfg hroot).1
  simp only [parseThresholds, bind_eq_ok_iff] at hsection
  rcases hsection with ⟨t, _, high, hhigh, critical, hcritical, low, hlow, hsection⟩
  -- The order of the three thresholds is checked last and does not matter here.
  split_ifs at hsection
  simp only [pure, Except.pure, Except.ok.injEq] at hsection
  rw [← hsection]
  simp only [List.forall_mem_cons]
  exact ⟨threshold_eq_ok t _ high hhigh, threshold_eq_ok t _ critical hcritical,
    threshold_eq_ok t _ low hlow, fun _ ht => absurd ht List.not_mem_nil⟩

/-- The cap of the adjustment is a percentage. -/
theorem adaptive_range (jsonText : Bytes) (cfg : DaemonConfig)
    (h : parseConfig os jsonText = .ok cfg) :
    0 ≤ cfg.adaptiveMaxAdjustPercent ∧ cfg.adaptiveMaxAdjustPercent ≤ 50 := by
  rcases parseConfig_eq_ok jsonText cfg h with ⟨root, hroot⟩
  rcases optSection_eq_ok _ _ _ _ _ _ (parseRoot_eq_ok root cfg hroot).2.2.1 with
    hdefault | ⟨a, hread⟩
  · -- Without the section the default stands, and it is in range.
    rw [show cfg.adaptiveMaxAdjustPercent = 10 from
      congrArg AdaptiveSection.adaptiveMaxAdjustPercent hdefault]
    norm_num
  · simp only [readAdaptive, bind_eq_ok_iff] at hread
    rcases hread with ⟨enabled, _, window, _, horizon, _, maxAdjust, hmax, hread⟩
    simp only [pure, Except.pure, Except.ok.injEq] at hread
    rw [← hread]
    exact optNumber_eq_ok a _ _ 0 50 10 maxAdjust (by norm_num) hmax

/-- No name is both critical and batch. -/
theorem disjoint_names (jsonText : Bytes) (cfg : DaemonConfig)
    (h : parseConfig os jsonText = .ok cfg) (c : WString) (hc : c ∈ cfg.criticalProcesses)
    (b : WString) (hb : b ∈ cfg.batchProcesses) : namesEqualIgnoreCase os.host c b = false := by
  rcases parseConfig_eq_ok jsonText cfg h with ⟨root, hroot⟩
  have hsection := (parseRoot_eq_ok root cfg hroot).2.1
  simp only [parseProcesses, bind_eq_ok_iff] at hsection
  rcases hsection with ⟨processes, _, _, _, criticalNames, _, _, _, batchNames, _, _, _, hsection⟩
  -- The last check looks for a name of the first list in the second.
  split at hsection
  · cases hsection
  · next hnone =>
    simp only [pure, Except.pure, Except.ok.injEq] at hsection
    rw [← hsection] at hc hb
    have hno := List.find?_eq_none.mp hnone c hc
    rw [Bool.not_eq_true, List.any_eq_false] at hno
    exact Bool.eq_false_iff.mpr (hno b hb)

theorem identityOf_eq_ok (name : Bytes) (spec : Json) (pin : PinnedIdentity)
    (h : identityOf os name spec = .ok pin) : pin.path ≠ [] ∨ pin.publisher ≠ [] := by
  simp only [identityOf] at h
  split_ifs at h
  simp only [bind_eq_ok_iff] at h
  rcases h with ⟨wideName, _, path, _, widePath, _, publisher, _, widePublisher, _, h⟩
  split_ifs at h with hempty hpath
  simp only [pure, Except.pure, Except.ok.injEq] at h
  rw [← h]
  by_contra hboth
  rw [not_or, not_not, not_not] at hboth
  exact hempty hboth

theorem identitiesOf_eq_ok (items : List (Bytes × Json)) (pins : List PinnedIdentity)
    (h : identitiesOf os items = .ok pins) :
    ∀ pin ∈ pins, pin.path ≠ [] ∨ pin.publisher ≠ [] := by
  induction items generalizing pins with
  | nil =>
      cases h
      exact fun pin hpin => absurd hpin List.not_mem_nil
  | cons item items ih =>
      rcases item with ⟨name, spec⟩
      simp only [identitiesOf, bind_eq_ok_iff] at h
      rcases h with ⟨first, hfirst, rest, hrest, h⟩
      simp only [pure, Except.pure, Except.ok.injEq] at h
      rw [← h]
      intro pin hpin
      -- Each pin was checked when its own member was read.
      rcases List.mem_cons.mp hpin with rfl | hpin
      · exact identityOf_eq_ok name spec pin hfirst
      · exact ih rest hrest pin hpin

/-- Every pin asks for something. -/
theorem pins_ask (jsonText : Bytes) (cfg : DaemonConfig) (h : parseConfig os jsonText = .ok cfg) :
    ∀ pin ∈ cfg.identities, pin.path ≠ [] ∨ pin.publisher ≠ [] := by
  rcases parseConfig_eq_ok jsonText cfg h with ⟨root, hroot⟩
  rcases optSection_eq_ok _ _ _ _ _ _ (parseRoot_eq_ok root cfg hroot).2.2.2 with
    hdefault | ⟨id, hread⟩
  · rw [hdefault]
    exact fun pin hpin => absurd hpin List.not_mem_nil
  · unfold readIdentities at hread
    split at hread
    · exact identitiesOf_eq_ok _ _ hread
    · rw [← Except.ok.inj hread]
      exact fun pin hpin => absurd hpin List.not_mem_nil

end Accepted

end Config

end ThreadHaul
