import ThreadHaul.Config.Parse
import ThreadHaul.Lib.OrderedMap

/-!
# What Reading a Configuration Can Throw

`ParseConfig` once more, with every call into the JSON library that can throw.

The library throws when a text cannot be parsed, in two ways, and when a value is
taken for a type it does not have. A reader looks at the type before it takes
the value, and so no exception of the library comes out of it. That is one lemma
for each reader, and `parseConfig_eq` for the whole: the function throws what
`Config.parseConfig` says, and nothing else.

A document that is read for a configuration keeps the members of an object in
the order of their keys, and a document that is read to be edited in the order
of the text.

## Main definitions

* `ParseException`, `Thrown`: What can be thrown.
* `Json.sorted`: The document in the order of the keys.
* `Library`: What the operating system and the JSON library do.
* `parseConfig`: `ParseConfig`.

## Theorems

* `member_sorted`: A member is found in either order.
* `parseConfig_eq`: Only `ConfigError` is thrown.
-/

namespace ThreadHaul

/-- What the parser throws, with its text: for bad syntax, and for a number that
    no `double` holds. -/
inductive ParseException
  | parseError (what : Bytes)
  | outOfRange (what : Bytes)

/-- The text of an exception. -/
def ParseException.what : ParseException → Bytes
  | .parseError what => what
  | .outOfRange what => what

namespace Json

/-- `is_number_integer()`. -/
def isNumberInteger : Json → Bool
  | integer _ => true
  | _ => false

/-- `is_boolean`. -/
def isBoolean : Json → Bool
  | boolean _ => true
  | _ => false

/-- `is_array`. -/
def isArray : Json → Bool
  | array _ => true
  | _ => false

/-- `get<long long>()`. -/
def getLongLong : Json → Except JsonError Int
  | boolean b => .ok (if b then 1 else 0)
  | integer n => .ok (Int64.ofInt n).toInt
  | float x => .ok (Int64.ofInt (x.num.tdiv x.den)).toInt
  | _ => .error .wrongType

/-- The elements, by `operator[]`. -/
def getElements : Json → Except JsonError (List Json)
  | array elements => .ok elements
  | _ => .error .wrongType

mutual

/-- The value with the members of its objects in the order of their keys. -/
def sorted : Json → Json
  | array elements => array (sortedElements elements)
  | object members => object (sortedMembers members)
  | discarded => discarded
  | null => null
  | boolean b => boolean b
  | integer n => integer n
  | float x => float x
  | string s => string s

/-- The elements of an array, each with its members in order. -/
def sortedElements : List Json → List Json
  | [] => []
  | j :: elements => j.sorted :: sortedElements elements

/-- The members of an object in the order of their keys, the last one of a key counting. -/
def sortedMembers : List (Bytes × Json) → List (Bytes × Json)
  | [] => []
  | (key, j) :: members => OrderedMap.assign (sortedMembers members) key j.sorted

end

theorem sortedElements_eq (elements : List Json) :
    sortedElements elements = elements.map sorted := by
  induction elements with
  | nil => rfl
  | cons j elements ih => rw [sortedElements, ih, List.map_cons]

theorem find_sortedMembers (members : List (Bytes × Json)) (key : Bytes) :
    find (sortedMembers members) key = (find members key).map sorted := by
  unfold find
  induction members with
  | nil => rfl
  | cons m members ih =>
      rw [sortedMembers, OrderedMap.lookup_assign, ih, List.lookup_cons]
      by_cases hkey : key = m.1
      · simp [hkey]
      · simp [hkey, beq_eq_false_iff_ne.mpr hkey]

theorem isObject_iff (j : Json) : j.isObject = true ↔ ∃ members, j = object members := by
  cases j <;> simp [isObject]

theorem isArray_iff (j : Json) : j.isArray = true ↔ ∃ elements, j = array elements := by
  cases j <;> simp [isArray]

theorem sorted_eq_object_iff (j : Json) (members : List (Bytes × Json)) :
    j.sorted = object members ↔ ∃ ms, j = object ms ∧ sortedMembers ms = members := by
  cases j <;> simp [sorted]

theorem isObject_sorted (j : Json) : j.sorted.isObject = j.isObject := by
  cases j <;> simp [sorted, isObject]

end Json

namespace Config

/-- What can be thrown. -/
inductive Thrown
  | config (message : ConfigError)
  | parsing (e : ParseException)
  | access (e : JsonError)

/-- A member is found in either order. -/
theorem member_sorted (j : Json) (key : Bytes) :
    member j.sorted key = (member j key).map Json.sorted := by
  cases j with
  | object members => exact Json.find_sortedMembers members key
  | discarded => rfl
  | null => rfl
  | boolean b => rfl
  | integer n => rfl
  | float x => rfl
  | string s => rfl
  | array elements => rfl

/-- What the operating system and the JSON library do. -/
structure Library where
  host : Actuator.Host
  /-- `parse`, with the members of an object in the order of the text. -/
  parse : Bytes → Except ParseException Json
  /-- The text that `dump(2)` writes. -/
  write : Json → Bytes
  /-- `MultiByteToWideChar` with `MB_ERR_INVALID_CHARS`. -/
  toWide : Bytes → Option WString
  /-- `WideCharToMultiByte`. -/
  toUtf8 : WString → Bytes
  /-- `UnprotectSecret`, with its error. -/
  unprotectSecret : Bytes → Except Bytes Bytes

/-- What `ParseConfig` uses of it. -/
def Library.platform (lib : Library) : Platform where
  host := lib.host
  parse text :=
    match lib.parse text with
    | .ok j => .ok j.sorted
    | .error e => .error e.what
  toWide := lib.toWide
  toUtf8 := lib.toUtf8
  unprotectSecret := lib.unprotectSecret

namespace Throwing

open Actuator

/-- The throws of code that only throws `ConfigError`. -/
def lift {α : Type} : Except ConfigError α → Except Thrown α
  | .ok a => .ok a
  | .error message => .error (.config message)

/-- A typed access. -/
def access {α : Type} : Except JsonError α → Except Thrown α
  | .ok a => .ok a
  | .error e => .error (.access e)

/-- `ConfigError` is thrown. -/
def fail {α : Type} (message : ConfigError) : Except Thrown α := .error (.config message)

section Lift

variable {α β : Type}

@[simp] theorem lift_bind (x : Except ConfigError α) (f : α → Except ConfigError β) :
    lift (x >>= f) = lift x >>= fun a => lift (f a) := by
  cases x <;> rfl

@[simp] theorem lift_ok (a : α) : lift (.ok a : Except ConfigError α) = .ok a := rfl

@[simp] theorem lift_pure (a : α) : lift (pure a : Except ConfigError α) = pure a := rfl

@[simp] theorem lift_error (message : ConfigError) :
    lift (.error message : Except ConfigError α) = fail message := rfl

@[simp] theorem lift_ite (c : Prop) [Decidable c] (x y : Except ConfigError α) :
    lift (if c then x else y) = if c then lift x else lift y := apply_ite lift c x y

end Lift

section Readers

/-- `Integer`. -/
def integer (obj : Json) (key path : Bytes) (min max : Int) : Except Thrown Int := do
  let v ← lift (field obj key path)
  if !v.isNumberInteger then fail (path ++ ascii " must be an integer")
  else do
    let x ← access v.getLongLong
    if x < min ∨ max < x then
      fail (path ++ ascii " must be between " ++ showInt min ++ ascii " and " ++ showInt max ++
        ascii ", got " ++ showInt x)
    else return x

/-- `Percent`. -/
def percent (obj : Json) (key path : Bytes) : Except Thrown Rat := do
  let v ← lift (field obj key path)
  if !v.isNumber then fail (path ++ ascii " must be a number")
  else do
    let x ← access v.getDouble
    if 0 < x ∧ x ≤ 100 then return x
    else fail (path ++ ascii " must be greater than 0 and at most 100")

/-- One turn of the loop of `NameList`. -/
def nameOf (os : Platform) (item : Bytes) (v : Json) : Except Thrown WString := do
  if !v.isString then fail (item ++ ascii " must be a string")
  else do
    let name ← access v.getString
    if name = [] then fail (item ++ ascii " must not be empty")
    else if name.any fun c => c == 92 || c == 47 then
      fail (item ++ ascii " must be an executable name such as \"app.exe\", not a path")
    else lift (utf8ToWide os name)

/-- The loop over the names of a list. -/
def namesFrom (os : Platform) (path : Bytes) : List Json → Nat → Except Thrown (List WString)
  | [], _ => .ok []
  | v :: rest, i => do
      let name ← nameOf os (path ++ ascii "[" ++ Decimal.decimal i ++ ascii "]") v
      let names ← namesFrom os path rest (i + 1)
      return name :: names

/-- `NameList`. -/
def nameList (os : Platform) (v : Json) (path : Bytes) : Except Thrown (List WString) := do
  if !v.isArray then fail (path ++ ascii " must be an array of process names")
  else do
    let elements ← access v.getElements
    namesFrom os path elements 0

/-- `Threshold`. -/
def threshold (thresholds : Json) (key : Bytes) : Except Thrown ThresholdSpec := do
  let path := ascii "thresholds." ++ key
  let t ← lift (object thresholds key path)
  let p ← percent t (ascii "percent") (path ++ ascii ".percent")
  let n ← integer t (ascii "consecutive_samples") (path ++ ascii ".consecutive_samples") 1 100
  return { percent := p, consecutiveSamples := n }

/-- `OptBool`. -/
def optBool (obj : Json) (key path : Bytes) (default : Bool) : Except Thrown Bool :=
  match member obj key with
  | none => return default
  | some v =>
      if !v.isBoolean then fail (path ++ ascii " must be true or false") else access v.getBool

/-- `OptInteger`. -/
def optInteger (obj : Json) (key path : Bytes) (min max default : Int) : Except Thrown Int :=
  if (member obj key).isSome then integer obj key path min max else return default

/-- `OptNumber`. -/
def optNumber (obj : Json) (key path : Bytes) (min max default : Rat) : Except Thrown Rat :=
  match member obj key with
  | none => return default
  | some v =>
      if !v.isNumber then fail (path ++ ascii " must be a number")
      else do
        let x ← access v.getDouble
        if x < min ∨ max < x then
          fail (path ++ ascii " must be between " ++ showDouble min ++ ascii " and " ++
            showDouble max)
        else return x

/-- `OptString`. -/
def optString (obj : Json) (key path default : Bytes) : Except Thrown Bytes :=
  match member obj key with
  | none => return default
  | some v =>
      if !v.isString then fail (path ++ ascii " must be a string") else access v.getString

/-- A section that may be missing. -/
def optSection {σ : Type} (obj : Json) (key path : Bytes) (default : σ)
    (read : Json → Except Thrown σ) : Except Thrown σ := do
  match ← lift (optObject obj key path) with
  | none => return default
  | some s => read s

/-! Each reader looks at the type first. -/

@[simp] theorem integer_eq (obj : Json) (key path : Bytes) (min max : Int) :
    integer obj key path min max = lift (Config.integer obj key path min max) := by
  unfold integer Config.integer
  rw [lift_bind]
  congr 1
  funext v
  cases v <;> simp [integerOf, Json.isNumberInteger, Json.getLongLong, access, pure, Except.pure,
    bind, Except.bind]

@[simp] theorem percent_eq (obj : Json) (key path : Bytes) :
    percent obj key path = lift (Config.percent obj key path) := by
  unfold percent Config.percent
  rw [lift_bind]
  congr 1
  funext v
  cases v <;> simp [Json.isNumber, Json.getDouble, access, pure, Except.pure, bind, Except.bind]

@[simp] theorem nameOf_eq (os : Platform) (item : Bytes) (v : Json) :
    nameOf os item v = lift (Config.nameOf os item v) := by
  cases v <;> simp [nameOf, Config.nameOf, Json.isString, Json.getString, access, bind, Except.bind]

@[simp] theorem namesFrom_eq (os : Platform) (path : Bytes) (elements : List Json) (i : Nat) :
    namesFrom os path elements i = lift (Config.namesFrom os path elements i) := by
  induction elements generalizing i with
  | nil => rfl
  | cons v rest ih =>
      simp only [namesFrom, Config.namesFrom, nameOf_eq, ih, lift_bind, lift_pure]

@[simp] theorem nameList_eq (os : Platform) (v : Json) (path : Bytes) :
    nameList os v path = lift (Config.nameList os v path) := by
  cases v <;> simp [nameList, Config.nameList, Json.isArray, Json.getElements, access, bind,
    Except.bind]

@[simp] theorem threshold_eq (thresholds : Json) (key : Bytes) :
    threshold thresholds key = lift (Config.threshold thresholds key) := by
  simp only [threshold, Config.threshold, percent_eq, integer_eq, lift_bind, lift_pure]

@[simp] theorem optBool_eq (obj : Json) (key path : Bytes) (default : Bool) :
    optBool obj key path default = lift (Config.optBool obj key path default) := by
  unfold optBool Config.optBool
  rcases member obj key with _ | v
  · rfl
  · cases v <;> rfl

@[simp] theorem optInteger_eq (obj : Json) (key path : Bytes) (min max default : Int) :
    optInteger obj key path min max default
      = lift (Config.optInteger obj key path min max default) := by
  unfold optInteger Config.optInteger
  rw [integer_eq]
  unfold Config.integer field
  rcases hmember : member obj key with _ | v
  · rfl
  · rfl

@[simp] theorem optNumber_eq (obj : Json) (key path : Bytes) (min max default : Rat) :
    optNumber obj key path min max default
      = lift (Config.optNumber obj key path min max default) := by
  unfold optNumber Config.optNumber
  rcases member obj key with _ | v
  · rfl
  · cases v <;> simp [Json.isNumber, Json.getDouble, access, pure, Except.pure, bind, Except.bind]

@[simp] theorem optString_eq (obj : Json) (key path default : Bytes) :
    optString obj key path default = lift (Config.optString obj key path default) := by
  unfold optString Config.optString
  rcases member obj key with _ | v
  · rfl
  · cases v <;> rfl

@[simp] theorem optSection_eq {σ : Type} (obj : Json) (key path : Bytes) (default : σ)
    (read : Json → Except ConfigError σ) :
    optSection obj key path default (fun s => lift (read s))
      = lift (Config.optSection obj key path default read) := by
  unfold optSection Config.optSection
  rw [lift_bind]
  congr 1
  funext o
  cases o <;> rfl

end Readers

section Sections

variable (os : Platform)

/-- Reading `polling`. -/
def parsePolling (root : Json) : Except Thrown PollingSettings := do
  let polling ← lift (object root (ascii "polling") (ascii "polling"))
  let n ← integer polling (ascii "interval_ms") (ascii "polling.interval_ms") 100 60000
  return { pollIntervalMs := n }

/-- Reading `thresholds`. -/
def parseThresholds (root : Json) : Except Thrown ThresholdSettings := do
  let thresholds ← lift (object root (ascii "thresholds") (ascii "thresholds"))
  let high ← threshold thresholds (ascii "high")
  let critical ← threshold thresholds (ascii "critical")
  let low ← threshold thresholds (ascii "low")
  if critical.percent < high.percent then
    fail (ascii "thresholds.critical.percent must be at least thresholds.high.percent")
  else if high.percent ≤ low.percent then
    fail (ascii "thresholds.low.percent must be below thresholds.high.percent")
  else return { high := high, critical := critical, low := low }

/-- The list of protected names may be missing. -/
def parseProtected (processes : Json) : Except Thrown (List WString) :=
  match member processes (ascii "protected") with
  | none => .ok []
  | some v => nameList os v (ascii "processes.protected")

/-- Reading `processes`. -/
def parseProcesses (root : Json) : Except Thrown ProcessSettings := do
  let processes ← lift (object root (ascii "processes") (ascii "processes"))
  let criticalList ← lift (field processes (ascii "critical") (ascii "processes.critical"))
  let criticalNames ← nameList os criticalList (ascii "processes.critical")
  let batchList ← lift (field processes (ascii "batch") (ascii "processes.batch"))
  let batchNames ← nameList os batchList (ascii "processes.batch")
  let protectedNames ← parseProtected os processes
  -- The lists are compared once all three were read.
  match criticalNames.find? fun c => batchNames.any fun b => namesEqualIgnoreCase os.host c b with
  | some c => fail (ascii "\"" ++ os.toUtf8 c ++
      ascii "\" is listed in both processes.critical and processes.batch")
  | none =>
      return { criticalProcesses := criticalNames
               batchProcesses := batchNames
               protectedProcesses := protectedNames }

/-- The path of the log. -/
def logPathOf (v : Json) : Except Thrown WString := do
  if !v.isString then fail (ascii "logging.log_path must be a non-empty string")
  else do
    let path ← access v.getString
    if path = [] then fail (ascii "logging.log_path must be a non-empty string")
    else lift (utf8ToWide os path)

/-- Reading `logging`. -/
def parseLogging (root : Json) : Except Thrown LoggingSettings := do
  let logging ← lift (object root (ascii "logging") (ascii "logging"))
  let v ← lift (field logging (ascii "log_path") (ascii "logging.log_path"))
  let path ← logPathOf os v
  let size ← integer logging (ascii "max_file_size_mb") (ascii "logging.max_file_size_mb") 1 1024
  let files ←
    integer logging (ascii "max_rotated_files") (ascii "logging.max_rotated_files") 0 100
  return { logPath := path, maxFileSizeMb := size, maxRotatedFiles := files }

/-- Reading `telemetry`. -/
def readTelemetry (t : Json) : Except Thrown TelemetrySettings := do
  let norm ← optString t (ascii "cpu_normalization") (ascii "telemetry.cpu_normalization")
    (ascii "per_core")
  if norm ≠ ascii "per_core" ∧ norm ≠ ascii "total" then
    fail (ascii "telemetry.cpu_normalization must be \"per_core\" or \"total\"")
  else do
    let samples ← optBool t (ascii "log_samples") (ascii "telemetry.log_samples") true
    let interval ← optInteger t (ascii "self_monitor_interval_seconds")
      (ascii "telemetry.self_monitor_interval_seconds") 0 86400 30
    return { cpuPerCore := norm == ascii "per_core"
             logSamples := samples
             selfMonitorIntervalSec := interval }

/-- Reading `triggers.memory`. -/
def readMemory (m : Json) : Except Thrown MemorySettings := do
  let enabled ← optBool m (ascii "enabled") (ascii "triggers.memory.enabled") false
  let load ← optNumber m (ascii "system_load_limit_percent")
    (ascii "triggers.memory.system_load_limit_percent") 1 100 95
  let workingSet ← optNumber m (ascii "critical_working_set_limit_mb")
    (ascii "triggers.memory.critical_working_set_limit_mb") 0 1048576 0
  return { memoryTriggerEnabled := enabled
           systemMemoryLimitPercent := load
           criticalWorkingSetLimitMb := workingSet }

/-- Reading `triggers.io`. -/
def readIo (io : Json) : Except Thrown IoSettings := do
  let enabled ← optBool io (ascii "enabled") (ascii "triggers.io.enabled") false
  let limit ← optNumber io (ascii "critical_io_limit_mb_per_sec")
    (ascii "triggers.io.critical_io_limit_mb_per_sec") (1 / 10) 100000 200
  return { ioTriggerEnabled := enabled, criticalIoLimitMbPerSec := limit }

/-- Reading `triggers`. -/
def readTriggers (tr : Json) : Except Thrown (MemorySettings × IoSettings) := do
  let memory ← optSection tr (ascii "memory") (ascii "triggers.memory") {} readMemory
  let io ← optSection tr (ascii "io") (ascii "triggers.io") {} readIo
  return (memory, io)

/-- Reading `adaptive`. -/
def readAdaptive (a : Json) : Except Thrown AdaptiveSection := do
  let enabled ← optBool a (ascii "enabled") (ascii "adaptive.enabled") false
  let window ← optInteger a (ascii "window_samples") (ascii "adaptive.window_samples") 3 600 10
  let horizon ← optInteger a (ascii "horizon_samples") (ascii "adaptive.horizon_samples") 1 60 3
  let maxAdjust ← optNumber a (ascii "max_adjust_percent") (ascii "adaptive.max_adjust_percent")
    0 50 10
  return { adaptiveEnabled := enabled
           adaptiveWindowSamples := window
           adaptiveHorizonSamples := horizon
           adaptiveMaxAdjustPercent := maxAdjust }

/-- Reading `alerts`. -/
def readAlerts (al : Json) : Except Thrown AlertSettings := do
  let popup ← optBool al (ascii "popup") (ascii "alerts.popup") true
  let stored ← optString al (ascii "webhook_url") (ascii "alerts.webhook_url") []
  let url ← lift (secret os stored (ascii "alerts.webhook_url"))
  -- The scheme is that of the decrypted address.
  if url ≠ [] ∧ ¬ (ascii "http://").isPrefixOf url ∧ ¬ (ascii "https://").isPrefixOf url then
    fail (ascii "alerts.webhook_url must start with http:// or https://")
  else do
    let webhook ← lift (utf8ToWide os url)
    return { alertPopup := popup, alertWebhookUrl := webhook }

/-- One pin. -/
def identityOf (name : Bytes) (spec : Json) : Except Thrown PinnedIdentity := do
  let label := ascii "identity." ++ name
  if !isExecutableName name then
    fail (label ++ ascii ": key must be an executable name such as app.exe")
  else if !spec.isObject then fail (label ++ ascii " must be an object")
  else do
    let wideName ← lift (utf8ToWide os name)
    let path ← optString spec (ascii "path") (label ++ ascii ".path") []
    let widePath ← lift (utf8ToWide os path)
    let publisher ← optString spec (ascii "publisher") (label ++ ascii ".publisher") []
    let widePublisher ← lift (utf8ToWide os publisher)
    if widePath = [] ∧ widePublisher = [] then
      fail (label ++ ascii " needs a path, a publisher, or both")
    else if widePath ≠ [] ∧ !isFullPath widePath then
      fail (label ++ ascii ".path must be a full path such as C:\\\\Apps\\\\app.exe")
    else return { name := wideName, path := widePath, publisher := widePublisher }

/-- The loop over the pinned programs. -/
def identitiesOf : List (Bytes × Json) → Except Thrown (List PinnedIdentity)
  | [] => .ok []
  | (name, spec) :: items => do
      let pin ← identityOf os name spec
      let pins ← identitiesOf items
      return pin :: pins

/-- Reading `identity`. -/
def readIdentities (id : Json) : Except Thrown (List PinnedIdentity) :=
  match id with
  | .object members => identitiesOf os members
  -- `optSection` has seen to it that it is an object.
  | _ => .ok []

/-- Reading `coordination`. -/
def readCoordination (c : Json) : Except Thrown CoordinationSettings := do
  let enabled ← optBool c (ascii "enabled") (ascii "coordination.enabled") false
  let host ← optString c (ascii "controller_host") (ascii "coordination.controller_host")
    (ascii "127.0.0.1")
  let wideHost ← lift (utf8ToWide os host)
  let port ←
    optInteger c (ascii "controller_port") (ascii "coordination.controller_port") 1 65535 7878
  let stored ← optString c (ascii "shared_token") (ascii "coordination.shared_token") []
  let token ← lift (secret os stored (ascii "coordination.shared_token"))
  let heartbeat ←
    optInteger c (ascii "heartbeat_seconds") (ascii "coordination.heartbeat_seconds") 1 3600 5
  if enabled ∧ wideHost = [] then
    fail (ascii "coordination.controller_host must not be empty when enabled")
  else if enabled ∧ token.length < 16 then
    fail (ascii "coordination.shared_token must be at least 16 characters when enabled")
  else
    return { coordinationEnabled := enabled
             controllerHost := wideHost
             controllerPort := port
             sharedToken := token
             heartbeatSeconds := heartbeat }

/-- Reading `security`. -/
def readSecurity (sec : Json) : Except Thrown Bool :=
  optBool sec (ascii "require_protected_config") (ascii "security.require_protected_config") false

/-- Reading `auto_protect`. -/
def readAutoProtect (a : Json) : Except Thrown AutoSettings := do
  let enabled ← optBool a (ascii "enabled") (ascii "auto_protect.enabled") true
  let throttlePercent ← optNumber a (ascii "throttle_at_percent")
    (ascii "auto_protect.throttle_at_percent") 10 100 90
  let throttleSamples ← optInteger a (ascii "throttle_samples")
    (ascii "auto_protect.throttle_samples") 1 600 5
  let useIdle ← optBool a (ascii "use_idle") (ascii "auto_protect.use_idle") true
  let idlePercent ← optNumber a (ascii "idle_at_percent") (ascii "auto_protect.idle_at_percent")
    10 100 97
  let idleSamples ← optInteger a (ascii "idle_samples") (ascii "auto_protect.idle_samples")
    1 600 10
  let recoverPercent ← optNumber a (ascii "recover_below_percent")
    (ascii "auto_protect.recover_below_percent") 1 100 75
  let recoverSamples ← optInteger a (ascii "recover_samples")
    (ascii "auto_protect.recover_samples") 1 600 10
  let maxProcesses ← optInteger a (ascii "max_processes") (ascii "auto_protect.max_processes")
    1 50 3
  let minCpu ← optNumber a (ascii "min_process_cpu_percent")
    (ascii "auto_protect.min_process_cpu_percent") 1 6400 50
  if throttlePercent ≤ recoverPercent then
    fail (ascii
      "auto_protect.recover_below_percent must be below auto_protect.throttle_at_percent")
  else if useIdle ∧ idlePercent < throttlePercent then
    fail (ascii
      "auto_protect.idle_at_percent must be at least auto_protect.throttle_at_percent")
  else
    return { autoEnabled := enabled
             autoThrottlePercent := throttlePercent
             autoThrottleSamples := throttleSamples
             autoUseIdle := useIdle
             autoIdlePercent := idlePercent
             autoIdleSamples := idleSamples
             autoRecoverPercent := recoverPercent
             autoRecoverSamples := recoverSamples
             autoMaxProcesses := maxProcesses
             autoMinProcessCpuPercent := minCpu }

/-- Reading `dashboard`. -/
def readDashboard (d : Json) : Except Thrown DashboardSettings := do
  let enabled ← optBool d (ascii "enabled") (ascii "dashboard.enabled") true
  let port ← optInteger d (ascii "port") (ascii "dashboard.port") 1024 65535 8787
  return { dashboardEnabled := enabled, dashboardPort := port }

/-- The sections of a document in the order in which they are read. -/
def parseRoot (root : Json) : Except Thrown DaemonConfig := do
  let polling ← parsePolling root
  let thresholds ← parseThresholds root
  let processes ← parseProcesses os root
  let logging ← parseLogging os root
  let telemetry ← optSection root (ascii "telemetry") (ascii "telemetry") {} readTelemetry
  let triggers ← optSection root (ascii "triggers") (ascii "triggers") ({}, {}) readTriggers
  let adaptive ← optSection root (ascii "adaptive") (ascii "adaptive") {} readAdaptive
  let alerts ← optSection root (ascii "alerts") (ascii "alerts") {} (readAlerts os)
  let pins ← optSection root (ascii "identity") (ascii "identity") [] (readIdentities os)
  let coordination ← optSection root (ascii "coordination") (ascii "coordination") {}
    (readCoordination os)
  let security ← optSection root (ascii "security") (ascii "security") false readSecurity
  let auto ← optSection root (ascii "auto_protect") (ascii "auto_protect") {} readAutoProtect
  let dashboard ← optSection root (ascii "dashboard") (ascii "dashboard") {} readDashboard
  return { toPollingSettings := polling
           toThresholdSettings := thresholds
           toProcessSettings := processes
           toLoggingSettings := logging
           toTelemetrySettings := telemetry
           toMemorySettings := triggers.1
           toIoSettings := triggers.2
           toAdaptiveSection := adaptive
           toAlertSettings := alerts
           toCoordinationSettings := coordination
           toAutoSettings := auto
           toDashboardSettings := dashboard
           identities := pins
           requireProtectedConfig := security }

/-! No section throws anything else than its readers do. -/

@[simp] theorem parsePolling_eq (root : Json) :
    parsePolling root = lift (Config.parsePolling root) := by
  simp only [parsePolling, Config.parsePolling, integer_eq, lift_bind, lift_pure]

@[simp] theorem parseThresholds_eq (root : Json) :
    parseThresholds root = lift (Config.parseThresholds root) := by
  simp only [parseThresholds, Config.parseThresholds, threshold_eq, lift_bind, lift_pure, lift_ite,
    lift_error]

@[simp] theorem parseProtected_eq (processes : Json) :
    parseProtected os processes = lift (Config.parseProtected os processes) := by
  unfold parseProtected Config.parseProtected
  cases member processes (ascii "protected") with
  | none => rfl
  | some v => exact nameList_eq os v _

@[simp] theorem parseProcesses_eq (root : Json) :
    parseProcesses os root = lift (Config.parseProcesses os root) := by
  simp only [parseProcesses, Config.parseProcesses, nameList_eq, parseProtected_eq, lift_bind]
  congr! 12
  generalize List.find? _ _ = conflict
  cases conflict with
  | none => rfl
  | some c => rfl

@[simp] theorem logPathOf_eq (v : Json) : logPathOf os v = lift (Config.logPathOf os v) := by
  cases v with
  | string path => cases path <;> rfl
  | discarded => rfl
  | null => rfl
  | boolean b => rfl
  | integer n => rfl
  | float x => rfl
  | array elements => rfl
  | object members => rfl

@[simp] theorem parseLogging_eq (root : Json) :
    parseLogging os root = lift (Config.parseLogging os root) := by
  simp only [parseLogging, Config.parseLogging, logPathOf_eq, integer_eq, lift_bind, lift_pure]

@[simp] theorem readTelemetry_eq (t : Json) :
    readTelemetry t = lift (Config.readTelemetry t) := by
  simp only [readTelemetry, Config.readTelemetry, optString_eq, optBool_eq, optInteger_eq,
    lift_bind, lift_pure, lift_ite, lift_error]

@[simp] theorem readMemory_eq (m : Json) : readMemory m = lift (Config.readMemory m) := by
  simp only [readMemory, Config.readMemory, optBool_eq, optNumber_eq, lift_bind, lift_pure]

@[simp] theorem readIo_eq (io : Json) : readIo io = lift (Config.readIo io) := by
  simp only [readIo, Config.readIo, optBool_eq, optNumber_eq, lift_bind, lift_pure]

@[simp] theorem readTriggers_eq (tr : Json) : readTriggers tr = lift (Config.readTriggers tr) := by
  have hmemory : readMemory = fun m => lift (Config.readMemory m) := funext readMemory_eq
  have hio : readIo = fun io => lift (Config.readIo io) := funext readIo_eq
  simp only [readTriggers, Config.readTriggers, hmemory, hio, optSection_eq, lift_bind, lift_pure]

@[simp] theorem readAdaptive_eq (a : Json) : readAdaptive a = lift (Config.readAdaptive a) := by
  simp only [readAdaptive, Config.readAdaptive, optBool_eq, optInteger_eq, optNumber_eq, lift_bind,
    lift_pure]

@[simp] theorem readAlerts_eq (al : Json) : readAlerts os al = lift (Config.readAlerts os al) := by
  simp only [readAlerts, Config.readAlerts, optBool_eq, optString_eq, lift_bind, lift_pure,
    lift_ite, lift_error]

@[simp] theorem identityOf_eq (name : Bytes) (spec : Json) :
    identityOf os name spec = lift (Config.identityOf os name spec) := by
  simp only [identityOf, Config.identityOf, optString_eq, lift_bind, lift_pure, lift_ite,
    lift_error]

@[simp] theorem identitiesOf_eq (items : List (Bytes × Json)) :
    identitiesOf os items = lift (Config.identitiesOf os items) := by
  induction items with
  | nil => rfl
  | cons item items ih =>
      simp only [identitiesOf, Config.identitiesOf, identityOf_eq, ih, lift_bind, lift_pure]

@[simp] theorem readIdentities_eq (id : Json) :
    readIdentities os id = lift (Config.readIdentities os id) := by
  cases id with
  | object members => exact identitiesOf_eq os members
  | discarded => rfl
  | null => rfl
  | boolean b => rfl
  | integer n => rfl
  | float x => rfl
  | string s => rfl
  | array elements => rfl

@[simp] theorem readCoordination_eq (c : Json) :
    readCoordination os c = lift (Config.readCoordination os c) := by
  simp only [readCoordination, Config.readCoordination, optBool_eq, optString_eq, optInteger_eq,
    lift_bind, lift_pure, lift_ite, lift_error]

@[simp] theorem readAutoProtect_eq (a : Json) :
    readAutoProtect a = lift (Config.readAutoProtect a) := by
  simp only [readAutoProtect, Config.readAutoProtect, optBool_eq, optInteger_eq, optNumber_eq,
    lift_bind, lift_pure, lift_ite, lift_error]

@[simp] theorem readDashboard_eq (d : Json) :
    readDashboard d = lift (Config.readDashboard d) := by
  simp only [readDashboard, Config.readDashboard, optBool_eq, optInteger_eq, lift_bind, lift_pure]

theorem parseRoot_eq (root : Json) : parseRoot os root = lift (Config.parseRoot os root) := by
  -- The reader of each section is the lifted one; then the sequence of them is.
  have htelemetry : readTelemetry = fun t => lift (Config.readTelemetry t) :=
    funext readTelemetry_eq
  have htriggers : readTriggers = fun tr => lift (Config.readTriggers tr) := funext readTriggers_eq
  have hadaptive : readAdaptive = fun a => lift (Config.readAdaptive a) := funext readAdaptive_eq
  have halerts : readAlerts os = fun al => lift (Config.readAlerts os al) :=
    funext (readAlerts_eq os)
  have hidentities : readIdentities os = fun id => lift (Config.readIdentities os id) :=
    funext (readIdentities_eq os)
  have hcoordination : readCoordination os = fun c => lift (Config.readCoordination os c) :=
    funext (readCoordination_eq os)
  have hsecurity : readSecurity = fun sec => lift (Config.readSecurity sec) :=
    funext fun sec => optBool_eq sec _ _ _
  have hauto : readAutoProtect = fun a => lift (Config.readAutoProtect a) :=
    funext readAutoProtect_eq
  have hdashboard : readDashboard = fun d => lift (Config.readDashboard d) :=
    funext readDashboard_eq
  simp only [parseRoot, Config.parseRoot, htelemetry, htriggers, hadaptive, halerts, hidentities,
    hcoordination, hsecurity, hauto, hdashboard, parsePolling_eq, parseThresholds_eq,
    parseProcesses_eq, parseLogging_eq, optSection_eq, lift_bind, lift_pure]

end Sections

/-- The document, for `ParseConfig`: every exception of the parser is caught. -/
def parseDocument (lib : Library) (jsonText : Bytes) : Except Thrown Json :=
  match lib.parse jsonText with
  | .ok j => .ok j.sorted
  -- `catch (const json::exception& e)`
  | .error e => fail (ascii "config is not valid JSON: " ++ e.what)

/-- `ParseConfig`. -/
def parseConfig (lib : Library) (jsonText : Bytes) : Except Thrown DaemonConfig := do
  let root ← parseDocument lib jsonText
  if !root.isObject then fail (ascii "config must be a JSON object")
  else parseRoot lib.platform root

/-- Only `ConfigError` is thrown. -/
theorem parseConfig_eq (lib : Library) (jsonText : Bytes) :
    parseConfig lib jsonText = lift (Config.parseConfig lib.platform jsonText) := by
  have hparse : lib.platform.parse jsonText = match lib.parse jsonText with
      | .ok j => .ok j.sorted
      | .error e => .error e.what := rfl
  unfold parseConfig parseDocument Config.parseConfig
  rw [hparse]
  rcases lib.parse jsonText with e | j
  · rfl
  · change (if !j.sorted.isObject then _ else _) = lift (if j.sorted.isObject then _ else _)
    rw [parseRoot_eq]
    cases j.sorted.isObject <;> rfl

end Throwing

end Config

end ThreadHaul
