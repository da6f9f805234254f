import Mathlib.Tactic.NormNum
import ThreadHaul.Config.Parse
import ThreadHaul.Lib.Transcode

/-!
# What an Accepted Configuration Promises

Every reader checks what it reads, and `Sound` is what the checks come to when a
whole document is accepted: each number is in its range and is the one in the
document or the default, and the rules between fields hold, also where one of
the two fields is a default.

An integer is converted to 64 bits before its range is checked. A literal that
only an unsigned number holds becomes negative that way, and no range has
negative numbers, so what is accepted is what was written.

The fields are listed, with where they are and their ranges, and there is one
lemma for each reader and one for each section.

## Main definitions

* `memberAt`: What is at a path.
* `IntegerField`, `NumberField`: A field, its range and its default.
* `integerFields`, `numberFields`: The fields.
* `Documented`: What is known of the operating system and the JSON library.
* `Sound`: What is promised.

## Theorems

* `integerOf_stored`: An accepted integer is the literal.
* `sections_of_parseRoot`: An accepted document, section by section.
* `sound_of_parseConfig`: The promise.
-/

namespace ThreadHaul

namespace Config

open Actuator

/-- The value at a path of keys. -/
def memberAt : Json → List Bytes → Option Json
  | j, [] => some j
  | j, key :: path => (member j key).bind fun v => memberAt v path

/-- An integer that must be in a range, and that may be missing if it has a
    default. -/
structure IntegerField where
  path : List Bytes
  min : Int
  max : Int
  default : Option Int
  value : DaemonConfig → Int

/-- A number that must be in a range. -/
structure NumberField where
  min : Rat
  max : Rat
  value : DaemonConfig → Rat

/-- The fields with integers. -/
def integerFields : List IntegerField :=
  [⟨[ascii "polling", ascii "interval_ms"], 100, 60000, none, fun c => c.pollIntervalMs⟩,
    ⟨[ascii "thresholds", ascii "high", ascii "consecutive_samples"], 1, 100, none,
      fun c => c.high.consecutiveSamples⟩,
    ⟨[ascii "thresholds", ascii "critical", ascii "consecutive_samples"], 1, 100, none,
      fun c => c.critical.consecutiveSamples⟩,
    ⟨[ascii "thresholds", ascii "low", ascii "consecutive_samples"], 1, 100, none,
      fun c => c.low.consecutiveSamples⟩,
    ⟨[ascii "logging", ascii "max_file_size_mb"], 1, 1024, none, fun c => c.maxFileSizeMb⟩,
    ⟨[ascii "logging", ascii "max_rotated_files"], 0, 100, none, fun c => c.maxRotatedFiles⟩,
    ⟨[ascii "telemetry", ascii "self_monitor_interval_seconds"], 0, 86400, some 30,
      fun c => c.selfMonitorIntervalSec⟩,
    ⟨[ascii "adaptive", ascii "window_samples"], 3, 600, some 10,
      fun c => c.adaptiveWindowSamples⟩,
    ⟨[ascii "adaptive", ascii "horizon_samples"], 1, 60, some 3,
      fun c => c.adaptiveHorizonSamples⟩,
    ⟨[ascii "coordination", ascii "controller_port"], 1, 65535, some 7878,
      fun c => c.controllerPort⟩,
    ⟨[ascii "coordination", ascii "heartbeat_seconds"], 1, 3600, some 5,
      fun c => c.heartbeatSeconds⟩,
    ⟨[ascii "auto_protect", ascii "throttle_samples"], 1, 600, some 5,
      fun c => c.autoThrottleSamples⟩,
    ⟨[ascii "auto_protect", ascii "idle_samples"], 1, 600, some 10, fun c => c.autoIdleSamples⟩,
    ⟨[ascii "auto_protect", ascii "recover_samples"], 1, 600, some 10,
      fun c => c.autoRecoverSamples⟩,
    ⟨[ascii "auto_protect", ascii "max_processes"], 1, 50, some 3, fun c => c.autoMaxProcesses⟩,
    ⟨[ascii "dashboard", ascii "port"], 1024, 65535, some 8787, fun c => c.dashboardPort⟩]

/-- The numbers with a range that includes its ends. -/
def numberFields : List NumberField :=
  [⟨1, 100, fun c => c.systemMemoryLimitPercent⟩,
    ⟨0, 1048576, fun c => c.criticalWorkingSetLimitMb⟩,
    ⟨1 / 10, 100000, fun c => c.criticalIoLimitMbPerSec⟩,
    ⟨0, 50, fun c => c.adaptiveMaxAdjustPercent⟩,
    ⟨10, 100, fun c => c.autoThrottlePercent⟩,
    ⟨10, 100, fun c => c.autoIdlePercent⟩,
    ⟨1, 100, fun c => c.autoRecoverPercent⟩,
    ⟨1, 6400, fun c => c.autoMinProcessCpuPercent⟩]

/-- The value is in the range, and it is the literal at the path, or the default
    if nothing is there. -/
structure FieldIs (root : Json) (path : List Bytes) (min max : Int) (default : Option Int)
    (x : Int) : Prop where
  range : min ≤ x ∧ x ≤ max
  literal : match memberAt root path with
    | some v => v = .integer x
    | none => default = some x

/-- The value is in the range, and it is the one in the document or the default. -/
def IntegerField.Holds (f : IntegerField) (root : Json) (cfg : DaemonConfig) : Prop :=
  FieldIs root f.path f.min f.max f.default (f.value cfg)

/-- The integers in the document are the ones that are stored in 64 bits, signed
    or unsigned. -/
def Stored (root : Json) : Prop :=
  ∀ path n, memberAt root path = some (.integer n) → -2 ^ 63 ≤ n ∧ n < 2 ^ 64

/-- What is known of the operating system and the JSON library. -/
structure Documented (os : Platform) : Prop where
  /-- A larger literal is read as a `double`. -/
  stored : ∀ text root, os.parse text = .ok root → Stored root
  /-- Text is not converted to nothing. -/
  nonempty : ∀ s w, s ≠ [] → os.toWide s = some w → w ≠ []
  /-- Only an ASCII byte becomes an ASCII character. -/
  onlyAscii : ∀ s w, os.toWide s = some w → ∀ u ∈ w, u < 128 → ∃ c ∈ s, c.toUInt16 = u

/-- The name of an executable: it is not empty and has no slash. -/
def IsName (name : WString) : Prop := name ≠ [] ∧ 47 ∉ name ∧ 92 ∉ name

/-- The names of a configuration. -/
def DaemonConfig.names (cfg : DaemonConfig) : List WString :=
  cfg.criticalProcesses ++ cfg.batchProcesses ++ cfg.protectedProcesses ++
    cfg.identities.map PinnedIdentity.name

/-- What holds of a configuration that is accepted. -/
structure Sound (os : Platform) (root : Json) (cfg : DaemonConfig) : Prop where
  integers : ∀ f ∈ integerFields, f.Holds root cfg
  numbers : ∀ f ∈ numberFields, f.min ≤ f.value cfg ∧ f.value cfg ≤ f.max
  thresholds : 0 < cfg.low.percent ∧ cfg.low.percent < cfg.high.percent ∧
    cfg.high.percent ≤ cfg.critical.percent ∧ cfg.critical.percent ≤ 100
  apart : ∀ c ∈ cfg.criticalProcesses, ∀ b ∈ cfg.batchProcesses,
    namesEqualIgnoreCase os.host c b = false
  names : ∀ name ∈ cfg.names, IsName name
  autoProtect : cfg.autoRecoverPercent < cfg.autoThrottlePercent ∧
    (cfg.autoUseIdle = true → cfg.autoThrottlePercent ≤ cfg.autoIdlePercent)
  coordination : cfg.coordinationEnabled = true →
    cfg.controllerHost ≠ [] ∧ 16 ≤ cfg.sharedToken.length

/-! ### The readers -/

section Readers

variable {os : Platform} {root obj : Json} {key path : Bytes}

@[simp] theorem memberAt_nil (j : Json) : memberAt j [] = some j := rfl

@[simp] theorem memberAt_cons (j : Json) (key : Bytes) (keys : List Bytes) :
    memberAt j (key :: keys) = (member j key).bind fun v => memberAt v keys := rfl

/-- What is below a value with stored integers has such integers. -/
theorem Stored.member {v : Json} (h : Stored obj) (hv : member obj key = some v) : Stored v := by
  intro keys n hn
  exact h (key :: keys) n (by rw [memberAt_cons, hv]; exact hn)

/-- An accepted integer is the literal: a literal of more than 63 bits becomes
    negative, and then it is not in the range. -/
theorem integerOf_stored (v : Json) (min max x : Int) (hv : Stored v) (hmin : 0 ≤ min)
    (h : integerOf v path min max = .ok x) : v = .integer x ∧ min ≤ x ∧ x ≤ max := by
  have hrange := integerOf_eq_ok v path min max x h
  cases v with
  | integer n =>
      have hn := hv [] n rfl
      simp only [integerOf] at h
      split_ifs at h with hout
      have hx : (Int64.ofInt n).toInt = x := Except.ok.inj h
      have hsize : (Int64.size : Int) = 2 ^ 64 := rfl
      rw [Int64.toInt_ofInt, Int.bmod_def, hsize] at hx
      -- `get<long long>` takes the literal modulo 2^64, and the range has no
      -- negative values.
      refine ⟨congrArg Json.integer ?_, hrange⟩
      omega
  | discarded => cases h
  | null => cases h
  | boolean b => cases h
  | float y => cases h
  | string s => cases h
  | array elements => cases h
  | object members => cases h

theorem object_eq_ok (v : Json) (h : object obj key path = .ok v) : member obj key = some v :=
  ((object_eq_ok_iff obj v key path).mp h).1

theorem integer_eq_ok (min max x : Int) (hobj : Stored obj) (hmin : 0 ≤ min)
    (h : integer obj key path min max = .ok x) : FieldIs obj [key] min max none x := by
  rw [integer, bind_eq_ok_iff] at h
  rcases h with ⟨v, hv, h⟩
  have hmember := (field_eq_ok_iff obj v key path).mp hv
  rcases integerOf_stored v min max x (hobj.member hmember) hmin h with ⟨rfl, hrange⟩
  exact ⟨hrange, by simp [hmember]⟩

theorem optInteger_eq_ok (min max default x : Int) (hobj : Stored obj) (hmin : 0 ≤ min)
    (hdefault : min ≤ default ∧ default ≤ max)
    (h : optInteger obj key path min max default = .ok x) :
    FieldIs obj [key] min max (some default) x := by
  unfold optInteger at h
  split at h
  · next hnone =>
    cases h
    exact ⟨hdefault, by simp [hnone]⟩
  · next v hmember =>
    rcases integerOf_stored v min max x (hobj.member hmember) hmin h with ⟨rfl, hrange⟩
    exact ⟨hrange, by simp [hmember]⟩

/-- A field of a section is a field of the document. -/
theorem FieldIs.under {keys : List Bytes} {min max x : Int} {default : Option Int} {v : Json}
    (h : FieldIs v keys min max default x) (hv : member obj key = some v) :
    FieldIs obj (key :: keys) min max default x := by
  refine ⟨h.range, ?_⟩
  rw [memberAt_cons, hv]
  exact h.literal

/-- A field of a section that is missing has its default. -/
theorem FieldIs.missing {keys : List Bytes} {min max x : Int} (hrange : min ≤ x ∧ x ≤ max)
    (hnone : member obj key = none) : FieldIs obj (key :: keys) min max (some x) x :=
  ⟨hrange, by simp [hnone]⟩

/-- A section that may be missing: it is, or it is read. -/
theorem optSection_cases {σ : Type} (default x : σ) (read : Json → Except ConfigError σ)
    (h : optSection obj key path default read = .ok x) :
    (member obj key = none ∧ x = default) ∨ ∃ s, member obj key = some s ∧ read s = .ok x := by
  rw [optSection, bind_eq_ok_iff] at h
  rcases h with ⟨o, ho, h⟩
  -- A section is missing or an object; anything else is refused.
  unfold optObject at ho
  split at ho
  · next hnone =>
    cases ho
    exact Or.inl ⟨hnone, (Except.ok.inj h).symm⟩
  · next v hv =>
    split_ifs at ho
    cases ho
    exact Or.inr ⟨v, hv, h⟩

theorem percent_eq_ok (x : Rat) (h : percent obj key path = .ok x) : 0 < x ∧ x ≤ 100 := by
  rw [percent, bind_eq_ok_iff] at h
  rcases h with ⟨v, _, h⟩
  split at h
  · cases h
  · split_ifs at h with hrange
    cases h
    exact hrange

/-- A name that is accepted has no slash, for no other byte becomes one. -/
theorem isName_of_bytes (hos : Documented os) (name : Bytes) (w : WString) (hname : name ≠ [])
    (hslash : (name.any fun c => c == 92 || c == 47) = false)
    (h : utf8ToWide os name = .ok w) : IsName w := by
  unfold utf8ToWide at h
  rw [if_neg hname] at h
  split at h
  · next w' hw =>
    cases h
    -- The byte that a slash comes from is a slash, and was refused.
    have hbyte : ∀ u : UInt16, u < 128 → u ∈ w → ∃ c ∈ name, c.toUInt16 = u :=
      fun u hu hmem => hos.onlyAscii name w hw u hmem hu
    rw [List.any_eq_false] at hslash
    refine ⟨hos.nonempty name w hname hw, ?_, ?_⟩
    · intro hmem
      rcases hbyte 47 (by decide) hmem with ⟨c, hc, heq⟩
      have h47 : c = 47 := UInt8.toUInt16_inj.mp heq
      exact hslash c hc (by simp [h47])
    · intro hmem
      rcases hbyte 92 (by decide) hmem with ⟨c, hc, heq⟩
      have h92 : c = 92 := UInt8.toUInt16_inj.mp heq
      exact hslash c hc (by simp [h92])
  · cases h

theorem nameOf_eq_ok (hos : Documented os) (item : Bytes) (v : Json) (w : WString)
    (h : nameOf os item v = .ok w) : IsName w := by
  cases v with
  -- The two checks of the source make the text a name.
  | string name =>
      simp only [nameOf] at h
      split_ifs at h with hempty hslash
      exact isName_of_bytes hos name w hempty (by simpa using hslash) h
  | discarded => cases h
  | null => cases h
  | boolean b => cases h
  | integer n => cases h
  | float y => cases h
  | array elements => cases h
  | object members => cases h

theorem namesFrom_eq_ok (hos : Documented os) (values : List Json) (i : Nat)
    (names : List WString) (h : namesFrom os path values i = .ok names) :
    ∀ name ∈ names, IsName name := by
  -- The index is only for the message of an error.
  induction values generalizing i names with
  | nil =>
      cases h
      exact fun name hname => absurd hname List.not_mem_nil
  | cons v values ih =>
      simp only [namesFrom, bind_eq_ok_iff] at h
      rcases h with ⟨first, hfirst, rest, hrest, h⟩
      cases h
      intro name hname
      rcases List.mem_cons.mp hname with rfl | hname
      · exact nameOf_eq_ok hos _ v name hfirst
      · exact ih (i + 1) rest hrest name hname

theorem nameList_eq_ok (hos : Documented os) (v : Json) (names : List WString)
    (h : nameList os v path = .ok names) : ∀ name ∈ names, IsName name := by
  unfold nameList at h
  split at h
  · exact namesFrom_eq_ok hos _ 0 names h
  · cases h

end Readers

/-! ### The sections -/

section Sections

variable {os : Platform} {root : Json}

/-- An accepted document, section by section. -/
structure Sections (os : Platform) (root : Json) (cfg : DaemonConfig) : Prop where
  polling : parsePolling root = .ok cfg.toPollingSettings
  thresholds : parseThresholds root = .ok cfg.toThresholdSettings
  processes : parseProcesses os root = .ok cfg.toProcessSettings
  logging : parseLogging os root = .ok cfg.toLoggingSettings
  telemetry : optSection root (ascii "telemetry") (ascii "telemetry") {} readTelemetry
    = .ok cfg.toTelemetrySettings
  triggers : optSection root (ascii "triggers") (ascii "triggers") ({}, {}) readTriggers
    = .ok (cfg.toMemorySettings, cfg.toIoSettings)
  adaptive : optSection root (ascii "adaptive") (ascii "adaptive") {} readAdaptive
    = .ok cfg.toAdaptiveSection
  identity : optSection root (ascii "identity") (ascii "identity") [] (readIdentities os)
    = .ok cfg.identities
  coordination : optSection root (ascii "coordination") (ascii "coordination") {}
    (readCoordination os) = .ok cfg.toCoordinationSettings
  autoProtect : optSection root (ascii "auto_protect") (ascii "auto_protect") {} readAutoProtect
    = .ok cfg.toAutoSettings
  dashboard : optSection root (ascii "dashboard") (ascii "dashboard") {} readDashboard
    = .ok cfg.toDashboardSettings

theorem sections_of_parseRoot (cfg : DaemonConfig) (h : parseRoot os root = .ok cfg) :
    Sections os root cfg := by
  simp only [parseRoot, bind_eq_ok_iff] at h
  rcases h with ⟨polling, hpolling, thresholds, hthresholds, processes, hprocesses, logging,
    hlogging, telemetry, htelemetry, triggers, htriggers, adaptive, hadaptive, alerts, _, pins,
    hpins, coordination, hcoordination, security, _, auto, hauto, dashboard, hdashboard, h⟩
  cases h
  exact ⟨hpolling, hthresholds, hprocesses, hlogging, htelemetry, htriggers, hadaptive, hpins,
    hcoordination, hauto, hdashboard⟩

theorem polling_sound (x : PollingSettings) (hroot : Stored root)
    (h : parsePolling root = .ok x) :
    FieldIs root [ascii "polling", ascii "interval_ms"] 100 60000 none x.pollIntervalMs := by
  simp only [parsePolling, bind_eq_ok_iff] at h
  rcases h with ⟨v, hv, n, hn, h⟩
  cases h
  have hmember := object_eq_ok v hv
  exact (integer_eq_ok 100 60000 n (hroot.member hmember) (by decide) hn).under hmember

theorem threshold_sound (thresholds : Json) (key : Bytes) (t : ThresholdSpec)
    (hstored : Stored thresholds) (h : threshold thresholds key = .ok t) :
    (0 < t.percent ∧ t.percent ≤ 100) ∧
      FieldIs thresholds [key, ascii "consecutive_samples"] 1 100 none t.consecutiveSamples := by
  simp only [threshold, bind_eq_ok_iff] at h
  rcases h with ⟨v, hv, p, hp, n, hn, h⟩
  cases h
  have hmember := object_eq_ok v hv
  exact ⟨percent_eq_ok p hp,
    (integer_eq_ok 1 100 n (hstored.member hmember) (by decide) hn).under hmember⟩

theorem thresholds_section_sound (x : ThresholdSettings) (hroot : Stored root)
    (h : parseThresholds root = .ok x) :
    (0 < x.low.percent ∧ x.low.percent < x.high.percent ∧ x.high.percent ≤ x.critical.percent ∧
        x.critical.percent ≤ 100) ∧
      FieldIs root [ascii "thresholds", ascii "high", ascii "consecutive_samples"] 1 100 none
        x.high.consecutiveSamples ∧
      FieldIs root [ascii "thresholds", ascii "critical", ascii "consecutive_samples"] 1 100 none
        x.critical.consecutiveSamples ∧
      FieldIs root [ascii "thresholds", ascii "low", ascii "consecutive_samples"] 1 100 none
        x.low.consecutiveSamples := by
  simp only [parseThresholds, bind_eq_ok_iff] at h
  rcases h with ⟨v, hv, high, hhigh, critical, hcritical, low, hlow, h⟩
  -- The two comparisons at the end order the percentages.
  split_ifs at h with hbelow habove
  cases h
  have hmember := object_eq_ok v hv
  have hstored := hroot.member hmember
  have hhigh' := threshold_sound v _ high hstored hhigh
  have hcritical' := threshold_sound v _ critical hstored hcritical
  have hlow' := threshold_sound v _ low hstored hlow
  exact ⟨⟨hlow'.1.1, not_le.mp habove, not_lt.mp hbelow, hcritical'.1.2⟩, hhigh'.2.under hmember,
    hcritical'.2.under hmember, hlow'.2.under hmember⟩

theorem processes_sound (hos : Documented os) (x : ProcessSettings)
    (h : parseProcesses os root = .ok x) :
    (∀ c ∈ x.criticalProcesses, ∀ b ∈ x.batchProcesses,
        namesEqualIgnoreCase os.host c b = false) ∧
      ∀ name ∈ x.criticalProcesses ++ x.batchProcesses ++ x.protectedProcesses, IsName name := by
  simp only [parseProcesses, bind_eq_ok_iff] at h
  rcases h with ⟨v, hv, criticalList, _, criticalNames, hcritical, batchList, _, batchNames,
    hbatch, protectedNames, hprotected, h⟩
  split at h
  · cases h
  · next hnone =>
    cases h
    refine ⟨fun c hc b hb => ?_, fun name hname => ?_⟩
    · -- A name in two lists would have been found.
      have hno := List.find?_eq_none.mp hnone c hc
      rw [Bool.not_eq_true, List.any_eq_false] at hno
      exact Bool.eq_false_iff.mpr (hno b hb)
    · rcases List.mem_append.mp hname with hname | hname
      · rcases List.mem_append.mp hname with hname | hname
        · exact nameList_eq_ok hos criticalList criticalNames hcritical name hname
        · exact nameList_eq_ok hos batchList batchNames hbatch name hname
      · -- The protected names may be missing; then the list is empty.
        unfold parseProtected at hprotected
        split at hprotected
        · cases hprotected
          exact absurd hname List.not_mem_nil
        · exact nameList_eq_ok hos _ protectedNames hprotected name hname

theorem logging_sound (x : LoggingSettings) (hroot : Stored root)
    (h : parseLogging os root = .ok x) :
    FieldIs root [ascii "logging", ascii "max_file_size_mb"] 1 1024 none x.maxFileSizeMb ∧
      FieldIs root [ascii "logging", ascii "max_rotated_files"] 0 100 none x.maxRotatedFiles := by
  simp only [parseLogging, bind_eq_ok_iff] at h
  rcases h with ⟨v, hv, _, _, path, _, size, hsize, files, hfiles, h⟩
  cases h
  have hmember := object_eq_ok v hv
  have hstored := hroot.member hmember
  exact ⟨(integer_eq_ok 1 1024 size hstored (by decide) hsize).under hmember,
    (integer_eq_ok 0 100 files hstored (by decide) hfiles).under hmember⟩

theorem telemetry_sound (x : TelemetrySettings) (hroot : Stored root)
    (h : optSection root (ascii "telemetry") (ascii "telemetry") {} readTelemetry = .ok x) :
    FieldIs root [ascii "telemetry", ascii "self_monitor_interval_seconds"] 0 86400 (some 30)
      x.selfMonitorIntervalSec := by
  rcases optSection_cases _ _ _ h with ⟨hnone, rfl⟩ | ⟨v, hv, hread⟩
  · exact FieldIs.missing (by decide) hnone
  · simp only [readTelemetry, bind_eq_ok_iff] at hread
    rcases hread with ⟨norm, _, hread⟩
    -- The other fields are read in between and can only fail.
    split_ifs at hread
    simp only [bind_eq_ok_iff] at hread
    rcases hread with ⟨samples, _, interval, hinterval, hread⟩
    cases hread
    exact (optInteger_eq_ok 0 86400 30 interval (hroot.member hv) (by decide) (by decide)
      hinterval).under hv

theorem memory_sound (x : MemorySettings) (triggers : Json)
    (h : optSection triggers (ascii "memory") (ascii "triggers.memory") {} readMemory = .ok x) :
    (1 ≤ x.systemMemoryLimitPercent ∧ x.systemMemoryLimitPercent ≤ 100) ∧
      0 ≤ x.criticalWorkingSetLimitMb ∧ x.criticalWorkingSetLimitMb ≤ 1048576 := by
  rcases optSection_cases _ _ _ h with ⟨_, rfl⟩ | ⟨v, _, hread⟩
  · norm_num
  · simp only [readMemory, bind_eq_ok_iff] at hread
    rcases hread with ⟨enabled, _, load, hload, workingSet, hworkingSet, hread⟩
    cases hread
    exact ⟨optNumber_eq_ok v _ _ 1 100 95 load (by norm_num) hload,
      optNumber_eq_ok v _ _ 0 1048576 0 workingSet (by norm_num) hworkingSet⟩

theorem io_sound (x : IoSettings) (triggers : Json)
    (h : optSection triggers (ascii "io") (ascii "triggers.io") {} readIo = .ok x) :
    1 / 10 ≤ x.criticalIoLimitMbPerSec ∧ x.criticalIoLimitMbPerSec ≤ 100000 := by
  rcases optSection_cases _ _ _ h with ⟨_, rfl⟩ | ⟨v, _, hread⟩
  · norm_num
  · simp only [readIo, bind_eq_ok_iff] at hread
    rcases hread with ⟨enabled, _, limit, hlimit, hread⟩
    cases hread
    exact optNumber_eq_ok v _ _ (1 / 10) 100000 200 limit (by norm_num) hlimit

theorem triggers_sound (x : MemorySettings × IoSettings)
    (h : optSection root (ascii "triggers") (ascii "triggers") ({}, {}) readTriggers = .ok x) :
    ((1 ≤ x.1.systemMemoryLimitPercent ∧ x.1.systemMemoryLimitPercent ≤ 100) ∧
        0 ≤ x.1.criticalWorkingSetLimitMb ∧ x.1.criticalWorkingSetLimitMb ≤ 1048576) ∧
      1 / 10 ≤ x.2.criticalIoLimitMbPerSec ∧ x.2.criticalIoLimitMbPerSec ≤ 100000 := by
  rcases optSection_cases _ _ _ h with ⟨_, rfl⟩ | ⟨v, _, hread⟩
  · norm_num
  · simp only [readTriggers, bind_eq_ok_iff] at hread
    rcases hread with ⟨memory, hmemory, io, hio, hread⟩
    cases hread
    exact ⟨memory_sound memory v hmemory, io_sound io v hio⟩

theorem adaptive_sound (x : AdaptiveSection) (hroot : Stored root)
    (h : optSection root (ascii "adaptive") (ascii "adaptive") {} readAdaptive = .ok x) :
    FieldIs root [ascii "adaptive", ascii "window_samples"] 3 600 (some 10)
        x.adaptiveWindowSamples ∧
      FieldIs root [ascii "adaptive", ascii "horizon_samples"] 1 60 (some 3)
        x.adaptiveHorizonSamples ∧
      0 ≤ x.adaptiveMaxAdjustPercent ∧ x.adaptiveMaxAdjustPercent ≤ 50 := by
  rcases optSection_cases _ _ _ h with ⟨hnone, rfl⟩ | ⟨v, hv, hread⟩
  · -- Without the section each field has its default.
    exact ⟨FieldIs.missing (by decide) hnone, FieldIs.missing (by decide) hnone, by norm_num⟩
  · simp only [readAdaptive, bind_eq_ok_iff] at hread
    rcases hread with ⟨enabled, _, window, hwindow, horizon, hhorizon, maxAdjust, hmax, hread⟩
    cases hread
    have hstored := hroot.member hv
    exact ⟨(optInteger_eq_ok 3 600 10 window hstored (by decide) (by decide) hwindow).under hv,
      (optInteger_eq_ok 1 60 3 horizon hstored (by decide) (by decide) hhorizon).under hv,
      optNumber_eq_ok v _ _ 0 50 10 maxAdjust (by norm_num) hmax⟩

theorem identityOf_sound (hos : Documented os) (name : Bytes) (spec : Json)
    (pin : PinnedIdentity) (h : identityOf os name spec = .ok pin) : IsName pin.name := by
  simp only [identityOf] at h
  split_ifs at h with hname
  simp only [bind_eq_ok_iff] at h
  rcases h with ⟨wideName, hwide, path, _, widePath, _, publisher, _, widePublisher, _, h⟩
  split_ifs at h
  cases h
  simp only [isExecutableName, Bool.not_eq_true', Bool.not_eq_false, Bool.and_eq_true,
    decide_eq_true_eq] at hname
  refine isName_of_bytes hos name wideName ?_ hname.1.2 hwide
  rintro rfl
  simp at hname

theorem identitiesOf_sound (hos : Documented os) (items : List (Bytes × Json))
    (pins : List PinnedIdentity) (h : identitiesOf os items = .ok pins) :
    ∀ pin ∈ pins, IsName pin.name := by
  induction items generalizing pins with
  | nil =>
      cases h
      exact fun pin hpin => absurd hpin List.not_mem_nil
  | cons item items ih =>
      simp only [identitiesOf, bind_eq_ok_iff] at h
      rcases h with ⟨first, hfirst, rest, hrest, h⟩
      cases h
      intro pin hpin
      -- The name of a pin is the key of its member, which is checked as it is read.
      rcases List.mem_cons.mp hpin with rfl | hpin
      · exact identityOf_sound hos item.1 item.2 pin hfirst
      · exact ih rest hrest pin hpin

theorem identities_sound (hos : Documented os) (pins : List PinnedIdentity)
    (h : optSection root (ascii "identity") (ascii "identity") [] (readIdentities os) = .ok pins) :
    ∀ pin ∈ pins, IsName pin.name := by
  rcases optSection_cases _ _ _ h with ⟨_, rfl⟩ | ⟨v, _, hread⟩
  · exact fun pin hpin => absurd hpin List.not_mem_nil
  · unfold readIdentities at hread
    split at hread
    · exact identitiesOf_sound hos _ pins hread
    · cases hread
      exact fun pin hpin => absurd hpin List.not_mem_nil

theorem coordination_sound (x : CoordinationSettings) (hroot : Stored root)
    (h : optSection root (ascii "coordination") (ascii "coordination") {} (readCoordination os)
      = .ok x) :
    FieldIs root [ascii "coordination", ascii "controller_port"] 1 65535 (some 7878)
        x.controllerPort ∧
      FieldIs root [ascii "coordination", ascii "heartbeat_seconds"] 1 3600 (some 5)
        x.heartbeatSeconds ∧
      (x.coordinationEnabled = true → x.controllerHost ≠ [] ∧ 16 ≤ x.sharedToken.length) := by
  rcases optSection_cases _ _ _ h with ⟨hnone, rfl⟩ | ⟨v, hv, hread⟩
  · -- Without the section the coordination is off.
    refine ⟨FieldIs.missing (by decide) hnone, FieldIs.missing (by decide) hnone, ?_⟩
    intro hoff
    cases hoff
  · simp only [readCoordination, bind_eq_ok_iff] at hread
    rcases hread with ⟨enabled, _, host, _, wideHost, _, port, hport, stored, _, token, _,
      heartbeat, hheartbeat, hread⟩
    -- What the two checks refuse is what the last part excludes.
    split_ifs at hread with hhost htoken
    cases hread
    have hstored := hroot.member hv
    refine ⟨(optInteger_eq_ok 1 65535 7878 port hstored (by decide) (by decide) hport).under hv,
      (optInteger_eq_ok 1 3600 5 heartbeat hstored (by decide) (by decide) hheartbeat).under hv, ?_⟩
    intro henabled
    exact ⟨fun hempty => hhost ⟨henabled, hempty⟩,
      not_lt.mp fun hshort => htoken ⟨henabled, hshort⟩⟩

/-- The percentages of auto-protect are in their ranges and in order. -/
structure AutoOrdered (x : AutoSettings) : Prop where
  throttle : 10 ≤ x.autoThrottlePercent ∧ x.autoThrottlePercent ≤ 100
  idle : 10 ≤ x.autoIdlePercent ∧ x.autoIdlePercent ≤ 100
  recover : 1 ≤ x.autoRecoverPercent ∧ x.autoRecoverPercent ≤ 100
  minCpu : 1 ≤ x.autoMinProcessCpuPercent ∧ x.autoMinProcessCpuPercent ≤ 6400
  below : x.autoRecoverPercent < x.autoThrottlePercent
  above : x.autoUseIdle = true → x.autoThrottlePercent ≤ x.autoIdlePercent

theorem autoProtect_sound (x : AutoSettings) (hroot : Stored root)
    (h : optSection root (ascii "auto_protect") (ascii "auto_protect") {} readAutoProtect = .ok x) :
    FieldIs root [ascii "auto_protect", ascii "throttle_samples"] 1 600 (some 5)
        x.autoThrottleSamples ∧
      FieldIs root [ascii "auto_protect", ascii "idle_samples"] 1 600 (some 10)
        x.autoIdleSamples ∧
      FieldIs root [ascii "auto_protect", ascii "recover_samples"] 1 600 (some 10)
        x.autoRecoverSamples ∧
      FieldIs root [ascii "auto_protect", ascii "max_processes"] 1 50 (some 3)
        x.autoMaxProcesses ∧
      AutoOrdered x := by
  rcases optSection_cases _ _ _ h with ⟨hnone, rfl⟩ | ⟨v, hv, hread⟩
  · exact ⟨FieldIs.missing (by decide) hnone, FieldIs.missing (by decide) hnone,
      FieldIs.missing (by decide) hnone, FieldIs.missing (by decide) hnone,
      ⟨by norm_num, by norm_num, by norm_num, by norm_num, by norm_num, fun _ => by norm_num⟩⟩
  · -- The percentages are compared at the end, once all of them are in range.
    simp only [readAutoProtect, bind_eq_ok_iff] at hread
    rcases hread with ⟨enabled, _, throttlePercent, hthrottle, throttleSamples, hthrottleSamples,
      useIdle, _, idlePercent, hidle, idleSamples, hidleSamples, recoverPercent, hrecover,
      recoverSamples, hrecoverSamples, maxProcesses, hmax, minCpu, hmin, hread⟩
    split_ifs at hread with hbelow habove
    cases hread
    have hstored := hroot.member hv
    refine ⟨(optInteger_eq_ok 1 600 5 throttleSamples hstored (by decide) (by decide)
        hthrottleSamples).under hv,
      (optInteger_eq_ok 1 600 10 idleSamples hstored (by decide) (by decide) hidleSamples).under hv,
      (optInteger_eq_ok 1 600 10 recoverSamples hstored (by decide) (by decide)
        hrecoverSamples).under hv,
      (optInteger_eq_ok 1 50 3 maxProcesses hstored (by decide) (by decide) hmax).under hv, ?_⟩
    refine ⟨optNumber_eq_ok v _ _ 10 100 90 throttlePercent (by norm_num) hthrottle,
      optNumber_eq_ok v _ _ 10 100 97 idlePercent (by norm_num) hidle,
      optNumber_eq_ok v _ _ 1 100 75 recoverPercent (by norm_num) hrecover,
      optNumber_eq_ok v _ _ 1 6400 50 minCpu (by norm_num) hmin, not_le.mp hbelow, ?_⟩
    intro huse
    exact not_lt.mp fun hlow => habove ⟨huse, hlow⟩

theorem dashboard_sound (x : DashboardSettings) (hroot : Stored root)
    (h : optSection root (ascii "dashboard") (ascii "dashboard") {} readDashboard = .ok x) :
    FieldIs root [ascii "dashboard", ascii "port"] 1024 65535 (some 8787) x.dashboardPort := by
  rcases optSection_cases _ _ _ h with ⟨hnone, rfl⟩ | ⟨v, hv, hread⟩
  · exact FieldIs.missing (by decide) hnone
  · simp only [readDashboard, bind_eq_ok_iff] at hread
    rcases hread with ⟨enabled, _, port, hport, hread⟩
    cases hread
    exact (optInteger_eq_ok 1024 65535 8787 port (hroot.member hv) (by decide) (by decide)
      hport).under hv

/-- The promise, from the sections. -/
theorem sound_of_sections (hos : Documented os) (hroot : Stored root) (cfg : DaemonConfig)
    (h : Sections os root cfg) : Sound os root cfg := by
  have hthresholds := thresholds_section_sound _ hroot h.thresholds
  have hprocesses := processes_sound hos _ h.processes
  have hlogging := logging_sound _ hroot h.logging
  have htriggers := triggers_sound _ h.triggers
  have hadaptive := adaptive_sound _ hroot h.adaptive
  have hcoordination := coordination_sound _ hroot h.coordination
  have hauto := autoProtect_sound _ hroot h.autoProtect
  have hordered := hauto.2.2.2.2
  -- The fields are spread over the sections; each part collects them in its order.
  refine ⟨?_, ?_, hthresholds.1, hprocesses.1, ?_, ⟨hordered.below, hordered.above⟩,
    hcoordination.2.2⟩
  · simp only [integerFields, List.forall_mem_cons]
    exact ⟨polling_sound _ hroot h.polling, hthresholds.2.1, hthresholds.2.2.1, hthresholds.2.2.2,
      hlogging.1, hlogging.2, telemetry_sound _ hroot h.telemetry, hadaptive.1, hadaptive.2.1,
      hcoordination.1, hcoordination.2.1, hauto.1, hauto.2.1, hauto.2.2.1, hauto.2.2.2.1,
      dashboard_sound _ hroot h.dashboard, fun f hf => absurd hf List.not_mem_nil⟩
  · simp only [numberFields, List.forall_mem_cons]
    exact ⟨htriggers.1.1, htriggers.1.2, htriggers.2, hadaptive.2.2, hordered.throttle,
      hordered.idle, hordered.recover, hordered.minCpu, fun f hf => absurd hf List.not_mem_nil⟩
  · intro name hname
    rcases List.mem_append.mp hname with hname | hname
    · exact hprocesses.2 name hname
    · rcases List.mem_map.mp hname with ⟨pin, hpin, rfl⟩
      exact identities_sound hos cfg.identities h.identity pin hpin

/-- Every configuration that is accepted keeps the promise, for the document it
    is read from. -/
theorem sound_of_parseConfig (hos : Documented os) (text : Bytes) (cfg : DaemonConfig)
    (h : parseConfig os text = .ok cfg) :
    ∃ root, os.parse text = .ok root ∧ Sound os root cfg := by
  unfold parseConfig at h
  split at h
  · cases h
  · next root hroot =>
    split_ifs at h
    exact ⟨root, hroot, sound_of_sections hos (hos.stored text root hroot) cfg
      (sections_of_parseRoot cfg h)⟩

end Sections

end Config

end ThreadHaul
