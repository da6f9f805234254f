import Mathlib.Tactic.NormNum
import ThreadHaul.Config.Sound
import ThreadHaul.Service.Poll
import ThreadHaul.Service.System

/-!
# Running an Accepted Configuration

What follows for the daemon from what `ParseConfig` checks: the pressure of a
critical process can be computed, and the settings of auto-protect are in
order.

`checkedPressure` is the pressure with every division checked. A configuration
that is accepted never makes it fail.

## Main definitions

* `checkedPressure`: The pressure, unless a divisor is zero.
* `Ordered`: What is known of the settings of auto-protect.
* `AcceptedSettings`: The settings that auto-protect can get.

## Theorems

* `checkedPressure_eq`: No division is by zero.
* `accepted_safe`: What an accepted configuration promises.
* `ordered_of_accepted`: The settings of auto-protect.
-/

namespace ThreadHaul

namespace Service

open Actuator Telemetry Config

/-- A quotient, unless the divisor is zero. -/
def checkedDiv (a b : Rat) : Option Rat := if b = 0 then none else some (a / b)

/-- The pressure of one critical instance, as `Poll` computes it. -/
def checkedPressure (cfg : DaemonConfig) (memLoad : Rat) (s : Telemetry.ProcessSample) :
    Option Pressure := do
  let p : Pressure := { percent := s.cpuPercent, signal := .cpu }
  let p ←
    if cfg.memoryTriggerEnabled then do
      let sys ← checkedDiv (100 * memLoad) cfg.systemMemoryLimitPercent
      let p := p.raise sys .systemMemory
      if 0 < cfg.criticalWorkingSetLimitMb then do
        let ws ← checkedDiv (100 * s.workingSetMb) cfg.criticalWorkingSetLimitMb
        pure (p.raise ws .workingSet)
      else pure p
    else pure p
  if cfg.ioTriggerEnabled then do
    let io ← checkedDiv (100 * s.ioMbPerSec) cfg.criticalIoLimitMbPerSec
    pure (p.raise io .io)
  else pure p

theorem checkedDiv_of_pos (a b : Rat) (h : 0 < b) : checkedDiv a b = some (a / b) :=
  if_neg (ne_of_gt h)

/-- The limits that are divided by are positive, so every division is defined. -/
theorem checkedPressure_eq (cfg : DaemonConfig) (hload : 0 < cfg.systemMemoryLimitPercent)
    (hio : 0 < cfg.criticalIoLimitMbPerSec) (memLoad : Rat) (s : Telemetry.ProcessSample) :
    checkedPressure cfg memLoad s = some (pressureOf cfg memLoad s) := by
  unfold checkedPressure pressureOf
  -- The limit of the working set is tested before it divides, the others are not.
  by_cases hmemory : cfg.memoryTriggerEnabled = true
  · by_cases hws : 0 < cfg.criticalWorkingSetLimitMb
    · by_cases hi : cfg.ioTriggerEnabled = true <;>
        simp [hmemory, hws, hi, checkedDiv_of_pos _ _ hload, checkedDiv_of_pos _ _ hws,
          checkedDiv_of_pos _ _ hio]
    · by_cases hi : cfg.ioTriggerEnabled = true <;>
        simp [hmemory, hws, hi, checkedDiv_of_pos _ _ hload, checkedDiv_of_pos _ _ hio]
  · by_cases hi : cfg.ioTriggerEnabled = true <;>
      simp [hmemory, hi, checkedDiv_of_pos _ _ hio]

/-- A configuration that is accepted is sound, and no division of a poll is by
    zero. -/
theorem accepted_safe (os : Platform) (hos : Documented os) (text : Bytes) (cfg : DaemonConfig)
    (h : parseConfig os text = .ok cfg) :
    ∃ root, os.parse text = .ok root ∧ Sound os root cfg ∧
      ∀ memLoad s, checkedPressure cfg memLoad s = some (pressureOf cfg memLoad s) := by
  rcases sound_of_parseConfig hos text cfg h with ⟨root, hroot, hsound⟩
  have hnumbers := hsound.numbers
  simp only [numberFields, List.forall_mem_cons] at hnumbers
  refine ⟨root, hroot, hsound, fun memLoad s => checkedPressure_eq cfg ?_ ?_ memLoad s⟩
  · exact lt_of_lt_of_le one_pos hnumbers.1.1
  · exact lt_of_lt_of_le (by norm_num) hnumbers.2.2.1.1

section Stored

theorem stored_integer (n : Int) (h : -2 ^ 63 ≤ n ∧ n < 2 ^ 64) : Stored (.integer n) := by
  intro path m hm
  cases path with
  | nil =>
      cases hm
      exact h
  | cons key path => simp [memberAt, Config.member] at hm

/-- A value without members that is no integer. -/
theorem stored_leaf (v : Json) (hmember : ∀ key, Config.member v key = none)
    (hinteger : ∀ n, v ≠ .integer n) : Stored v := by
  intro path m hm
  cases path with
  | nil => exact absurd (Option.some.inj hm) (hinteger m)
  | cons key path =>
      rw [memberAt_cons, hmember] at hm
      cases hm

theorem stored_null : Stored .null := stored_leaf _ (fun _ => rfl) fun _ h => nomatch h

theorem stored_boolean (b : Bool) : Stored (.boolean b) :=
  stored_leaf _ (fun _ => rfl) fun _ h => nomatch h

theorem stored_string (s : Bytes) : Stored (.string s) :=
  stored_leaf _ (fun _ => rfl) fun _ h => nomatch h

theorem stored_array (elements : List Json) : Stored (.array elements) :=
  stored_leaf _ (fun _ => rfl) fun _ h => nomatch h

theorem stored_object (members : List (Bytes × Json)) (h : ∀ m ∈ members, Stored m.2) :
    Stored (.object members) := by
  intro path m hm
  cases path with
  | nil => simp [memberAt] at hm
  | cons key path =>
      rw [memberAt_cons] at hm
      rcases Option.bind_eq_some_iff.mp hm with ⟨v, hv, hm⟩
      exact h (key, v) (OrderedMap.mem_of_lookup members key v hv) path m hm

/-- The integers of a sample document are small. -/
theorem stored_sampleDocument (critical batch : List String) (pins : List (String × String)) :
    Stored (sampleDocument critical batch pins) := by
  -- A pin holds a text and no number.
  have hpins : ∀ m ∈ pins.map (fun pin => (ascii pin.1,
      Json.object [(ascii "path", .string (ascii pin.2))])), Stored m.2 := by
    intro m hm
    rcases List.mem_map.mp hm with ⟨pin, _, rfl⟩
    exact stored_object _ (by simp [stored_string])
  refine stored_object _ ?_
  simp only [List.forall_mem_cons, sampleThreshold]
  refine ⟨?_, ?_, ?_, ?_, stored_object _ hpins, ?_, fun m hm => absurd hm List.not_mem_nil⟩
  · exact stored_object _ (by simp [stored_integer])
  · refine stored_object _ ?_
    simp only [List.forall_mem_cons]
    exact ⟨stored_object _ (by simp [stored_integer]), stored_object _ (by simp [stored_integer]),
      stored_object _ (by simp [stored_integer]), fun m hm => absurd hm List.not_mem_nil⟩
  · exact stored_object _ (by simp [stored_array])
  · exact stored_object _ (by simp [stored_integer, stored_string])
  · exact stored_object _ (by simp [stored_integer])

theorem documented_samplePlatform (first second : Json) (hfirst : Stored first)
    (hsecond : Stored second) : Documented (samplePlatform first second) where
  stored := by
    intro text root h
    simp only [samplePlatform, Except.ok.injEq] at h
    split_ifs at h
    · exact h ▸ hfirst
    · exact h ▸ hsecond
  nonempty := by
    rintro s w hs h rfl
    exact hs (by simpa [samplePlatform] using h)
  -- The sample conversion goes byte by byte.
  onlyAscii := by
    intro s w h u hu _
    cases h
    exact List.mem_map.mp hu

end Stored

/-- A document with a partly filled section, and the configuration it stands
    for. -/
theorem accepted_safe_sample :
    ∃ root, (samplePlatform (sampleDocument ["a.exe"] ["b.exe"] []) .null).parse [] = .ok root ∧
      Sound (samplePlatform (sampleDocument ["a.exe"] ["b.exe"] []) .null) root
        (sampleConfig ["a.exe"] ["b.exe"] []) ∧
      ∀ memLoad s, checkedPressure (sampleConfig ["a.exe"] ["b.exe"] []) memLoad s
        = some (pressureOf (sampleConfig ["a.exe"] ["b.exe"] []) memLoad s) := by
  exact accepted_safe _ (documented_samplePlatform _ _ (stored_sampleDocument _ _ _) stored_null)
    [] _ rfl

/-! ### The settings of auto-protect -/

/-- What is known of the settings of auto-protect. -/
structure Ordered (s : AutoProtectSettings) : Prop where
  throttleSamples : 1 ≤ s.throttleSamples.toInt ∧ s.throttleSamples.toInt ≤ 600
  idleSamples : 1 ≤ s.idleSamples.toInt ∧ s.idleSamples.toInt ≤ 600
  recoverSamples : 1 ≤ s.recoverSamples.toInt ∧ s.recoverSamples.toInt ≤ 600
  maxProcesses : 1 ≤ s.maxProcesses.toInt ∧ s.maxProcesses.toInt ≤ 50
  recoverPercent : 1 ≤ s.recoverPercent ∧ s.recoverPercent ≤ 100
  throttlePercent : s.throttlePercent ≤ 100
  below : s.recoverPercent < s.throttlePercent
  above : s.useIdle = true → s.throttlePercent ≤ s.idlePercent

/-- The settings of a configuration that is accepted. -/
def AcceptedSettings (s : AutoProtectSettings) : Prop :=
  ∃ os text cfg, Documented os ∧ parseConfig os text = .ok cfg ∧ s = toAutoProtect cfg

theorem toInt_ofInt_of_range (x : Int) (h : 1 ≤ x ∧ x ≤ 600) : (Int32.ofInt x).toInt = x := by
  have hsize : (Int32.size : Int) = 2 ^ 32 := rfl
  rw [Int32.toInt_ofInt, Int.bmod_def, hsize]
  omega

theorem ordered_of_accepted (s : AutoProtectSettings) (h : AcceptedSettings s) : Ordered s := by
  rcases h with ⟨os, text, cfg, hos, hparse, rfl⟩
  rcases sound_of_parseConfig hos text cfg hparse with ⟨root, _, hsound⟩
  have hintegers := hsound.integers
  simp only [integerFields, List.forall_mem_cons] at hintegers
  -- The counts of samples fit in an `int`.
  rcases hintegers with ⟨_, _, _, _, _, _, _, _, _, _, _, hthrottle, hidle, hrecover, hmax, _⟩
  have hnumbers := hsound.numbers
  simp only [numberFields, List.forall_mem_cons] at hnumbers
  have hrange : ∀ x : Int, 1 ≤ x ∧ x ≤ 600 →
      1 ≤ (Int32.ofInt x).toInt ∧ (Int32.ofInt x).toInt ≤ 600 := by
    intro x hx
    rw [toInt_ofInt_of_range x hx]
    exact hx
  refine ⟨hrange _ hthrottle.range, hrange _ hidle.range, hrange _ hrecover.range, ?_,
    hnumbers.2.2.2.2.2.2.1, hnumbers.2.2.2.2.1.2, hsound.autoProtect.1, hsound.autoProtect.2⟩
  have hle := hmax.range
  simp only [toAutoProtect]
  rw [toInt_ofInt_of_range _ ⟨hle.1, hle.2.trans (by decide)⟩]
  exact hle

/-- The settings that are in force before the first configuration. -/
theorem ordered_default : Ordered {} :=
  ⟨by decide, by decide, by decide, by decide, by norm_num, by norm_num, by norm_num,
    fun _ => by norm_num⟩

/-- A sample document with a section for auto-protect. -/
def autoDocument (auto : List (Bytes × Json)) : Json :=
  match sampleDocument [] [] [] with
  | .object members => .object (OrderedMap.assign members (ascii "auto_protect") (.object auto))
  | j => j

theorem stored_autoDocument (auto : List (Bytes × Json)) (h : ∀ m ∈ auto, Stored m.2) :
    Stored (autoDocument auto) := by
  refine stored_object _ fun m hm => ?_
  rcases OrderedMap.mem_assign _ _ _ _ hm with rfl | hm
  · exact stored_object _ h
  · -- The other sections are those of a sample document.
    have hsample := stored_sampleDocument [] [] []
    have hmembers : ∀ path n, memberAt m.2 path = some (.integer n) → -2 ^ 63 ≤ n ∧ n < 2 ^ 64 := by
      intro path n hn
      refine hsample (m.1 :: path) n ?_
      rw [memberAt_cons]
      simp only [List.mem_cons, List.not_mem_nil, or_false] at hm
      rcases hm with rfl | rfl | rfl | rfl | rfl | rfl <;> exact hn
    exact hmembers

/-- The settings in such a document are accepted if it is. -/
theorem accepted_autoDocument (auto : List (Bytes × Json)) (h : ∀ m ∈ auto, Stored m.2)
    (cfg : DaemonConfig)
    (hparse : parseConfig (samplePlatform (autoDocument auto) .null) [] = .ok cfg) :
    AcceptedSettings (toAutoProtect cfg) :=
  ⟨_, [], cfg, documented_samplePlatform _ _ (stored_autoDocument auto h) stored_null, hparse, rfl⟩

end Service

end ThreadHaul
