import ThreadHaul.Service.Priorities
import ThreadHaul.Service.Settings

/-!
# The Limits of Auto-Protect

Whether auto-protect obeys the settings in force.

A tick looks at `maxProcesses` only to see how many more processes it may lower,
and at `useIdle` only to see whether it may move on to level `Idle`. What was
lowered and which level was reached under earlier settings stays as it is. So a
reload that allows fewer processes than are lowered, or that turns `useIdle` off
at level `Idle`, is not obeyed until the load has recovered.

Every other reload is. `Obedient` is the invariant behind it, and a reload that
breaks it is one after which some tick disobeys: `obeyed_iff`.

## Main definitions

* `Obeys`: What is promised of a tick.
* `Gentle`: The reloads that keep the promise.
* `Obedient`: What the settings in force allow.

## Theorems

* `length_lowerChosen`: Processes are added up to the limit.
* `obeys_of_obedient`, `obedient_tick`: What a tick does.
* `disobeys_surplus`, `disobeys_idle`: What follows the other reloads.
* `obeyed_iff`: When the promise is kept, over runs.
-/

namespace ThreadHaul

namespace Service

open Actuator Telemetry OrderedMap Runs

/-- The tick leaves at most `maxProcesses` processes lowered, and without
    `useIdle` it sets no process to the idle class. -/
def Obeys (auto : AutoProtector) (r : AutoReadings) (exclude : WString → DWORD → Bool) : Prop :=
  ((tick r exclude auto).auto.throttled.length : Int) ≤ auto.settings.maxProcesses.toInt ∧
    (auto.settings.useIdle = false → ∀ c ∈ (tick r exclude auto).sets, c.2 ≠ .idle)

/-- Whatever the system says, a tick that comes now obeys the settings in
    force. -/
def Obeyed (auto : AutoProtector) : Prop := ∀ r exclude, Obeys auto r exclude

/-- A tick, or a reload with settings that `ParseConfig` accepts. -/
def AutoCall.Plain : AutoCall → Prop
  | .tick _ _ => True
  | .configure _ settings _ => AcceptedSettings settings
  | _ => False

/-- A reload does not allow fewer processes than are lowered, and does not turn
    `useIdle` off at level `Idle`. -/
def Gentle (auto : AutoProtector) : AutoCall → Prop
  | .configure _ settings _ => settings.enabled = true →
      (auto.throttled.length : Int) ≤ settings.maxProcesses.toInt ∧
        (auto.state.level = .idle → settings.useIdle = true)
  | _ => True

/-- One call. -/
def AutoCall.step (auto : AutoProtector) (c : AutoCall) : AutoProtector := (c.perform auto).auto

/-- What was lowered and the level are within the settings in force. -/
structure Obedient (auto : AutoProtector) : Prop where
  ordered : Ordered auto.settings
  /-- Nothing is lowered at level `Normal`. -/
  normal : auto.state.level = .normal → auto.throttled = []
  off : auto.settings.enabled = false → auto.throttled = [] ∧ auto.state.level = .normal
  /-- No process is given back the idle class. -/
  original : ∀ pid e, (pid, e) ∈ auto.throttled → e.originalClass ≠ .idle
  room : (auto.throttled.length : Int) ≤ auto.settings.maxProcesses.toInt
  idle : auto.state.level = .idle → auto.settings.useIdle = true
  unexempted : auto.exempted = []

/-! ### What the calls do -/

section Calls

variable (r : AutoReadings)

theorem length_assign {β : Type} (m : List (DWORD × β)) (k : DWORD) (v : β) :
    (assign m k v).length ≤ m.length + 1 := by
  induction m with
  | nil => simp [assign]
  | cons a m ih =>
      unfold assign
      split_ifs <;> simp [ih]

theorem length_lowerRow (target : PriorityClass) (acc : AutoResult) (row : Row) :
    (lowerRow r target acc row).auto.throttled.length ≤ acc.auto.throttled.length + 1 := by
  rcases lowerRow_cases r target acc row with
    heq | ⟨original, _, _, ⟨heq, _⟩ | ⟨_, e, _, _, heq⟩⟩
  · rw [heq]
    exact Nat.le_succ _
  · rw [heq]
    exact Nat.le_succ _
  · rw [heq]
    exact length_assign _ _ _

theorem length_foldl_lowerRow (target : PriorityClass) (rows : List Row) (acc : AutoResult) :
    (rows.foldl (lowerRow r target) acc).auto.throttled.length ≤
      acc.auto.throttled.length + rows.length := by
  induction rows generalizing acc with
  | nil => simp
  | cons row rows ih =>
      have hrow := length_lowerRow r target acc row
      have hrest := ih (lowerRow r target acc row)
      rw [List.foldl_cons, List.length_cons]
      omega

theorem length_chosenRows (auto : AutoProtector) (exclude : WString → DWORD → Bool)
    (rows : List Row) :
    (chosenRows auto exclude rows).length ≤
      (auto.settings.maxProcesses.toInt - auto.throttled.length).toNat :=
  (List.length_filterMap_le _ _).trans (List.length_take_le _ _)

/-- Processes are added up to the limit, and none if it is reached. -/
theorem length_lowerChosen (target : PriorityClass) (exclude : WString → DWORD → Bool)
    (rows : List Row) (acc : AutoResult) :
    ((lowerChosen r target exclude rows acc).auto.throttled.length : Int) ≤
      max (acc.auto.throttled.length : Int) acc.auto.settings.maxProcesses.toInt := by
  unfold lowerChosen
  split_ifs with hroom
  · -- The room is asked for once, and at most that many are chosen.
    have hfold := length_foldl_lowerRow r target (chosenRows acc.auto exclude rows) acc
    have hchosen := length_chosenRows acc.auto exclude rows
    omega
  · exact le_max_left _ _

theorem lowerChosen_of_full (target : PriorityClass) (exclude : WString → DWORD → Bool)
    (rows : List Row) (acc : AutoResult)
    (h : ¬ (acc.auto.throttled.length : Int) < acc.auto.settings.maxProcesses.toInt) :
    lowerChosen r target exclude rows acc = acc := if_neg h

theorem lowerChosen_of_room (target : PriorityClass) (exclude : WString → DWORD → Bool)
    (rows : List Row) (acc : AutoResult)
    (h : (acc.auto.throttled.length : Int) < acc.auto.settings.maxProcesses.toInt) :
    lowerChosen r target exclude rows acc
      = (chosenRows acc.auto exclude rows).foldl (lowerRow r target) acc := if_pos h

/-- What `Lower` sets and remembers. -/
theorem sets_lowerRow (target : PriorityClass) (acc : AutoResult) (row : Row)
    (hsets : ∀ c ∈ acc.sets, c.2 = target)
    (horiginal : ∀ pid e, (pid, e) ∈ acc.auto.throttled → e.originalClass ≠ .idle) :
    (∀ c ∈ (lowerRow r target acc row).sets, c.2 = target) ∧
      ∀ pid e, (pid, e) ∈ (lowerRow r target acc row).auto.throttled → e.originalClass ≠ .idle := by
  have hmore : ∀ c ∈ acc.sets ++ [(row.pid, target)], c.2 = target := by
    intro c hc
    rcases List.mem_append.mp hc with hc | hc
    · exact hsets c hc
    · rw [List.mem_singleton.mp hc]
  -- A row is passed over, set again, or set and remembered.
  rcases lowerRow_cases r target acc row with
    heq | ⟨original, _, hrank, ⟨heq, _⟩ | ⟨_, e, hclass, _, heq⟩⟩
  · rw [heq]
    exact ⟨hsets, horiginal⟩
  · rw [heq]
    exact ⟨hmore, horiginal⟩
  · rw [heq]
    refine ⟨hmore, fun pid e' he' => ?_⟩
    rcases mem_assign _ _ _ _ he' with hentry | he'
    · -- It had a higher class than the one it gets.
      cases hentry
      rintro hidle
      rw [hclass] at hidle
      rw [hidle] at hrank
      exact absurd hrank (Nat.not_lt_zero _)
    · exact horiginal pid e' he'

theorem sets_lowerChosen (target : PriorityClass) (exclude : WString → DWORD → Bool)
    (rows : List Row) (acc : AutoResult) (hsets : ∀ c ∈ acc.sets, c.2 = target)
    (horiginal : ∀ pid e, (pid, e) ∈ acc.auto.throttled → e.originalClass ≠ .idle) :
    (∀ c ∈ (lowerChosen r target exclude rows acc).sets, c.2 = target) ∧
      ∀ pid e, (pid, e) ∈ (lowerChosen r target exclude rows acc).auto.throttled →
        e.originalClass ≠ .idle := by
  unfold lowerChosen
  split_ifs with hroom
  · -- Each row keeps the two facts, so the loop does.
    refine List.foldlRecOn (motive := fun out : AutoResult => (∀ c ∈ out.sets, c.2 = target) ∧
      ∀ pid e, (pid, e) ∈ out.auto.throttled → e.originalClass ≠ .idle) _ (lowerRow r target)
      ⟨hsets, horiginal⟩ ?_
    intro out hout row _
    exact sets_lowerRow r target out row hout.1 hout.2
  · exact ⟨hsets, horiginal⟩

/-- Lowering further keeps what a process gets back. -/
theorem original_escalate (target : PriorityClass) (throttled : List (DWORD × Entry))
    (h : ∀ pid e, (pid, e) ∈ throttled → e.originalClass ≠ .idle) :
    ∀ pid e, (pid, e) ∈ (throttled.map (escalate r target)).map Prod.fst →
      e.originalClass ≠ .idle := by
  intro pid e he
  rcases List.mem_map.mp he with ⟨x, hx, hxe⟩
  rcases List.mem_map.mp hx with ⟨⟨p, e'⟩, he', rfl⟩
  have hkeep : (escalate r target (p, e')).1.2.originalClass = e'.originalClass := by
    unfold escalate
    split_ifs <;> rfl
  rw [hxe] at hkeep
  exact fun hidle => h p e' he' (hkeep.symm.trans hidle)

theorem restore_throttled_subset (acc : AutoResult) (pid : DWORD) :
    ∀ x ∈ (restore r acc pid).auto.throttled, x ∈ acc.auto.throttled := by
  intro x hx
  unfold restore at hx
  split at hx
  · exact hx
  · exact List.mem_of_mem_filter hx

/-- What is given back is what was remembered. -/
theorem sets_restoreAll (auto : AutoProtector)
    (h : ∀ pid e, (pid, e) ∈ auto.throttled → e.originalClass ≠ .idle) :
    ∀ c ∈ (restoreAll r auto).sets, c.2 ≠ .idle := by
  refine (List.foldlRecOn (motive := fun out : AutoResult => (∀ c ∈ out.sets, c.2 ≠ .idle) ∧
    ∀ x ∈ out.auto.throttled, x ∈ auto.throttled) (keys auto.throttled) (restore r) ?_ ?_).1
  · exact ⟨fun c hc => absurd hc List.not_mem_nil, fun x hx => hx⟩
  · intro out hout pid _
    refine ⟨fun c hc => ?_, fun x hx => hout.2 x (restore_throttled_subset r out pid x hx)⟩
    unfold restore at hc
    -- Given back is the class the entry remembers.
    rcases hfind : out.auto.throttled.lookup pid with _ | e
    · rw [hfind] at hc
      exact hout.1 c hc
    · rw [hfind] at hc
      dsimp only at hc
      split_ifs at hc
      · exact hout.1 c hc
      · rcases List.mem_append.mp hc with hc | hc
        · exact hout.1 c hc
        · rw [List.mem_singleton.mp hc]
          exact h pid e (hout.2 _ (mem_of_lookup _ _ _ hfind))

end Calls

/-! ### What a tick does -/

section Tick

variable {auto : AutoProtector}

/-- At a raised level, what is lowered is lowered further, and others are
    added. -/
def raisedStart (r : AutoReadings) (auto : AutoProtector) : AutoResult :=
  let state := auto.state.update r.systemCpu auto.settings
  let escalated := (forgetExited r auto).throttled.map (escalate r (targetClass state.level))
  { auto :=
      { auto with
        state := state
        exempted := auto.exempted.filter fun pid =>
          (r.rows auto.essential).any fun row => row.pid == pid
        throttled := escalated.map Prod.fst }
    sets := escalated.flatMap Prod.snd }

theorem tick_eq_lowerChosen (r : AutoReadings) (exclude : WString → DWORD → Bool)
    (henabled : auto.settings.enabled = true)
    (hlevel : (auto.state.update r.systemCpu auto.settings).level ≠ .normal) :
    tick r exclude auto =
      lowerChosen r (targetClass (auto.state.update r.systemCpu auto.settings).level) exclude
        (r.rows auto.essential) (raisedStart r auto) := by
  unfold tick
  simp only [henabled, Bool.not_true, Bool.false_eq_true, if_false]
  exact if_neg hlevel

/-- At level `Normal` everything is restored. -/
theorem tick_eq_restoreAll (r : AutoReadings) (exclude : WString → DWORD → Bool)
    (henabled : auto.settings.enabled = true)
    (hlevel : (auto.state.update r.systemCpu auto.settings).level = .normal) :
    tick r exclude auto = restoreAll r { forgetExited r auto with
      state := auto.state.update r.systemCpu auto.settings } := by
  unfold tick
  simp only [henabled, Bool.not_true, Bool.false_eq_true, if_false]
  exact if_pos hlevel

theorem length_raisedStart (auto : AutoProtector) (r : AutoReadings) :
    (raisedStart r auto).auto.throttled.length = (forgetExited r auto).throttled.length := by
  simp [raisedStart]

theorem length_forgetExited (auto : AutoProtector) (r : AutoReadings) :
    (forgetExited r auto).throttled.length ≤ auto.throttled.length := List.length_filter_le _ _

/-- The tick lowers to the class of the level, up to the limit. -/
theorem tick_raised (r : AutoReadings) (exclude : WString → DWORD → Bool)
    (henabled : auto.settings.enabled = true)
    (hlevel : (auto.state.update r.systemCpu auto.settings).level ≠ .normal)
    (horiginal : ∀ pid e, (pid, e) ∈ auto.throttled → e.originalClass ≠ .idle) :
    ((tick r exclude auto).auto.throttled.length : Int) ≤
        max (auto.throttled.length : Int) auto.settings.maxProcesses.toInt ∧
      (∀ c ∈ (tick r exclude auto).sets,
        c.2 = targetClass (auto.state.update r.systemCpu auto.settings).level) ∧
      ∀ pid e, (pid, e) ∈ (tick r exclude auto).auto.throttled → e.originalClass ≠ .idle := by
  rw [tick_eq_lowerChosen r exclude henabled hlevel]
  have hsets : ∀ c ∈ (raisedStart r auto).sets,
      c.2 = targetClass (auto.state.update r.systemCpu auto.settings).level := by
    exact fun c hc => (mem_sets_escalate _ _ c hc).1
  have hstart := original_escalate r
    (targetClass (auto.state.update r.systemCpu auto.settings).level)
    (forgetExited r auto).throttled fun pid e he => horiginal pid e (List.mem_of_mem_filter he)
  have hlowered := sets_lowerChosen r _ exclude (r.rows auto.essential) (raisedStart r auto)
    hsets hstart
  refine ⟨?_, hlowered.1, hlowered.2⟩
  have hlength := length_lowerChosen r
    (targetClass (auto.state.update r.systemCpu auto.settings).level) exclude
    (r.rows auto.essential) (raisedStart r auto)
  -- Lowering further adds no entry, and those of processes that ended are dropped.
  have hsame := length_raisedStart auto r
  have hforgot := length_forgetExited auto r
  have hsettings : (raisedStart r auto).auto.settings = auto.settings := rfl
  rw [hsettings] at hlength
  omega

/-- The level is `Idle` only with `useIdle`, if it was not `Idle` before. -/
theorem level_update_idle (a : AutoProtectState) (cpu : Rat) (s : AutoProtectSettings)
    (h : (a.update cpu s).level = .idle) : a.level = .idle ∨ s.useIdle = true := by
  unfold AutoProtectState.update at h
  dsimp only at h
  split_ifs at h with hthrottle hidle
  · exact Or.inr hidle.2.1
  · exact Or.inl h

/-- A sample of 100 percent does not bring the level back to `Normal`. -/
theorem level_update_full (a : AutoProtectState) (s : AutoProtectSettings) (hs : Ordered s)
    (h : a.level ≠ .normal) :
    (a.update 100 s).level ≠ .normal ∧ (a.level = .idle → (a.update 100 s).level = .idle) := by
  -- At full load the count of low samples is zero, so nothing recovers.
  have hlow : ¬ s.recoverSamples ≤ (a.count 100 s).low := by
    have hzero : (a.count 100 s).low = 0 := if_neg (not_lt.mpr hs.recoverPercent.2)
    rw [hzero, Int32.le_iff_toInt_le]
    have hsamples := hs.recoverSamples.1
    exact not_le.mpr (show (0 : Int) < _ by omega)
  have hlevel : (a.count 100 s).level = a.level := rfl
  unfold AutoProtectState.update
  dsimp only
  rw [hlevel]
  split_ifs with hthrottle hidle hrecover
  · exact absurd hthrottle.1 h
  · exact ⟨by simp, fun _ => rfl⟩
  · exact absurd hrecover.2 hlow
  · exact ⟨h, fun hidle => hidle⟩

/-- Within the settings in force, every tick obeys them. -/
theorem obeys_of_obedient (h : Obedient auto) : Obeyed auto := by
  intro r exclude
  rcases tick_cases r exclude auto with ⟨_, heq⟩ | ⟨henabled, _, _, hrestored⟩
  · rw [Obeys, heq]
    exact ⟨h.room, fun _ c hc => absurd hc List.not_mem_nil⟩
  · by_cases hlevel : (auto.state.update r.systemCpu auto.settings).level = .normal
    · have hmax := h.ordered.maxProcesses.1
      refine ⟨?_, fun _ => ?_⟩
      · rw [hrestored hlevel, List.length_nil]
        omega
      · -- Everything is given back the class it had.
        rw [tick_eq_restoreAll r exclude henabled hlevel]
        refine sets_restoreAll r _ fun pid e he => ?_
        exact h.original pid e (List.mem_of_mem_filter he)
    · have hraised := tick_raised r exclude henabled hlevel h.original
      refine ⟨hraised.1.trans (max_le h.room (le_refl _)), fun huse c hc => ?_⟩
      rw [hraised.2.1 c hc]
      -- The class that is set is the one of the new level.
      rcases hcase : (auto.state.update r.systemCpu auto.settings).level with _ | _ | _
      · simp [targetClass]
      · simp [targetClass]
      · rcases level_update_idle _ _ _ hcase with hidle | huse'
        · rw [h.idle hidle] at huse
          cases huse
        · rw [huse'] at huse
          cases huse

theorem obedient_tick (r : AutoReadings) (exclude : WString → DWORD → Bool) (h : Obedient auto) :
    Obedient (tick r exclude auto).auto := by
  have hroom := (obeys_of_obedient h r exclude).1
  rcases tick_cases r exclude auto with ⟨_, heq⟩ | ⟨henabled, hsettings, hstate, hrestored⟩
  · rw [heq]
    exact h
  · -- Neither restoring nor lowering exempts a process.
    have hunexempted : (tick r exclude auto).auto.exempted = [] := by
      by_cases hlevel : (auto.state.update r.systemCpu auto.settings).level = .normal
      · rw [tick_eq_restoreAll r exclude henabled hlevel, (settings_restoreAll r _).2.2]
        exact h.unexempted
      · rw [tick_eq_lowerChosen r exclude henabled hlevel, (settings_lowerChosen r _ _ _ _).2.2]
        simp [raisedStart, h.unexempted]
    refine ⟨by rw [hsettings]; exact h.ordered, by rw [hstate]; exact hrestored, ?_, ?_,
      by rw [hsettings]; exact hroom, ?_, hunexempted⟩
    · rw [hsettings, henabled]
      exact fun hoff => nomatch hoff
    · by_cases hlevel : (auto.state.update r.systemCpu auto.settings).level = .normal
      · rw [hrestored hlevel]
        exact fun pid e he => absurd he List.not_mem_nil
      · exact (tick_raised r exclude henabled hlevel h.original).2.2
    · rw [hstate, hsettings]
      intro hidle
      rcases level_update_idle _ _ _ hidle with hidle | huse
      · exact h.idle hidle
      · exact huse

theorem obedient_configure (r : AutoReadings) (settings : AutoProtectSettings)
    (essential : List WString) (hsettings : Ordered settings)
    (hgentle : Gentle auto (.configure r settings essential)) (h : Obedient auto) :
    Obedient (configure r auto settings essential).auto := by
  unfold configure
  -- Switched on, the list and the level stay; here the assumption on the call is used.
  by_cases henabled : settings.enabled = true
  · rw [if_pos henabled]
    refine ⟨hsettings, h.normal, ?_, h.original, (hgentle henabled).1, (hgentle henabled).2,
      h.unexempted⟩
    intro hoff
    rw [show settings.enabled = false from hoff] at henabled
    cases henabled
  · -- Switched off, it gives everything back.
    rw [if_neg henabled]
    have hnone := throttled_restoreAll (r := r)
      { auto with settings := settings, essential := essential }
    have hkept := settings_restoreAll r { auto with settings := settings, essential := essential }
    have hmax := hsettings.maxProcesses.1
    refine ⟨?_, fun _ => hnone, fun _ => ⟨hnone, rfl⟩, ?_, ?_, fun hidle => (nomatch hidle), ?_⟩
    · exact (congrArg Ordered hkept.1).mpr hsettings
    · rw [show (_ : List (DWORD × Entry)) = [] from hnone]
      exact fun pid e he => absurd he List.not_mem_nil
    · rw [show (_ : List (DWORD × Entry)) = [] from hnone]
      dsimp only
      rw [hkept.1]
      simpa using (by omega : (0 : Int) ≤ settings.maxProcesses.toInt)
    · exact hkept.2.2.trans h.unexempted

/-! ### What follows the other reloads -/

/-- The machine is fully loaded, and every process can be opened. -/
def overloaded (rows : List Row) (exited : Bool) : AutoReadings where
  systemCpu := 100
  rows _ := rows
  exited _ := exited
  opened _ := true
  getPriorityClass _ := some .normal
  setPriorityClass _ := true
  tickCount := 0

/-- More processes are lowered than the settings allow, and a tick leaves
    them. -/
theorem disobeys_surplus (hordered : Ordered auto.settings)
    (henabled : auto.settings.enabled = true) (hlevel : auto.state.level ≠ .normal)
    (hsurplus : auto.settings.maxProcesses.toInt < auto.throttled.length) : ¬ Obeyed auto := by
  intro h
  have hroom := (h (overloaded [] false) fun _ _ => false).1
  -- At a raised level the tick gives nothing back, so the surplus stays.
  have hraised :
      (auto.state.update (overloaded [] false).systemCpu auto.settings).level ≠ .normal :=
    (level_update_full auto.state auto.settings hordered hlevel).1
  have hall : (forgetExited (overloaded [] false) auto).throttled = auto.throttled := by
    simp [forgetExited, overloaded]
  have hlength := length_raisedStart auto (overloaded [] false)
  have hsettings : (raisedStart (overloaded [] false) auto).auto.settings = auto.settings := rfl
  rw [hall] at hlength
  rw [tick_eq_lowerChosen _ _ henabled hraised, lowerChosen_of_full, hlength] at hroom
  · exact absurd hsurplus (not_lt.mpr hroom)
  · rw [hlength, hsettings]
    exact not_lt.mpr hsurplus.le

/-- The heaviest of one eligible process is that process. -/
theorem chosenRows_single (start : AutoProtector) (exclude : WString → DWORD → Bool) (row : Row)
    (heligible : isEligible start exclude row = true)
    (hheavy : start.settings.minProcessCpuPercent ≤ row.cpuPercent)
    (hroom : (start.throttled.length : Int) < start.settings.maxProcesses.toInt) :
    chosenRows start exclude [row] = [row] := by
  have hslots : 1 ≤ (start.settings.maxProcesses.toInt - start.throttled.length).toNat := by
    omega
  simp only [chosenRows, List.filter_cons, heligible, if_true, List.filter_nil, List.map_cons,
    List.map_nil, selectAutoTargets]
  rw [if_pos (decide_eq_true hheavy), List.insertionSort_cons, List.insertionSort_nil,
    List.orderedInsert_nil, List.take_of_length_le (by simpa using hslots)]
  simp

/-- A process that can be lowered is, to the class of the level. -/
theorem mem_sets_lowerRow (r : AutoReadings) (target : PriorityClass) (acc : AutoResult)
    (row : Row) (original : PriorityClass) (hopened : r.opened row.pid = true)
    (hget : r.getPriorityClass row.pid = some original) (hrank : target.rank < original.rank) :
    (row.pid, target) ∈ (lowerRow r target acc row).sets := by
  unfold lowerRow
  rw [if_neg (by simp [hopened]), hget]
  dsimp only
  rw [if_neg (not_le.mpr hrank)]
  split_ifs <;> simp

/-- At level `Idle` a tick lowers a process to the idle class. -/
theorem disobeys_idle (hordered : Ordered auto.settings) (henabled : auto.settings.enabled = true)
    (hlevel : auto.state.level = .idle) (huse : auto.settings.useIdle = false)
    (hexempted : auto.exempted = []) : ¬ Obeyed auto := by
  intro h
  -- All that was lowered has ended, and another process is heavy.
  let row : Row := ⟨1, [], auto.settings.minProcessCpuPercent, true, .normal⟩
  set r := overloaded [row] true with hr
  have hidle : (auto.state.update r.systemCpu auto.settings).level = .idle :=
    (level_update_full auto.state auto.settings hordered (by rw [hlevel]; decide)).2 hlevel
  have hsettings : (raisedStart r auto).auto.settings = auto.settings := rfl
  have hnone : (raisedStart r auto).auto.throttled = [] := by
    simp [raisedStart, forgetExited, hr, overloaded]
  have hnonexempt : (raisedStart r auto).auto.exempted = [] := by simp [raisedStart, hexempted]
  have hroom : ((raisedStart r auto).auto.throttled.length : Int)
      < (raisedStart r auto).auto.settings.maxProcesses.toInt := by
    have hmax := hordered.maxProcesses.1
    rw [hnone, hsettings, List.length_nil]
    omega
  have heligible : isEligible (raisedStart r auto).auto (fun _ _ => false) row = true := by
    simp [isEligible, hnone, hnonexempt, keys, row]
  have hchosen := chosenRows_single (raisedStart r auto).auto (fun _ _ => false) row heligible
    (le_of_eq (by rw [hsettings])) hroom
  have hrows : r.rows auto.essential = [row] := rfl
  have hsets := (h r fun _ _ => false).2 huse
  rw [tick_eq_lowerChosen _ _ henabled (by rw [hidle]; decide), hidle, hrows,
    lowerChosen_of_room _ _ _ _ _ hroom, hchosen] at hsets
  exact hsets _ (mem_sets_lowerRow r .idle (raisedStart r auto) row .normal rfl rfl (by decide)) rfl

end Tick

/-! ### Runs -/

/-- After a reload that is not gentle, some tick disobeys. -/
theorem disobeyed_configure (auto : AutoProtector) (r : AutoReadings)
    (settings : AutoProtectSettings) (essential : List WString) (hsettings : Ordered settings)
    (hharsh : ¬ Gentle auto (.configure r settings essential)) (h : Obedient auto) :
    ¬ Obeyed (configure r auto settings essential).auto := by
  simp only [Gentle, not_forall] at hharsh
  rcases hharsh with ⟨henabled, hharsh⟩
  unfold configure
  rw [if_pos henabled]
  -- Either the level is one the settings rule out, or the list is too long for them.
  by_cases hsurplus : (auto.throttled.length : Int) ≤ settings.maxProcesses.toInt
  · have hidle : auto.state.level = .idle ∧ settings.useIdle = false := by
      by_contra hno
      refine hharsh ⟨hsurplus, fun hidle => ?_⟩
      by_contra huse
      exact hno ⟨hidle, by simpa using huse⟩
    exact disobeys_idle hsettings henabled hidle.1 hidle.2 h.unexempted
  · have hmax := hsettings.maxProcesses.1
    refine disobeys_surplus hsettings henabled ?_ (not_le.mp hsurplus)
    intro hnormal
    rw [h.normal hnormal] at hsurplus
    simp at hsurplus
    omega

theorem obedient_start : Obedient {} :=
  ⟨ordered_default, fun _ => rfl, fun hoff => (nomatch hoff),
    fun _ _ he => absurd he List.not_mem_nil, by decide, fun hidle => (nomatch hidle), rfl⟩

/-- Every tick that can come obeys the settings in force exactly if no reload
    allows fewer processes than are lowered or turns `useIdle` off at level
    `Idle`. -/
theorem obeyed_iff (calls : List AutoCall) (h : ∀ c ∈ calls, c.Plain) :
    Throughout AutoCall.step Obeyed {} calls ↔ Along AutoCall.step Gentle {} calls := by
  -- The invariant gives what is obeyed, and a harsh call breaks it at once.
  refine throughout_iff_along_of AutoCall.step (fun _ c => c.Plain) Gentle Obedient Obeyed
    (fun _ => obeys_of_obedient) ?_ ?_ calls {} (along_of_forall_mem _ _ _ _ h) obedient_start
  · intro auto c hplain hgentle hauto
    cases c with
    | tick r exclude => exact obedient_tick r exclude hauto
    | configure r settings essential =>
        exact obedient_configure r settings essential (ordered_of_accepted settings hplain)
          hgentle hauto
    | exempt r pid => exact absurd hplain id
    | restoreAll r => exact absurd hplain id
  · intro auto c hauto hplain hharsh
    cases c with
    | tick r exclude => exact absurd trivial hharsh
    | configure r settings essential =>
        exact disobeyed_configure auto r settings essential (ordered_of_accepted settings hplain)
          hharsh hauto
    | exempt r pid => exact absurd hplain id
    | restoreAll r => exact absurd hplain id

section Surplus

/-- The configuration of a document that allows one process. -/
def singleProcess : Config.DaemonConfig :=
  { sampleConfig [] [] [] with autoThrottleSamples := 5, autoMaxProcesses := 1 }

theorem accepted_singleProcess : AcceptedSettings (toAutoProtect singleProcess) :=
  accepted_autoDocument [(ascii "max_processes", .integer 1)]
    (by simpa using stored_integer 1 (by decide)) singleProcess rfl

/-- Three processes that use a whole core each. -/
def threeHeavy : List Row := [⟨4, [], 100, true, .normal⟩, ⟨8, [], 100, true, .normal⟩,
  ⟨12, [], 100, true, .normal⟩]

/-- Three processes are lowered, and then the settings allow one. -/
def surplusCalls : List AutoCall :=
  List.replicate 5 (.tick (overloaded threeHeavy false) fun _ _ => false) ++
    [.configure (overloaded [] false) (toAutoProtect singleProcess) []]

/-- The next tick leaves three processes lowered. -/
theorem surplus_kept : (∀ c ∈ surplusCalls, c.Plain) ∧
    ¬ Obeys (run AutoCall.step {} surplusCalls) (overloaded threeHeavy false) fun _ _ => false := by
  constructor
  · intro c hc
    rcases List.mem_append.mp hc with hc | hc
    · rw [List.eq_of_mem_replicate hc]
      trivial
    · rw [List.mem_singleton.mp hc]
      exact accepted_singleProcess
  · exact fun h => absurd h.1 (by decide +kernel)

/-- With the same settings from the start, no tick lowers more than one. -/
theorem obeyed_singleProcess :
    Throughout AutoCall.step Obeyed {}
      (.configure (overloaded [] false) (toAutoProtect singleProcess) [] ::
        List.replicate 2 (.tick (overloaded threeHeavy false) fun _ _ => false)) := by
  refine (obeyed_iff _ ?_).mpr ⟨fun _ => ⟨by decide, fun _ => rfl⟩, trivial, trivial, trivial⟩
  intro c hc
  rcases List.mem_cons.mp hc with rfl | hc
  · exact accepted_singleProcess
  · rw [List.eq_of_mem_replicate hc]
    trivial

end Surplus

end Service

end ThreadHaul
