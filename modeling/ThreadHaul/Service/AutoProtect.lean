import ThreadHaul.Lib.OrderedMap
import ThreadHaul.Service.Daemon
import ThreadHaul.Telemetry.AutoProtectPolicy

/-!
# Auto-Protect

`AutoProtector`: the processes that were lowered because the machine is
overloaded, and the priority class each of them gets back.

Every change of a priority class goes through a handle that was opened when the
process was lowered and is held until it is restored. So everything
`AutoProtector` ever does to a process, it does to one that is in `throttled`
or one that it adds to it now. `Within` says that of a set of processes, and
each call stays within the processes it found lowered, a tick also within the
processes it is not told to exclude.

## Main definitions

* `Entry`, `AutoProtector`: The processes that are lowered.
* `Row`, `AutoReadings`: The process table, and what the system says.
* `configure`, `tick`, `exempt`, `restoreAll`: The code.
* `Within`: What is lowered and touched is in a set of processes.

## Theorems

* `within_configure`, `within_exempt`: These lower nothing new.
* `within_tick`: What a tick lowers is not excluded.
* `keys_restoreAll`, `keys_exempt`: What is not lowered any more.
-/

namespace ThreadHaul

namespace Service

open Actuator Telemetry OrderedMap

/-- The priority classes of the system. -/
inductive PriorityClass
  | idle
  | belowNormal
  | normal
  | aboveNormal
  | high
  | realtime
  deriving DecidableEq

/-- `Rank`. -/
def PriorityClass.rank : PriorityClass → Nat
  | .idle => 0
  | .belowNormal => 1
  | .normal => 2
  | .aboveNormal => 3
  | .high => 4
  | .realtime => 5

/-- `AutoProtector::Entry`. Every entry holds a handle. -/
structure Entry where
  pid : DWORD
  name : WString
  originalClass : PriorityClass
  currentClass : PriorityClass
  cpuAtAction : Rat
  sinceTick : UInt64

/-- `AutoProtector`. -/
structure AutoProtector where
  settings : AutoProtectSettings := {}
  state : AutoProtectState := {}
  /-- The names that make a process essential. -/
  essential : List WString := []
  throttled : List (DWORD × Entry) := []
  exempted : List DWORD := []

/-- A row of the process table. -/
structure Row where
  pid : DWORD
  name : WString
  cpuPercent : Rat
  accessible : Bool
  safety : ProcessSafety

/-- What the system says during one call. -/
structure AutoReadings where
  /-- `SampleSystemCpu`. -/
  systemCpu : Rat
  /-- `ProcessTable::Sample`, given the essential names. -/
  rows : List WString → List Row
  exited : DWORD → Bool
  opened : DWORD → Bool
  getPriorityClass : DWORD → Option PriorityClass
  setPriorityClass : DWORD → Bool
  tickCount : UInt64

/-- What was done, and the calls of `SetPriorityClass` in order. -/
structure AutoResult where
  auto : AutoProtector
  sets : List (DWORD × PriorityClass) := []

section Calls

variable (r : AutoReadings)

/-- `Restore`: one entry less, and its priority class if the process runs. -/
def restore (acc : AutoResult) (pid : DWORD) : AutoResult :=
  match acc.auto.throttled.lookup pid with
  | none => acc
  | some e =>
      { auto := { acc.auto with throttled := erase acc.auto.throttled pid }
        sets := if r.exited pid then acc.sets else acc.sets ++ [(pid, e.originalClass)] }

/-- `RestoreAll`. -/
def restoreAll (auto : AutoProtector) : AutoResult :=
  (keys auto.throttled).foldl (restore r) { auto := auto }

/-- `Configure`. -/
def configure (auto : AutoProtector) (settings : AutoProtectSettings)
    (essential : List WString) : AutoResult :=
  let configured := { auto with settings := settings, essential := essential }
  if settings.enabled then { auto := configured }
  else
    let restored := restoreAll r configured
    { restored with auto := { restored.auto with state := {} } }

/-- `Exempt`. -/
def exempt (auto : AutoProtector) (pid : DWORD) : AutoResult :=
  let restored := restore r { auto := auto } pid
  { restored with
    auto := { restored.auto with exempted := restored.auto.exempted.insert pid } }

/-- The priority class of a level. -/
def targetClass : AutoLevel → PriorityClass
  | .idle => .idle
  | _ => .belowNormal

/-- One turn of the loop that lowers further what is lowered already. -/
def escalate (target : PriorityClass) (e : DWORD × Entry) :
    (DWORD × Entry) × List (DWORD × PriorityClass) :=
  if target.rank < e.2.currentClass.rank then
    if r.setPriorityClass e.1 then ((e.1, { e.2 with currentClass := target }), [(e.1, target)])
    else (e, [(e.1, target)])
  else (e, [])

/-- `Lower`. -/
def lowerRow (target : PriorityClass) (acc : AutoResult) (row : Row) : AutoResult :=
  if !r.opened row.pid then acc
  else
    match r.getPriorityClass row.pid with
    | none => acc
    | some original =>
        if original.rank ≤ target.rank then acc
        else if !r.setPriorityClass row.pid then
          { acc with sets := acc.sets ++ [(row.pid, target)] }
        else
          { auto :=
              { acc.auto with
                throttled :=
                  if row.pid ∈ keys acc.auto.throttled then acc.auto.throttled
                  else assign acc.auto.throttled row.pid
                    { pid := row.pid
                      name := row.name
                      originalClass := original
                      currentClass := target
                      cpuAtAction := row.cpuPercent
                      sinceTick := r.tickCount } }
            sets := acc.sets ++ [(row.pid, target)] }

/-- The row may be lowered. -/
def isEligible (auto : AutoProtector) (exclude : WString → DWORD → Bool) (row : Row) : Bool :=
  row.accessible && row.safety == .normal && !decide (row.pid ∈ keys auto.throttled) &&
    !decide (row.pid ∈ auto.exempted) && !exclude row.name row.pid

/-- The rows to be lowered: the first row of each process that is chosen. -/
def chosenRows (auto : AutoProtector) (exclude : WString → DWORD → Bool) (rows : List Row) :
    List Row :=
  let eligible := rows.filter (isEligible auto exclude)
  let chosen := selectAutoTargets (eligible.map fun row => ⟨row.pid, row.name, row.cpuPercent⟩)
    auto.settings.minProcessCpuPercent
    (auto.settings.maxProcesses.toInt - auto.throttled.length).toNat
  chosen.filterMap fun c => rows.find? fun row => row.pid == c.pid

/-- The heaviest processes are lowered, up to the limit. -/
def lowerChosen (target : PriorityClass) (exclude : WString → DWORD → Bool) (rows : List Row)
    (acc : AutoResult) : AutoResult :=
  if (acc.auto.throttled.length : Int) < acc.auto.settings.maxProcesses.toInt then
    (chosenRows acc.auto exclude rows).foldl (lowerRow r target) acc
  else acc

/-- Entries of processes that have ended are dropped. -/
def forgetExited (auto : AutoProtector) : AutoProtector :=
  { auto with throttled := auto.throttled.filter fun e => !r.exited e.1 }

/-- `Tick`. -/
def tick (exclude : WString → DWORD → Bool) (auto : AutoProtector) : AutoResult :=
  if !auto.settings.enabled then { auto := auto }
  else
    let forgot := forgetExited r auto
    let state := forgot.state.update r.systemCpu forgot.settings
    let moved := { forgot with state := state }
    if state.level = .normal then restoreAll r moved
    else
      let rows := r.rows moved.essential
      let target := targetClass state.level
      let escalated := moved.throttled.map (escalate r target)
      lowerChosen r target exclude rows
        { auto :=
            { moved with
              exempted := moved.exempted.filter fun pid => rows.any fun row => row.pid == pid
              throttled := escalated.map Prod.fst }
          sets := escalated.flatMap Prod.snd }

end Calls

/-- Every process that is lowered afterwards, or whose priority class is set,
    satisfies `P`. -/
structure Within (P : DWORD → Prop) (out : AutoResult) : Prop where
  throttled : ∀ p ∈ keys out.auto.throttled, P p
  sets : ∀ c ∈ out.sets, P c.1

section Within

variable {r : AutoReadings} {P : DWORD → Prop}

theorem keys_restore (acc : AutoResult) (pid p : DWORD) :
    p ∈ keys (restore r acc pid).auto.throttled ↔ p ∈ keys acc.auto.throttled ∧ p ≠ pid := by
  unfold restore
  rcases hfind : acc.auto.throttled.lookup pid with _ | e
  · -- The process is not lowered, so there is nothing to take away.
    refine ⟨fun hp => ⟨hp, ?_⟩, fun h => h.1⟩
    rintro rfl
    rw [← lookup_isSome_iff, hfind] at hp
    cases hp
  · exact mem_keys_erase acc.auto.throttled pid p

theorem within_restore (acc : AutoResult) (pid : DWORD) (h : Within P acc) :
    Within P (restore r acc pid) := by
  refine ⟨fun p hp => h.throttled p ((keys_restore acc pid p).mp hp).1, ?_⟩
  intro c hc
  unfold restore at hc
  -- Restoring touches an entry of the list alone.
  rcases hfind : acc.auto.throttled.lookup pid with _ | e
  · rw [hfind] at hc
    exact h.sets c hc
  · rw [hfind] at hc
    dsimp only at hc
    split_ifs at hc with hexited
    · exact h.sets c hc
    · rcases List.mem_append.mp hc with hc | hc
      · exact h.sets c hc
      · rw [List.mem_singleton.mp hc]
        exact h.throttled pid ((lookup_isSome_iff _ pid).mp (by rw [hfind]; rfl))

theorem within_foldl_restore (pids : List DWORD) (acc : AutoResult) (h : Within P acc) :
    Within P (pids.foldl (restore r) acc) :=
  List.foldlRecOn pids (restore r) h fun acc hacc pid _ => within_restore acc pid hacc

theorem keys_foldl_restore (pids : List DWORD) (acc : AutoResult) (p : DWORD) :
    p ∈ keys (pids.foldl (restore r) acc).auto.throttled ↔
      p ∈ keys acc.auto.throttled ∧ p ∉ pids := by
  induction pids generalizing acc with
  | nil => exact (and_iff_left List.not_mem_nil).symm
  | cons pid pids ih =>
      rw [List.foldl_cons, ih, keys_restore, List.mem_cons, not_or, and_assoc]

/-- Nothing is lowered after everything is restored. -/
theorem keys_restoreAll (auto : AutoProtector) (p : DWORD) :
    p ∉ keys (restoreAll r auto).auto.throttled := by
  rw [restoreAll, keys_foldl_restore]
  exact fun h => h.2 h.1

theorem within_restoreAll (auto : AutoProtector) (h : ∀ p ∈ keys auto.throttled, P p) :
    Within P (restoreAll r auto) :=
  within_foldl_restore (keys auto.throttled) { auto := auto }
    ⟨h, fun _ hc => absurd hc List.not_mem_nil⟩

/-- A new configuration lowers nothing. -/
theorem within_configure (auto : AutoProtector) (settings : AutoProtectSettings)
    (essential : List WString) (h : ∀ p ∈ keys auto.throttled, P p) :
    Within P (configure r auto settings essential) := by
  unfold configure
  by_cases henabled : settings.enabled = true
  · rw [if_pos henabled]
    exact ⟨h, fun _ hc => absurd hc List.not_mem_nil⟩
  · rw [if_neg henabled]
    have hrestored := within_restoreAll (r := r)
      { auto with settings := settings, essential := essential } h
    exact ⟨hrestored.throttled, hrestored.sets⟩

/-- Without `enabled` nothing is lowered. -/
theorem keys_configure (auto : AutoProtector) (settings : AutoProtectSettings)
    (essential : List WString) (p : DWORD)
    (hp : p ∈ keys (configure r auto settings essential).auto.throttled) :
    settings.enabled = true ∧ p ∈ keys auto.throttled := by
  unfold configure at hp
  by_cases henabled : settings.enabled = true
  · rw [if_pos henabled] at hp
    exact ⟨henabled, hp⟩
  · rw [if_neg henabled] at hp
    exact absurd hp (keys_restoreAll _ p)

theorem within_exempt (auto : AutoProtector) (pid : DWORD) (h : ∀ p ∈ keys auto.throttled, P p) :
    Within P (exempt r auto pid) := by
  have hrestored := within_restore (r := r) (P := P) { auto := auto } pid
    ⟨h, fun _ hc => absurd hc List.not_mem_nil⟩
  exact ⟨hrestored.throttled, hrestored.sets⟩

/-- An exempted process is not lowered. -/
theorem keys_exempt (auto : AutoProtector) (pid p : DWORD) :
    p ∈ keys (exempt r auto pid).auto.throttled ↔ p ∈ keys auto.throttled ∧ p ≠ pid :=
  keys_restore { auto := auto } pid p

theorem within_lowerRow (target : PriorityClass) (acc : AutoResult) (row : Row)
    (hrow : P row.pid) (h : Within P acc) : Within P (lowerRow r target acc row) := by
  have hsets : ∀ c ∈ acc.sets ++ [(row.pid, target)], P c.1 := by
    intro c hc
    rcases List.mem_append.mp hc with hc | hc
    · exact h.sets c hc
    · rw [List.mem_singleton.mp hc]
      exact hrow
  unfold lowerRow
  by_cases hopened : r.opened row.pid = true
  · simp only [hopened, Bool.not_true, Bool.false_eq_true, if_false]
    -- A process whose class cannot be read is left alone.
    rcases r.getPriorityClass row.pid with _ | original
    · exact h
    · dsimp only
      split_ifs with hlow hset hthere
      · exact h
      · exact ⟨h.throttled, hsets⟩
      · exact ⟨h.throttled, hsets⟩
      · -- The class was set, and it was not lowered before.
        refine ⟨fun p hp => ?_, hsets⟩
        rcases (mem_keys_assign _ _ _ _).mp hp with rfl | hp
        · exact hrow
        · exact h.throttled p hp
  · simp only [Bool.eq_false_iff.mpr hopened, Bool.not_false, if_true]
    exact h

/-- A chosen row has the process id of an eligible one. -/
theorem mem_chosenRows (auto : AutoProtector) (exclude : WString → DWORD → Bool)
    (rows : List Row) (row : Row) (h : row ∈ chosenRows auto exclude rows) :
    ∃ row' ∈ rows, row'.pid = row.pid ∧ isEligible auto exclude row' = true := by
  rcases List.mem_filterMap.mp h with ⟨c, hc, hfind⟩
  have hpid := List.find?_some hfind
  rcases List.mem_map.mp (mem_selectAutoTargets _ _ _ c hc) with ⟨row', hrow', rfl⟩
  rcases List.mem_filter.mp hrow' with ⟨hmem, heligible⟩
  exact ⟨row', hmem, (beq_iff_eq.mp hpid).symm, heligible⟩

theorem within_lowerChosen (target : PriorityClass) (exclude : WString → DWORD → Bool)
    (rows : List Row) (acc : AutoResult)
    (hrows : ∀ row ∈ rows, exclude row.name row.pid = false → P row.pid) (h : Within P acc) :
    Within P (lowerChosen r target exclude rows acc) := by
  unfold lowerChosen
  split_ifs with hroom
  · refine List.foldlRecOn _ (lowerRow r target) h ?_
    intro acc' hacc row hrow
    -- What is chosen is eligible, and so not excluded.
    rcases mem_chosenRows acc.auto exclude rows row hrow with ⟨row', hrow', hpid, heligible⟩
    simp only [isEligible, Bool.and_eq_true, Bool.not_eq_true'] at heligible
    refine within_lowerRow target acc' row ?_ hacc
    rw [← hpid]
    exact hrows row' hrow' heligible.2
  · exact h

theorem escalate_pid (target : PriorityClass) (e : DWORD × Entry) :
    (escalate r target e).1.1 = e.1 ∧ ∀ c ∈ (escalate r target e).2, c.1 = e.1 := by
  unfold escalate
  split_ifs with hrank hset
  · exact ⟨rfl, fun _ hc => congrArg Prod.fst (List.mem_singleton.mp hc)⟩
  · exact ⟨rfl, fun _ hc => congrArg Prod.fst (List.mem_singleton.mp hc)⟩
  · exact ⟨rfl, fun _ hc => absurd hc List.not_mem_nil⟩

/-- What a tick lowers or touches was lowered before or is a process of the
    table that is not excluded. -/
theorem within_tick (exclude : WString → DWORD → Bool) (auto : AutoProtector)
    (hthrottled : ∀ p ∈ keys auto.throttled, P p)
    (hrows : ∀ row ∈ r.rows auto.essential, exclude row.name row.pid = false → P row.pid) :
    Within P (tick r exclude auto) := by
  -- Forgetting what has exited only shortens the list.
  have hforgot : ∀ p ∈ keys (forgetExited r auto).throttled, P p := by
    intro p hp
    rcases List.mem_map.mp hp with ⟨e, he, rfl⟩
    exact hthrottled e.1 (List.mem_map_of_mem (List.mem_of_mem_filter he))
  unfold tick
  by_cases henabled : auto.settings.enabled = true
  · simp only [henabled, Bool.not_true, Bool.false_eq_true, if_false]
    split_ifs with hlevel
    · exact within_restoreAll _ hforgot
    · refine within_lowerChosen _ exclude _ _ hrows ⟨?_, ?_⟩
      · -- What an escalation touches was lowered before.
        intro p hp
        simp only [keys, List.map_map, List.mem_map, Function.comp_apply] at hp
        rcases hp with ⟨e, he, rfl⟩
        rw [(escalate_pid (r := r) _ e).1]
        exact hforgot e.1 (List.mem_map_of_mem he)
      · intro c hc
        rcases List.mem_flatMap.mp hc with ⟨s, hs, hcs⟩
        rcases List.mem_map.mp hs with ⟨e, he, rfl⟩
        rw [(escalate_pid (r := r) _ e).2 c hcs]
        exact hforgot e.1 (List.mem_map_of_mem he)
  · simp only [Bool.eq_false_iff.mpr henabled, Bool.not_false, if_true]
    exact ⟨hthrottled, fun _ hc => absurd hc List.not_mem_nil⟩

end Within

end Service

end ThreadHaul
