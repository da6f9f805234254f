import ThreadHaul.Service.AutoLimits

/-!
# The Slots of Auto-Protect

Whether a tick lowers as many processes as it may.

A tick fills its free slots with the heaviest processes that may be lowered. What
class a process has is found out after that, when it is lowered. One that has the
class of the level already, or a lower one, is left as it is, and its slot stays
empty. The next tick chooses the same processes again.

So a slot is wasted exactly if a process with a low class is among the chosen and one
with a higher class is not. `Unwasted` says that this does not happen, in terms of
how many processes are heavier.

## Main definitions

* `Answers`: What the system says when the calls about ordinary processes succeed.
* `UsesSlots`: What is promised of a tick.
* `openRows`, `freeSlots`: What may be lowered, and how many of it.
* `Unwasted`: No process with a low class takes the slot of one with a higher class.

## Theorems

* `mem_chosenRows_iff`: What is chosen.
* `lowered_foldl`: What is lowered of a list of processes.
* `usesSlots_iff`: When a tick keeps the promise.
* `along_usesSlots_iff`: When all ticks of a run do.
-/

namespace ThreadHaul

namespace Service

open Actuator Telemetry OrderedMap Runs

section Promise

variable (r : AutoReadings) (exclude : WString → DWORD → Bool) (auto : AutoProtector)

/-- The snapshot lists a process once, and the calls about ordinary processes
    succeed. -/
structure Answers : Prop where
  distinct : ((r.rows auto.essential).map Row.pid).Nodup
  opened : ∀ row ∈ r.rows auto.essential, row.accessible = true → row.safety = .normal →
    r.opened row.pid = true
  got : ∀ row ∈ r.rows auto.essential, row.accessible = true → row.safety = .normal →
    (r.getPriorityClass row.pid).isSome = true
  set : ∀ row ∈ r.rows auto.essential, row.accessible = true → row.safety = .normal →
    r.setPriorityClass row.pid = true

/-- The class that a tick lowers to. -/
def tickTarget : PriorityClass :=
  targetClass (auto.state.update r.systemCpu auto.settings).level

/-- The process has the class already, or a lower one. -/
def isLow (target : PriorityClass) (row : Row) : Bool :=
  (r.getPriorityClass row.pid).any fun c => c.rank ≤ target.rank

/-- The slots are used up, or no process is left that could be lowered. -/
def UsesSlots : Prop :=
  auto.settings.maxProcesses.toInt ≤ (tick r exclude auto).auto.throttled.length ∨
    ∀ row ∈ r.rows auto.essential, row.accessible = true → row.safety = .normal →
      exclude row.name row.pid = false → row.pid ∉ auto.exempted →
      auto.settings.minProcessCpuPercent ≤ row.cpuPercent →
      row.pid ∈ keys (tick r exclude auto).auto.throttled ∨ isLow r (tickTarget r auto) row = true

/-- A row of the snapshot as a candidate. -/
def Row.candidate (row : Row) : AutoCandidate := ⟨row.pid, row.name, row.cpuPercent⟩

/-- The processes that the tick may lower. -/
def openRows : List Row :=
  (r.rows auto.essential).filter fun row =>
    isEligible (forgetExited r auto) exclude row &&
      decide (auto.settings.minProcessCpuPercent ≤ row.cpuPercent)

/-- How many more processes the tick may lower. -/
def freeSlots : Nat :=
  (auto.settings.maxProcesses.toInt - (forgetExited r auto).throttled.length).toNat

/-- How many of the processes that the tick may lower are ahead of one. -/
def heavier (row : Row) : Nat :=
  (openRows r exclude auto).countP fun row' => row'.candidate.ahead row.candidate

/-- If a process whose class is low is heavy enough for a slot, then so is every one
    whose class is not. -/
def Unwasted : Prop :=
  ∀ low ∈ openRows r exclude auto, isLow r (tickTarget r auto) low = true →
    heavier r exclude auto low < freeSlots r auto →
    ∀ row ∈ openRows r exclude auto, isLow r (tickTarget r auto) row = false →
      heavier r exclude auto row < freeSlots r auto

end Promise

/-- The promise about a tick that ends at a raised level. -/
def AutoCall.UsesSlots (auto : AutoProtector) : AutoCall → Prop
  | .tick r exclude => (Service.tick r exclude auto).auto.state.level ≠ .normal → Answers r auto →
      Service.UsesSlots r exclude auto
  | _ => True

/-- A tick under pressure, with its calls succeeding, wastes no slot. -/
def AutoCall.Unwasted (auto : AutoProtector) : AutoCall → Prop
  | .tick r exclude => (Service.tick r exclude auto).auto.state.level ≠ .normal → Answers r auto →
      Service.Unwasted r exclude auto
  | _ => True

/-! ### What is lowered -/

section Lowering

variable {r : AutoReadings} {target : PriorityClass}

/-- A process about which the calls succeed. -/
structure Lowerable (r : AutoReadings) (row : Row) : Prop where
  opened : r.opened row.pid = true
  got : (r.getPriorityClass row.pid).isSome = true
  set : r.setPriorityClass row.pid = true

-- A process is lowered unless its class is low.
theorem lowered_row (acc : AutoResult) (row : Row) (h : Lowerable r row)
    (hnew : row.pid ∉ keys acc.auto.throttled) :
    (isLow r target row = true → lowerRow r target acc row = acc) ∧
      (isLow r target row = false →
        (lowerRow r target acc row).auto.throttled.length = acc.auto.throttled.length + 1 ∧
          ∀ p, p ∈ keys (lowerRow r target acc row).auto.throttled ↔
            p = row.pid ∨ p ∈ keys acc.auto.throttled) := by
  rcases Option.isSome_iff_exists.mp h.got with ⟨original, horiginal⟩
  have hlow : isLow r target row = decide (original.rank ≤ target.rank) := by
    rw [isLow, horiginal]
    rfl
  unfold lowerRow
  rw [hlow, if_neg (by rw [h.opened]; exact Bool.false_ne_true), horiginal]
  dsimp only
  constructor
  · -- A row that is low already is passed over, and keeps its slot.
    intro hle
    rw [if_pos (of_decide_eq_true hle)]
  · intro hlt
    rw [if_neg (of_decide_eq_false hlt), if_neg (by rw [h.set]; exact Bool.false_ne_true)]
    dsimp only
    rw [if_neg hnew]
    exact ⟨(perm_assign _ _ _ hnew).length_eq, fun p => mem_keys_assign _ _ _ _⟩

/-- Of different processes those are lowered whose class is not low. -/
theorem lowered_foldl (rows : List Row) (hdistinct : (rows.map Row.pid).Nodup)
    (acc : AutoResult) (h : ∀ row ∈ rows, Lowerable r row)
    (hnew : ∀ row ∈ rows, row.pid ∉ keys acc.auto.throttled) :
    (rows.foldl (lowerRow r target) acc).auto.throttled.length
        = acc.auto.throttled.length + rows.countP (fun row => !isLow r target row) ∧
      ∀ p, p ∈ keys (rows.foldl (lowerRow r target) acc).auto.throttled ↔
        p ∈ keys acc.auto.throttled ∨
          ∃ row ∈ rows, isLow r target row = false ∧ row.pid = p := by
  induction rows generalizing acc with
  | nil => simp
  | cons row rows ih =>
      rcases List.nodup_cons.mp hdistinct with ⟨hother, hdistinct'⟩
      have hstep := @lowered_row r target acc row (h row (List.mem_cons_self ..))
        (hnew row (List.mem_cons_self ..))
      have hrest : ∀ row' ∈ rows, Lowerable r row' :=
        fun row' hrow' => h row' (List.mem_cons_of_mem _ hrow')
      rw [List.foldl_cons]
      cases hlow : isLow r target row with
      | true =>
          -- A class that is low already is left, and no slot is used.
          rw [hstep.1 hlow]
          rcases ih hdistinct' acc hrest
            (fun row' hrow' => hnew row' (List.mem_cons_of_mem _ hrow')) with ⟨hlength, hkeys⟩
          refine ⟨?_, fun p => ?_⟩
          · rw [hlength, List.countP_cons_of_neg (by rw [hlow]; exact Bool.false_ne_true)]
          · rw [hkeys, List.exists_mem_cons_iff, hlow]
            simp
      | false =>
          -- The process is lowered, and none of the others is the same one.
          rcases hstep.2 hlow with ⟨hone, hthere⟩
          have hnew' : ∀ row' ∈ rows,
              row'.pid ∉ keys (lowerRow r target acc row).auto.throttled := by
            intro row' hrow'
            rw [hthere, not_or]
            exact ⟨fun heq => hother (List.mem_map.mpr ⟨row', hrow', heq⟩),
              hnew row' (List.mem_cons_of_mem _ hrow')⟩
          rcases ih hdistinct' _ hrest hnew' with ⟨hlength, hkeys⟩
          refine ⟨?_, fun p => ?_⟩
          · rw [hlength, hone, List.countP_cons_of_pos (by rw [hlow]; rfl)]
            omega
          · rw [hkeys, hthere, List.exists_mem_cons_iff, hlow]
            constructor
            · rintro ((rfl | hp) | hp)
              · exact Or.inr (Or.inl ⟨rfl, rfl⟩)
              · exact Or.inl hp
              · exact Or.inr (Or.inr hp)
            · rintro (hp | ⟨-, rfl⟩ | hp)
              · exact Or.inl (Or.inr hp)
              · exact Or.inl (Or.inl rfl)
              · exact Or.inr hp

end Lowering

/-! ### What is chosen -/

section Choice

variable (r : AutoReadings) (exclude : WString → DWORD → Bool) (auto : AutoProtector)

theorem find_row (rows : List Row) (hdistinct : (rows.map Row.pid).Nodup) (row : Row)
    (hrow : row ∈ rows) : rows.find? (fun row' => row'.pid == row.pid) = some row := by
  have hsome : (rows.find? fun row' => row'.pid == row.pid).isSome = true :=
    List.find?_isSome.mpr ⟨row, hrow, beq_self_eq_true _⟩
  rcases Option.isSome_iff_exists.mp hsome with ⟨row', hrow'⟩
  have hpid := beq_iff_eq.mp (List.find?_some (p := fun row' : Row => row'.pid == row.pid) hrow')
  rw [hrow', List.inj_on_of_nodup_map hdistinct (List.mem_of_find?_eq_some hrow') hrow hpid]

-- Dropping the exemptions of processes that are gone, and lowering further, change
-- nothing for the processes of the snapshot.
theorem filter_isEligible :
    (r.rows auto.essential).filter (isEligible (raisedStart r auto).auto exclude)
      = (r.rows auto.essential).filter (isEligible (forgetExited r auto) exclude) := by
  refine List.filter_congr fun row hrow => ?_
  have hkeys : keys (raisedStart r auto).auto.throttled = keys (forgetExited r auto).throttled :=
    keys_escalate _ _
  have hexempted : row.pid ∈ (raisedStart r auto).auto.exempted ↔ row.pid ∈ auto.exempted := by
    refine List.mem_filter.trans (and_iff_left ?_)
    exact List.any_eq_true.mpr ⟨row, hrow, beq_self_eq_true _⟩
  rw [isEligible, isEligible, hkeys, decide_eq_decide.mpr hexempted]
  rfl

theorem map_openRows :
    (openRows r exclude auto).map Row.candidate
      = (((r.rows auto.essential).filter (isEligible (forgetExited r auto) exclude)).map
          Row.candidate).filter
            fun c => auto.settings.minProcessCpuPercent ≤ c.cpuPercent := by
  rw [List.filter_map, List.filter_filter, openRows]
  refine congrArg _ (List.filter_congr fun row _ => ?_)
  exact Bool.and_comm _ _

theorem mem_of_mem_chosenRows (rows : List Row) (row : Row)
    (h : row ∈ chosenRows auto exclude rows) : row ∈ rows := by
  rcases List.mem_filterMap.mp h with ⟨c, _, hfind⟩
  exact List.mem_of_find?_eq_some hfind

variable {r auto} (hanswers : Answers r auto)
include hanswers

/-- What a tick chooses, as candidates. -/
theorem map_chosenRows :
    (chosenRows (raisedStart r auto).auto exclude (r.rows auto.essential)).map Row.candidate
      = selectAutoTargets
          (((r.rows auto.essential).filter (isEligible (forgetExited r auto) exclude)).map
            Row.candidate) auto.settings.minProcessCpuPercent (freeSlots r auto) := by
  have hlength := length_raisedStart auto r
  have hsettings : (raisedStart r auto).auto.settings = auto.settings := rfl
  rw [chosenRows, filter_isEligible, hlength, hsettings, List.map_filterMap]
  -- Every candidate comes from a row, which is the only one of its process.
  refine (List.filterMap_congr fun c hc => ?_).trans List.filterMap_some
  rcases List.mem_map.mp (mem_selectAutoTargets _ _ _ c hc) with ⟨row, hrow, rfl⟩
  rw [find_row (r.rows auto.essential) hanswers.distinct row (List.mem_of_mem_filter hrow)]
  rfl

/-- What a tick chooses: of what it may lower, the processes that are heavy enough for
    a free slot. -/
theorem mem_chosenRows_iff (row : Row) :
    row ∈ chosenRows (raisedStart r auto).auto exclude (r.rows auto.essential) ↔
      row ∈ openRows r exclude auto ∧ heavier r exclude auto row < freeSlots r auto := by
  set eligible := (r.rows auto.essential).filter (isEligible (forgetExited r auto) exclude)
    with heligible
  have hsame : ∀ a ∈ r.rows auto.essential, ∀ b ∈ r.rows auto.essential,
      a.candidate = b.candidate → a = b := fun a ha b hb hab =>
    List.inj_on_of_nodup_map hanswers.distinct ha hb (congrArg AutoCandidate.pid hab)
  have hpids : ((eligible.map Row.candidate).map AutoCandidate.pid).Nodup := by
    rw [List.map_map]
    exact hanswers.distinct.sublist (List.filter_sublist.map Row.pid)
  -- The rank among the candidates is the count of the heavier rows.
  have hrank : rankAmong (eligible.map Row.candidate) auto.settings.minProcessCpuPercent
      row.candidate = heavier r exclude auto row := by
    rw [rankAmong, ← map_openRows, List.countP_map]
    rfl
  have hselected := mem_selectAutoTargets_iff (eligible.map Row.candidate) hpids
    auto.settings.minProcessCpuPercent (freeSlots r auto) row.candidate
  rw [← map_chosenRows exclude hanswers, hrank] at hselected
  constructor
  · intro h
    rcases hselected.mp (List.mem_map_of_mem h) with ⟨hmem, hheavy, hslot⟩
    rcases List.mem_map.mp hmem with ⟨row', hrow', heq⟩
    have hrow := hsame row' (List.mem_of_mem_filter hrow') row
      (mem_of_mem_chosenRows exclude _ _ row h) heq
    refine ⟨List.mem_filter.mpr ⟨?_, ?_⟩, hslot⟩
    · exact mem_of_mem_chosenRows exclude _ _ row h
    · rw [Bool.and_eq_true, decide_eq_true_iff]
      exact ⟨hrow ▸ (List.mem_filter.mp hrow').2, hheavy⟩
  · rintro ⟨hopen, hslot⟩
    rcases List.mem_filter.mp hopen with ⟨hmem, hwanted⟩
    rw [Bool.and_eq_true, decide_eq_true_iff] at hwanted
    have hcandidate := hselected.mpr
      ⟨List.mem_map_of_mem (List.mem_filter.mpr ⟨hmem, hwanted.1⟩), hwanted.2, hslot⟩
    rcases List.mem_map.mp hcandidate with ⟨row', hrow', heq⟩
    rw [← hsame row' (mem_of_mem_chosenRows exclude _ _ row' hrow') row hmem heq]
    exact hrow'

/-- A tick that does not choose a process it may lower chooses as many as it has free
    slots. -/
theorem length_chosenRows_of_not_mem (row : Row) (hrow : row ∈ openRows r exclude auto)
    (h : row ∉ chosenRows (raisedStart r auto).auto exclude (r.rows auto.essential)) :
    (chosenRows (raisedStart r auto).auto exclude (r.rows auto.essential)).length
      = freeSlots r auto := by
  have hslot : freeSlots r auto ≤ heavier r exclude auto row := by
    by_contra hlt
    exact h ((mem_chosenRows_iff exclude hanswers row).mpr ⟨hrow, not_le.mp hlt⟩)
  have hcount : heavier r exclude auto row ≤ (openRows r exclude auto).length :=
    List.countP_le_length
  have hlength := congrArg List.length (map_chosenRows exclude hanswers)
  rw [selectAutoTargets, ← map_openRows, List.length_map, List.length_take,
    List.length_insertionSort, List.length_map] at hlength
  omega

theorem distinct_chosenRows :
    ((chosenRows (raisedStart r auto).auto exclude (r.rows auto.essential)).map
      Row.pid).Nodup := by
  -- The ids of the rows are those of their candidates.
  have hpids : (openRows r exclude auto).map Row.pid
      = ((openRows r exclude auto).map Row.candidate).map AutoCandidate.pid := by
    rw [List.map_map]
    rfl
  have hopen : ((openRows r exclude auto).map Row.pid).Nodup :=
    hanswers.distinct.sublist (List.filter_sublist.map Row.pid)
  have hchosen : (chosenRows (raisedStart r auto).auto exclude (r.rows auto.essential)).map Row.pid
      = ((chosenRows (raisedStart r auto).auto exclude (r.rows auto.essential)).map
          Row.candidate).map AutoCandidate.pid := by
    rw [List.map_map]
    rfl
  rw [hpids, map_openRows] at hopen
  rw [hchosen, map_chosenRows exclude hanswers, selectAutoTargets]
  refine List.Nodup.sublist ((List.take_sublist _ _).map AutoCandidate.pid) ?_
  exact ((List.perm_insertionSort AutoCandidate.before _).map AutoCandidate.pid).nodup_iff.mpr hopen

end Choice

section Slots

variable {r : AutoReadings} {exclude : WString → DWORD → Bool} {auto : AutoProtector}

theorem mem_openRows_iff (row : Row) :
    row ∈ openRows r exclude auto ↔
      row ∈ r.rows auto.essential ∧ row.accessible = true ∧ row.safety = .normal ∧
        row.pid ∉ keys (raisedStart r auto).auto.throttled ∧ row.pid ∉ auto.exempted ∧
        exclude row.name row.pid = false ∧
        auto.settings.minProcessCpuPercent ≤ row.cpuPercent := by
  have hkeys : keys (raisedStart r auto).auto.throttled = keys (forgetExited r auto).throttled :=
    keys_escalate _ _
  rw [hkeys, openRows, List.mem_filter]
  simp only [isEligible, Bool.and_eq_true, beq_iff_eq, Bool.not_eq_true', decide_eq_true_iff,
    decide_eq_false_iff_not, and_assoc]
  exact Iff.rfl

/-- What a tick with free slots lowers. -/
theorem tick_lowers (henabled : auto.settings.enabled = true)
    (hlevel : (auto.state.update r.systemCpu auto.settings).level ≠ .normal)
    (hanswers : Answers r auto)
    (hroom : ((raisedStart r auto).auto.throttled.length : Int)
      < auto.settings.maxProcesses.toInt) :
    (tick r exclude auto).auto.throttled.length
        = (raisedStart r auto).auto.throttled.length
          + (chosenRows (raisedStart r auto).auto exclude (r.rows auto.essential)).countP
              (fun row => !isLow r (tickTarget r auto) row) ∧
      ∀ p, p ∈ keys (tick r exclude auto).auto.throttled ↔
        p ∈ keys (raisedStart r auto).auto.throttled ∨
          ∃ row ∈ chosenRows (raisedStart r auto).auto exclude (r.rows auto.essential),
            isLow r (tickTarget r auto) row = false ∧ row.pid = p := by
  -- What is chosen is open, and by assumption each system call on it succeeds.
  have hopen : ∀ row ∈ chosenRows (raisedStart r auto).auto exclude (r.rows auto.essential),
      row ∈ openRows r exclude auto :=
    fun row hrow => ((mem_chosenRows_iff exclude hanswers row).mp hrow).1
  rw [tick_eq_lowerChosen r exclude henabled hlevel, lowerChosen_of_room r _ exclude _ _ hroom]
  refine lowered_foldl _ (distinct_chosenRows exclude hanswers) _ ?_ ?_
  · intro row hrow
    rcases (mem_openRows_iff row).mp (hopen row hrow) with ⟨hmem, haccessible, hsafety, _⟩
    exact ⟨hanswers.opened row hmem haccessible hsafety, hanswers.got row hmem haccessible hsafety,
      hanswers.set row hmem haccessible hsafety⟩
  · exact fun row hrow => ((mem_openRows_iff row).mp (hopen row hrow)).2.2.2.1

section Room

variable (henabled : auto.settings.enabled = true)
  (hlevel : (auto.state.update r.systemCpu auto.settings).level ≠ .normal)
  (hanswers : Answers r auto)
  (hroom : ((raisedStart r auto).auto.throttled.length : Int) < auto.settings.maxProcesses.toInt)
include henabled hlevel hanswers hroom

omit henabled hlevel hanswers in
theorem freeSlots_of_room : (freeSlots r auto : Int)
    = auto.settings.maxProcesses.toInt - (raisedStart r auto).auto.throttled.length := by
  have hlength := length_raisedStart auto r
  rw [freeSlots, hlength, Int.toNat_of_nonneg (by omega)]

theorem unwasted_of_usesSlots (huses : UsesSlots r exclude auto) : Unwasted r exclude auto := by
  rcases @tick_lowers r exclude auto henabled hlevel hanswers hroom with ⟨hsize, hkeys⟩
  have hslots := freeSlots_of_room hroom
  intro low hlow hislow hslot row hrow hnotlow
  by_contra hleft
  -- The row is not chosen, so as many are chosen as there are slots.
  have hout : row ∉ chosenRows (raisedStart r auto).auto exclude (r.rows auto.essential) :=
    fun h => hleft ((mem_chosenRows_iff exclude hanswers row).mp h).2
  have hfull := length_chosenRows_of_not_mem exclude hanswers row hrow hout
  -- One of these slots goes to the process whose class is low.
  have hwasted : (chosenRows (raisedStart r auto).auto exclude (r.rows auto.essential)).countP
        (fun row => !isLow r (tickTarget r auto) row)
      < (chosenRows (raisedStart r auto).auto exclude (r.rows auto.essential)).length :=
    List.countP_lt_length_iff.mpr
      ⟨low, (mem_chosenRows_iff exclude hanswers low).mpr ⟨hlow, hslot⟩, by rw [hislow]; rfl⟩
  rcases (mem_openRows_iff row).mp hrow with
    ⟨hmem, haccessible, hsafety, hnew, hexempted, hexcluded, hheavy⟩
  rcases huses with hmany | hall
  · omega
  · rcases hall row hmem haccessible hsafety hexcluded hexempted hheavy with hthere | hislow'
    · rcases (hkeys row.pid).mp hthere with hthere | ⟨row', hrow', _, hpid⟩
      · exact hnew hthere
      · have heq := List.inj_on_of_nodup_map hanswers.distinct
          (mem_of_mem_chosenRows exclude _ _ row' hrow') hmem hpid
        exact hout (heq ▸ hrow')
    · rw [hislow'] at hnotlow
      cases hnotlow

theorem usesSlots_of_unwasted (hunwasted : Unwasted r exclude auto) :
    UsesSlots r exclude auto := by
  rcases @tick_lowers r exclude auto henabled hlevel hanswers hroom with ⟨hsize, hkeys⟩
  have hslots := freeSlots_of_room hroom
  by_cases hmiss : ∃ row ∈ openRows r exclude auto, isLow r (tickTarget r auto) row = false ∧
      row ∉ chosenRows (raisedStart r auto).auto exclude (r.rows auto.essential)
  · -- A process is left out, so every slot went to one that is lowered.
    rcases hmiss with ⟨row, hrow, hnotlow, hout⟩
    left
    have hfull := length_chosenRows_of_not_mem exclude hanswers row hrow hout
    have hevery : (chosenRows (raisedStart r auto).auto exclude (r.rows auto.essential)).countP
          (fun row => !isLow r (tickTarget r auto) row)
        = (chosenRows (raisedStart r auto).auto exclude (r.rows auto.essential)).length := by
      rw [List.countP_eq_length]
      intro low hlow
      rcases (mem_chosenRows_iff exclude hanswers low).mp hlow with ⟨hopen, hslot⟩
      cases hislow : isLow r (tickTarget r auto) low with
      | false => rfl
      | true =>
          refine absurd ?_ hout
          exact (mem_chosenRows_iff exclude hanswers row).mpr
            ⟨hrow, hunwasted low hopen hislow hslot row hrow hnotlow⟩
    omega
  · -- Every process that may be lowered is lowered, or is low already.
    right
    intro row hmem haccessible hsafety hexcluded hexempted hheavy
    by_cases hthere : row.pid ∈ keys (raisedStart r auto).auto.throttled
    · exact Or.inl ((hkeys row.pid).mpr (Or.inl hthere))
    · have hopen : row ∈ openRows r exclude auto := (mem_openRows_iff row).mpr
        ⟨hmem, haccessible, hsafety, hthere, hexempted, hexcluded, hheavy⟩
      cases hislow : isLow r (tickTarget r auto) row with
      | true => exact Or.inr rfl
      | false =>
          have hin : row ∈ chosenRows (raisedStart r auto).auto exclude
              (r.rows auto.essential) := by
            by_contra hout
            exact hmiss ⟨row, hopen, hislow, hout⟩
          exact Or.inl ((hkeys row.pid).mpr (Or.inr ⟨row, hin, hislow, rfl⟩))

end Room

/-- A tick uses its slots exactly if none of them goes to a process whose class is low
    while one with a higher class is left out. -/
theorem usesSlots_iff (henabled : auto.settings.enabled = true)
    (hlevel : (auto.state.update r.systemCpu auto.settings).level ≠ .normal)
    (hanswers : Answers r auto) : UsesSlots r exclude auto ↔ Unwasted r exclude auto := by
  -- The question only arises when a slot is free.
  by_cases hroom : ((raisedStart r auto).auto.throttled.length : Int)
      < auto.settings.maxProcesses.toInt
  · exact ⟨unwasted_of_usesSlots henabled hlevel hanswers hroom,
      usesSlots_of_unwasted henabled hlevel hanswers hroom⟩
  · -- There is no free slot.
    have hlength := length_raisedStart auto r
    refine iff_of_true (Or.inl ?_) ?_
    · rw [tick_eq_lowerChosen r exclude henabled hlevel, lowerChosen_of_full r _ exclude _ _ hroom]
      exact not_lt.mp hroom
    · intro low _ _ hslot
      rw [freeSlots] at hslot
      omega

end Slots

/-! ### Runs -/

/-- Without `enabled` the level is `Normal`. -/
def Dormant (auto : AutoProtector) : Prop :=
  auto.settings.enabled = false → auto.state.level = .normal

theorem dormant_step (auto : AutoProtector) (c : AutoCall) (h : Dormant auto) :
    Dormant (c.step auto) := by
  -- A tick does nothing while it is switched off, and switching off gives everything back.
  cases c with
  | tick r exclude =>
      intro hoff
      rcases tick_cases r exclude auto with ⟨_, heq⟩ | ⟨henabled, hsettings, _⟩
      · rw [AutoCall.step, AutoCall.perform, heq] at hoff ⊢
        exact h hoff
      · rw [AutoCall.step, AutoCall.perform, hsettings, henabled] at hoff
        cases hoff
  | configure r settings essential =>
      intro hoff
      simp only [AutoCall.step, AutoCall.perform, configure] at hoff ⊢
      split_ifs at hoff ⊢ with henabled
      · rw [henabled] at hoff
        cases hoff
      · rfl
  | exempt r pid =>
      simp only [Dormant, AutoCall.step, AutoCall.perform, exempt, restore]
      cases auto.throttled.lookup pid with
      | none => exact h
      | some e => exact h
  | restoreAll r =>
      rcases settings_restoreAll r auto with ⟨hsettings, hstate, _⟩
      rw [Dormant, AutoCall.step, AutoCall.perform, hsettings, hstate]
      exact h

/-- A tick that ends at a raised level has taken a sample. -/
theorem raised_of_tick (r : AutoReadings) (exclude : WString → DWORD → Bool)
    (auto : AutoProtector) (h : Dormant auto)
    (hlevel : (tick r exclude auto).auto.state.level ≠ .normal) :
    auto.settings.enabled = true ∧
      (auto.state.update r.systemCpu auto.settings).level ≠ .normal := by
  rcases tick_cases r exclude auto with ⟨hoff, heq⟩ | ⟨henabled, _, hstate, _⟩
  · rw [heq] at hlevel
    exact absurd (h hoff) hlevel
  · rw [hstate] at hlevel
    exact ⟨henabled, hlevel⟩

/-- The ticks of a run that end at a raised level use their slots exactly if none of
    them gives a slot to a process whose class is low and leaves one with a higher
    class out. -/
theorem along_usesSlots_iff (calls : List AutoCall) :
    Along AutoCall.step AutoCall.UsesSlots {} calls ↔
      Along AutoCall.step AutoCall.Unwasted {} calls := by
  refine along_iff_along AutoCall.step _ _ Dormant dormant_step ?_ calls {} fun _ => rfl
  intro auto c hauto
  cases c with
  | tick r exclude =>
      refine forall_congr' fun hlevel => forall_congr' fun hanswers => ?_
      rcases raised_of_tick r exclude auto hauto hlevel with ⟨henabled, hraised⟩
      exact usesSlots_iff henabled hraised hanswers
  | configure r settings essential => exact Iff.rfl
  | exempt r pid => exact Iff.rfl
  | restoreAll r => exact Iff.rfl

section Wasted

/-- Three background processes that are idle already, and an ordinary one that is a
    little lighter. -/
def idleAndOrdinary : List Row := [⟨4, [], 100, true, .normal⟩, ⟨8, [], 100, true, .normal⟩,
  ⟨12, [], 100, true, .normal⟩, ⟨16, [], 99, true, .normal⟩]

/-- The machine is fully loaded, and only the last of the processes has the class
    `Normal`. -/
def lateOrdinary : AutoReadings where
  systemCpu := 100
  rows _ := idleAndOrdinary
  exited _ := false
  opened _ := true
  getPriorityClass pid := if pid = 16 then some .normal else some .idle
  setPriorityClass _ := true
  tickCount := 0

/-- With the default settings, the level is raised by the fifth sample, and the three
    slots go to the idle processes. -/
theorem not_usesSlots_idle :
    ¬ Along AutoCall.step AutoCall.UsesSlots {}
      (List.replicate 5 (.tick lateOrdinary fun _ _ => false)) := by
  intro h
  -- Every call of the system succeeds at the last tick.
  have hanswers : Answers lateOrdinary
      (run AutoCall.step {} (List.replicate 4 (.tick lateOrdinary fun _ _ => false))) := by
    refine ⟨by decide, fun _ _ _ _ => rfl, fun row _ _ _ => ?_, fun _ _ _ _ => rfl⟩
    simp only [lateOrdinary]
    split_ifs <;> rfl
  rcases h.2.2.2.2.1 (by decide +kernel) hanswers with hmany | hall
  · exact absurd hmany (by decide +kernel)
  · have hrow : (⟨16, [], 99, true, .normal⟩ : Row) ∈ idleAndOrdinary := by
      simp only [idleAndOrdinary, List.mem_cons, or_true, true_or]
    rcases hall ⟨16, [], 99, true, .normal⟩ hrow rfl rfl rfl (by decide +kernel)
      (by decide +kernel) with hthere | hlow
    · exact absurd hthere (by decide +kernel)
    · exact absurd hlow (by decide +kernel)

end Wasted

end Service

end ThreadHaul
