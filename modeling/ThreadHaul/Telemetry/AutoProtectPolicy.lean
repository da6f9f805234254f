import Mathlib.Algebra.Order.Field.Rat
import Mathlib.Data.List.Sort
import ThreadHaul.Telemetry.ProcessSafety

/-!
# The Policy of Auto-Protect

When the machine counts as overloaded, and which processes are lowered then.

`AutoProtectState` counts samples of the system's load in a row, as the state
machine of a process does, and moves between three levels. `selectAutoTargets`
picks the heaviest processes: of those that are heavy enough, the ones that
fewer than `slots` of them are ahead of.

## Main definitions

* `AutoProtectSettings`, `AutoLevel`, `AutoProtectState`: The data.
* `AutoProtectState.update`: One sample.
* `selectAutoTargets`: The heaviest processes.
* `AutoCandidate.ahead`: The one is heavier than the other.

## Theorems

* `mem_selectAutoTargets`: What is selected is eligible.
* `mem_take_iff`: The first of a sorted list.
* `eq_sortedAmong`: However they are sorted, the candidates come out in one order.
* `mem_selectAutoTargets_iff`: What is selected.
* `selectAutoTargets_heaviest`: The heaviest ones, in order, as many as fit.
-/

namespace ThreadHaul

namespace Telemetry

/-- `AutoProtectSettings`. -/
structure AutoProtectSettings where
  enabled : Bool := true
  throttlePercent : Rat := 90
  throttleSamples : Int32 := 5
  useIdle : Bool := true
  idlePercent : Rat := 97
  idleSamples : Int32 := 10
  recoverPercent : Rat := 75
  recoverSamples : Int32 := 10
  maxProcesses : Int32 := 3
  minProcessCpuPercent : Rat := 50
  deriving DecidableEq

/-- `AutoLevel`. -/
inductive AutoLevel
  | normal
  | throttle
  | idle
  deriving DecidableEq

/-- `AutoProtectState`. -/
structure AutoProtectState where
  level : AutoLevel := .normal
  high : Int32 := 0
  extreme : Int32 := 0
  low : Int32 := 0
  deriving DecidableEq

/-- The three counters after one more sample. -/
def AutoProtectState.count (a : AutoProtectState) (systemCpuPercent : Rat)
    (s : AutoProtectSettings) : AutoProtectState :=
  { a with
    high := if s.throttlePercent ≤ systemCpuPercent then a.high + 1 else 0
    extreme := if s.idlePercent ≤ systemCpuPercent then a.extreme + 1 else 0
    low := if systemCpuPercent < s.recoverPercent then a.low + 1 else 0 }

/-- `AutoProtectState::Update`. -/
def AutoProtectState.update (a : AutoProtectState) (systemCpuPercent : Rat)
    (s : AutoProtectSettings) : AutoProtectState :=
  let c := a.count systemCpuPercent s
  if c.level = .normal ∧ s.throttleSamples ≤ c.high then { c with level := .throttle }
  else if c.level = .throttle ∧ s.useIdle = true ∧ s.idleSamples ≤ c.extreme then
    { c with level := .idle }
  else if c.level ≠ .normal ∧ s.recoverSamples ≤ c.low then { c with level := .normal }
  else c

/-- `AutoCandidate`. -/
structure AutoCandidate where
  pid : DWORD
  name : WString
  cpuPercent : Rat
  deriving DecidableEq

/-- The order of the candidates: the heavier first, then by process id. -/
def AutoCandidate.before (a b : AutoCandidate) : Prop :=
  b.cpuPercent < a.cpuPercent ∨ (a.cpuPercent = b.cpuPercent ∧ a.pid ≤ b.pid)

/-- Which of two candidates comes before the other can be decided. -/
instance : DecidableRel AutoCandidate.before := fun a b => by
  unfold AutoCandidate.before
  infer_instance

/-- `SelectAutoTargets`. -/
def selectAutoTargets (eligible : List AutoCandidate) (minCpu : Rat) (slots : Nat) :
    List AutoCandidate :=
  ((eligible.filter fun c => minCpu ≤ c.cpuPercent).insertionSort AutoCandidate.before).take slots

/-- What is selected is eligible. -/
theorem mem_selectAutoTargets (eligible : List AutoCandidate) (minCpu : Rat) (slots : Nat)
    (c : AutoCandidate) (h : c ∈ selectAutoTargets eligible minCpu slots) : c ∈ eligible :=
  List.mem_of_mem_filter ((List.mem_insertionSort AutoCandidate.before).mp (List.mem_of_mem_take h))

section Ranking

-- The elements before an element of a sorted list are those it comes after.
theorem mem_take_iff {α : Type} (r : α → α → Prop) [DecidableRel r]
    (hasymm : ∀ a b, r a b → ¬ r b a) (l : List α) (hl : l.Pairwise r) (x : α) (hx : x ∈ l)
    (n : Nat) : x ∈ l.take n ↔ l.countP (fun y => r y x) < n := by
  -- By induction on the list: the first element is ahead of all the others.
  induction l generalizing n with
  | nil => cases hx
  | cons a l ih =>
      rcases List.pairwise_cons.mp hl with ⟨hhead, htail⟩
      cases n with
      | zero => simp
      | succ n =>
          rw [List.take_succ_cons, List.mem_cons]
          rcases List.mem_cons.mp hx with rfl | hx
          · -- Nothing comes before the first element.
            have hfirst : (x :: l).countP (fun y => r y x) = 0 := by
              rw [List.countP_eq_zero]
              intro y hy
              rw [decide_eq_true_iff]
              rcases List.mem_cons.mp hy with rfl | hy
              · exact fun h => hasymm y y h h
              · exact hasymm x y (hhead y hy)
            exact iff_of_true (Or.inl rfl) (by omega)
          · -- For another element the first one is counted, and takes a place.
            have hne : x ≠ a := by
              intro heq
              exact hasymm x x (heq ▸ hhead x hx) (heq ▸ hhead x hx)
            have hcount : (a :: l).countP (fun y => r y x) = l.countP (fun y => r y x) + 1 :=
              List.countP_cons_of_pos (decide_eq_true (hhead x hx))
            rw [hcount, or_iff_right hne, ih htail hx n]
            omega

/-- The comparison in `SelectAutoTargets`. -/
def AutoCandidate.ahead (a b : AutoCandidate) : Prop :=
  if a.cpuPercent ≠ b.cpuPercent then b.cpuPercent < a.cpuPercent else a.pid < b.pid

/-- Which of two candidates is ahead can be decided. -/
instance : DecidableRel AutoCandidate.ahead := fun a b => by
  unfold AutoCandidate.ahead
  infer_instance

theorem AutoCandidate.ahead_asymm (a b : AutoCandidate) (h : a.ahead b) : ¬ b.ahead a := by
  unfold AutoCandidate.ahead at *
  by_cases hcpu : a.cpuPercent = b.cpuPercent
  · rw [if_neg (not_not.mpr hcpu)] at h
    rw [if_neg (not_not.mpr hcpu.symm)]
    exact UInt32.lt_asymm h
  · rw [if_pos hcpu] at h
    rw [if_pos (Ne.symm hcpu)]
    exact not_lt.mpr h.le

/-- Of two candidates in order the first is ahead, unless they are one process. -/
theorem AutoCandidate.ahead_of_before (a b : AutoCandidate) (h : a.before b)
    (hpid : a.pid ≠ b.pid) : a.ahead b := by
  unfold AutoCandidate.ahead
  rcases h with h | ⟨hcpu, hle⟩
  · rw [if_pos h.ne']
    exact h
  · rw [if_neg (not_not.mpr hcpu)]
    exact UInt32.lt_of_le_of_ne hle hpid

theorem AutoCandidate.before_total (a b : AutoCandidate) : a.before b ∨ b.before a := by
  rcases lt_trichotomy a.cpuPercent b.cpuPercent with h | h | h
  · exact Or.inr (Or.inl h)
  · rcases UInt32.le_total a.pid b.pid with hpid | hpid
    · exact Or.inl (Or.inr ⟨h, hpid⟩)
    · exact Or.inr (Or.inr ⟨h.symm, hpid⟩)
  · exact Or.inl (Or.inl h)

theorem AutoCandidate.before_trans (a b c : AutoCandidate) (hab : a.before b)
    (hbc : b.before c) : a.before c := by
  rcases hab with hab | ⟨hab, hpab⟩ <;> rcases hbc with hbc | ⟨hbc, hpbc⟩
  · exact Or.inl (hbc.trans hab)
  · exact Or.inl (hbc ▸ hab)
  · exact Or.inl (hab ▸ hbc)
  · exact Or.inr ⟨hab.trans hbc, UInt32.le_trans hpab hpbc⟩

/-- The candidates that are heavy enough and ahead of one. -/
def rankAmong (eligible : List AutoCandidate) (minCpu : Rat) (c : AutoCandidate) : Nat :=
  (eligible.filter fun c' => minCpu ≤ c'.cpuPercent).countP fun c' => c'.ahead c

section Sorted

variable (eligible : List AutoCandidate) (minCpu : Rat)

/-- The candidates that are heavy enough, sorted. -/
def sortedAmong : List AutoCandidate :=
  (eligible.filter fun c => minCpu ≤ c.cpuPercent).insertionSort AutoCandidate.before

theorem sortedAmong_perm :
    (sortedAmong eligible minCpu).Perm (eligible.filter fun c => minCpu ≤ c.cpuPercent) :=
  List.perm_insertionSort AutoCandidate.before _

theorem mem_sortedAmong (c : AutoCandidate) :
    c ∈ sortedAmong eligible minCpu ↔ c ∈ eligible ∧ minCpu ≤ c.cpuPercent := by
  rw [(sortedAmong_perm eligible minCpu).mem_iff, List.mem_filter, decide_eq_true_iff]

variable {eligible}

/-- No two of them are one process. -/
theorem sortedAmong_distinct (hpids : (eligible.map AutoCandidate.pid).Nodup) :
    (sortedAmong eligible minCpu).Pairwise fun a b => a.pid ≠ b.pid := by
  have hnodup : ((eligible.filter fun c => minCpu ≤ c.cpuPercent).map AutoCandidate.pid).Nodup :=
    hpids.sublist (List.filter_sublist.map AutoCandidate.pid)
  have hsorted := (((sortedAmong_perm eligible minCpu).map AutoCandidate.pid).nodup_iff).mpr hnodup
  exact List.pairwise_map.mp hsorted

/-- So the order is strict. -/
theorem sortedAmong_ahead (hpids : (eligible.map AutoCandidate.pid).Nodup) :
    (sortedAmong eligible minCpu).Pairwise AutoCandidate.ahead := by
  have hbefore : (sortedAmong eligible minCpu).Pairwise AutoCandidate.before :=
    haveI : Std.Total AutoCandidate.before := ⟨AutoCandidate.before_total⟩
    haveI : IsTrans AutoCandidate AutoCandidate.before := ⟨AutoCandidate.before_trans⟩
    List.pairwise_insertionSort AutoCandidate.before _
  exact hbefore.imp₂ AutoCandidate.ahead_of_before (sortedAmong_distinct minCpu hpids)

/-- However the candidates are sorted, they come out in this order: the comparison
    leaves no two of them in either order. -/
theorem eq_sortedAmong (hpids : (eligible.map AutoCandidate.pid).Nodup) {l : List AutoCandidate}
    (hperm : l.Perm (eligible.filter fun c => minCpu ≤ c.cpuPercent))
    (hsorted : l.Pairwise fun a b => ¬ b.ahead a) : l = sortedAmong eligible minCpu := by
  have hahead := sortedAmong_ahead minCpu hpids
  have hboth := hperm.trans (sortedAmong_perm eligible minCpu).symm
  have hdistinct : ∀ a ∈ l, ∀ b ∈ l, a.pid = b.pid → a = b := by
    intro a ha b hb heq
    have hinj := List.inj_on_of_nodup_map hpids
    exact hinj (List.mem_of_mem_filter (hperm.mem_iff.mp ha))
      (List.mem_of_mem_filter (hperm.mem_iff.mp hb)) heq
  -- Two sorted arrangements of the same candidates are equal, for no two candidates tie.
  refine List.Perm.eq_of_pairwise ?_ hsorted
    (hahead.imp fun {a b} h => AutoCandidate.ahead_asymm a b h) hboth
  intro a b ha hb hab hba
  by_contra hne
  have hpid : a.pid ≠ b.pid := fun heq => hne (hdistinct a ha b (hboth.mem_iff.mpr hb) heq)
  rcases AutoCandidate.before_total a b with h | h
  · exact hba (AutoCandidate.ahead_of_before a b h hpid)
  · exact hab (AutoCandidate.ahead_of_before b a h hpid.symm)

end Sorted

/-- A candidate is selected if it is heavy enough, and fewer than `slots` of these are
    ahead of it. -/
theorem mem_selectAutoTargets_iff (eligible : List AutoCandidate)
    (hpids : (eligible.map AutoCandidate.pid).Nodup) (minCpu : Rat) (slots : Nat)
    (c : AutoCandidate) :
    c ∈ selectAutoTargets eligible minCpu slots ↔
      c ∈ eligible ∧ minCpu ≤ c.cpuPercent ∧ rankAmong eligible minCpu c < slots := by
  rw [← and_assoc, ← mem_sortedAmong]
  by_cases hc : c ∈ sortedAmong eligible minCpu
  · have hfirst := mem_take_iff AutoCandidate.ahead AutoCandidate.ahead_asymm _
      (sortedAmong_ahead minCpu hpids) c hc slots
    rw [(sortedAmong_perm eligible minCpu).countP_eq] at hfirst
    exact hfirst.trans (and_iff_right hc).symm
  · exact iff_of_false (fun h => hc (List.mem_of_mem_take h)) (fun h => hc h.1)

/-- `SelectAutoTargets` picks the heaviest: of the candidates that are heavy enough as many
    as there are slots for, in order, none of them behind one that is left out, and the
    same ones in whatever order they are given. -/
theorem selectAutoTargets_heaviest (eligible : List AutoCandidate)
    (hpids : (eligible.map AutoCandidate.pid).Nodup) (minCpu : Rat) (slots : Nat) :
    (selectAutoTargets eligible minCpu slots).Nodup ∧
    (∀ c ∈ selectAutoTargets eligible minCpu slots, c ∈ eligible ∧ minCpu ≤ c.cpuPercent) ∧
    (selectAutoTargets eligible minCpu slots).length ≤ slots ∧
    (selectAutoTargets eligible minCpu slots).Pairwise (fun a b =>
      b.cpuPercent < a.cpuPercent ∨ a.cpuPercent = b.cpuPercent ∧ a.pid < b.pid) ∧
    (∀ c ∈ selectAutoTargets eligible minCpu slots, ∀ c' ∈ eligible, minCpu ≤ c'.cpuPercent →
      c' ∉ selectAutoTargets eligible minCpu slots → ¬ c'.ahead c) ∧
    (selectAutoTargets eligible minCpu slots).length
      = min slots (eligible.countP fun c => minCpu ≤ c.cpuPercent) ∧
    ∀ eligible', eligible'.Perm eligible →
      selectAutoTargets eligible' minCpu slots = selectAutoTargets eligible minCpu slots := by
  have hahead := sortedAmong_ahead minCpu hpids
  have hperm := sortedAmong_perm eligible minCpu
  have hlength : (selectAutoTargets eligible minCpu slots).length
      = min slots (eligible.countP fun c => minCpu ≤ c.cpuPercent) := by
    rw [List.countP_eq_length_filter, ← hperm.length_eq]
    exact List.length_take
  refine ⟨?_, ?_, ?_, ?_, ?_, hlength, ?_⟩
  · -- One process twice would be ahead of itself.
    have hne : (sortedAmong eligible minCpu).Nodup :=
      (sortedAmong_distinct minCpu hpids).imp fun {a b} hpid heq => hpid (congrArg _ heq)
    exact hne.sublist (List.take_sublist slots _)
  · intro c hc
    exact (mem_sortedAmong eligible minCpu c).mp (List.mem_of_mem_take hc)
  · rw [hlength]
    exact min_le_left _ _
  · refine (hahead.sublist (List.take_sublist slots _)).imp fun {a b} h => ?_
    unfold AutoCandidate.ahead at h
    by_cases hcpu : a.cpuPercent = b.cpuPercent
    · rw [if_neg (not_not.mpr hcpu)] at h
      exact Or.inr ⟨hcpu, h⟩
    · rw [if_pos hcpu] at h
      exact Or.inl h
  · -- What is left out stands behind the cut, and what is chosen before it.
    intro c hc c' hc' hmin hout
    have hsorted : c' ∈ sortedAmong eligible minCpu :=
      (mem_sortedAmong eligible minCpu c').mpr ⟨hc', hmin⟩
    rw [← List.take_append_drop slots (sortedAmong eligible minCpu)] at hahead hsorted
    have hrest := (List.mem_append.mp hsorted).resolve_left hout
    exact AutoCandidate.ahead_asymm _ _ ((List.pairwise_append.mp hahead).2.2 c hc c' hrest)
  · -- The order of the input only decides ties, and there are none between different ids.
    intro eligible' hsame
    have hpids' : (eligible'.map AutoCandidate.pid).Nodup := ((hsame.map _).nodup_iff).mpr hpids
    have hahead' := sortedAmong_ahead minCpu hpids'
    have hheavy := (sortedAmong_perm eligible' minCpu).trans (hsame.filter _)
    exact congrArg (List.take slots) (eq_sortedAmong minCpu hpids hheavy
      (hahead'.imp fun {a b} h => AutoCandidate.ahead_asymm a b h))

/-- Two of three are heavy enough, the heavier one first, and there is room for one. -/
theorem selectAutoTargets_heaviest_one :
    selectAutoTargets
        [⟨3, [99], 55⟩, ⟨2, [98], 80⟩, ⟨1, [97], 10⟩] 50 1
      = selectAutoTargets [⟨1, [97], 10⟩, ⟨2, [98], 80⟩, ⟨3, [99], 55⟩] 50 1 := by
  have hheaviest := selectAutoTargets_heaviest
    [⟨1, [97], 10⟩, ⟨2, [98], 80⟩, ⟨3, [99], 55⟩] (by decide) 50 1
  exact hheaviest.2.2.2.2.2.2 _ (by decide)

end Ranking

end Telemetry

end ThreadHaul
