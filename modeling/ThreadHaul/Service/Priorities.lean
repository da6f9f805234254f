import Mathlib.Logic.Function.Basic
import ThreadHaul.Lib.Runs
import ThreadHaul.Service.AutoProtect

/-!
# Priority Classes over Runs

What auto-protect leaves of the priority classes of the processes, over any run
of its calls between which processes start and exit.

`AutoProtector` opens a process by its PID, and the handle it keeps names the
process from then on: a PID is not given to another process while a handle to
the old one is held. So an entry and the process that runs under its PID belong
together, and `Exact` relates the two: a process that is lowered has the class
of its entry, and the class the entry remembers is the one the process would
have otherwise; a process that is not lowered has that class itself.

Every call keeps this at each of its system calls. A class is only read from a
process that is not lowered, so the class that is remembered is never one that
auto-protect has set.

## Main definitions

* `Task`, `Machine`: The processes, and auto-protect.
* `AutoCall`, `perform`: The calls.
* `observed`: What the system says of the processes that run.
* `Exact`: Entries and processes belong together.
* `RestoresExactly`: What is promised.

## Theorems

* `exact_restore`, `exact_escalate`, `exact_lowerRow`: The parts of the calls.
* `exact_perform`: Every call keeps `Exact`.
* `restores_exactly`: The promise, over runs.
-/

namespace ThreadHaul

namespace Service

open Actuator Telemetry OrderedMap Runs

/-- A process that runs. -/
structure Task where
  /-- The class it started with, which only auto-protect changes. -/
  ordinary : PriorityClass
  current : PriorityClass
  /-- `Exempt` was called for it. -/
  exempted : Bool := false
  deriving DecidableEq

/-- The calls of `AutoProtector`, with what the system says during each. -/
inductive AutoCall
  | tick (r : AutoReadings) (exclude : WString → DWORD → Bool)
  | configure (r : AutoReadings) (settings : AutoProtectSettings) (essential : List WString)
  | exempt (r : AutoReadings) (pid : DWORD)
  | restoreAll (r : AutoReadings)

/-- What a call comes to. -/
def AutoCall.perform (auto : AutoProtector) : AutoCall → AutoResult
  | .tick r exclude => Service.tick r exclude auto
  | .configure r settings essential => Service.configure r auto settings essential
  | .exempt r pid => Service.exempt r auto pid
  | .restoreAll r => Service.restoreAll r auto

/-- The processes that run, by PID. -/
abbrev Tasks := DWORD → Option Task

/-- The calls about a process that runs do what they are asked. -/
def AutoReadings.observe (live : Tasks) (r : AutoReadings) : AutoReadings :=
  { r with
    exited := fun pid => (live pid).isNone && r.exited pid
    getPriorityClass := fun pid =>
      match live pid with
      | some t => some t.current
      | none => r.getPriorityClass pid
    setPriorityClass := fun pid => (live pid).isSome || r.setPriorityClass pid }

/-- A call that sees the priority classes there are. -/
def AutoCall.observed (live : Tasks) : AutoCall → AutoCall
  | .tick r exclude => .tick (r.observe live) exclude
  | .configure r settings essential => .configure (r.observe live) settings essential
  | .exempt r pid => .exempt (r.observe live) pid
  | .restoreAll r => .restoreAll (r.observe live)

/-- A process has the class that was set last. -/
def setClasses (live : Tasks) (sets : List (DWORD × PriorityClass)) : Tasks := fun pid =>
  (live pid).map fun t => { t with current := (sets.reverse.lookup pid).getD t.current }

/-- `Exempt` is about the process that runs under the PID. -/
def AutoCall.mark (live : Tasks) : AutoCall → Tasks
  | .exempt _ pid => Function.update live pid ((live pid).map fun t => { t with exempted := true })
  | _ => live

/-- Auto-protect and the processes. -/
structure Machine where
  auto : AutoProtector := {}
  live : Tasks := fun _ => none

/-- A process starts or exits, or `AutoProtector` is called. -/
inductive MachineEvent
  | start (pid : DWORD) (priority : PriorityClass)
  | exit (pid : DWORD)
  | call (c : AutoCall)

/-- A PID is given to a process if no process runs under it and no handle to one
    is held. -/
def Machine.step (m : Machine) : MachineEvent → Machine
  | .start pid priority =>
      if (m.live pid).isNone ∧ pid ∉ keys m.auto.throttled then
        { m with live := Function.update m.live pid (some ⟨priority, priority, false⟩) }
      else m
  | .exit pid => { m with live := Function.update m.live pid none }
  | .call c =>
      let out := (c.observed m.live).perform m.auto
      { auto := out.auto, live := c.mark (setClasses m.live out.sets) }

/-! ### What is promised -/

/-- What is lowered gets back the class it had, and nothing else is touched. -/
structure RestoresExactly (m : Machine) : Prop where
  /-- What is lowered has the class of its entry, which is lower than the one it
      gets back. -/
  lowered : ∀ pid e t, m.auto.throttled.lookup pid = some e → m.live pid = some t →
    t.current = e.currentClass ∧ e.currentClass.rank < e.originalClass.rank ∧
      e.originalClass = t.ordinary
  untouched : ∀ pid t, m.auto.throttled.lookup pid = none → m.live pid = some t →
    t.current = t.ordinary
  restored : ∀ r, (m.step (.call (.restoreAll r))).auto.throttled = []
  recovered : ∀ r exclude, (m.step (.call (.tick r exclude))).auto.state.level = .normal →
    (m.step (.call (.tick r exclude))).auto.throttled = []

/-- Entries and processes belong together. -/
structure Exact (live : Tasks) (throttled : List (DWORD × Entry)) : Prop where
  lowered : ∀ pid e, (pid, e) ∈ throttled → ∀ t, live pid = some t →
    t.current = e.currentClass ∧ e.currentClass.rank < e.originalClass.rank ∧
      e.originalClass = t.ordinary
  untouched : ∀ pid t, live pid = some t → pid ∉ keys throttled → t.current = t.ordinary

section Classes

variable (live : Tasks) (sets : List (DWORD × PriorityClass))

@[simp] theorem setClasses_nil : setClasses live [] = live := by
  funext pid
  rcases hlive : live pid with _ | t <;> simp [setClasses, hlive]

/-- One more class is set. -/
theorem setClasses_concat (pid other : DWORD) (c : PriorityClass) :
    setClasses live (sets ++ [(pid, c)]) other =
      if other = pid then (live pid).map fun t => { t with current := c }
      else setClasses live sets other := by
  simp only [setClasses, List.reverse_append, List.reverse_singleton, List.singleton_append,
    List.lookup_cons]
  by_cases hpid : other = pid
  · subst hpid
    simp
  · rw [beq_eq_false_iff_ne.mpr hpid, if_neg hpid]

/-- A process whose class was not set keeps it. -/
theorem setClasses_of_not_mem (pid : DWORD) (h : pid ∉ keys sets) :
    setClasses live sets pid = live pid := by
  have hnone : sets.reverse.lookup pid = none := by
    rw [← Option.not_isSome_iff_eq_none, lookup_isSome_iff]
    simpa [keys] using h
  rcases hlive : live pid with _ | t <;> simp [setClasses, hlive, hnone]

/-- A process has the class that every call has set. -/
theorem setClasses_of_forall (pid : DWORD) (c : PriorityClass) (t : Task)
    (hsets : ∀ s ∈ sets, s.2 = c) (hpid : pid ∈ keys sets)
    (ht : setClasses live sets pid = some t) : t.current = c := by
  have hsome : (sets.reverse.lookup pid).isSome = true := by
    rw [lookup_isSome_iff]
    simpa [keys] using hpid
  rcases Option.isSome_iff_exists.mp hsome with ⟨c', hc'⟩
  have hmem := List.mem_reverse.mp (mem_of_lookup _ _ _ hc')
  rcases hlive : live pid with _ | t'
  · simp [setClasses, hlive] at ht
  · simp only [setClasses, hlive, hc', Option.map_some, Option.getD_some, Option.some.injEq] at ht
    rw [← ht]
    exact hsets _ hmem

/-- Setting classes changes nothing else. -/
theorem ordinary_setClasses (pid : DWORD) (t : Task) (ht : setClasses live sets pid = some t) :
    ∃ t', live pid = some t' ∧ t'.ordinary = t.ordinary ∧ t'.exempted = t.exempted := by
  rcases hlive : live pid with _ | t'
  · simp [setClasses, hlive] at ht
  · simp only [setClasses, hlive, Option.map_some, Option.some.injEq] at ht
    exact ⟨t', rfl, by rw [← ht], by rw [← ht]⟩

end Classes

section Exactness

variable {live : Tasks} {r : AutoReadings}

/-- The processes and the entries, in the middle of a call. -/
def ExactDuring (live : Tasks) (acc : AutoResult) : Prop :=
  Exact (setClasses live acc.sets) acc.auto.throttled

theorem exact_restore (acc : AutoResult) (pid : DWORD) (h : ExactDuring live acc) :
    ExactDuring live (restore (r.observe live) acc pid) := by
  unfold restore
  rcases hfind : acc.auto.throttled.lookup pid with _ | e
  · exact h
  · have hentry := mem_of_lookup _ _ _ hfind
    -- The process gets the class back that it would have.
    have hother : ∀ p t, p ≠ pid →
        setClasses live (if (r.observe live).exited pid then acc.sets
          else acc.sets ++ [(pid, e.originalClass)]) p = some t →
        setClasses live acc.sets p = some t := by
      intro p t hp ht
      split_ifs at ht
      · exact ht
      · rwa [setClasses_concat, if_neg hp] at ht
    refine ⟨?_, ?_⟩
    · intro p e' he' t ht
      rcases List.mem_filter.mp he' with ⟨hmem, hp⟩
      exact h.lowered p e' hmem t (hother p t (of_decide_eq_true hp) ht)
    · intro p t ht hp
      by_cases hpid : p = pid
      · subst hpid
        dsimp only at ht
        rcases hlive : live p with _ | t'
        · simp [setClasses, hlive] at ht
        · have hcurrent : setClasses live acc.sets p
              = some { t' with current := (acc.sets.reverse.lookup p).getD t'.current } := by
            simp [setClasses, hlive]
          have hordinary := (h.lowered p e hentry _ hcurrent).2.2
          rw [if_neg (by simp [AutoReadings.observe, hlive]), setClasses_concat, if_pos rfl,
            hlive] at ht
          cases ht
          exact hordinary
      · refine h.untouched p t (hother p t hpid ht) ?_
        exact fun hmem => hp ((mem_keys_erase _ _ _).mpr ⟨hmem, hpid⟩)

theorem exact_restoreAll (auto : AutoProtector) (h : Exact live auto.throttled) :
    ExactDuring live (restoreAll (r.observe live) auto) := by
  refine List.foldlRecOn (keys auto.throttled) (restore (r.observe live)) ?_
    fun acc hacc pid _ => exact_restore acc pid hacc
  rw [ExactDuring, setClasses_nil]
  exact h

theorem throttled_restoreAll (auto : AutoProtector) :
    (restoreAll r auto).auto.throttled = [] := by
  rw [← List.map_eq_nil_iff, List.eq_nil_iff_forall_not_mem]
  exact keys_restoreAll auto

theorem exact_configure (auto : AutoProtector) (settings : AutoProtectSettings)
    (essential : List WString) (h : Exact live auto.throttled) :
    ExactDuring live (configure (r.observe live) auto settings essential) := by
  unfold configure
  by_cases henabled : settings.enabled = true
  · rw [if_pos henabled, ExactDuring, setClasses_nil]
    exact h
  · rw [if_neg henabled]
    exact exact_restoreAll (r := r)
      { auto with settings := settings, essential := essential } h

theorem exact_exempt (auto : AutoProtector) (pid : DWORD) (h : Exact live auto.throttled) :
    ExactDuring live (exempt (r.observe live) auto pid) := by
  refine exact_restore { auto := auto } pid ?_
  rw [ExactDuring, setClasses_nil]
  exact h

/-- Entries of processes that have ended say nothing. -/
theorem exact_forgetExited (auto : AutoProtector) (h : Exact live auto.throttled) :
    Exact live (forgetExited (r.observe live) auto).throttled := by
  refine ⟨fun pid e he => h.lowered pid e (List.mem_of_mem_filter he), ?_⟩
  intro pid t ht hpid
  refine h.untouched pid t ht ?_
  intro hmem
  rcases List.mem_map.mp hmem with ⟨e, he, rfl⟩
  refine hpid (List.mem_map_of_mem (List.mem_filter.mpr ⟨he, ?_⟩))
  simp [AutoReadings.observe, ht]

/-- What a turn of the loop that lowers further does to an entry, and to its
    process. -/
theorem escalate_cases (target : PriorityClass) (pid : DWORD) (e : Entry) (t : Task)
    (ht : live pid = some t) :
    (target.rank < e.currentClass.rank ∧
        escalate (r.observe live) target (pid, e)
          = ((pid, { e with currentClass := target }), [(pid, target)])) ∨
      (¬ target.rank < e.currentClass.rank ∧
        escalate (r.observe live) target (pid, e) = ((pid, e), [])) := by
  unfold escalate
  by_cases hrank : target.rank < e.currentClass.rank
  · refine Or.inl ⟨hrank, ?_⟩
    rw [if_pos hrank, if_pos (by simp [AutoReadings.observe, ht])]
  · exact Or.inr ⟨hrank, if_neg hrank⟩

/-- The loop only sets the class of the level. -/
theorem mem_sets_escalate (target : PriorityClass) (throttled : List (DWORD × Entry))
    (s : DWORD × PriorityClass)
    (hs : s ∈ (throttled.map (escalate r target)).flatMap Prod.snd) :
    s.2 = target ∧ ∃ e, (s.1, e) ∈ throttled ∧ target.rank < e.currentClass.rank := by
  rcases List.mem_flatMap.mp hs with ⟨x, hx, hs⟩
  rcases List.mem_map.mp hx with ⟨⟨pid, e⟩, he, rfl⟩
  unfold escalate at hs
  split_ifs at hs with hrank hset
  · cases List.mem_singleton.mp hs
    exact ⟨rfl, e, he, hrank⟩
  · cases List.mem_singleton.mp hs
    exact ⟨rfl, e, he, hrank⟩
  · exact absurd hs List.not_mem_nil

/-- The loop keeps the processes of the entries. -/
theorem keys_escalate (target : PriorityClass) (throttled : List (DWORD × Entry)) :
    keys ((throttled.map (escalate r target)).map Prod.fst) = keys throttled := by
  simp only [keys, List.map_map]
  exact List.map_congr_left fun e _ => (escalate_pid target e).1

/-- Every entry of a process agrees on its class, so all or none of them set
    it. -/
theorem exact_escalate (target : PriorityClass) (throttled : List (DWORD × Entry))
    (h : Exact live throttled) :
    Exact (setClasses live ((throttled.map (escalate (r.observe live) target)).flatMap Prod.snd))
      ((throttled.map (escalate (r.observe live) target)).map Prod.fst) := by
  have hsets := mem_sets_escalate (r := r.observe live) target throttled
  set sets := (throttled.map (escalate (r.observe live) target)).flatMap Prod.snd with hdef
  have hkeys : ∀ pid ∈ keys sets, ∃ e, (pid, e) ∈ throttled ∧
      target.rank < e.currentClass.rank := by
    intro pid hpid
    rcases List.mem_map.mp hpid with ⟨s, hs, rfl⟩
    exact (hsets s hs).2
  constructor
  · intro pid e he t ht
    rcases List.mem_map.mp he with ⟨x, hx, hxe⟩
    rcases List.mem_map.mp hx with ⟨⟨p, e'⟩, he', rfl⟩
    rcases ordinary_setClasses live sets pid t ht with ⟨t', ht', hordinary, _⟩
    have hp : p = pid :=
      (escalate_pid (r := r.observe live) target (p, e')).1.symm.trans (congrArg Prod.fst hxe)
    subst hp
    have hentry := h.lowered p e' he' t' ht'
    rcases escalate_cases (r := r) target p e' t' ht' with ⟨hrank, heq⟩ | ⟨hrank, heq⟩
    · rw [heq] at hxe hx
      cases hxe
      have hset : (p, target) ∈ sets := by
        rw [hdef]
        exact List.mem_flatMap.mpr ⟨_, hx, List.mem_singleton.mpr rfl⟩
      have hmem : p ∈ keys sets := List.mem_map_of_mem hset
      refine
        ⟨setClasses_of_forall live sets p target t (fun s hs => (hsets s hs).1) hmem ht, ?_, ?_⟩
      · exact hrank.trans hentry.2.1
      · exact hentry.2.2.trans hordinary
    · rw [heq] at hxe
      cases hxe
      -- Another entry of the process would have set it, but it has the same class.
      have hmem : p ∉ keys sets := by
        intro hmem
        rcases hkeys p hmem with ⟨e'', he'', hrank''⟩
        rw [← (h.lowered p e'' he'' t' ht').1, hentry.1] at hrank''
        exact hrank hrank''
      rw [setClasses_of_not_mem live sets p hmem] at ht
      exact h.lowered p e he' t ht
  · intro pid t ht hpid
    rw [keys_escalate] at hpid
    have hunset : pid ∉ keys sets := by
      intro hmem
      rcases hkeys pid hmem with ⟨e, he, _⟩
      exact hpid (List.mem_map_of_mem he)
    rw [setClasses_of_not_mem live sets pid hunset] at ht
    exact h.untouched pid t ht hpid

/-- What `Lower` can do: nothing, a call that changes no entry, or an entry
    more. -/
theorem lowerRow_cases (r : AutoReadings) (target : PriorityClass) (acc : AutoResult)
    (row : Row) :
    lowerRow r target acc row = acc ∨
      ∃ original, r.getPriorityClass row.pid = some original ∧ target.rank < original.rank ∧
        ((lowerRow r target acc row = { acc with sets := acc.sets ++ [(row.pid, target)] } ∧
            (r.setPriorityClass row.pid = false ∨ row.pid ∈ keys acc.auto.throttled)) ∨
          (row.pid ∉ keys acc.auto.throttled ∧
            ∃ e : Entry, e.originalClass = original ∧ e.currentClass = target ∧
              lowerRow r target acc row =
                { auto := { acc.auto with throttled := assign acc.auto.throttled row.pid e }
                  sets := acc.sets ++ [(row.pid, target)] })) := by
  unfold lowerRow
  by_cases hopened : r.opened row.pid = true
  · simp only [hopened, Bool.not_true, Bool.false_eq_true, if_false]
    rcases r.getPriorityClass row.pid with _ | original
    · exact Or.inl rfl
    · dsimp only
      -- Low already, not set, set before, or lowered for the first time.
      split_ifs with hlow hset hthere
      · exact Or.inl rfl
      · exact Or.inr ⟨original, rfl, not_le.mp hlow, Or.inl ⟨rfl, Or.inl (by simpa using hset)⟩⟩
      · exact Or.inr ⟨original, rfl, not_le.mp hlow, Or.inl ⟨rfl, Or.inr hthere⟩⟩
      · exact Or.inr ⟨original, rfl, not_le.mp hlow, Or.inr ⟨hthere, _, rfl, rfl, rfl⟩⟩
  · rw [if_pos (by simp [hopened])]
    exact Or.inl rfl

/-- While processes are lowered: those that were not lowered before have the
    class of the level. -/
structure ExactLowering (live : Tasks) (before : List DWORD) (target : PriorityClass)
    (acc : AutoResult) : Prop where
  during : ExactDuring live acc
  fresh : ∀ pid e, (pid, e) ∈ acc.auto.throttled → pid ∈ before ∨ e.currentClass = target

/-- A call for a process that was lowered in the same loop, or that has ended,
    changes nothing. -/
theorem exact_lowerAgain (before : List DWORD) (target : PriorityClass) (acc : AutoResult)
    (pid : DWORD) (hpid : pid ∉ before)
    (hthere : live pid = none ∨ pid ∈ keys acc.auto.throttled)
    (h : ExactLowering live before target acc) :
    ExactLowering live before target { acc with sets := acc.sets ++ [(pid, target)] } := by
  refine ⟨⟨?_, ?_⟩, h.fresh⟩
  · intro p e he t ht
    rw [setClasses_concat] at ht
    split_ifs at ht with hp
    · subst hp
      rcases hlive : live p with _ | t'
      · rw [hlive] at ht
        cases ht
      · rw [hlive] at ht
        cases ht
        -- The call sets the class that the process has by then.
        have hentry := h.during.lowered p e he
          { t' with current := (acc.sets.reverse.lookup p).getD t'.current }
          (by simp [setClasses, hlive])
        exact ⟨((h.fresh p e he).resolve_left hpid).symm, hentry.2⟩
    · exact h.during.lowered p e he t ht
  · intro p t ht hp
    rw [setClasses_concat] at ht
    split_ifs at ht with heq
    · subst heq
      rcases hthere with hnone | hmem
      · rw [hnone] at ht
        cases ht
      · exact absurd hmem hp
    · exact h.during.untouched p t ht hp

/-- A process is lowered that was not lowered before, so what is remembered is
    the class it has otherwise. -/
theorem exact_lowerRow (before : List DWORD) (target : PriorityClass) (acc : AutoResult)
    (row : Row) (hordinary : ∀ pid t, live pid = some t → pid ∉ before → t.current = t.ordinary)
    (hrow : row.pid ∉ before) (h : ExactLowering live before target acc) :
    ExactLowering live before target (lowerRow (r.observe live) target acc row) := by
  rcases lowerRow_cases (r.observe live) target acc row with
    heq | ⟨original, hget, hrank, ⟨heq, hwhy⟩ | ⟨hnew, e, horiginal, hcurrent, heq⟩⟩
  · rw [heq]
    exact h
  · rw [heq]
    refine exact_lowerAgain before target acc row.pid hrow (hwhy.imp_left fun hset => ?_) h
    simpa [AutoReadings.observe] using (Bool.or_eq_false_iff.mp hset).1
  · rw [heq]
    refine ⟨⟨?_, ?_⟩, ?_⟩
    · intro p e' he' t ht
      rw [setClasses_concat] at ht
      rcases mem_assign _ _ _ _ he' with hentry | he'
      · cases hentry
        rcases hlive : live row.pid with _ | t'
        · rw [if_pos rfl, hlive] at ht
          cases ht
        · rw [if_pos rfl, hlive] at ht
          cases ht
          -- What is remembered is read from the process, which nobody had lowered.
          have hsame : t'.current = original := by
            simpa [AutoReadings.observe, hlive] using hget
          rw [hcurrent, horiginal]
          exact ⟨rfl, hrank, hsame.symm.trans (hordinary row.pid t' hlive hrow)⟩
      · have hp : p ≠ row.pid := by
          rintro rfl
          exact hnew (List.mem_map_of_mem he')
        rw [if_neg hp] at ht
        exact h.during.lowered p e' he' t ht
    · intro p t ht hp
      rw [mem_keys_assign, not_or] at hp
      rw [setClasses_concat, if_neg hp.1] at ht
      exact h.during.untouched p t ht hp.2
    · intro p e' he'
      rcases mem_assign _ _ _ _ he' with hentry | he'
      · cases hentry
        exact Or.inr hcurrent
      · exact h.fresh p e' he'

theorem exact_lowerChosen (target : PriorityClass) (exclude : WString → DWORD → Bool)
    (rows : List Row) (acc : AutoResult)
    (hordinary : ∀ pid t, live pid = some t → pid ∉ keys acc.auto.throttled →
      t.current = t.ordinary) (h : ExactDuring live acc) :
    ExactDuring live (lowerChosen (r.observe live) target exclude rows acc) := by
  unfold lowerChosen
  split_ifs with hroom
  · -- What the list holds before the loop is what its entries say.
    have hstart : ExactLowering live (keys acc.auto.throttled) target acc :=
      ⟨h, fun pid e he => Or.inl (List.mem_map_of_mem he)⟩
    refine (List.foldlRecOn _ (lowerRow (r.observe live) target) hstart ?_).during
    intro acc' hacc row hrow
    rcases mem_chosenRows acc.auto exclude rows row hrow with ⟨row', _, hpid, heligible⟩
    simp only [isEligible, Bool.and_eq_true, Bool.not_eq_true', decide_eq_false_iff_not]
      at heligible
    exact exact_lowerRow _ target acc' row hordinary (hpid ▸ heligible.1.1.2) hacc
  · exact h

theorem exact_tick (exclude : WString → DWORD → Bool) (auto : AutoProtector)
    (h : Exact live auto.throttled) : ExactDuring live (tick (r.observe live) exclude auto) := by
  have hforgot := exact_forgetExited (r := r) auto h
  unfold tick
  by_cases henabled : auto.settings.enabled = true
  · simp only [henabled, Bool.not_true, Bool.false_eq_true, if_false]
    -- The level Normal gives back; any other one escalates and lowers.
    split_ifs with hlevel
    · exact exact_restoreAll _ hforgot
    · refine exact_lowerChosen _ exclude _ _ ?_ (exact_escalate _ _ hforgot)
      intro pid t ht hpid
      rw [keys_escalate] at hpid
      exact hforgot.untouched pid t ht hpid
  · simp only [Bool.eq_false_iff.mpr henabled, Bool.not_false, if_true]
    rw [ExactDuring, setClasses_nil]
    exact h

/-- Every call keeps the entries and the processes together. -/
theorem exact_perform (c : AutoCall) (auto : AutoProtector) (h : Exact live auto.throttled) :
    ExactDuring live ((c.observed live).perform auto) := by
  cases c with
  | tick r exclude => exact exact_tick exclude auto h
  | configure r settings essential => exact exact_configure auto settings essential h
  | exempt r pid => exact exact_exempt auto pid h
  | restoreAll r => exact exact_restoreAll auto h

end Exactness

section Runs

/-- The settings stay until the next `Configure`. -/
theorem settings_lowerRow (r : AutoReadings) (target : PriorityClass) (acc : AutoResult)
    (row : Row) :
    (lowerRow r target acc row).auto.settings = acc.auto.settings ∧
      (lowerRow r target acc row).auto.state = acc.auto.state ∧
      (lowerRow r target acc row).auto.exempted = acc.auto.exempted := by
  rcases lowerRow_cases r target acc row with
    heq | ⟨original, _, _, ⟨heq, _⟩ | ⟨_, e, _, _, heq⟩⟩
  · rw [heq]
    exact ⟨rfl, rfl, rfl⟩
  · rw [heq]
    exact ⟨rfl, rfl, rfl⟩
  · rw [heq]
    exact ⟨rfl, rfl, rfl⟩

theorem settings_lowerChosen (r : AutoReadings) (target : PriorityClass)
    (exclude : WString → DWORD → Bool) (rows : List Row) (acc : AutoResult) :
    (lowerChosen r target exclude rows acc).auto.settings = acc.auto.settings ∧
      (lowerChosen r target exclude rows acc).auto.state = acc.auto.state ∧
      (lowerChosen r target exclude rows acc).auto.exempted = acc.auto.exempted := by
  unfold lowerChosen
  split_ifs with hroom
  · refine List.foldlRecOn (motive := fun out => out.auto.settings = acc.auto.settings ∧
      out.auto.state = acc.auto.state ∧ out.auto.exempted = acc.auto.exempted)
      _ (lowerRow r target) ⟨rfl, rfl, rfl⟩ ?_
    intro out hout row _
    -- A row changes the list alone.
    have hrow := settings_lowerRow r target out row
    exact ⟨hrow.1.trans hout.1, hrow.2.1.trans hout.2.1, hrow.2.2.trans hout.2.2⟩
  · exact ⟨rfl, rfl, rfl⟩

theorem settings_restoreAll (r : AutoReadings) (auto : AutoProtector) :
    (restoreAll r auto).auto.settings = auto.settings ∧
      (restoreAll r auto).auto.state = auto.state ∧
      (restoreAll r auto).auto.exempted = auto.exempted := by
  refine List.foldlRecOn (motive := fun out => out.auto.settings = auto.settings ∧
    out.auto.state = auto.state ∧ out.auto.exempted = auto.exempted)
    (keys auto.throttled) (restore r) ?_ ?_
  · exact ⟨rfl, rfl, rfl⟩
  intro out hout pid _
  unfold restore
  rcases out.auto.throttled.lookup pid with _ | e
  · exact hout
  · exact hout

/-- A tick does nothing without `enabled`, it restores all at level `Normal`, or
    it ends at another level. -/
theorem tick_cases (r : AutoReadings) (exclude : WString → DWORD → Bool) (auto : AutoProtector) :
    (auto.settings.enabled = false ∧ tick r exclude auto = { auto := auto }) ∨
      (auto.settings.enabled = true ∧ (tick r exclude auto).auto.settings = auto.settings ∧
        (tick r exclude auto).auto.state = auto.state.update r.systemCpu auto.settings ∧
        ((auto.state.update r.systemCpu auto.settings).level = .normal →
          (tick r exclude auto).auto.throttled = [])) := by
  unfold tick
  by_cases henabled : auto.settings.enabled = true
  · refine Or.inr ⟨henabled, ?_⟩
    simp only [henabled, Bool.not_true, Bool.false_eq_true, if_false]
    -- In both branches the level is the one of the new state.
    split_ifs with hlevel
    · have hrestored := settings_restoreAll r { (forgetExited r auto) with
        state := (forgetExited r auto).state.update r.systemCpu (forgetExited r auto).settings }
      exact ⟨hrestored.1, hrestored.2.1, fun _ => throttled_restoreAll _⟩
    · have hlowered := settings_lowerChosen r
      exact ⟨(hlowered _ exclude _ _).1, (hlowered _ exclude _ _).2.1,
        fun hnormal => absurd hnormal hlevel⟩
  · exact Or.inl ⟨by simpa using henabled, if_pos (by simp [henabled])⟩

/-- Without `enabled` nothing is lowered. -/
def Off (auto : AutoProtector) : Prop := auto.settings.enabled = false → auto.throttled = []

theorem throttled_exempt_of_nil (r : AutoReadings) (auto : AutoProtector) (pid : DWORD)
    (h : auto.throttled = []) : (exempt r auto pid).auto.throttled = [] := by
  simp [exempt, restore, h]

theorem off_perform (c : AutoCall) (auto : AutoProtector) (h : Off auto) :
    Off (c.perform auto).auto := by
  -- Only a switch changes the setting, and switching off empties the list.
  cases c with
  | tick r exclude =>
      intro hoff
      rcases tick_cases r exclude auto with ⟨_, heq⟩ | ⟨henabled, hsettings, _⟩
      · rw [AutoCall.perform, heq] at hoff ⊢
        exact h hoff
      · rw [AutoCall.perform, hsettings, henabled] at hoff
        cases hoff
  | configure r settings essential =>
      intro hoff
      simp only [AutoCall.perform, configure] at hoff ⊢
      split_ifs at hoff ⊢ with henabled
      · simp [henabled] at hoff
      · exact throttled_restoreAll _
  | exempt r pid =>
      intro hoff
      refine throttled_exempt_of_nil r auto pid (h ?_)
      simp only [AutoCall.perform, exempt, restore] at hoff
      split at hoff <;> exact hoff
  | restoreAll r => exact fun _ => throttled_restoreAll auto

/-- What holds of auto-protect and the processes at every point of a run. -/
structure Machine.Sound (m : Machine) : Prop where
  exactly : Exact m.live m.auto.throttled
  off : Off m.auto

/-- Marking a process changes none of its classes. -/
theorem exact_mark (c : AutoCall) (live : Tasks) (throttled : List (DWORD × Entry))
    (h : Exact live throttled) : Exact (c.mark live) throttled := by
  cases c with
  | exempt r pid =>
      -- The mark is beside the classes: what runs has the same two as before.
      have hclasses : ∀ p t, (AutoCall.exempt r pid).mark live p = some t →
          ∃ t', live p = some t' ∧ t'.current = t.current ∧ t'.ordinary = t.ordinary := by
        intro p t ht
        by_cases hp : p = pid
        · subst hp
          rcases hlive : live p with _ | t'
          · simp [AutoCall.mark, hlive] at ht
          · simp only [AutoCall.mark, Function.update_self, hlive, Option.map_some,
              Option.some.injEq] at ht
            exact ⟨t', rfl, by rw [← ht], by rw [← ht]⟩
        · simp only [AutoCall.mark, Function.update_of_ne hp] at ht
          exact ⟨t, ht, rfl, rfl⟩
      constructor
      · intro p e he t ht
        rcases hclasses p t ht with ⟨t', ht', hcurrent, hordinary⟩
        rw [← hcurrent, ← hordinary]
        exact h.lowered p e he t' ht'
      · intro p t ht hp
        rcases hclasses p t ht with ⟨t', ht', hcurrent, hordinary⟩
        rw [← hcurrent, ← hordinary]
        exact h.untouched p t' ht' hp
  | tick r exclude => exact h
  | configure r settings essential => exact h
  | restoreAll r => exact h

theorem sound_step (m : Machine) (e : MachineEvent) (h : m.Sound) : (m.step e).Sound := by
  cases e with
  | start pid priority =>
      simp only [Machine.step]
      split_ifs with hfree
      · -- The new process has no entry, and its own class.
        refine ⟨⟨?_, ?_⟩, h.off⟩
        · intro p entry hentry t ht
          have hp : p ≠ pid := by
            rintro rfl
            exact hfree.2 (List.mem_map_of_mem hentry)
          exact h.exactly.lowered p entry hentry t (by simpa [hp] using ht)
        · intro p t ht hnot
          by_cases hp : p = pid
          · subst hp
            simp only [Function.update_self, Option.some.injEq] at ht
            rw [← ht]
          · exact h.exactly.untouched p t (by simpa [hp] using ht) hnot
      · exact h
  | exit pid =>
      -- What is left after an exit was there before it.
      have hlive : ∀ p t, Function.update m.live pid none p = some t → m.live p = some t := by
        intro p t ht
        by_cases hp : p = pid
        · subst hp
          simp at ht
        · simpa [hp] using ht
      exact ⟨⟨fun p e he t ht => h.exactly.lowered p e he t (hlive p t ht),
        fun p t ht hnot => h.exactly.untouched p t (hlive p t ht) hnot⟩, h.off⟩
  | call c =>
      exact ⟨exact_mark c _ _ (exact_perform c m.auto h.exactly),
        off_perform (c.observed m.live) m.auto h.off⟩

theorem restoresExactly_of_sound (m : Machine) (h : m.Sound) : RestoresExactly m := by
  refine ⟨?_, ?_, fun r => throttled_restoreAll m.auto, ?_⟩
  · exact fun pid e t he ht => h.exactly.lowered pid e (mem_of_lookup _ _ _ he) t ht
  · intro pid t hnone ht
    refine h.exactly.untouched pid t ht ?_
    rw [← lookup_isSome_iff, hnone]
    exact Bool.false_ne_true
  · intro r exclude hlevel
    -- Switched off there is no list; otherwise the level Normal has emptied it.
    rcases tick_cases (r.observe m.live) exclude m.auto with
      ⟨hoff, heq⟩ | ⟨_, _, hstate, hrestored⟩
    · have hsame : (m.step (.call (.tick r exclude))).auto = m.auto :=
        congrArg AutoResult.auto heq
      rw [hsame]
      exact h.off hoff
    · refine hrestored ?_
      rw [← hstate]
      exact hlevel

/-- Auto-protect restores exactly, whatever is called and whichever processes
    start and exit. -/
theorem restores_exactly (events : List MachineEvent) :
    Throughout Machine.step RestoresExactly {} events := by
  refine throughout_of_along Machine.step (fun _ _ => True) Machine.Sound RestoresExactly
    restoresExactly_of_sound (fun m e _ h => sound_step m e h) events {}
    (along_of_forall_mem _ (fun _ => True) _ _ fun _ _ => trivial) ?_
  exact ⟨⟨fun _ _ he => absurd he List.not_mem_nil, fun _ _ ht => nomatch ht⟩, fun _ => rfl⟩

end Runs

end Service

end ThreadHaul
