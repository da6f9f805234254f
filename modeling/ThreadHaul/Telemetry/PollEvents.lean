import ThreadHaul.Telemetry.ProcessMonitor

/-!
# The Events of a Poll

What one `TrackedProcess::Poll` reports and measures, as a whole.

The first loop walks over the instances in the order of their ids and reports the
end of those that have ended: `dropExited_eq`. The second one picks up the processes
it does not have. Only the first of these can be a restart, since after it there is
an instance, and the id of the last one that ended is forgotten: `pickedUp`. Refusals
are reported in between and change nothing else.

## Main definitions

* `endEvent`: The report about an instance that has ended.
* `lastPid`: The id in the last report.
* `pickedUp`: The reports about the processes that are picked up.
* `IsRefusal`, `IsEnd`, `IsStart`: Kinds of reports.

## Theorems

* `dropExited_eq`: What the first loop leaves, and what it reports.
* `acquire_picksUp`: What the second loop reports.
* `polls_news`: What a poll reports.
* `poll_samples`: What a poll measures.
-/

namespace ThreadHaul

namespace Telemetry

open Actuator OrderedMap

namespace LifecycleEvent

/-- The instance was picked up. -/
def IsStart (e : LifecycleEvent) : Prop := e.kind = .acquired ∨ e.kind = .restarted

/-- The instance has ended. -/
def IsEnd (e : LifecycleEvent) : Prop := e.kind = .exited ∨ e.kind = .crashed

/-- The process could not be opened. -/
def IsRefusal (e : LifecycleEvent) : Prop := e.kind = .accessDenied

/-- Whether a report is one of a start can be decided. -/
instance : DecidablePred IsStart := fun _ => inferInstanceAs (Decidable (_ ∨ _))

/-- Whether it is one of an end can be decided. -/
instance : DecidablePred IsEnd := fun _ => inferInstanceAs (Decidable (_ ∨ _))

/-- Whether it is one of a refusal can be decided. -/
instance : DecidablePred IsRefusal := fun _ => inferInstanceAs (Decidable (_ = _))

theorem not_isEnd_of_isStart {e : LifecycleEvent} (h : e.IsStart) : ¬ e.IsEnd := by
  rintro (hk | hk) <;> rcases h with h | h <;> rw [h] at hk <;> cases hk

theorem not_isRefusal_of_isStart {e : LifecycleEvent} (h : e.IsStart) : ¬ e.IsRefusal := by
  intro hk
  rw [IsRefusal] at hk
  rcases h with h | h <;> rw [h] at hk <;> cases hk

theorem not_isRefusal_of_isEnd {e : LifecycleEvent} (h : e.IsEnd) : ¬ e.IsRefusal := by
  intro hk
  rw [IsRefusal] at hk
  rcases h with h | h <;> rw [h] at hk <;> cases hk

end LifecycleEvent

section Ends

variable (r : Measurements)

/-- The report about an instance with an exit code. -/
def endEvent (name : WString) (pid code : DWORD) : LifecycleEvent where
  kind := if code = 0 then .exited else .crashed
  name := name
  pid := pid
  exitCode := code

theorem isEnd_endEvent (name : WString) (pid code : DWORD) : (endEvent name pid code).IsEnd := by
  by_cases hcode : code = 0
  · exact Or.inl (if_pos hcode)
  · exact Or.inr (if_neg hcode)

/-- The reports about those of some instances that have ended. -/
def endEvents (name : WString) (pids : List DWORD) : List LifecycleEvent :=
  pids.filterMap fun p => (r.exitCode p).map (endEvent name p)

/-- The id in the last of some reports. -/
def lastPid (pid : DWORD) (events : List LifecycleEvent) : DWORD :=
  events.foldl (fun _ e => e.pid) pid

variable {r}

theorem lastPid_concat (pid : DWORD) (events : List LifecycleEvent) (e : LifecycleEvent) :
    lastPid pid (events ++ [e]) = e.pid := by
  rw [lastPid, List.foldl_append, List.foldl_cons, List.foldl_nil]

theorem mem_endEvents {name : WString} {pids : List DWORD} {e : LifecycleEvent} :
    e ∈ endEvents r name pids ↔
      ∃ p ∈ pids, ∃ code, r.exitCode p = some code ∧ endEvent name p code = e := by
  simp only [endEvents, List.mem_filterMap, Option.map_eq_some_iff]

theorem endEvents_cons_of_none {name : WString} {pid : DWORD} (pids : List DWORD)
    (h : r.exitCode pid = none) : endEvents r name (pid :: pids) = endEvents r name pids := by
  rw [endEvents, List.filterMap_cons_none (by rw [h]; rfl)]
  rfl

theorem endEvents_cons_of_some {name : WString} {pid code : DWORD} (pids : List DWORD)
    (h : r.exitCode pid = some code) :
    endEvents r name (pid :: pids) = endEvent name pid code :: endEvents r name pids := by
  rw [endEvents, List.filterMap_cons_some (by rw [h]; rfl)]
  rfl

theorem endEvents_pids (name : WString) (pids : List DWORD) :
    (endEvents r name pids).map LifecycleEvent.pid
      = pids.filter fun p => (r.exitCode p).isSome := by
  induction pids with
  | nil => rfl
  | cons p pids ih =>
      rcases hcode : r.exitCode p with _ | code
      · rw [List.filter_cons_of_neg (by rw [hcode]; exact Bool.false_ne_true),
          endEvents_cons_of_none pids hcode]
        exact ih
      · rw [List.filter_cons_of_pos (by rw [hcode]; rfl), endEvents_cons_of_some pids hcode,
          List.map_cons]
        exact congrArg (p :: ·) ih

/-- The instances that some turns of the first loop leave. -/
def undropped (r : Measurements) (pids : List DWORD) (instances : List (DWORD × TrackedInstance)) :
    List (DWORD × TrackedInstance) :=
  instances.filter fun i => ! (decide (i.1 ∈ pids) && (r.exitCode i.1).isSome)

/-- An instance that runs is left by its turn, and no later turn is about it. -/
theorem undropped_cons_of_none {pid : DWORD} (pids : List DWORD)
    (instances : List (DWORD × TrackedInstance)) (h : r.exitCode pid = none) :
    undropped r (pid :: pids) instances = undropped r pids instances := by
  refine List.filter_congr fun i _ => ?_
  by_cases hi : i.1 = pid
  · rw [hi, h]
    simp only [Option.isSome_none, Bool.and_false]
  · simp only [List.mem_cons, hi, false_or]

/-- One that has ended is erased. -/
theorem undropped_cons_of_some {pid code : DWORD} (pids : List DWORD)
    (instances : List (DWORD × TrackedInstance)) (h : r.exitCode pid = some code) :
    undropped r (pid :: pids) instances = undropped r pids (erase instances pid) := by
  rw [undropped, undropped, erase, List.filter_filter]
  refine List.filter_congr fun i _ => ?_
  by_cases hi : i.1 = pid
  · simp only [hi, ne_eq, not_true, decide_false, Bool.and_false, List.mem_cons, true_or,
      decide_true, h, Option.isSome_some, Bool.and_true, Bool.not_true]
  · simp only [ne_eq, hi, not_false_eq_true, decide_true, Bool.and_true, List.mem_cons, false_or]

/-- The first loop, over some of the instances. -/
theorem foldl_dropOne_eq (pids : List DWORD) (acc : Tracking) :
    pids.foldl (dropOne r) acc =
      { tracked :=
          { acc.tracked with
            instances := undropped r pids acc.tracked.instances
            lastExitedPid :=
              lastPid acc.tracked.lastExitedPid (endEvents r acc.tracked.name pids) }
        events := acc.events ++ endEvents r acc.tracked.name pids } := by
  induction pids generalizing acc with
  | nil =>
      have hall : undropped r [] acc.tracked.instances = acc.tracked.instances := by
        rw [undropped, List.filter_eq_self]
        intro i hi
        simp only [List.not_mem_nil, decide_false, Bool.false_and, Bool.not_false]
      rw [hall, endEvents, List.filterMap_nil, List.append_nil]
      rfl
  | cons pid pids ih =>
      rw [List.foldl_cons, ih]
      unfold dropOne
      -- An instance that runs stays without a word.
      rcases hcode : r.exitCode pid with _ | code
      · rw [endEvents_cons_of_none pids hcode, undropped_cons_of_none pids _ hcode]
      · rw [endEvents_cons_of_some pids hcode, undropped_cons_of_some pids _ hcode]
        simp only [List.append_assoc, List.singleton_append]
        rfl

/-- What the first loop leaves, and what it reports. -/
theorem dropExited_eq (t : TrackedProcess) :
    dropExited r t =
      { tracked :=
          { t with
            instances := t.instances.filter fun i => (r.exitCode i.1).isNone
            lastExitedPid := lastPid t.lastExitedPid (endEvents r t.name (keys t.instances)) }
        events := endEvents r t.name (keys t.instances) } := by
  -- Every instance had its turn.
  have hsame : undropped r (keys t.instances) t.instances
      = t.instances.filter fun i => (r.exitCode i.1).isNone := by
    refine List.filter_congr fun i hi => ?_
    have hkey : i.1 ∈ keys t.instances := List.mem_map_of_mem hi
    rw [decide_eq_true hkey, Bool.true_and, Option.not_isSome]
  rw [dropExited, foldl_dropOne_eq]
  simp only [hsame, List.nil_append]

end Ends

section Starts

variable {r : Measurements}

/-- The report about the first process that is picked up. -/
def firstPickedUp (t : TrackedProcess) (pid : DWORD) : LifecycleEvent :=
  let restart := t.instances.isEmpty && t.lastExitedPid != 0 && t.lastExitedPid != pid
  { kind := if restart then .restarted else .acquired
    name := t.name
    pid := pid
    previousPid := if restart then t.lastExitedPid else 0 }

/-- The report about another one. -/
def otherPickedUp (name : WString) (pid : DWORD) : LifecycleEvent :=
  { kind := .acquired, name := name, pid := pid }

/-- The reports about the processes that are picked up. -/
def pickedUp (t : TrackedProcess) : List DWORD → List LifecycleEvent
  | [] => []
  | p :: pids => firstPickedUp t p :: pids.map (otherPickedUp t.name)

theorem isStart_firstPickedUp (t : TrackedProcess) (pid : DWORD) :
    (firstPickedUp t pid).IsStart := by
  unfold firstPickedUp LifecycleEvent.IsStart
  dsimp only
  split_ifs
  · exact Or.inr rfl
  · exact Or.inl rfl

/-- A restart has no instance left and one that has ended, and says which. -/
theorem firstPickedUp_restarted {t : TrackedProcess} {pid : DWORD}
    (h : (firstPickedUp t pid).kind = .restarted) :
    t.instances = [] ∧ t.lastExitedPid ≠ 0 ∧
      (firstPickedUp t pid).previousPid = t.lastExitedPid := by
  have hrestart :
      (t.instances.isEmpty && t.lastExitedPid != 0 && t.lastExitedPid != pid) = true := by
    by_contra hno
    have hkind : (firstPickedUp t pid).kind = .acquired := if_neg hno
    rw [hkind] at h
    cases h
  have hprevious : (firstPickedUp t pid).previousPid = t.lastExitedPid := if_pos hrestart
  rw [Bool.and_eq_true, Bool.and_eq_true, bne_iff_ne] at hrestart
  exact ⟨List.isEmpty_iff.mp hrestart.1.1, hrestart.1.2, hprevious⟩

/-- Only the first process that is picked up can be a restart. -/
theorem pickedUp_restarted {t : TrackedProcess} {pids : List DWORD}
    {before after : List LifecycleEvent} {e : LifecycleEvent}
    (hsplit : pickedUp t pids = before ++ e :: after) (h : e.kind = .restarted) :
    before = [] ∧ t.instances = [] ∧ t.lastExitedPid ≠ 0 ∧ e.previousPid = t.lastExitedPid := by
  cases pids with
  | nil => exact absurd hsplit.symm (List.append_ne_nil_of_right_ne_nil _ (List.cons_ne_nil _ _))
  | cons p pids =>
      rw [pickedUp] at hsplit
      cases before with
      | nil =>
          rw [List.nil_append, List.cons.injEq] at hsplit
          rw [← hsplit.1] at h ⊢
          exact ⟨rfl, firstPickedUp_restarted h⟩
      | cons first before =>
          -- The others are acquired.
          rw [List.cons_append, List.cons.injEq] at hsplit
          have hin : e ∈ pids.map (otherPickedUp t.name) := by
            rw [hsplit.2]
            exact List.mem_append_right _ List.mem_cons_self
          rcases List.mem_map.mp hin with ⟨q, _, rfl⟩
          cases h

theorem isStart_pickedUp {t : TrackedProcess} {pids : List DWORD} {e : LifecycleEvent}
    (h : e ∈ pickedUp t pids) : e.IsStart := by
  cases pids with
  | nil => cases h
  | cons p pids =>
      rcases List.mem_cons.mp h with rfl | h
      · exact isStart_firstPickedUp t p
      · rcases List.mem_map.mp h with ⟨q, _, rfl⟩
        exact Or.inl rfl

theorem pickedUp_pids (t : TrackedProcess) (pids : List DWORD) :
    (pickedUp t pids).map LifecycleEvent.pid = pids := by
  cases pids with
  | nil => rfl
  | cons p pids =>
      have hrest : (pids.map (otherPickedUp t.name)).map LifecycleEvent.pid = pids := by
        rw [List.map_map]
        exact List.map_id pids
      rw [pickedUp, List.map_cons, hrest]
      rfl

theorem pickedUp_name {t : TrackedProcess} {pids : List DWORD} {e : LifecycleEvent}
    (h : e ∈ pickedUp t pids) : e.name = t.name := by
  cases pids with
  | nil => cases h
  | cons p pids =>
      rcases List.mem_cons.mp h with rfl | h
      · rfl
      · rcases List.mem_map.mp h with ⟨q, _, rfl⟩
        rfl

/-- With an instance there is no restart. -/
theorem pickedUp_of_held (t : TrackedProcess) (h : t.instances.isEmpty = false)
    (pids : List DWORD) : pickedUp t pids = pids.map (otherPickedUp t.name) := by
  cases pids with
  | nil => rfl
  | cons p pids =>
      rw [pickedUp, List.map_cons, firstPickedUp]
      simp only [h, Bool.false_and, Bool.false_eq_true, if_false]
      rfl

theorem pickedUp_congr {t t' : TrackedProcess} (hinstances : t'.instances = t.instances)
    (hlast : t'.lastExitedPid = t.lastExitedPid) (hname : t'.name = t.name) (pids : List DWORD) :
    pickedUp t' pids = pickedUp t pids := by
  cases pids with
  | nil => rfl
  | cons p pids => rw [pickedUp, pickedUp, firstPickedUp, firstPickedUp, hinstances, hlast, hname]

/-- What the second loop does to `acc`, of which `news` are the ids that are picked up. -/
structure PicksUp (r : Measurements) (pids : List DWORD) (acc out : Tracking)
    (news : List DWORD) : Prop where
  nodup : news.Nodup
  mem : ∀ p, p ∈ news ↔
    p ∈ pids ∧ p ∉ keys acc.tracked.instances ∧ r.openProcessError p = none
  events : out.events.filter (fun e => ! decide e.IsRefusal)
    = acc.events.filter (fun e => ! decide e.IsRefusal) ++ pickedUp acc.tracked news
  last : out.tracked.lastExitedPid = if news = [] then acc.tracked.lastExitedPid else 0
  old : ∀ i ∈ out.tracked.instances, i ∈ acc.tracked.instances ∨ i.2.primed = false
  ordered : Ordered acc.tracked.instances → Ordered out.tracked.instances

/-- A turn about a process that is held already changes nothing. -/
theorem picksUp_held {pid : DWORD} {pids : List DWORD} {acc out : Tracking} {news : List DWORD}
    (hheld : pid ∈ keys acc.tracked.instances) (h : PicksUp r pids acc out news) :
    PicksUp r (pid :: pids) acc out news := by
  refine ⟨h.nodup, fun p => ?_, h.events, h.last, h.old, h.ordered⟩
  rw [h.mem p, List.mem_cons]
  refine ⟨fun hp => ⟨Or.inr hp.1, hp.2⟩, fun hp => ⟨hp.1.resolve_left ?_, hp.2⟩⟩
  exact fun heq => hp.2.1 (heq ▸ hheld)

/-- A turn that picks a process up. What follows it is no restart. -/
theorem picksUp_opened {pid : DWORD} {pids : List DWORD} {acc out : Tracking} {news : List DWORD}
    (hheld : pid ∉ keys acc.tracked.instances) (hopen : r.openProcessError pid = none)
    (h : PicksUp r pids (acquireOne r acc pid) out news) :
    PicksUp r (pid :: pids) acc out (pid :: news) := by
  have hinstances : (acquireOne r acc pid).tracked.instances
      = assign acc.tracked.instances pid {} := by
    rw [acquireOne, if_neg hheld, hopen]
  have hevents : (acquireOne r acc pid).events
      = acc.events ++ [firstPickedUp acc.tracked pid] := by
    rw [acquireOne, if_neg hheld, hopen]
    rfl
  have hlast : (acquireOne r acc pid).tracked.lastExitedPid = 0 := by
    rw [acquireOne, if_neg hheld, hopen]
  have hname := (@acquireOne_keys r acc pid pid).2
  have hnew : ∀ p, p ∈ keys (acquireOne r acc pid).tracked.instances ↔
      p = pid ∨ p ∈ keys acc.tracked.instances := by
    intro p
    rw [hinstances, mem_keys_assign]
  -- So the rest of the loop has an instance, and none of it is a restart.
  have hsome : (acquireOne r acc pid).tracked.instances.isEmpty = false := by
    rw [List.isEmpty_eq_false_iff]
    intro hnil
    have hin := (hnew pid).mpr (Or.inl rfl)
    rw [hnil] at hin
    cases hin
  refine ⟨List.nodup_cons.mpr ⟨?_, h.nodup⟩, fun p => ?_, ?_, ?_, ?_, ?_⟩
  · exact fun hin => ((h.mem pid).mp hin).2.1 ((hnew pid).mpr (Or.inl rfl))
  · rw [List.mem_cons, List.mem_cons, h.mem p, hnew p, not_or]
    by_cases hp : p = pid
    · rw [hp]
      exact iff_of_true (Or.inl rfl) ⟨Or.inl rfl, hheld, hopen⟩
    · rw [or_iff_right hp, or_iff_right hp, and_iff_right hp]
  · -- Its report is no refusal.
    have hkept : [firstPickedUp acc.tracked pid].filter (fun e => ! decide e.IsRefusal)
        = [firstPickedUp acc.tracked pid] := by
      rw [List.filter_eq_self]
      intro e he
      rw [List.mem_singleton.mp he, decide_eq_false
        (LifecycleEvent.not_isRefusal_of_isStart (isStart_firstPickedUp acc.tracked pid))]
      rfl
    rw [h.events, hevents, List.filter_append, hkept, pickedUp_of_held _ hsome, hname,
      List.append_assoc]
    rfl
  · rw [h.last, hlast, ite_self]
    exact (if_neg (List.cons_ne_nil _ _)).symm
  · intro i hi
    rcases h.old i hi with hold | hfresh
    · rw [hinstances] at hold
      rcases mem_assign _ _ _ i hold with rfl | hold
      · exact Or.inr rfl
      · exact Or.inl hold
    · exact Or.inr hfresh
  · intro hordered
    refine h.ordered ?_
    rw [hinstances]
    exact ordered_assign hordered pid {}

/-- A turn about a process that cannot be opened, which leaves the instances alone. -/
theorem picksUp_refused {pid : DWORD} {pids : List DWORD} {acc out : Tracking} {news : List DWORD}
    {error : Win32Error} (hheld : pid ∉ keys acc.tracked.instances)
    (hopen : r.openProcessError pid = some error)
    (h : PicksUp r pids (acquireOne r acc pid) out news) :
    PicksUp r (pid :: pids) acc out news := by
  have htracked : (acquireOne r acc pid).tracked.instances = acc.tracked.instances ∧
      (acquireOne r acc pid).tracked.lastExitedPid = acc.tracked.lastExitedPid := by
    rw [acquireOne, if_neg hheld, hopen]
    dsimp only
    split_ifs <;> exact ⟨rfl, rfl⟩
  rcases htracked with ⟨hinstances, hlast⟩
  have hname := (@acquireOne_keys r acc pid pid).2
  -- What it reports, if anything, is the refusal.
  have hevents : (acquireOne r acc pid).events.filter (fun e => ! decide e.IsRefusal)
      = acc.events.filter fun e => ! decide e.IsRefusal := by
    rw [acquireOne, if_neg hheld, hopen]
    dsimp only
    split_ifs
    · rw [List.filter_append]
      exact List.append_nil _
    · rfl
  refine ⟨h.nodup, fun p => ?_, ?_, ?_, ?_, ?_⟩
  · rw [h.mem p, hinstances, List.mem_cons]
    refine ⟨fun hp => ⟨Or.inr hp.1, hp.2⟩, fun hp => ⟨hp.1.resolve_left ?_, hp.2⟩⟩
    rintro rfl
    rw [hopen] at hp
    cases hp.2.2
  · rw [h.events, hevents, pickedUp_congr hinstances hlast hname]
  · rw [h.last, hlast]
  · rw [← hinstances]
    exact h.old
  · rw [← hinstances]
    exact h.ordered

/-- The second loop, over some of the processes. -/
theorem foldl_acquireOne_picksUp (pids : List DWORD) (acc : Tracking) :
    ∃ news, PicksUp r pids acc (pids.foldl (acquireOne r) acc) news := by
  induction pids generalizing acc with
  | nil =>
      exact ⟨[], List.nodup_nil, fun p => ⟨fun h => absurd h List.not_mem_nil,
        fun h => absurd h.1 List.not_mem_nil⟩, (List.append_nil _).symm, rfl,
        fun i hi => Or.inl hi, fun h => h⟩
  | cons pid pids ih =>
      rcases ih (acquireOne r acc pid) with ⟨news, hnews⟩
      rw [List.foldl_cons]
      -- An id that is held is passed over; any other one is opened or refused.
      by_cases hheld : pid ∈ keys acc.tracked.instances
      · have hturn : acquireOne r acc pid = acc := by rw [acquireOne, if_pos hheld]
        rw [hturn] at hnews ⊢
        exact ⟨news, picksUp_held hheld hnews⟩
      · rcases hopen : r.openProcessError pid with _ | error
        · exact ⟨pid :: news, picksUp_opened hheld hopen hnews⟩
        · exact ⟨news, picksUp_refused hheld hopen hnews⟩

/-- What the second loop reports. -/
theorem acquire_picksUp (host : Host) (snapshot : List ProcessEntry) (acc : Tracking) :
    ∃ news, PicksUp r (findByName host snapshot acc.tracked.name) acc
      (acquire r host snapshot acc) news :=
  foldl_acquireOne_picksUp _ acc

end Starts

section Poll

variable {r : Measurements} {host : Host} {snapshot : List ProcessEntry} {t : TrackedProcess}

theorem tracked_dropExited (t : TrackedProcess) :
    (dropExited r t).tracked.name = t.name ∧
    (dropExited r t).tracked.instances
        = t.instances.filter (fun i => (r.exitCode i.1).isNone) ∧
      (dropExited r t).tracked.lastExitedPid
        = lastPid t.lastExitedPid (endEvents r t.name (keys t.instances)) ∧
      (dropExited r t).events = endEvents r t.name (keys t.instances) := by
  rw [dropExited_eq]
  exact ⟨rfl, rfl, rfl, rfl⟩

/-- What a poll does to the instances and what it reports, refusals apart. The ids that
    are picked up are `news`. -/
structure Polls (r : Measurements) (host : Host) (snapshot : List ProcessEntry)
    (t : TrackedProcess) (news : List DWORD) : Prop where
  nodup : news.Nodup
  mem : ∀ p, p ∈ news ↔ p ∈ findByName host snapshot t.name ∧
    ¬ (p ∈ keys t.instances ∧ r.exitCode p = none) ∧ r.openProcessError p = none
  events : (t.poll r host snapshot).2.2.filter (fun e => ! decide e.IsRefusal)
    = endEvents r t.name (keys t.instances) ++ pickedUp (dropExited r t).tracked news
  last : (t.poll r host snapshot).1.lastExitedPid
    = if news = [] then lastPid t.lastExitedPid (endEvents r t.name (keys t.instances)) else 0
  ordered : Ordered t.instances → Ordered (t.poll r host snapshot).1.instances
  old : ∀ i ∈ (acquire r host snapshot (dropExited r t)).tracked.instances,
    i.2.primed = true → i.1 ∈ keys t.instances ∧ r.exitCode i.1 = none

theorem ordered_sampleAll (t : TrackedProcess) (h : Ordered t.instances) :
    Ordered (sampleAll r t).1.instances := by
  rw [Ordered, keys_sampleAll]
  exact h

theorem polls_news (host : Host) (snapshot : List ProcessEntry) (t : TrackedProcess) :
    ∃ news, Polls r host snapshot t news := by
  rcases tracked_dropExited (r := r) t with ⟨hname, hinstances, hlast, hevents⟩
  rcases acquire_picksUp (r := r) host snapshot (dropExited r t) with ⟨news, hnews⟩
  -- The first loop reports ends only, and no refusal.
  have hends : (endEvents r t.name (keys t.instances)).filter (fun e => ! decide e.IsRefusal)
      = endEvents r t.name (keys t.instances) := by
    rw [List.filter_eq_self]
    intro e he
    rcases mem_endEvents.mp he with ⟨p, _, code, _, rfl⟩
    rw [decide_eq_false
      (LifecycleEvent.not_isRefusal_of_isEnd (isEnd_endEvent t.name p code))]
    rfl
  refine ⟨news, hnews.nodup, fun p => ?_, ?_, ?_, ?_, ?_⟩
  · rw [hnews.mem p, hname, mem_dropExited]
  · rw [← hends, ← hevents]
    exact hnews.events
  · rw [← hlast]
    exact hnews.last
  · intro hordered
    refine ordered_sampleAll _ (hnews.ordered ?_)
    rw [hinstances]
    exact ordered_filter hordered _
  · intro i hi hprimed
    rcases hnews.old i hi with hold | hfresh
    · rw [hinstances, List.mem_filter, Option.isNone_iff_eq_none] at hold
      exact ⟨List.mem_map_of_mem hold.1, hold.2⟩
    · rw [hfresh] at hprimed
      cases hprimed

theorem sampleInstance_of_none (t : TrackedProcess) (p : DWORD) (i : TrackedInstance)
    (h : r.cpuTicks p = none) : sampleInstance r t p i = none := by
  rw [sampleInstance, h]

theorem sampleInstance_of_some (t : TrackedProcess) (p : DWORD) (i : TrackedInstance)
    {cpu : UInt64} (h : r.cpuTicks p = some cpu) :
    ∃ y, sampleInstance r t p i = some y ∧ y.2.pid = p ∧
      (y.2.valid = true → i.primed = true) := by
  rw [sampleInstance, h]
  exact ⟨_, rfl, rfl, fun hvalid => (Bool.and_eq_true_iff.mp hvalid).1⟩

/-- Every instance whose times can be read is measured once. -/
theorem sampleAll_pids (t : TrackedProcess) :
    (sampleAll r t).2.map ProcessSample.pid
      = (keys t.instances).filter fun p => (r.cpuTicks p).isSome := by
  simp only [sampleAll, List.filterMap_map, keys]
  induction t.instances with
  | nil => rfl
  | cons i instances ih =>
      rw [List.map_cons]
      -- An instance whose times cannot be read gives no sample.
      rcases hcpu : r.cpuTicks i.1 with _ | cpu
      · have hnone := sampleInstance_of_none t i.1 i.2 hcpu
        rw [List.filter_cons_of_neg (by rw [hcpu]; exact Bool.false_ne_true),
          List.filterMap_cons_none (by simp only [Function.comp, hnone, Option.map_none])]
        exact ih
      · rcases sampleInstance_of_some t i.1 i.2 hcpu with ⟨y, hy, hpid, -⟩
        have hsample : ((fun s : (DWORD × TrackedInstance) ×
            Option (TrackedInstance × ProcessSample) => s.2.map Prod.snd) ∘
              fun i => (i, sampleInstance r t i.1 i.2)) i = some y.2 := by
          simp only [Function.comp, hy, Option.map_some]
        rw [List.filter_cons_of_pos (by rw [hcpu]; rfl), List.filterMap_cons_some hsample,
          List.map_cons, ih, hpid]

/-- A valid sample has one before it. -/
theorem primed_of_valid (t : TrackedProcess) (x : ProcessSample) (hx : x ∈ (sampleAll r t).2)
    (hvalid : x.valid = true) : ∃ i ∈ t.instances, i.1 = x.pid ∧ i.2.primed = true := by
  simp only [sampleAll, List.filterMap_map, List.mem_filterMap, Function.comp,
    Option.map_eq_some_iff] at hx
  rcases hx with ⟨i, hi, y, hy, rfl⟩
  rcases hcpu : r.cpuTicks i.1 with _ | cpu
  · rw [sampleInstance_of_none t i.1 i.2 hcpu] at hy
    cases hy
  · rcases sampleInstance_of_some t i.1 i.2 hcpu with ⟨y', hy', hpid, hprimed⟩
    rw [hy'] at hy
    cases hy
    exact ⟨i, hi, hpid.symm, hprimed hvalid⟩

/-- What a poll measures: every instance once, if its times can be read, and with a
    difference only if there was a poll before that had it. -/
theorem poll_samples (host : Host) (snapshot : List ProcessEntry) (t : TrackedProcess) :
    (t.poll r host snapshot).2.1.map ProcessSample.pid
        = (keys (t.poll r host snapshot).1.instances).filter (fun p => (r.cpuTicks p).isSome) ∧
      ∀ x ∈ (t.poll r host snapshot).2.1, x.valid = true →
        x.pid ∈ keys t.instances ∧ r.exitCode x.pid = none := by
  constructor
  · -- Sampling changes what is kept of an instance, and not which are held.
    have hkeys : keys (t.poll r host snapshot).1.instances
        = keys (acquire r host snapshot (dropExited r t)).tracked.instances := keys_sampleAll _
    rw [hkeys]
    exact sampleAll_pids _
  · intro x hx hvalid
    rcases polls_news (r := r) host snapshot t with ⟨news, hnews⟩
    rcases primed_of_valid _ x hx hvalid with ⟨i, hi, hpid, hprimed⟩
    rw [← hpid]
    exact hnews.old i hi hprimed

end Poll

end Telemetry

end ThreadHaul
