import Mathlib.Data.List.Infix
import ThreadHaul.Lib.Runs
import ThreadHaul.Telemetry.PollEvents

/-!
# Lifecycles

What a `TrackedProcess` reports over its whole life, next to the processes of the
system that start and end between its polls.

A process is known here by the order in which it was started, since its id may be
used again. Windows keeps what an open handle belongs to, so `Watch` does as well,
and an id is not given to another process while a handle to its process is open.

The instances that are held after a poll are those that ran at the poll: `Aligned`.
From this, what a poll reports can be read off for each process: it is picked up if
it runs and was not held, and its end is reported if it was held and does not run.
Over a run these are the first poll that sees it and the first one after its end.

## Main definitions

* `Processes`, `Change`: The system, and what happens in it.
* `Watch`, `Watch.next`: The system, the instances, and all reports so far.
* `Change.Ok`: What the system promises.
* `Aligned`: The handles belong to the instances that run.
* `EndsLast`: The last report is an end, later than all other ends.

## Theorems

* `aligned_next`: Every change keeps the handles in place.
* `starts_of_poll`, `ends_of_poll`: What a poll reports about one process.
* `lifecycle_consistent`: What is reported and held over a run.
-/

namespace ThreadHaul

namespace Telemetry

open Actuator OrderedMap Runs

/-- The processes that were started, and the ones that have ended with their exit
    codes, both in order. -/
structure Processes where
  started : List ProcessEntry := []
  exits : List (Nat × DWORD) := []

namespace Processes

/-- A process runs. -/
def Running (w : Processes) (i : Nat) (e : ProcessEntry) : Prop :=
  w.started[i]? = some e ∧ i ∉ keys w.exits

/-- A process with the name runs. -/
def shows (host : Host) (name : WString) (i : Nat) (w : Processes) : Bool :=
  match w.started[i]? with
  | none => false
  | some e => decide (i ∉ keys w.exits) && namesEqualIgnoreCase host e.name name

/-- The process that has an id. -/
def holder (w : Processes) (pid : DWORD) : Nat :=
  ((List.range w.started.length).find? fun i =>
    decide (i ∉ keys w.exits) && decide (w.started[i]?.map ProcessEntry.pid = some pid)).getD 0

/-- The one comes before the other. -/
def Before (w w' : Processes) : Prop := w.started <+: w'.started ∧ w.exits <+: w'.exits

theorem shows_iff (host : Host) (name : WString) (i : Nat) (w : Processes) :
    w.shows host name i = true ↔
      ∃ e, w.Running i e ∧ namesEqualIgnoreCase host e.name name = true := by
  rw [shows]
  rcases hget : w.started[i]? with _ | e
  · refine iff_of_false Bool.false_ne_true ?_
    rintro ⟨e, hrun, _⟩
    rw [hrun.1] at hget
    cases hget
  · simp only [Bool.and_eq_true, decide_eq_true_eq, Running, hget, Option.some.injEq]
    exact ⟨fun h => ⟨e, ⟨rfl, h.1⟩, h.2⟩, fun ⟨e', h, hname⟩ => ⟨h.2, h.1 ▸ hname⟩⟩

theorem not_mem_exits_iff (w : Processes) (i : Nat) :
    w.exits.lookup i = none ↔ i ∉ keys w.exits := by
  rw [← lookup_isSome_iff, Bool.not_eq_true, Option.isSome_eq_false_iff,
    Option.isNone_iff_eq_none]

theorem Before.refl (w : Processes) : w.Before w := ⟨List.prefix_rfl, List.prefix_rfl⟩

theorem Before.trans {w w' w'' : Processes} (h : w.Before w') (h' : w'.Before w'') :
    w.Before w'' :=
  ⟨h.1.trans h'.1, h.2.trans h'.2⟩

theorem Before.started {w w' : Processes} (h : w.Before w') {i : Nat} {e : ProcessEntry}
    (he : w.started[i]? = some e) : w'.started[i]? = some e := by
  rcases h.1 with ⟨l, hl⟩
  rw [← hl, List.getElem?_append_left (List.getElem?_eq_some_iff.mp he).1, he]

theorem Before.ended {w w' : Processes} (h : w.Before w') {i : Nat} (hi : i ∈ keys w.exits) :
    i ∈ keys w'.exits := by
  rcases h.2 with ⟨l, hl⟩
  rw [← hl, keys, List.map_append]
  exact List.mem_append_left _ hi

theorem Before.code {w w' : Processes} (h : w.Before w') {i : Nat} {code : DWORD}
    (hi : w.exits.lookup i = some code) : w'.exits.lookup i = some code := by
  rcases h.2 with ⟨l, hl⟩
  rw [← hl, List.lookup_append, hi]
  rfl

/-- No two running processes have one id. -/
def Distinct (w : Processes) : Prop :=
  ∀ i j e e', w.Running i e → w.Running j e' → e.pid = e'.pid → i = j

theorem holder_eq {w : Processes} (hw : w.Distinct) {i : Nat} {e : ProcessEntry}
    (h : w.Running i e) : w.holder e.pid = i := by
  have hlt : i < w.started.length := (List.getElem?_eq_some_iff.mp h.1).1
  rcases hfind : (List.range w.started.length).find? (fun i =>
      decide (i ∉ keys w.exits) &&
        decide (w.started[i]?.map ProcessEntry.pid = some e.pid)) with _ | j
  · -- The process itself would be found.
    rw [List.find?_eq_none] at hfind
    refine absurd ?_ (hfind i (List.mem_range.mpr hlt))
    rw [decide_eq_true h.2, h.1]
    exact decide_eq_true rfl
  · -- What is found runs under the same id, and two running processes never share one.
    have hj := List.find?_some hfind
    rw [Bool.and_eq_true, decide_eq_true_iff, decide_eq_true_iff, Option.map_eq_some_iff] at hj
    rcases hj with ⟨hruns, e', he', hpid⟩
    rw [holder, hfind, Option.getD_some]
    exact hw j i e' e ⟨he', hruns⟩ h hpid

end Processes

/-- Something happens in the system. -/
inductive Change
  | start (e : ProcessEntry)
  | exit (i : Nat) (code : DWORD)
  | poll (r : Measurements) (snapshot : List ProcessEntry)

/-- A report, with the poll it is from and the process it is about. -/
structure Report where
  poll : Nat
  process : Nat
  event : LifecycleEvent

/-- A poll as it was, and what it left. -/
structure Outcome where
  processes : Processes
  measurements : Measurements
  tracked : TrackedProcess
  handle : DWORD → Nat
  samples : List ProcessSample

/-- The system and the instances of a name. -/
structure Watch where
  processes : Processes := {}
  tracked : TrackedProcess
  /-- What the open handles belong to. -/
  handle : DWORD → Nat := fun _ => 0
  polls : List Outcome := []
  log : List Report := []

namespace Watch

/-- What the handles belong to after a poll: a process that is picked up is the one
    that has the id. -/
def handleAfter (s : Watch) (r : Measurements) (p : DWORD) : Nat :=
  if p ∈ keys s.tracked.instances ∧ r.exitCode p = none then s.handle p
  else s.processes.holder p

/-- Whom a report is about: the end of an instance was read from its handle. -/
def about (s : Watch) (r : Measurements) (e : LifecycleEvent) : Nat :=
  if e.IsEnd then s.handle e.pid else s.handleAfter r e.pid

/-- A report of the poll that takes place now. -/
def report (s : Watch) (r : Measurements) (e : LifecycleEvent) : Report where
  poll := s.polls.length
  process := s.about r e
  event := e

/-- The system and the instances after a change. -/
def next (host : Host) (s : Watch) : Change → Watch
  | .start e => { s with processes := { s.processes with started := s.processes.started ++ [e] } }
  | .exit i code =>
      { s with processes := { s.processes with exits := s.processes.exits ++ [(i, code)] } }
  | .poll r snapshot =>
      let out := s.tracked.poll r host snapshot
      { s with
        tracked := out.1
        handle := s.handleAfter r
        polls := s.polls ++ [{ processes := s.processes, measurements := r, tracked := out.1,
                               handle := s.handleAfter r, samples := out.2.1 }]
        log := s.log ++ (out.2.2.filter fun e => ! decide e.IsRefusal).map (s.report r) }

end Watch

/-- What a poll is told is true: the snapshot has the processes that run, these and no
    others can be opened, and a handle tells the exit code of its process. -/
structure Honest (s : Watch) (r : Measurements) (snapshot : List ProcessEntry) : Prop where
  shown : ∀ i e, s.processes.Running i e → e ∈ snapshot
  named : ∀ e ∈ snapshot, ∀ i e', s.processes.Running i e' → e'.pid = e.pid → e' = e
  opens : ∀ p, r.openProcessError p = none ↔ ∃ i e, s.processes.Running i e ∧ e.pid = p
  codes : ∀ p ∈ keys s.tracked.instances, r.exitCode p = s.processes.exits.lookup (s.handle p)

/-- A process starts under an id that no running process has and to whose process no
    handle is open, a process that ends was running, and a poll is told the truth. -/
def Change.Ok (s : Watch) : Change → Prop
  | .start e =>
      (∀ i e', s.processes.Running i e' → e'.pid ≠ e.pid) ∧ e.pid ∉ keys s.tracked.instances
  | .exit i _ => ∃ e, s.processes.Running i e
  | .poll r snapshot => Honest s r snapshot

section Alignment

variable (host : Host) (name : WString)

/-- A process is held by a handle. -/
def Watch.Holds (s : Watch) (i : Nat) : Prop := ∃ p ∈ keys s.tracked.instances, s.handle p = i

/-- Whether a process is held can be decided. -/
instance (s : Watch) (i : Nat) : Decidable (s.Holds i) :=
  inferInstanceAs (Decidable (∃ p ∈ keys s.tracked.instances, s.handle p = i))

/-- The handles belong to the instances that ran at the last poll, and nothing else has
    their ids. -/
structure Aligned (s : Watch) : Prop where
  called : s.tracked.name = name
  distinct : s.processes.Distinct
  ordered : Ordered s.tracked.instances
  handle : ∀ p ∈ keys s.tracked.instances, ∃ e, s.processes.started[s.handle p]? = some e ∧
    e.pid = p ∧ namesEqualIgnoreCase host e.name name = true
  open' : ∀ p ∈ keys s.tracked.instances, ∀ i e, s.processes.Running i e → e.pid = p →
    i = s.handle p
  held : ∀ i, s.Holds i ↔ ∃ o ∈ s.polls.getLast?, o.processes.shows host name i = true
  now : ∀ o ∈ s.polls, o.processes.Before s.processes
  past : s.polls.Pairwise fun o o' => o.processes.Before o'.processes

variable {host name}

theorem aligned_start {s : Watch} (h : Aligned host name s) {e : ProcessEntry}
    (hok : (Change.start e).Ok s) : Aligned host name (s.next host (.start e)) := by
  -- The new process is the only one that is new.
  have hnew : ∀ i e', (s.next host (.start e)).processes.Running i e' →
      s.processes.Running i e' ∨ (i = s.processes.started.length ∧ e' = e) := by
    intro i e' hrun
    have hget : (s.processes.started ++ [e])[i]? = some e' := hrun.1
    rw [List.getElem?_append] at hget
    by_cases hlt : i < s.processes.started.length
    · rw [if_pos hlt] at hget
      exact Or.inl ⟨hget, hrun.2⟩
    · rw [if_neg hlt, List.getElem?_singleton] at hget
      split_ifs at hget with hlast
      exact Or.inr ⟨by omega, (Option.some.inj hget).symm⟩
  have hbefore : s.processes.Before (s.next host (.start e)).processes :=
    ⟨List.prefix_append _ _, List.prefix_rfl⟩
  refine ⟨h.called, ?_, h.ordered, ?_, ?_, h.held, fun o ho => (h.now o ho).trans hbefore, h.past⟩
  · intro i j e₁ e₂ hi hj hpid
    rcases hnew i e₁ hi with hiold | ⟨hinew, he₁⟩
    · rcases hnew j e₂ hj with hjold | ⟨_, he₂⟩
      · exact h.distinct i j e₁ e₂ hiold hjold hpid
      · exact absurd (hpid.trans (congrArg _ he₂)) (hok.1 i e₁ hiold)
    · rcases hnew j e₂ hj with hjold | ⟨hjnew, _⟩
      · exact absurd (hpid.symm.trans (congrArg _ he₁)) (hok.1 j e₂ hjold)
      · rw [hinew, hjnew]
  · intro p hp
    rcases h.handle p hp with ⟨e', he', hpid, hname⟩
    exact ⟨e', hbefore.started he', hpid, hname⟩
  · intro p hp i e' hrun hpid
    rcases hnew i e' hrun with hrun | ⟨_, rfl⟩
    · exact h.open' p hp i e' hrun hpid
    · exact absurd (hpid ▸ hp) hok.2

theorem aligned_exit {s : Watch} (h : Aligned host name s) (i : Nat) (code : DWORD) :
    Aligned host name (s.next host (.exit i code)) := by
  -- An exit only adds to the list of exits, so what runs after it ran before.
  have hold : ∀ j e, (s.next host (.exit i code)).processes.Running j e →
      s.processes.Running j e := by
    intro j e hrun
    refine ⟨hrun.1, fun hj => hrun.2 ?_⟩
    exact (show s.processes.Before (s.next host (.exit i code)).processes from
      ⟨List.prefix_rfl, List.prefix_append _ _⟩).ended hj
  have hbefore : s.processes.Before (s.next host (.exit i code)).processes :=
    ⟨List.prefix_rfl, List.prefix_append _ _⟩
  refine ⟨h.called, ?_, h.ordered, h.handle, ?_, h.held, fun o ho => (h.now o ho).trans hbefore,
    h.past⟩
  · exact fun j k e₁ e₂ hj hk => h.distinct j k e₁ e₂ (hold j e₁ hj) (hold k e₂ hk)
  · exact fun p hp j e hrun => h.open' p hp j e (hold j e hrun)

section Now

variable {s : Watch} {r : Measurements} {snapshot : List ProcessEntry}

/-- A process that is held and has not ended runs, under the name. -/
theorem running_of_held (h : Aligned host name s) (hr : Honest s r snapshot) {p : DWORD}
    (hp : p ∈ keys s.tracked.instances) (hcode : r.exitCode p = none) :
    ∃ e, s.processes.Running (s.handle p) e ∧
      namesEqualIgnoreCase host e.name name = true ∧ e.pid = p := by
  rcases h.handle p hp with ⟨e, he, hpid, hname⟩
  rw [hr.codes p hp, Processes.not_mem_exits_iff] at hcode
  exact ⟨e, ⟨he, hcode⟩, hname, hpid⟩

/-- What the snapshot has under the name and can be opened runs. -/
theorem running_of_found (h : Aligned host name s) (hr : Honest s r snapshot) {p : DWORD}
    (hp : p ∈ findByName host snapshot s.tracked.name) (hopen : r.openProcessError p = none) :
    ∃ i e, s.processes.Running i e ∧ namesEqualIgnoreCase host e.name name = true ∧
      e.pid = p := by
  rcases List.mem_map.mp hp with ⟨e, he, hpid⟩
  rw [List.mem_filter, h.called] at he
  rcases (hr.opens p).mp hopen with ⟨i, e', hrun, hpid'⟩
  have hsame := hr.named e he.1 i e' hrun (hpid'.trans hpid.symm)
  exact ⟨i, e', hrun, hsame ▸ he.2, hpid'⟩

theorem found_of_running (h : Aligned host name s) (hr : Honest s r snapshot) {i : Nat}
    {e : ProcessEntry} (hrun : s.processes.Running i e)
    (hname : namesEqualIgnoreCase host e.name name = true) :
    e.pid ∈ findByName host snapshot s.tracked.name ∧ r.openProcessError e.pid = none := by
  refine ⟨List.mem_map_of_mem (List.mem_filter.mpr ⟨hr.shown i e hrun, ?_⟩), ?_⟩
  · rw [h.called]
    exact hname
  · exact (hr.opens e.pid).mpr ⟨i, e, hrun, rfl⟩

/-- The ids that are held after a poll are those of the processes with the name. -/
theorem keys_poll (h : Aligned host name s) (hr : Honest s r snapshot) (p : DWORD) :
    p ∈ keys (s.tracked.poll r host snapshot).1.instances ↔
      ∃ i e, s.processes.Running i e ∧ namesEqualIgnoreCase host e.name name = true ∧
        e.pid = p := by
  rw [(mem_poll host snapshot s.tracked p).1]
  constructor
  · rintro (⟨hp, hcode⟩ | ⟨hp, hopen⟩)
    · exact ⟨s.handle p, running_of_held h hr hp hcode⟩
    · exact running_of_found h hr hp hopen
  · rintro ⟨i, e, hrun, hname, rfl⟩
    exact Or.inr (found_of_running h hr hrun hname)

/-- The handle that is held for an id after a poll belongs to the process that has it. -/
theorem handleAfter_eq (h : Aligned host name s) {i : Nat} {e : ProcessEntry}
    (hrun : s.processes.Running i e) (r : Measurements) : s.handleAfter r e.pid = i := by
  rw [Watch.handleAfter]
  by_cases hold : e.pid ∈ keys s.tracked.instances ∧ r.exitCode e.pid = none
  · rw [if_pos hold]
    exact (h.open' e.pid hold.1 i e hrun rfl).symm
  · rw [if_neg hold]
    exact Processes.holder_eq h.distinct hrun

theorem aligned_poll (h : Aligned host name s) (hr : Honest s r snapshot) :
    Aligned host name (s.next host (.poll r snapshot)) := by
  rcases polls_news (r := r) host snapshot s.tracked with ⟨news, hnews⟩
  -- The handle opened by the poll is for the process that runs under the id.
  have hhandle : ∀ p ∈ keys (s.tracked.poll r host snapshot).1.instances,
      ∃ e, s.processes.Running (s.handleAfter r p) e ∧
        namesEqualIgnoreCase host e.name name = true ∧ e.pid = p := by
    intro p hp
    rcases (keys_poll h hr p).mp hp with ⟨i, e, hrun, hname, rfl⟩
    rw [handleAfter_eq h hrun r]
    exact ⟨e, hrun, hname, rfl⟩
  refine ⟨?_, h.distinct, hnews.ordered h.ordered, ?_, ?_, ?_, ?_, ?_⟩
  · exact ((mem_poll host snapshot s.tracked 0).2).trans h.called
  · intro p hp
    rcases hhandle p hp with ⟨e, hrun, hname, hpid⟩
    exact ⟨e, hrun.1, hpid, hname⟩
  · intro p hp i e hrun hpid
    rcases hhandle p hp with ⟨e', hrun', _, hpid'⟩
    exact h.distinct _ _ e e' hrun hrun' (hpid.trans hpid'.symm)
  · -- Held is what runs now, and this is the last poll.
    intro i
    have hlast : (s.next host (.poll r snapshot)).polls.getLast?
        = some { processes := s.processes, measurements := r,
                 tracked := (s.tracked.poll r host snapshot).1, handle := s.handleAfter r,
                 samples := (s.tracked.poll r host snapshot).2.1 } :=
      List.getLast?_concat
    rw [hlast]
    simp only [Option.mem_def, Option.some.injEq, exists_eq_left', Processes.shows_iff]
    constructor
    · rintro ⟨p, hp, hi⟩
      rcases hhandle p hp with ⟨e, hrun, hname, _⟩
      have hi : s.handleAfter r p = i := hi
      exact ⟨e, hi ▸ hrun, hname⟩
    · rintro ⟨e, hrun, hname⟩
      exact ⟨e.pid, (keys_poll h hr e.pid).mpr ⟨i, e, hrun, hname, rfl⟩, handleAfter_eq h hrun r⟩
  · intro o ho
    rcases List.mem_append.mp ho with ho | ho
    · exact h.now o ho
    · rw [List.mem_singleton.mp ho]
      exact Processes.Before.refl _
  · refine List.pairwise_append.mpr ⟨h.past, List.pairwise_singleton _ _, ?_⟩
    intro o ho o' ho'
    rw [List.mem_singleton.mp ho']
    exact h.now o ho

end Now

/-- Every change keeps the handles in place. -/
theorem aligned_next (s : Watch) (c : Change) (hc : c.Ok s) (h : Aligned host name s) :
    Aligned host name (s.next host c) := by
  cases c with
  | start e => exact aligned_start h hc
  | exit i code => exact aligned_exit h i code
  | poll r snapshot => exact aligned_poll h hc

/-- An instance that a poll has seen is held, unless a later poll found it ended. -/
theorem held_or_ended {s : Watch} (h : Aligned host name s) {i : Nat}
    (hseen : ∃ o ∈ s.polls, o.processes.shows host name i = true) :
    s.Holds i ∨ ∃ o ∈ s.polls, i ∈ keys o.processes.exits := by
  rcases hseen with ⟨o, ho, hshows⟩
  rcases List.eq_nil_or_concat s.polls with hnil | ⟨earlier, last, hpolls⟩
  · rw [hnil] at ho
    cases ho
  · rw [List.concat_eq_append] at hpolls
    have hlast : last ∈ s.polls := by
      rw [hpolls]
      exact List.mem_append_right _ (List.mem_singleton.mpr rfl)
    by_cases hend : i ∈ keys last.processes.exits
    · exact Or.inr ⟨last, hlast, hend⟩
    · refine Or.inl ((h.held i).mpr ⟨last, ?_, ?_⟩)
      · rw [hpolls, List.getLast?_concat]
        rfl
      · -- It was started by then.
        have hbefore : o.processes.Before last.processes := by
          have hpast := h.past
          rw [hpolls] at ho hpast
          rcases List.mem_append.mp ho with ho | ho
          · exact (List.pairwise_append.mp hpast).2.2 o ho last (List.mem_singleton.mpr rfl)
          · rw [List.mem_singleton.mp ho]
            exact Processes.Before.refl _
        rcases (Processes.shows_iff host name i o.processes).mp hshows with ⟨e, hrun, hname⟩
        exact (Processes.shows_iff host name i last.processes).mpr
          ⟨e, ⟨hbefore.started hrun.1, hend⟩, hname⟩

/-- What is held was seen, and had not ended at the last poll, so at none. -/
theorem seen_of_held {s : Watch} (h : Aligned host name s) {i : Nat} (hi : s.Holds i) :
    (∃ o ∈ s.polls, o.processes.shows host name i = true) ∧
      ∀ o ∈ s.polls, i ∉ keys o.processes.exits := by
  rcases (h.held i).mp hi with ⟨last, hlast, hshows⟩
  refine ⟨⟨last, List.mem_of_getLast? hlast, hshows⟩, fun o ho hend => ?_⟩
  rcases (Processes.shows_iff host name i last.processes).mp hshows with ⟨e, hrun, _⟩
  -- An exit known at an earlier poll is known at the last one.
  refine hrun.2 ?_
  rcases List.eq_nil_or_concat s.polls with hnil | ⟨earlier, last', hpolls⟩
  · rw [hnil] at ho
    cases ho
  · rw [List.concat_eq_append] at hpolls
    have hpast := h.past
    rw [hpolls, List.getLast?_concat] at hlast
    cases hlast
    rw [hpolls] at ho hpast
    rcases List.mem_append.mp ho with ho | ho
    · exact ((List.pairwise_append.mp hpast).2.2 o ho last
        (List.mem_singleton.mpr rfl)).ended hend
    · rw [List.mem_singleton.mp ho] at hend
      exact hend

end Alignment

section Reports

/-- A report tells the truth about its process. -/
def Accounts (host : Host) (name : WString) (w : Processes) (x : Report) : Prop :=
  ∃ e, w.started[x.process]? = some e ∧ namesEqualIgnoreCase host e.name name = true ∧
    ((x.event.IsStart ∧ x.event.pid = e.pid ∧ x.event.name = name) ∨
      ∃ code, w.exits.lookup x.process = some code ∧ x.event = endEvent name e.pid code)

theorem Accounts.later {host : Host} {name : WString} {w w' : Processes} (h : w.Before w')
    {x : Report} (hx : Accounts host name w x) : Accounts host name w' x := by
  rcases hx with ⟨e, he, hname, hstart | ⟨code, hcode, hevent⟩⟩
  · exact ⟨e, h.started he, hname, Or.inl hstart⟩
  · exact ⟨e, h.started he, hname, Or.inr ⟨code, h.code hcode, hevent⟩⟩

/-- The reports about one process of a kind. -/
def startsOf (i : Nat) (log : List Report) : List Report :=
  log.filter fun x => decide (x.process = i ∧ x.event.IsStart)

/-- Those about its end. -/
def endsOf (i : Nat) (log : List Report) : List Report :=
  log.filter fun x => decide (x.process = i ∧ x.event.IsEnd)

theorem mem_startsOf {i : Nat} {log : List Report} {x : Report} :
    x ∈ startsOf i log ↔ x ∈ log ∧ x.process = i ∧ x.event.IsStart := by
  rw [startsOf, List.mem_filter, decide_eq_true_iff]

theorem mem_endsOf {i : Nat} {log : List Report} {x : Report} :
    x ∈ endsOf i log ↔ x ∈ log ∧ x.process = i ∧ x.event.IsEnd := by
  rw [endsOf, List.mem_filter, decide_eq_true_iff]

variable {host : Host} {name : WString} {s : Watch} {r : Measurements}
  {snapshot : List ProcessEntry} {news : List DWORD}

/-- The reports about the ends of instances. -/
def Watch.endReports (s : Watch) (r : Measurements) : List Report :=
  (endEvents r s.tracked.name (keys s.tracked.instances)).map (s.report r)

/-- The reports about the processes that are picked up. -/
def Watch.startReports (s : Watch) (r : Measurements) (news : List DWORD) : List Report :=
  (pickedUp (dropExited r s.tracked).tracked news).map (s.report r)

theorem log_of_poll (hnews : Polls r host snapshot s.tracked news) :
    (s.next host (.poll r snapshot)).log = s.log ++ s.endReports r ++ s.startReports r news := by
  have hlog : (s.next host (.poll r snapshot)).log
      = s.log ++ ((s.tracked.poll r host snapshot).2.2.filter
          fun e => ! decide e.IsRefusal).map (s.report r) := rfl
  rw [hlog, hnews.events, List.map_append, ← List.append_assoc]
  rfl

theorem nodup_of_ordered {m : List (DWORD × TrackedInstance)} (h : Ordered m) :
    (keys m).Nodup := by
  refine List.Pairwise.imp ?_ h
  intro a b hab heq
  rw [heq] at hab
  exact UInt32.lt_irrefl b hab

/-- A report about an end is about an instance that was held and has ended. -/
theorem mem_endReports (h : Aligned host name s) (hr : Honest s r snapshot) (x : Report) :
    x ∈ s.endReports r ↔ ∃ p ∈ keys s.tracked.instances, ∃ code,
      s.processes.exits.lookup (s.handle p) = some code ∧
        x = { poll := s.polls.length, process := s.handle p, event := endEvent name p code } := by
  -- An end is about the process the handle was opened for.
  have hreport : ∀ p code, s.report r (endEvent s.tracked.name p code)
      = { poll := s.polls.length, process := s.handle p, event := endEvent name p code } := by
    intro p code
    have habout : s.about r (endEvent s.tracked.name p code) = s.handle p :=
      if_pos (isEnd_endEvent s.tracked.name p code)
    rw [Watch.report, habout, h.called]
  rw [Watch.endReports, List.mem_map]
  constructor
  · rintro ⟨e, he, rfl⟩
    rcases mem_endEvents.mp he with ⟨p, hp, code, hcode, rfl⟩
    rw [hr.codes p hp] at hcode
    exact ⟨p, hp, code, hcode, hreport p code⟩
  · rintro ⟨p, hp, code, hcode, rfl⟩
    rw [← hr.codes p hp] at hcode
    exact ⟨_, mem_endEvents.mpr ⟨p, hp, code, hcode, rfl⟩, hreport p code⟩

theorem isEnd_of_mem_endReports (h : Aligned host name s) (hr : Honest s r snapshot) {x : Report}
    (hx : x ∈ s.endReports r) : x.event.IsEnd := by
  rcases (mem_endReports h hr x).mp hx with ⟨p, _, code, _, rfl⟩
  exact isEnd_endEvent name p code

/-- A report about a start is about a process that runs and was not held. -/
theorem of_mem_startReports (h : Aligned host name s) (hr : Honest s r snapshot)
    (hnews : Polls r host snapshot s.tracked news) {x : Report}
    (hx : x ∈ s.startReports r news) :
    x.poll = s.polls.length ∧ x.event.IsStart ∧ x.event.name = name ∧ ¬ s.Holds x.process ∧
      ∃ e, s.processes.Running x.process e ∧ namesEqualIgnoreCase host e.name name = true ∧
        x.event.pid = e.pid := by
  rcases List.mem_map.mp hx with ⟨ev, hev, rfl⟩
  have hstart := isStart_pickedUp hev
  have hpid : ev.pid ∈ news := by
    rw [← pickedUp_pids (dropExited r s.tracked).tracked news]
    exact List.mem_map_of_mem hev
  rcases (hnews.mem ev.pid).mp hpid with ⟨hfound, hnot, hopen⟩
  rcases running_of_found h hr hfound hopen with ⟨i, e, hrun, hname, hep⟩
  have habout : (s.report r ev).process = i := by
    have hafter := handleAfter_eq h hrun r
    rw [hep] at hafter
    rw [← hafter]
    exact if_neg (LifecycleEvent.not_isEnd_of_isStart hstart)
  refine ⟨rfl, hstart, ?_, ?_, e, habout ▸ hrun, hname, hep.symm⟩
  · rw [← h.called, ← (tracked_dropExited (r := r) s.tracked).1]
    exact pickedUp_name hev
  · -- Were it held, it would be under its own id, and it has not ended.
    rw [habout]
    rintro ⟨p, hp, hi⟩
    rcases h.handle p hp with ⟨e', he', hpid', _⟩
    rw [hi, hrun.1] at he'
    have hpe : p = ev.pid := by rw [← hpid', ← Option.some.inj he', hep]
    refine hnot ⟨hpe ▸ hp, ?_⟩
    rw [← hpe, hr.codes p hp, hi, Processes.not_mem_exits_iff]
    exact hrun.2

/-- A poll reports one end for an id at most. -/
theorem endReports_nodup (h : Aligned host name s) (r : Measurements) :
    ((s.endReports r).map fun x => x.event.pid).Nodup := by
  have hpids : (s.endReports r).map (fun x => x.event.pid)
      = (endEvents r s.tracked.name (keys s.tracked.instances)).map LifecycleEvent.pid :=
    List.map_map
  rw [hpids, endEvents_pids]
  exact (nodup_of_ordered h.ordered).filter _

/-- And one start. -/
theorem startReports_nodup (hnews : Polls r host snapshot s.tracked news) :
    ((s.startReports r news).map fun x => x.event.pid).Nodup := by
  have hpids : (s.startReports r news).map (fun x => x.event.pid)
      = (pickedUp (dropExited r s.tracked).tracked news).map LifecycleEvent.pid :=
    List.map_map
  rw [hpids, pickedUp_pids]
  exact hnews.nodup

/-- The end of a process that was held and has ended. -/
theorem endsOf_endReports (h : Aligned host name s) (hr : Honest s r snapshot) {i : Nat}
    {code : DWORD} (hheld : s.Holds i) (hcode : s.processes.exits.lookup i = some code) :
    ∃ p, endsOf i (s.endReports r)
      = [{ poll := s.polls.length, process := i, event := endEvent name p code }] := by
  rcases hheld with ⟨p, hp, rfl⟩
  refine ⟨p, filter_eq_singleton (endReports_nodup h r)
    ((mem_endReports h hr _).mpr ⟨p, hp, code, hcode, rfl⟩)
    (decide_eq_true ⟨rfl, isEnd_endEvent name p code⟩) fun y hy hyi => ?_⟩
  -- Another instance that is this process would have its id.
  rcases (mem_endReports h hr y).mp hy with ⟨q, hq, code', _, rfl⟩
  have hqi : s.handle q = s.handle p := (decide_eq_true_iff.mp hyi).1
  rcases h.handle p hp with ⟨e, he, hpid, _⟩
  rcases h.handle q hq with ⟨e', he', hpid', _⟩
  rw [hqi, he] at he'
  exact hpid'.symm.trans ((congrArg ProcessEntry.pid (Option.some.inj he')).symm.trans hpid)

/-- The end of a process is reported by a poll if it was held and has ended. -/
theorem ends_of_poll (h : Aligned host name s) (hr : Honest s r snapshot)
    (hnews : Polls r host snapshot s.tracked news) (i : Nat) :
    (endsOf i (s.endReports r ++ s.startReports r news)).map Report.poll
      = if s.Holds i ∧ i ∈ keys s.processes.exits then [s.polls.length] else [] := by
  -- The starts of the poll are no ends.
  have hstarts : endsOf i (s.startReports r news) = [] := by
    rw [endsOf, List.filter_eq_nil_iff]
    intro x hx
    rw [decide_eq_true_iff]
    exact fun hi => LifecycleEvent.not_isEnd_of_isStart (of_mem_startReports h hr hnews hx).2.1 hi.2
  have hsplit : endsOf i (s.endReports r ++ s.startReports r news) = endsOf i (s.endReports r) := by
    rw [endsOf, List.filter_append]
    exact (congrArg _ hstarts).trans (List.append_nil _)
  rw [hsplit]
  -- It is reported when it is held and has ended, and then once.
  by_cases hheld : s.Holds i ∧ i ∈ keys s.processes.exits
  · rw [if_pos hheld]
    rcases Option.isSome_iff_exists.mp ((lookup_isSome_iff _ _).mpr hheld.2) with ⟨code, hcode⟩
    rcases endsOf_endReports h hr hheld.1 hcode with ⟨p, hone⟩
    rw [hone]
    rfl
  · rw [if_neg hheld]
    have hnone : endsOf i (s.endReports r) = [] := by
      rw [endsOf, List.filter_eq_nil_iff]
      intro x hx hxi
      rcases (mem_endReports h hr x).mp hx with ⟨p, hp, code, hcode, rfl⟩
      have hpi : s.handle p = i := (decide_eq_true_iff.mp hxi).1
      refine hheld ⟨⟨p, hp, hpi⟩, ?_⟩
      rw [← hpi, ← lookup_isSome_iff, hcode]
      rfl
    rw [hnone]
    rfl

/-- The start of a process is reported by a poll if it runs and was not held. -/
theorem starts_of_poll (h : Aligned host name s) (hr : Honest s r snapshot)
    (hnews : Polls r host snapshot s.tracked news) (i : Nat) :
    (startsOf i (s.endReports r ++ s.startReports r news)).map Report.poll
      = if s.processes.shows host name i = true ∧ ¬ s.Holds i then [s.polls.length] else [] := by
  have hends : startsOf i (s.endReports r) = [] := by
    rw [startsOf, List.filter_eq_nil_iff]
    intro x hx
    rw [decide_eq_true_iff]
    exact fun hi => LifecycleEvent.not_isEnd_of_isStart hi.2 (isEnd_of_mem_endReports h hr hx)
  have hsplit : startsOf i (s.endReports r ++ s.startReports r news)
      = startsOf i (s.startReports r news) := by
    rw [startsOf, List.filter_append]
    exact (congrArg (· ++ _) hends).trans (List.nil_append _)
  rw [hsplit]
  by_cases hnew : s.processes.shows host name i = true ∧ ¬ s.Holds i
  · rw [if_pos hnew]
    -- The snapshot shows it, and under its id there is no handle to it.
    rcases (Processes.shows_iff host name i s.processes).mp hnew.1 with ⟨e, hrun, hname⟩
    have hfound := found_of_running h hr hrun hname
    have hfresh : e.pid ∈ news := by
      refine (hnews.mem e.pid).mpr ⟨hfound.1, fun hheld => hnew.2 ?_, hfound.2⟩
      exact ⟨e.pid, hheld.1, (h.open' e.pid hheld.1 i e hrun rfl).symm⟩
    rw [← pickedUp_pids (dropExited r s.tracked).tracked news] at hfresh
    rcases List.mem_map.mp hfresh with ⟨ev, hev, hpid⟩
    have habout : (s.report r ev).process = i := by
      have hafter := handleAfter_eq h hrun r
      rw [← hpid] at hafter
      rw [← hafter]
      exact if_neg (LifecycleEvent.not_isEnd_of_isStart (isStart_pickedUp hev))
    -- Two reports about it would have one id.
    have hone : startsOf i (s.startReports r news) = [s.report r ev] := by
      refine filter_eq_singleton (startReports_nodup hnews) (List.mem_map_of_mem hev)
        (decide_eq_true ⟨habout, isStart_pickedUp hev⟩) fun y hy hyi => ?_
      rcases of_mem_startReports h hr hnews hy with ⟨_, _, _, _, e', hrun', _, hpid'⟩
      rw [(decide_eq_true_iff.mp hyi).1] at hrun'
      have hsame : e' = e := Option.some.inj (hrun'.1.symm.trans hrun.1)
      rw [hpid', hsame]
      exact hpid.symm
    rw [hone]
    rfl
  · rw [if_neg hnew]
    have hnone : startsOf i (s.startReports r news) = [] := by
      rw [startsOf, List.filter_eq_nil_iff]
      intro x hx hxi
      rcases of_mem_startReports h hr hnews hx with ⟨_, _, _, hheld, e, hrun, hname, _⟩
      rw [(decide_eq_true_iff.mp hxi).1] at hheld hrun
      exact hnew ⟨(Processes.shows_iff host name i s.processes).mpr ⟨e, hrun, hname⟩, hheld⟩
    rw [hnone]
    rfl

end Reports

section Log

variable (host : Host) (name : WString)

/-- The last report is about the end of an instance with this id. Of the ends that were
    reported before, it is the latest; in one poll, the one with the largest id. -/
def EndsLast (log : List Report) (pid : DWORD) : Prop :=
  ∃ earlier y, log = earlier ++ [y] ∧ y.event.IsEnd ∧ y.event.pid = pid ∧
    ∀ z ∈ earlier, z.event.IsEnd →
      z.poll < y.poll ∨ (z.poll = y.poll ∧ z.event.pid < y.event.pid)

/-- A restart is reported when every instance has ended, with the id of the last end. -/
structure Restarts (before : List Report) (x : Report) : Prop where
  alone : ∀ z ∈ before, z.event.IsStart → ∃ z' ∈ before, z'.process = z.process ∧ z'.event.IsEnd
  last : EndsLast before x.event.previousPid

/-- What a poll leaves: a handle to each process with the name that runs, and one sample of
    each whose times can be read, which is valid only if an earlier poll saw it. -/
structure Outcome.Right (earlier : List Outcome) (o : Outcome) : Prop where
  held : ∀ p, p ∈ keys o.tracked.instances ↔ ∃ i e, o.processes.Running i e ∧
    namesEqualIgnoreCase host e.name name = true ∧ e.pid = p
  handle : ∀ i e, o.processes.Running i e → namesEqualIgnoreCase host e.name name = true →
    o.handle e.pid = i
  nodup : (keys o.tracked.instances).Nodup
  samples : o.samples.map ProcessSample.pid
    = (keys o.tracked.instances).filter fun p => (o.measurements.cpuTicks p).isSome
  valid : ∀ x ∈ o.samples, x.valid = true →
    ∃ o' ∈ earlier, o'.processes.shows host name (o.handle x.pid) = true

/-- All that was reported so far is in order. -/
structure Logged (s : Watch) : Prop where
  polls : ∀ x ∈ s.log, x.poll < s.polls.length
  accounts : ∀ x ∈ s.log, Accounts host name s.processes x
  starts : ∀ i, (startsOf i s.log).map Report.poll
    = (s.polls.findIdx? fun o => o.processes.shows host name i).toList
  ends : ∀ i, (endsOf i s.log).map Report.poll
    = if ∃ o ∈ s.polls, o.processes.shows host name i = true then
        (s.polls.findIdx? fun o => decide (i ∈ keys o.processes.exits)).toList
      else []
  last : s.tracked.lastExitedPid ≠ 0 → EndsLast s.log s.tracked.lastExitedPid
  restarts : ∀ before x after, s.log = before ++ x :: after → x.event.kind = .restarted →
    Restarts before x
  outcomes : ∀ earlier o later, s.polls = earlier ++ o :: later → o.Right host name earlier

variable {host name} {s : Watch} {r : Measurements} {snapshot : List ProcessEntry}
  {news : List DWORD}

/-- What is appended to a list with a property for each entry and those before it. -/
theorem split_append {α : Type} {l l' before after : List α} {x : α}
    (h : l ++ l' = before ++ x :: after) :
    (∃ rest, l = before ++ x :: rest) ∨ ∃ mid, before = l ++ mid ∧ l' = mid ++ x :: after := by
  rcases List.append_eq_append_iff.mp h with ⟨mid, hbefore, hl'⟩ | ⟨mid, hl, hafter⟩
  · exact Or.inr ⟨mid, hbefore, hl'⟩
  · cases mid with
    | nil =>
        rw [List.append_nil] at hl
        exact Or.inr ⟨[], by rw [hl, List.append_nil], hafter.symm⟩
    | cons y mid =>
        rw [List.cons_append, List.cons.injEq] at hafter
        exact Or.inl ⟨mid, by rw [hl, ← hafter.1]⟩

/-- After the first loop of a poll, the last id is that of the last report. -/
theorem endsLast_of_ends (h : Aligned host name s) (hr : Honest s r snapshot)
    (hlog : Logged host name s)
    (hne : lastPid s.tracked.lastExitedPid
      (endEvents r s.tracked.name (keys s.tracked.instances)) ≠ 0) :
    EndsLast (s.log ++ s.endReports r) (lastPid s.tracked.lastExitedPid
      (endEvents r s.tracked.name (keys s.tracked.instances))) := by
  rcases List.eq_nil_or_concat (endEvents r s.tracked.name (keys s.tracked.instances)) with
    hnil | ⟨events, e, hevents⟩
  · -- No instance has ended.
    rw [hnil] at hne ⊢
    rw [Watch.endReports, hnil, List.map_nil, List.append_nil]
    exact hlog.last hne
  · -- The ends are reported in the order of the ids, so the last has the largest.
    rw [List.concat_eq_append] at hevents
    have hordered : (events ++ [e]).Pairwise fun a b => a.pid < b.pid := by
      have hpids : ((events ++ [e]).map LifecycleEvent.pid).Pairwise (· < ·) := by
        rw [← hevents, endEvents_pids]
        exact h.ordered.filter _
      exact List.pairwise_map.mp hpids
    have hreports : s.endReports r = events.map (s.report r) ++ [s.report r e] := by
      rw [Watch.endReports, hevents, List.map_append]
      rfl
    refine ⟨s.log ++ events.map (s.report r), s.report r e, ?_, ?_, ?_, ?_⟩
    · rw [hreports, List.append_assoc]
    · refine isEnd_of_mem_endReports h hr ?_
      rw [hreports]
      exact List.mem_append_right _ (List.mem_singleton.mpr rfl)
    · rw [hevents, lastPid_concat]
      rfl
    · intro z hz _
      rcases List.mem_append.mp hz with hz | hz
      · exact Or.inl (hlog.polls z hz)
      · rcases List.mem_map.mp hz with ⟨ev, hev, rfl⟩
        exact Or.inr ⟨rfl, (List.pairwise_append.mp hordered).2.2 ev hev e
          (List.mem_singleton.mpr rfl)⟩

/-- When no instance is left after the first loop, the end of each one is reported. -/
theorem ended_of_none (h : Aligned host name s) (hr : Honest s r snapshot)
    (hlog : Logged host name s) (hnone : (dropExited r s.tracked).tracked.instances = [])
    {z : Report} (hz : z ∈ s.log ++ s.endReports r) (hstart : z.event.IsStart) :
    ∃ z' ∈ s.log ++ s.endReports r, z'.process = z.process ∧ z'.event.IsEnd := by
  have hold : z ∈ s.log := by
    rcases List.mem_append.mp hz with hz | hz
    · exact hz
    · exact absurd (isEnd_of_mem_endReports h hr hz) (LifecycleEvent.not_isEnd_of_isStart hstart)
  -- A poll saw it, since its start was reported.
  have hseen : ∃ o ∈ s.polls, o.processes.shows host name z.process = true := by
    have hpoll : z.poll ∈ (startsOf z.process s.log).map Report.poll :=
      List.mem_map_of_mem (mem_startsOf.mpr ⟨hold, rfl, hstart⟩)
    rw [hlog.starts, Option.mem_toList] at hpoll
    rcases List.findIdx?_eq_some_iff_getElem.mp hpoll with ⟨hlt, hshows, _⟩
    exact ⟨s.polls[z.poll], List.getElem_mem hlt, hshows⟩
  rcases held_or_ended h hseen with ⟨p, hp, hi⟩ | hended
  · -- It is held no more, so it has ended just now.
    have hgone : p ∉ keys (dropExited r s.tracked).tracked.instances := by
      rw [hnone]
      exact List.not_mem_nil
    rw [mem_dropExited, not_and] at hgone
    rcases Option.ne_none_iff_exists'.mp (hgone hp) with ⟨code, hcode⟩
    rw [hr.codes p hp] at hcode
    exact ⟨_, List.mem_append_right _ ((mem_endReports h hr _).mpr ⟨p, hp, code, hcode, rfl⟩), hi,
      isEnd_endEvent name p code⟩
  · -- A poll before this one found it ended, and reported that.
    have hends := hlog.ends z.process
    rw [if_pos hseen] at hends
    rcases hfind : s.polls.findIdx? (fun o => decide (z.process ∈ keys o.processes.exits)) with
      _ | k
    · rw [List.findIdx?_eq_none_iff] at hfind
      rcases hended with ⟨o, ho, hexits⟩
      exact absurd hexits (decide_eq_false_iff_not.mp (hfind o ho))
    · rw [hfind] at hends
      have hk : k ∈ (endsOf z.process s.log).map Report.poll := by
        rw [hends]
        exact List.mem_singleton.mpr rfl
      rcases List.mem_map.mp hk with ⟨z', hz', _⟩
      rcases mem_endsOf.mp hz' with ⟨hin, hprocess, hend⟩
      exact ⟨z', List.mem_append_left _ hin, hprocess, hend⟩

/-- Only the first process that is picked up can be a restart. -/
theorem restarts_of_poll (h : Aligned host name s) (hr : Honest s r snapshot)
    (hlog : Logged host name s) {before : List Report} {x : Report} {after : List Report}
    (hsplit : s.log ++ s.endReports r ++ s.startReports r news = before ++ x :: after)
    (hx : x.event.kind = .restarted) : Restarts before x := by
  rcases split_append hsplit with ⟨rest, hold⟩ | ⟨mid, hbefore, hnew⟩
  · rcases split_append hold with ⟨rest', hlog'⟩ | ⟨mid, _, hends⟩
    · exact hlog.restarts before x rest' hlog' hx
    · -- An end is no restart.
      have hin : x ∈ s.endReports r := by
        rw [hends]
        exact List.mem_append_right _ (List.mem_cons_self ..)
      have hstart : x.event.IsStart := Or.inr hx
      exact absurd (isEnd_of_mem_endReports h hr hin) (LifecycleEvent.not_isEnd_of_isStart hstart)
  · -- The source's condition for a restart held.
    rcases List.map_eq_append_iff.mp hnew with ⟨mid', rest, hpicked, rfl, hrest⟩
    rcases List.map_eq_cons_iff.mp hrest with ⟨ev, after', rfl, rfl, _⟩
    rcases pickedUp_restarted hpicked hx with ⟨rfl, hnone, hne, hprevious⟩
    have hlast := (@tracked_dropExited r s.tracked).2.2.1
    rw [List.map_nil, List.append_nil] at hbefore
    rw [hbefore]
    refine ⟨fun z hz hstart => ended_of_none h hr hlog hnone hz hstart, ?_⟩
    change EndsLast _ ev.previousPid
    rw [hprevious, hlast]
    exact endsLast_of_ends h hr hlog (hlast ▸ hne)

theorem accounts_of_poll (h : Aligned host name s) (hr : Honest s r snapshot)
    (hnews : Polls r host snapshot s.tracked news) {x : Report}
    (hx : x ∈ s.endReports r ++ s.startReports r news) :
    x.poll = s.polls.length ∧ Accounts host name s.processes x := by
  rcases List.mem_append.mp hx with hx | hx
  · rcases (mem_endReports h hr x).mp hx with ⟨p, hp, code, hcode, rfl⟩
    rcases h.handle p hp with ⟨e, he, hpid, hname⟩
    exact ⟨rfl, e, he, hname, Or.inr ⟨code, hcode, by rw [hpid]⟩⟩
  · rcases of_mem_startReports h hr hnews hx with ⟨hpoll, hstart, hxname, _, e, hrun, hname, hpid⟩
    exact ⟨hpoll, e, hrun.1, hname, Or.inl ⟨hstart, hpid, hxname⟩⟩

/-- What a poll adds to the starts that are reported. -/
theorem starts_next (h : Aligned host name s) (i : Nat) (o : Outcome)
    (ho : o.processes = s.processes) :
    (s.polls.findIdx? fun o => o.processes.shows host name i).toList
        ++ (if s.processes.shows host name i = true ∧ ¬ s.Holds i then [s.polls.length] else [])
      = ((s.polls ++ [o]).findIdx? fun o => o.processes.shows host name i).toList := by
  rw [List.findIdx?_append, List.findIdx?_singleton, ho]
  rcases hfind : s.polls.findIdx? (fun o => o.processes.shows host name i) with _ | k
  · -- No poll has seen it, so it is not held.
    have hheld : ¬ s.Holds i := by
      intro hheld
      rcases (seen_of_held h hheld).1 with ⟨o', ho', hshows⟩
      rw [List.findIdx?_eq_none_iff] at hfind
      exact Bool.false_ne_true ((hfind o' ho').symm.trans hshows)
    rw [hfind, Option.none_or]
    by_cases hshows : s.processes.shows host name i = true
    · rw [if_pos ⟨hshows, hheld⟩, if_pos hshows, Option.map_some, Nat.zero_add]
      rfl
    · rw [if_neg (fun hand => hshows hand.1), if_neg hshows]
      rfl
  · -- It was seen before; if it runs still, it is held.
    have hold : ¬ (s.processes.shows host name i = true ∧ ¬ s.Holds i) := by
      rintro ⟨hshows, hheld⟩
      rcases List.findIdx?_eq_some_iff_getElem.mp hfind with ⟨hlt, hseen, _⟩
      rcases held_or_ended h ⟨s.polls[k], List.getElem_mem hlt, hseen⟩ with hh | ⟨o', ho', hend⟩
      · exact hheld hh
      · rcases (Processes.shows_iff host name i s.processes).mp hshows with ⟨e, hrun, _⟩
        exact hrun.2 ((h.now o' ho').ended hend)
    rw [if_neg hold, hfind]
    rfl

/-- What a poll adds to the ends that are reported. -/
theorem ends_next (h : Aligned host name s) (i : Nat) (o : Outcome)
    (ho : o.processes = s.processes) :
    (if ∃ o ∈ s.polls, o.processes.shows host name i = true then
        (s.polls.findIdx? fun o => decide (i ∈ keys o.processes.exits)).toList
      else [])
        ++ (if s.Holds i ∧ i ∈ keys s.processes.exits then [s.polls.length] else [])
      = if ∃ o' ∈ s.polls ++ [o], o'.processes.shows host name i = true then
          ((s.polls ++ [o]).findIdx? fun o => decide (i ∈ keys o.processes.exits)).toList
        else [] := by
  rw [List.findIdx?_append, List.findIdx?_singleton, ho]
  have hseen_append : (∃ o' ∈ s.polls ++ [o], o'.processes.shows host name i = true) ↔
      (∃ o' ∈ s.polls, o'.processes.shows host name i = true) ∨
        s.processes.shows host name i = true := by
    simp only [List.mem_append, List.mem_singleton, or_and_right, exists_or, exists_eq_left, ho]
  by_cases hheld : s.Holds i
  · -- It was seen, and no poll before this one can have found it ended.
    rcases seen_of_held h hheld with ⟨hseen, hrunning⟩
    have hfind : s.polls.findIdx? (fun o => decide (i ∈ keys o.processes.exits)) = none := by
      rw [List.findIdx?_eq_none_iff]
      exact fun o' ho' => decide_eq_false (hrunning o' ho')
    rw [if_pos hseen, if_pos (hseen_append.mpr (Or.inl hseen)), hfind, Option.none_or]
    by_cases hend : i ∈ keys s.processes.exits
    · rw [if_pos ⟨hheld, hend⟩, if_pos (decide_eq_true hend), Option.map_some, Nat.zero_add]
      rfl
    · rw [if_neg (fun hand => hend hand.2), if_neg (fun hd => hend (decide_eq_true_iff.mp hd))]
      rfl
  · have hnone : ¬ (s.Holds i ∧ i ∈ keys s.processes.exits) := fun hand => hheld hand.1
    rw [if_neg hnone, List.append_nil]
    by_cases hseen : ∃ o' ∈ s.polls, o'.processes.shows host name i = true
    · -- A poll before this one found it ended.
      rw [if_pos hseen, if_pos (hseen_append.mpr (Or.inl hseen))]
      rcases (held_or_ended h hseen).resolve_left hheld with ⟨o', ho', hend⟩
      rcases hfind : s.polls.findIdx? (fun o => decide (i ∈ keys o.processes.exits)) with _ | k
      · rw [List.findIdx?_eq_none_iff] at hfind
        exact absurd hend (decide_eq_false_iff_not.mp (hfind o' ho'))
      · rw [hfind]
        rfl
    · rw [if_neg hseen]
      by_cases hshows : s.processes.shows host name i = true
      · -- It runs, so it has not ended at any poll.
        rcases (Processes.shows_iff host name i s.processes).mp hshows with ⟨e, hrun, _⟩
        have hfind : s.polls.findIdx? (fun o => decide (i ∈ keys o.processes.exits)) = none := by
          rw [List.findIdx?_eq_none_iff]
          exact fun o' ho' => decide_eq_false fun hend => hrun.2 ((h.now o' ho').ended hend)
        rw [if_pos (hseen_append.mpr (Or.inr hshows)), hfind, Option.none_or,
          if_neg (fun hd => hrun.2 (decide_eq_true_iff.mp hd))]
        rfl
      · rw [if_neg (fun hor => (hseen_append.mp hor).elim hseen hshows)]

/-- A poll leaves the instances that run. -/
theorem outcome_of_poll (h : Aligned host name s) (hr : Honest s r snapshot) :
    Outcome.Right host name s.polls
      { processes := s.processes, measurements := r,
        tracked := (s.tracked.poll r host snapshot).1, handle := s.handleAfter r,
        samples := (s.tracked.poll r host snapshot).2.1 } := by
  rcases polls_news (r := r) host snapshot s.tracked with ⟨news, hnews⟩
  -- A sample that counts has an earlier one, and so an instance that was held before.
  have hsamples := poll_samples (r := r) host snapshot s.tracked
  refine ⟨keys_poll h hr, fun i e hrun _ => handleAfter_eq h hrun r,
    nodup_of_ordered (hnews.ordered h.ordered), hsamples.1, ?_⟩
  intro x hx hvalid
  rcases hsamples.2 x hx hvalid with ⟨hp, hcode⟩
  have hafter : s.handleAfter r x.pid = s.handle x.pid := if_pos ⟨hp, hcode⟩
  dsimp only
  rw [hafter]
  exact (seen_of_held h ⟨x.pid, hp, rfl⟩).1

theorem logged_poll (h : Aligned host name s) (hr : Honest s r snapshot)
    (hlog : Logged host name s) : Logged host name (s.next host (.poll r snapshot)) := by
  rcases polls_news (r := r) host snapshot s.tracked with ⟨news, hnews⟩
  have hnext := log_of_poll hnews
  have hnew : ∀ x ∈ (s.next host (.poll r snapshot)).log, x ∈ s.log ∨
      (x.poll = s.polls.length ∧ Accounts host name s.processes x) := by
    intro x hx
    rw [hnext, List.append_assoc] at hx
    exact (List.mem_append.mp hx).imp_right (accounts_of_poll h hr hnews)
  have hpolls : (s.next host (.poll r snapshot)).polls
      = s.polls ++ [{ processes := s.processes, measurements := r,
                      tracked := (s.tracked.poll r host snapshot).1, handle := s.handleAfter r,
                      samples := (s.tracked.poll r host snapshot).2.1 }] := rfl
  refine ⟨?_, ?_, ?_, ?_, ?_, ?_, ?_⟩
  · intro x hx
    rw [hpolls, List.length_append, List.length_singleton]
    rcases hnew x hx with hold | ⟨hpoll, _⟩
    · exact Nat.lt_succ_of_lt (hlog.polls x hold)
    · exact hpoll ▸ Nat.lt_succ_self _
  · intro x hx
    rcases hnew x hx with hold | ⟨_, haccounts⟩
    · exact hlog.accounts x hold
    · exact haccounts
  · intro i
    rw [hnext, List.append_assoc, startsOf, List.filter_append, List.map_append, hpolls,
      ← starts_next h i _ rfl]
    exact congrArg₂ _ (hlog.starts i) (starts_of_poll h hr hnews i)
  · intro i
    rw [hnext, List.append_assoc, endsOf, List.filter_append, List.map_append, hpolls,
      ← ends_next h i _ rfl]
    exact congrArg₂ _ (hlog.ends i) (ends_of_poll h hr hnews i)
  · intro hne
    have hlast : (s.next host (.poll r snapshot)).tracked.lastExitedPid
        = if news = [] then lastPid s.tracked.lastExitedPid
            (endEvents r s.tracked.name (keys s.tracked.instances)) else 0 := hnews.last
    rw [hlast] at hne ⊢
    -- Nothing was picked up, or the id would be forgotten.
    by_cases hnil : news = []
    · rw [if_pos hnil] at hne ⊢
      rw [hnext, hnil]
      exact (List.append_nil (s.log ++ s.endReports r)).symm ▸ endsLast_of_ends h hr hlog hne
    · rw [if_neg hnil] at hne
      exact absurd rfl hne
  · intro before x after hsplit hx
    rw [hnext] at hsplit
    exact restarts_of_poll h hr hlog hsplit hx
  · intro earlier o later hsplit
    rw [hpolls] at hsplit
    rcases split_append hsplit with ⟨rest, hold⟩ | ⟨mid, hearlier, hlast⟩
    · exact hlog.outcomes earlier o rest hold
    · cases mid with
      | nil =>
          rw [List.nil_append, List.cons.injEq] at hlast
          rw [hearlier, List.append_nil, ← hlast.1]
          exact outcome_of_poll h hr
      | cons y mid =>
          rw [List.cons_append, List.cons.injEq] at hlast
          exact absurd hlast.2.symm
            (List.append_ne_nil_of_right_ne_nil _ (List.cons_ne_nil _ _))

/-- Every change keeps the reports in order. -/
theorem logged_next (s : Watch) (c : Change) (hc : c.Ok s) (h : Aligned host name s)
    (hlog : Logged host name s) : Logged host name (s.next host c) := by
  cases c with
  | start e =>
      have hbefore : s.processes.Before (s.next host (.start e)).processes :=
        ⟨List.prefix_append _ _, List.prefix_rfl⟩
      exact { hlog with accounts := fun x hx => (hlog.accounts x hx).later hbefore }
  | exit i code =>
      have hbefore : s.processes.Before (s.next host (.exit i code)).processes :=
        ⟨List.prefix_rfl, List.prefix_append _ _⟩
      exact { hlog with accounts := fun x hx => (hlog.accounts x hx).later hbefore }
  | poll r snapshot => exact logged_poll h hc hlog

end Log

/-- An empty system and a new `TrackedProcess`. -/
def Watch.new (name : WString) (normalization : CpuNormalization) (cores : Nat) : Watch where
  tracked := { name := name, normalization := normalization, cores := cores }

/-- The system and the instances after some changes. -/
def watched (host : Host) (name : WString) (normalization : CpuNormalization) (cores : Nat)
    (changes : List Change) : Watch :=
  run (Watch.next host) (Watch.new name normalization cores) changes

/-- The changes are those of a system. -/
def Happens (host : Host) (name : WString) (normalization : CpuNormalization) (cores : Nat)
    (changes : List Change) : Prop :=
  Along (Watch.next host) (fun s c => c.Ok s) (Watch.new name normalization cores) changes

section Run

variable (host : Host) (name : WString) (normalization : CpuNormalization) (cores : Nat)

theorem aligned_new : Aligned host name (Watch.new name normalization cores) := by
  refine ⟨rfl, ?_, List.Pairwise.nil, ?_, ?_, ?_, ?_, List.Pairwise.nil⟩
  · intro i j e e' hi
    have hget : ([] : List ProcessEntry)[i]? = some e := hi.1
    rw [List.getElem?_nil] at hget
    cases hget
  · exact fun p hp => absurd hp List.not_mem_nil
  · exact fun p hp => absurd hp List.not_mem_nil
  · intro i
    refine iff_of_false ?_ ?_
    · rintro ⟨p, hp, _⟩
      cases hp
    · rintro ⟨o, ho, _⟩
      cases ho
  · exact fun o ho => absurd ho List.not_mem_nil

theorem logged_new : Logged host name (Watch.new name normalization cores) := by
  refine ⟨?_, ?_, fun i => rfl, fun i => ?_, fun h => absurd rfl h, ?_, ?_⟩
  · exact fun x hx => absurd hx List.not_mem_nil
  · exact fun x hx => absurd hx List.not_mem_nil
  · exact (if_neg fun ⟨o, ho, _⟩ => List.not_mem_nil ho).symm
  · intro before x after h
    exact absurd h.symm (List.append_ne_nil_of_right_ne_nil _ (List.cons_ne_nil _ _))
  · intro earlier o later h
    exact absurd h.symm (List.append_ne_nil_of_right_ne_nil _ (List.cons_ne_nil _ _))

theorem aligned_logged_watched (changes : List Change)
    (h : Happens host name normalization cores changes) :
    Aligned host name (watched host name normalization cores changes) ∧
      Logged host name (watched host name normalization cores changes) :=
  run_invariant_along (Watch.next host) (fun s c => c.Ok s)
    (fun s => Aligned host name s ∧ Logged host name s)
    (fun s c hc hs => ⟨aligned_next s c hc hs.1, logged_next s c hc hs.1 hs.2⟩) changes _ h
    ⟨aligned_new host name normalization cores, logged_new host name normalization cores⟩

/-- Over every run of the system, with any number of instances between two polls: the start
    of a process is reported once, by the first poll that sees it, and its end once, by the
    first poll after it, if it was seen; the reports have its id and its own exit code; a
    restart is reported when no instance is left, with the id of the last end; and every
    poll leaves the instances that run, each measured once. -/
theorem lifecycle_consistent (changes : List Change)
    (h : Happens host name normalization cores changes) :
    (∀ i, (startsOf i (watched host name normalization cores changes).log).map Report.poll
      = ((watched host name normalization cores changes).polls.findIdx? fun o =>
          o.processes.shows host name i).toList) ∧
    (∀ i, (endsOf i (watched host name normalization cores changes).log).map Report.poll
      = if ∃ o ∈ (watched host name normalization cores changes).polls,
            o.processes.shows host name i = true then
          ((watched host name normalization cores changes).polls.findIdx? fun o =>
            decide (i ∈ keys o.processes.exits)).toList
        else []) ∧
    (∀ x ∈ (watched host name normalization cores changes).log,
      Accounts host name (watched host name normalization cores changes).processes x) ∧
    (∀ before x after,
      (watched host name normalization cores changes).log = before ++ x :: after →
        x.event.kind = .restarted → Restarts before x) ∧
    ∀ earlier o later,
      (watched host name normalization cores changes).polls = earlier ++ o :: later →
        o.Right host name earlier := by
  -- All five parts are read off the invariant on the log.
  have hlog := (aligned_logged_watched host name normalization cores changes h).2
  exact ⟨hlog.starts, hlog.ends, hlog.accounts, hlog.restarts, hlog.outcomes⟩

end Run

section Truth

/-- The processes that run. -/
def Processes.running (w : Processes) : List (ProcessEntry × Nat) :=
  w.started.zipIdx.filter fun x => decide (x.2 ∉ keys w.exits)

theorem Processes.mem_running (w : Processes) (i : Nat) (e : ProcessEntry) :
    (e, i) ∈ w.running ↔ w.Running i e := by
  rw [running, List.mem_filter, decide_eq_true_iff, List.mk_mem_zipIdx_iff_getElem?]
  rfl

/-- A poll that is told the truth. -/
def Watch.honestPoll (s : Watch) : Change :=
  .poll
    { exitCode := fun p => s.processes.exits.lookup (s.handle p)
      openProcessError := fun p =>
        if p ∈ s.processes.running.map fun x => x.1.pid then none else some .invalidParameter
      cpuTicks := fun _ => some 0
      wallTicks := fun _ => 0
      ioBytes := fun _ => none
      workingSetSize := fun _ => none }
    (s.processes.running.map Prod.fst)

/-- The truth can always be told. -/
theorem ok_honestPoll {s : Watch} (h : s.processes.Distinct) : s.honestPoll.Ok s := by
  -- The snapshot lists what runs.
  have hmem : ∀ e, e ∈ s.processes.running.map Prod.fst ↔ ∃ i, s.processes.Running i e := by
    intro e
    rw [List.mem_map]
    constructor
    · rintro ⟨⟨e', i⟩, hrun, rfl⟩
      exact ⟨i, (Processes.mem_running _ _ _).mp hrun⟩
    · rintro ⟨i, hrun⟩
      exact ⟨(e, i), (Processes.mem_running _ _ _).mpr hrun, rfl⟩
  refine ⟨fun i e hrun => (hmem e).mpr ⟨i, hrun⟩, ?_, fun p => ?_, fun p _ => rfl⟩
  · intro e he i e' hrun hpid
    rcases (hmem e).mp he with ⟨j, hrun'⟩
    rw [h i j e' e hrun hrun' hpid] at hrun
    exact Option.some.inj (hrun.1.symm.trans hrun'.1)
  · dsimp only
    rw [ite_eq_left_iff, List.mem_map]
    constructor
    · intro hp
      by_contra hno
      refine absurd (hp ?_) (Option.some_ne_none _)
      rintro ⟨⟨e, i⟩, hrun, hpid⟩
      exact hno ⟨i, e, (Processes.mem_running _ _ _).mp hrun, hpid⟩
    · rintro ⟨i, e, hrun, hpid⟩ hno
      exact absurd ⟨(e, i), (Processes.mem_running _ _ _).mpr hrun, hpid⟩ hno

theorem ok_start {s : Watch} {e : ProcessEntry}
    (h : ∀ x ∈ s.processes.running, x.1.pid ≠ e.pid) (hfree : e.pid ∉ keys s.tracked.instances) :
    (Change.start e).Ok s :=
  ⟨fun i e' hrun => h (e', i) ((Processes.mem_running _ i e').mpr hrun), hfree⟩

theorem ok_exit {s : Watch} {i : Nat} {e : ProcessEntry} (code : DWORD)
    (h : (e, i) ∈ s.processes.running) : (Change.exit i code).Ok s :=
  ⟨e, (Processes.mem_running _ i e).mp h⟩

end Truth

section Swapped

/-- Texts are compared as they are. -/
def plainHost : Host where
  currentProcessId := 1
  upcase c := c

/-- Two instances start. -/
def bothStart : List Change := [.start ⟨wide "a", 4⟩, .start ⟨wide "a", 8⟩]

/-- Two instances are seen. -/
def seenTwo : List Change :=
  bothStart ++ [(watched plainHost (wide "a") .perCore 1 bothStart).honestPoll]

/-- Both end, the one with the larger id first, and a third one is started. -/
def bothEnd : List Change :=
  seenTwo ++ [.exit 1 0, .exit 0 3, .start ⟨wide "a", 12⟩]

/-- And a poll sees what became of them. -/
def swapped : List Change :=
  bothEnd ++ [(watched plainHost (wide "a") .perCore 1 bothEnd).honestPoll]

theorem happens_seenTwo : Happens plainHost (wide "a") .perCore 1 seenTwo := by
  have hstart : Happens plainHost (wide "a") .perCore 1 bothStart :=
    ⟨ok_start (by decide) (by decide), ok_start (by decide) (by decide), trivial⟩
  have hpoll := ok_honestPoll (aligned_logged_watched _ _ _ _ _ hstart).1.distinct
  exact (along_append (Watch.next plainHost) _ _ bothStart _).mpr ⟨hstart, hpoll, trivial⟩

theorem happens_swapped : Happens plainHost (wide "a") .perCore 1 swapped := by
  have hend : Happens plainHost (wide "a") .perCore 1 bothEnd := by
    refine (along_append (Watch.next plainHost) _ _ seenTwo _).mpr
      ⟨happens_seenTwo, ?_, ?_, ?_, trivial⟩
    · exact @ok_exit _ 1 ⟨wide "a", 8⟩ 0 (by decide +kernel)
    · exact @ok_exit _ 0 ⟨wide "a", 4⟩ 3 (by decide +kernel)
    · exact ok_start (by decide +kernel) (by decide +kernel)
  have hpoll := ok_honestPoll (aligned_logged_watched _ _ _ _ _ hend).1.distinct
  exact (along_append (Watch.next plainHost) _ _ bothEnd _).mpr ⟨hend, hpoll, trivial⟩

/-- The third instance is picked up by the second poll. -/
theorem lifecycle_consistent_swapped :
    (startsOf 2 (watched plainHost (wide "a") .perCore 1 swapped).log).map Report.poll
      = ((watched plainHost (wide "a") .perCore 1 swapped).polls.findIdx? fun o =>
          o.processes.shows plainHost (wide "a") 2).toList :=
  (lifecycle_consistent plainHost (wide "a") .perCore 1 swapped happens_swapped).1 2

/-- The id of the process that ended last, as of a poll, of those a poll had seen. -/
def Watch.endedLast (host : Host) (s : Watch) (k : Nat) : Option DWORD :=
  match s.polls[k]? with
  | none => none
  | some o =>
      ((o.processes.exits.filter fun x =>
          s.polls.any fun o' => o'.processes.shows host s.tracked.name x.1).getLast?.bind
        fun x => o.processes.started[x.1]?).map ProcessEntry.pid

/-- The restart is reported with the larger of the two ids, and the other process ended
    last. -/
theorem not_endedLast_swapped :
    ¬ ∀ changes, Happens plainHost (wide "a") .perCore 1 changes →
      ∀ x ∈ (watched plainHost (wide "a") .perCore 1 changes).log,
        x.event.kind = .restarted →
          (watched plainHost (wide "a") .perCore 1 changes).endedLast plainHost x.poll
            = some x.event.previousPid := by
  intro h
  exact absurd (h swapped happens_swapped) (by decide +kernel)

end Swapped

end Telemetry

end ThreadHaul
