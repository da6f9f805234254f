import Mathlib.Data.List.Sublists
import ThreadHaul.Common.Bytes
import ThreadHaul.Lib.OrderedMap
import ThreadHaul.Lib.Runs

/-!
# Failed Handshakes at the Controller

`LockedOut`, `RecordFailure` and the start of `ServeAgent`: how an address is
locked out after handshakes that failed.

The failures of an address are counted in a window. It starts with the first
failure after the window before it is over, and its start does not move while
failures are counted. The lockout is over with the window, so an address that
fails for the fifth time is refused for what is left of the window, and not for
the 60 seconds after that failure. Five failures that fall into two windows do
not lock it out at all.

A connection that was not refused is in its handshake for a while. Its failure
is recorded then, also if the address is locked out by now.

`Tracks` says which failures an entry of the table counts. An address is locked
out after all of its quick failures exactly if they never spread over more than
one reading of the clock: `lockoutHeld_iff`.

## Main definitions

* `Failures`, `lockedOut`, `recordFailure`: The code.
* `Sessions`, `serveAgent`, `handshake`, `step`: The connections.
* `FiveFailures`, `LockoutHeld`: What is promised.
* `SameTick`: When it is kept.
* `Window`, `Tracks`: What an entry counts.

## Theorems

* `tracks_step`: Every step keeps `Tracks`.
* `kept_of_sameTick`: Five failures at once lock the address out for 60 seconds.
* `not_lockoutHeld_of_doomed`: A window that started before the fifth failure is
  over too early.
* `lockoutHeld_iff`: When the promise is kept, over runs.
-/

namespace ThreadHaul

namespace Controller

open OrderedMap Runs

/-- The value of `g_failures`: how many failures, and since when. The threads of
    60 seconds do not overflow the `int`. -/
structure Failures where
  count : Int := 0
  since : Nat := 0
  deriving DecidableEq

/-- `g_failures`. -/
abbrev FailureTable := List (Bytes × Failures)

/-- An entry after one more failure. -/
def Failures.counted (f : Failures) (now : Nat) : Failures :=
  let f := if now - f.since > 60000 then { count := 0, since := now } else f
  { f with count := f.count + 1 }

section Code

variable (now : Nat) (failures : FailureTable) (peer : Bytes)

/-- `LockedOut`. The clock does not go back, so the difference does not wrap. -/
def lockedOut : FailureTable × Bool :=
  match failures.lookup peer with
  | none => (failures, false)
  | some f =>
      if now - f.since > 60000 then (erase failures peer, false)
      else (failures, decide (5 ≤ f.count))

/-- `RecordFailure`, both readings of the clock being the same. -/
def recordFailure : FailureTable :=
  assign failures peer (((failures.lookup peer).getD {}).counted now)

end Code

/-- The table, the threads in their handshake, and the calls of
    `RecordFailure`, the latest last. -/
structure Sessions where
  failures : FailureTable := []
  handshaking : List (Nat × Bytes) := []
  recorded : List (Bytes × Nat) := []
  now : Nat

/-- `ServeAgent` up to its handshake, and whether it refuses the connection. -/
def Sessions.serveAgent (s : Sessions) (now sock : Nat) (peer : Bytes) : Sessions × Bool :=
  let checked := lockedOut now s.failures peer
  if checked.2 then ({ s with failures := checked.1, now := now }, true)
  else
    ({ s with
        failures := checked.1
        handshaking := (sock, peer) :: s.handshaking
        now := now }, false)

/-- `ServeAgent` when `ServerHandshake` returns. -/
def Sessions.handshake (s : Sessions) (now sock : Nat) (authenticated : Bool) : Sessions :=
  match s.handshaking.lookup sock with
  | none => { s with now := now }
  | some peer =>
      let done := { s with handshaking := erase s.handshaking sock, now := now }
      if authenticated then done
      else
        { done with
          failures := recordFailure now s.failures peer
          recorded := s.recorded ++ [(peer, now)] }

/-- A connection is accepted, or its handshake is over. -/
inductive SocketEvent
  | accepted (sock : Nat) (peer : Bytes)
  | finished (sock : Nat) (authenticated : Bool)

/-- What happens next, and when. -/
structure Timed where
  time : Nat
  event : SocketEvent

/-- One event, at its time. -/
def Sessions.step (s : Sessions) (e : Timed) : Sessions :=
  match e.event with
  | .accepted sock peer => (s.serveAgent e.time sock peer).1
  | .finished sock authenticated => s.handshake e.time sock authenticated

/-- The times of the failures of an address. -/
def Sessions.failureTimes (s : Sessions) (peer : Bytes) : List Nat :=
  (s.recorded.filter fun r => r.1 = peer).map Prod.snd

/-! ### What is promised -/

/-- Five failures in 60 seconds, and the time of the fifth. -/
def FiveFailures (times : List Nat) (fifth : Nat) : Prop :=
  ∃ a b c d, [a, b, c, d, fifth].Sublist times ∧ fifth ≤ a + 60000

/-- At this moment, the address is locked out and its connections are refused if
    there was a fifth failure in the last 60 seconds. -/
def Kept (peer : Bytes) (s : Sessions) (t : Nat) : Prop :=
  ∀ fifth, FiveFailures (s.failureTimes peer) fifth → t ≤ fifth + 60000 →
    (lockedOut t s.failures peer).2 = true ∧ ∀ sock, (s.serveAgent t sock peer).2 = true

/-- It is so at every moment of a run: between any two events, and after the
    last one. -/
def LockoutHeld (peer : Bytes) (s : Sessions) (events : List Timed) : Prop :=
  Along Sessions.step (fun s e => ∀ t, s.now ≤ t → t ≤ e.time → Kept peer s t) s events ∧
    ∀ t, (run Sessions.step s events).now ≤ t → Kept peer (run Sessions.step s events) t

/-- Any five failures in 60 seconds are at one reading of the clock. -/
def SameTick (times : List Nat) : Prop :=
  ∀ a b c d e, [a, b, c, d, e].Sublist times → e ≤ a + 60000 → a = e

/-- The clock does not go back. -/
def Clock (s : Sessions) (e : Timed) : Prop := s.now ≤ e.time

/-! ### What an entry counts -/

/-- The failures are those of earlier windows and those that `f` counts. -/
structure Window (times : List Nat) (f : Failures) : Prop where
  split : ∃ old recent, times = old ++ f.since :: recent ∧ (∀ t ∈ old, t < f.since) ∧
    (∀ t ∈ recent, t ≤ f.since + 60000) ∧ f.count = recent.length + 1

/-- The failures of an address and its entry. Without an entry, the last window
    is over. -/
structure Tracks (peer : Bytes) (s : Sessions) : Prop where
  up : 60000 < s.now
  sorted : (s.failureTimes peer).Pairwise (· ≤ ·)
  past : ∀ t ∈ s.failureTimes peer, t ≤ s.now
  entry : ∀ f, s.failures.lookup peer = some f → Window (s.failureTimes peer) f
  gone : s.failures.lookup peer = none → s.failureTimes peer = [] ∨
    ∃ f, Window (s.failureTimes peer) f ∧ f.since + 60000 < s.now

section Step

variable (peer : Bytes) (s : Sessions) (e : Timed)

/-- A step that records no failure of the address. -/
structure Quiet (s' : Sessions) : Prop where
  times : s'.failureTimes peer = s.failureTimes peer
  lookup : s'.failures.lookup peer = s.failures.lookup peer ∨
    s'.failures.lookup peer = none ∧
      ∃ f, s.failures.lookup peer = some f ∧ f.since + 60000 < e.time

/-- A step that records one. -/
structure Failed (s' : Sessions) : Prop where
  times : s'.failureTimes peer = s.failureTimes peer ++ [e.time]
  lookup : s'.failures.lookup peer =
    some (((s.failures.lookup peer).getD {}).counted e.time)

theorem lookup_lockedOut (now : Nat) (failures : FailureTable) (other : Bytes) :
    (lockedOut now failures other).1.lookup peer = failures.lookup peer ∨
      (lockedOut now failures other).1.lookup peer = none ∧
        ∃ f, failures.lookup peer = some f ∧ f.since + 60000 < now := by
  unfold lockedOut
  rcases hfind : failures.lookup other with _ | f
  · exact Or.inl rfl
  · dsimp only
    -- An entry is removed when its window is over, and only that of the address asked for.
    split_ifs with hover
    · by_cases hpeer : peer = other
      · subst hpeer
        exact Or.inr ⟨by simp, f, hfind, by omega⟩
      · exact Or.inl (by simp [hpeer])
    · exact Or.inl rfl

/-- What a step can do to an address. -/
theorem step_cases :
    (s.step e).now = e.time ∧ (Quiet peer s e (s.step e) ∨ Failed peer s e (s.step e)) := by
  rcases e with ⟨now, event⟩
  -- A connection may remove an entry; a handshake that failed counts in one.
  cases event with
  | accepted sock other =>
      have hlookup := lookup_lockedOut peer now s.failures other
      simp only [Sessions.step, Sessions.serveAgent]
      split_ifs
      · exact ⟨rfl, Or.inl ⟨rfl, hlookup⟩⟩
      · exact ⟨rfl, Or.inl ⟨rfl, hlookup⟩⟩
  | finished sock authenticated =>
      simp only [Sessions.step, Sessions.handshake]
      rcases s.handshaking.lookup sock with _ | other
      · exact ⟨rfl, Or.inl ⟨rfl, Or.inl rfl⟩⟩
      · cases authenticated with
        | true => exact ⟨rfl, Or.inl ⟨rfl, Or.inl rfl⟩⟩
        | false =>
            refine ⟨rfl, ?_⟩
            by_cases hpeer : other = peer
            · subst hpeer
              exact Or.inr ⟨by simp [Sessions.failureTimes], by simp [recordFailure]⟩
            · -- It is the failure of another address.
              refine Or.inl ⟨by simp [Sessions.failureTimes, hpeer], Or.inl ?_⟩
              simp [recordFailure, Ne.symm hpeer]

end Step

section Windows

variable {times : List Nat} {f : Failures}

theorem Window.since_mem (h : Window times f) : f.since ∈ times := by
  rcases h.split with ⟨old, recent, rfl, _, _, _⟩
  simp

theorem Window.le_of_mem (h : Window times f) (t : Nat) (ht : t ∈ times) :
    t ≤ f.since + 60000 := by
  rcases h.split with ⟨old, recent, rfl, hold, hrecent, _⟩
  rcases List.mem_append.mp ht with ht | ht
  · have := hold t ht
    omega
  · rcases List.mem_cons.mp ht with rfl | ht
    · omega
    · exact hrecent t ht

/-- A failure after all windows starts one. -/
theorem window_start (now : Nat) (hpast : ∀ t ∈ times, t < now) :
    Window (times ++ [now]) { count := 1, since := now } :=
  ⟨times, [], rfl, hpast, fun _ ht => absurd ht List.not_mem_nil, rfl⟩

/-- A failure in a window is counted, and after it a new one starts. -/
theorem Window.counted (h : Window times f) (now : Nat) :
    Window (times ++ [now]) (f.counted now) := by
  unfold Failures.counted
  -- A failure after the window starts the next one; one within it is counted.
  split_ifs with hover
  · refine window_start now ?_
    intro t ht
    have := h.le_of_mem t ht
    omega
  · rcases h.split with ⟨old, recent, rfl, hold, hrecent, hcount⟩
    have hnow : now ≤ f.since + 60000 := by omega
    refine ⟨old, recent ++ [now], by simp, hold, ?_, by simp [hcount]⟩
    intro t ht
    rcases List.mem_append.mp ht with ht | ht
    · exact hrecent t ht
    · rw [List.mem_singleton.mp ht]
      exact hnow

end Windows

section Runs

variable {peer : Bytes} {s : Sessions}

/-- A failure that is recorded is counted by the entry of its address. -/
theorem Tracks.counted (h : Tracks peer s) (now : Nat) (hclock : s.now ≤ now) :
    Window (s.failureTimes peer ++ [now]) (((s.failures.lookup peer).getD {}).counted now) := by
  -- The default entry stands in for one that is missing.
  rcases hfind : s.failures.lookup peer with _ | f
  · -- The default entry is old, for the system has been up for longer.
    have hup := h.up
    have hstart : (Failures.counted {} now) = { count := 1, since := now } := by
      rw [Failures.counted, if_pos (show now - 0 > 60000 by omega)]
      rfl
    rw [Option.getD_none, hstart]
    refine window_start now ?_
    intro t ht
    rcases h.gone hfind with hempty | ⟨f, hf, hover⟩
    · rw [hempty] at ht
      exact absurd ht List.not_mem_nil
    · have := hf.le_of_mem t ht
      omega
  · exact (h.entry f hfind).counted now

theorem tracks_step (e : Timed) (h : Tracks peer s) (hclock : s.now ≤ e.time) :
    Tracks peer (s.step e) := by
  rcases step_cases peer s e with ⟨hnow, hquiet | hfailed⟩
  · refine ⟨by have := h.up; omega, by rw [hquiet.times]; exact h.sorted, ?_, ?_, ?_⟩
    · rw [hquiet.times, hnow]
      exact fun t ht => (h.past t ht).trans hclock
    · intro f hf
      rw [hquiet.times]
      rcases hquiet.lookup with hlookup | ⟨hnone, _⟩
      · exact h.entry f (hlookup ▸ hf)
      · rw [hnone] at hf
        cases hf
    · -- An entry is only removed when its window is over.
      intro hnone
      rw [hquiet.times, hnow]
      rcases hquiet.lookup with hlookup | ⟨_, f, hf, hover⟩
      · rcases h.gone (hlookup ▸ hnone) with hempty | ⟨f, hf, hover⟩
        · exact Or.inl hempty
        · exact Or.inr ⟨f, hf, by omega⟩
      · exact Or.inr ⟨f, h.entry f hf, hover⟩
  · -- A failure is added at the end, at the present time, and counted in the entry.
    have hpast : ∀ t ∈ s.failureTimes peer, t ≤ e.time := fun t ht => (h.past t ht).trans hclock
    refine ⟨by have := h.up; omega, ?_, ?_, ?_, by simp [hfailed.lookup]⟩
    · rw [hfailed.times, List.pairwise_append]
      exact ⟨h.sorted, List.pairwise_singleton _ _, by simpa using hpast⟩
    · rw [hfailed.times, hnow]
      intro t ht
      rcases List.mem_append.mp ht with ht | ht
      · exact hpast t ht
      · exact (List.mem_singleton.mp ht).le
    · intro f' hf'
      rw [hfailed.lookup] at hf'
      cases hf'
      rw [hfailed.times]
      exact h.counted e.time hclock

/-- Next to four failures at one reading there are no others. -/
theorem eq_of_near (times : List Nat) (hsorted : times.Pairwise (· ≤ ·)) (hsame : SameTick times)
    (tick t : Nat) (hfour : [tick, tick, tick, tick].Sublist times) (ht : t ∈ times)
    (hbefore : tick ≤ t + 60000) (hafter : t ≤ tick + 60000) : t = tick := by
  by_contra hne
  -- A fifth failure near the tick would make a window of five that spans two ticks.
  have hfive : (t :: [tick, tick, tick, tick]).Subperm times :=
    List.cons_subperm_of_not_mem_of_mem (by simpa using hne) ht hfour.subperm
  rcases Nat.lt_or_gt_of_ne hne with hlt | hlt
  · have hsub := List.sublist_of_subperm_of_pairwise hfive (by simp; omega) hsorted
    exact hne (hsame t tick tick tick tick hsub hbefore)
  · have hperm : [tick, tick, tick, tick, t].Perm (t :: [tick, tick, tick, tick]) :=
      List.perm_append_singleton t [tick, tick, tick, tick]
    have hsub := List.sublist_of_subperm_of_pairwise (hperm.subperm.trans hfive)
      (by simp; omega) hsorted
    exact hne (hsame tick tick tick tick t hsub hafter).symm

theorem four_of_five {times : List Nat} {tick : Nat}
    (h : [tick, tick, tick, tick, tick].Sublist times) :
    [tick, tick, tick, tick].Sublist times :=
  (List.sublist_cons_self tick [tick, tick, tick, tick]).trans h

/-- The failures at one reading are all counted by a window that starts then. -/
theorem Window.count_le {times : List Nat} {f : Failures} (h : Window times f) :
    (times.count f.since : Int) ≤ f.count := by
  rcases h.split with ⟨old, recent, rfl, hold, _, hcount⟩
  have hnone : old.count f.since = 0 :=
    List.count_eq_zero_of_not_mem fun hmem => Nat.lt_irrefl _ (hold _ hmem)
  have hle : recent.count f.since ≤ recent.length := List.count_le_length
  rw [List.count_append, hnone, List.count_cons_self, hcount]
  omega

/-- Where any five quick failures are at one reading, they lock the address
    out. -/
theorem kept_of_sameTick (h : Tracks peer s) (hsame : SameTick (s.failureTimes peer)) (t : Nat)
    (ht : s.now ≤ t) : Kept peer s t := by
  rintro tick ⟨a, b, c, d, hsub, hspan⟩ hsoon
  have hordered := h.sorted.sublist hsub
  have ha := hsame a b c d tick hsub hspan
  simp only [List.pairwise_cons, List.mem_cons, List.not_mem_nil, or_false, forall_eq_or_imp,
    forall_eq] at hordered
  obtain rfl : a = b := by omega
  obtain rfl : a = c := by omega
  obtain rfl : a = d := by omega
  subst ha
  have hmem : a ∈ s.failureTimes peer := hsub.subset (by simp)
  -- The window that counts the five started with them.
  have hstart : ∀ f, Window (s.failureTimes peer) f → f.since = a := by
    intro f hf
    have hpast := h.past f.since hf.since_mem
    exact eq_of_near _ h.sorted hsame a f.since (four_of_five hsub) hf.since_mem
      (hf.le_of_mem a hmem) (by omega)
  have hlocked : (lockedOut t s.failures peer).2 = true := by
    unfold lockedOut
    rcases hfind : s.failures.lookup peer with _ | f
    · rcases h.gone hfind with hempty | ⟨f, hf, hover⟩
      · rw [hempty] at hmem
        exact absurd hmem List.not_mem_nil
      · have := hstart f hf
        omega
    · have hf := h.entry f hfind
      have hsince := hstart f hf
      have hcount := hf.count_le
      have hfive : 5 ≤ (s.failureTimes peer).count a := by
        simpa using hsub.count_le a
      rw [hsince] at hcount
      dsimp only
      rw [if_neg (by omega)]
      exact decide_eq_true (by omega)
  exact ⟨hlocked, fun sock => by simp [Sessions.serveAgent, hlocked]⟩

/-- The window will be over less than 60 seconds after a fifth failure. -/
structure Doomed (peer : Bytes) (s : Sessions) (f : Failures) (fifth : Nat) : Prop where
  entry : s.failures.lookup peer = some f
  inside : s.now ≤ f.since + 60000
  five : FiveFailures (s.failureTimes peer) fifth
  early : f.since < fifth

theorem Doomed.not_kept {f : Failures} {fifth : Nat} (h : Doomed peer s f fifth) :
    ¬ Kept peer s (f.since + 60001) := by
  intro hkept
  have hearly := h.early
  have hlocked := (hkept fifth h.five (by omega)).1
  simp only [lockedOut, h.entry] at hlocked
  rw [if_pos (by omega)] at hlocked
  cases hlocked

theorem Doomed.step {f : Failures} {fifth : Nat} (h : Doomed peer s f fifth) (e : Timed)
    (hsoon : e.time ≤ f.since + 60000) : ∃ f', f'.since = f.since ∧
      Doomed peer (s.step e) f' fifth := by
  rcases step_cases peer s e with ⟨hnow, hquiet | hfailed⟩
  · -- The entry cannot be removed before its window is over.
    refine ⟨f, rfl, ?_, by omega, by rw [hquiet.times]; exact h.five, h.early⟩
    rcases hquiet.lookup with hlookup | ⟨_, f', hf', hover⟩
    · rw [hlookup, h.entry]
    · rw [h.entry] at hf'
      cases hf'
      omega
  · -- The window is still open, so the failure is counted in it.
    have hcounted : f.counted e.time = { f with count := f.count + 1 } := by
      rw [Failures.counted, if_neg (by omega)]
    rcases h.five with ⟨a, b, c, d, hsub, hspan⟩
    refine ⟨{ f with count := f.count + 1 }, rfl, ?_, ?_, ?_, h.early⟩
    · rw [hfailed.lookup, h.entry, Option.getD_some, hcounted]
    · rw [hnow]
      exact hsoon
    · rw [hfailed.times]
      exact ⟨a, b, c, d, hsub.trans (List.sublist_append_left _ _), hspan⟩

/-- A window that started before the fifth failure is over too early, whatever
    happens until then. -/
theorem not_lockoutHeld_of_doomed (events : List Timed) (f : Failures) (fifth : Nat)
    (h : Doomed peer s f fifth) : ¬ LockoutHeld peer s events := by
  induction events generalizing s f with
  | nil =>
      intro hheld
      have hopen := h.inside
      exact h.not_kept (hheld.2 _ (by simp; omega))
  | cons e events ih =>
      intro hheld
      -- Until the window is over the entry is as it is; at its end the promise is broken.
      by_cases hsoon : e.time ≤ f.since + 60000
      · rcases h.step e hsoon with ⟨f', _, h'⟩
        exact ih f' h' ⟨hheld.1.2, hheld.2⟩
      · have hopen := h.inside
        exact h.not_kept (hheld.1.1 _ (by omega) (by omega))

theorem kept_of_lockoutHeld (events : List Timed) (hclock : Along Sessions.step Clock s events)
    (h : LockoutHeld peer s events) : Kept peer s s.now := by
  cases events with
  | nil => exact h.2 s.now (Nat.le_refl _)
  | cons e events => exact h.1.1 s.now (Nat.le_refl _) hclock.1

/-- The last of five quick failures at different readings is the failure of the
    step, if those before it are good. -/
theorem Failed.last {e : Timed} (hfailed : Failed peer s e (s.step e))
    (hsame : SameTick (s.failureTimes peer)) (a b c d fifth : Nat)
    (hsub : [a, b, c, d, fifth].Sublist ((s.step e).failureTimes peer))
    (hspan : fifth ≤ a + 60000) (hne : a ≠ fifth) : a ∈ s.failureTimes peer ∧ fifth = e.time := by
  rw [hfailed.times] at hsub
  rcases List.sublist_append_iff.mp hsub with ⟨front, back, hsplit, hfront, hback⟩
  rcases List.sublist_singleton.mp hback with rfl | rfl
  · rw [List.append_nil] at hsplit
    subst hsplit
    exact absurd (hsame a b c d fifth hfront hspan) hne
  · have hsplit' : [a, b, c, d] ++ [fifth] = front ++ [e.time] := hsplit
    rcases List.append_inj' hsplit' rfl with ⟨rfl, hfifth⟩
    exact ⟨hfront.subset (by simp), List.singleton_inj.mp hfifth⟩

/-- A window that starts at the last reading counts failures at that reading. -/
theorem Window.count_eq {times : List Nat} {f : Failures} (h : Window times f)
    (hsorted : times.Pairwise (· ≤ ·)) (hpast : ∀ t ∈ times, t ≤ f.since) :
    (times.count f.since : Int) = f.count := by
  rcases h.split with ⟨old, recent, rfl, hold, _, hcount⟩
  have hnone : old.count f.since = 0 :=
    List.count_eq_zero_of_not_mem fun hmem => Nat.lt_irrefl _ (hold _ hmem)
  have hrecent : ∀ t ∈ recent, t = f.since := by
    intro t ht
    have hlater := (List.pairwise_cons.mp (List.pairwise_append.mp hsorted).2.1).1 t ht
    exact le_antisymm (hpast t (by simp [ht])) hlater
  rw [List.count_append, hnone, List.count_cons_self, List.eq_replicate_of_mem hrecent,
    List.count_replicate_self, hcount]
  simp

/-- At the first failure that makes five quick ones at different readings, the
    address is not locked out, or it will not be for long. -/
theorem broken_of_failed (e : Timed) (h : Tracks peer s) (hclock : s.now ≤ e.time)
    (hsame : SameTick (s.failureTimes peer)) (hfailed : Failed peer s e (s.step e))
    (hbad : ¬ SameTick ((s.step e).failureTimes peer)) :
    ¬ Kept peer (s.step e) (s.step e).now ∨ ∃ f fifth, Doomed peer (s.step e) f fifth := by
  have hnow := (step_cases peer s e).1
  have htracks := tracks_step e h hclock
  have hwindow := htracks.entry _ hfailed.lookup
  have hlookup := hfailed.lookup
  set f := ((s.failures.lookup peer).getD {}).counted e.time
  simp only [SameTick, not_forall] at hbad
  rcases hbad with ⟨a, b, c, d, fifth, hsub, hspan, hne⟩
  have hfive : FiveFailures ((s.step e).failureTimes peer) fifth := ⟨a, b, c, d, hsub, hspan⟩
  obtain ⟨ha, rfl⟩ := hfailed.last hsame a b c d fifth hsub hspan hne
  -- With five failures counted the window ends too early; with fewer nothing is locked out.
  by_cases hcount : 5 ≤ f.count
  · refine Or.inr ⟨f, e.time, hlookup, ?_, hfive, ?_⟩
    · rw [hnow]
      exact hwindow.le_of_mem e.time (hsub.subset (by simp))
    · -- Otherwise the window would hold five failures at its start.
      by_contra hlate
      have hpast := htracks.past f.since hwindow.since_mem
      have hsince : f.since = e.time := by omega
      have hall := hwindow.count_eq htracks.sorted fun t ht => by
        rw [hsince, ← hnow]
        exact htracks.past t ht
      rw [hsince, hfailed.times, List.count_append, List.count_cons_self, List.count_nil] at hall
      have hmany : 4 ≤ (s.failureTimes peer).count e.time := by omega
      have hfour : [e.time, e.time, e.time, e.time].Sublist (s.failureTimes peer) :=
        List.replicate_sublist_iff.mpr hmany
      have hbefore := h.past a ha
      exact hne (eq_of_near _ h.sorted hsame e.time a hfour ha (by omega) (by omega))
  · -- The entry counts fewer than five, and the address is not locked out.
    refine Or.inl fun hkept => ?_
    have hlocked := (hkept e.time hfive (by omega)).1
    simp only [lockedOut, hlookup] at hlocked
    split_ifs at hlocked
    exact hcount (of_decide_eq_true hlocked)

theorem failureTimes_sublist (events : List Timed) :
    (s.failureTimes peer).Sublist ((run Sessions.step s events).failureTimes peer) := by
  induction events generalizing s with
  | nil => exact List.Sublist.refl _
  | cons e events ih =>
      refine List.Sublist.trans ?_ ih
      rcases (step_cases peer s e).2 with hquiet | hfailed
      · rw [hquiet.times]
      · rw [hfailed.times]
        exact List.sublist_append_left _ _

theorem SameTick.sublist {times times' : List Nat} (h : SameTick times')
    (hsub : times.Sublist times') : SameTick times :=
  fun a b c d e hfive hspan => h a b c d e (hfive.trans hsub) hspan

/-- From a state without quick failures at different readings, the lockout holds
    over a run exactly if there are none at its end. -/
theorem lockoutHeld_iff_of_tracks (events : List Timed) (h : Tracks peer s)
    (hclock : Along Sessions.step Clock s events) (hsame : SameTick (s.failureTimes peer)) :
    LockoutHeld peer s events ↔ SameTick ((run Sessions.step s events).failureTimes peer) := by
  -- By induction on the events, up to the first that breaks the condition.
  induction events generalizing s with
  | nil => exact ⟨fun _ => hsame, fun _ => ⟨trivial, fun t ht => kept_of_sameTick h hsame t ht⟩⟩
  | cons e events ih =>
      have htracks := tracks_step e h hclock.1
      by_cases hstep : SameTick ((s.step e).failureTimes peer)
      · rw [run_cons, ← ih htracks hclock.2 hstep]
        refine ⟨fun hheld => ⟨hheld.1.2, hheld.2⟩, fun hheld => ⟨⟨?_, hheld.1⟩, hheld.2⟩⟩
        exact fun t ht _ => kept_of_sameTick h hsame t ht
      · refine iff_of_false (fun hheld => ?_)
          (fun hfinal => hstep (hfinal.sublist (failureTimes_sublist events)))
        have hrest : LockoutHeld peer (s.step e) events := ⟨hheld.1.2, hheld.2⟩
        rcases (step_cases peer s e).2 with hquiet | hfailed
        · exact hstep (by rw [hquiet.times]; exact hsame)
        · rcases broken_of_failed e h hclock.1 hsame hfailed hstep with hkept | ⟨f, fifth, hdoomed⟩
          · exact hkept (kept_of_lockoutHeld events hclock.2 hrest)
          · exact not_lockoutHeld_of_doomed events f fifth hdoomed hrest

theorem tracks_start (start : Nat) (hup : 60000 < start) :
    Tracks peer { now := start } :=
  ⟨hup, List.Pairwise.nil, fun _ ht => absurd ht List.not_mem_nil,
    fun _ hf => absurd hf (by simp), fun _ => Or.inl rfl⟩

/-- Events in the order of time. -/
theorem along_clock (events : List Timed)
    (h : (s.now :: events.map Timed.time).Pairwise (· ≤ ·)) :
    Along Sessions.step Clock s events := by
  induction events generalizing s with
  | nil => trivial
  | cons e events ih =>
      rw [List.map_cons, List.pairwise_cons] at h
      refine ⟨h.1 e.time List.mem_cons_self, ih ?_⟩
      rw [(step_cases [] s e).1]
      exact h.2

/-- After five failures in 60 seconds an address is locked out for 60 seconds
    exactly if such failures are always at one reading of the clock. -/
theorem lockoutHeld_iff (peer : Bytes) (start : Nat) (hup : 60000 < start) (events : List Timed)
    (hclock : (start :: events.map Timed.time).Pairwise (· ≤ ·)) :
    LockoutHeld peer { now := start } events ↔
      SameTick ((run Sessions.step { now := start } events).failureTimes peer) := by
  refine lockoutHeld_iff_of_tracks events (tracks_start start hup) (along_clock events hclock) ?_
  intro a b c d e hsub
  cases hsub

end Runs

/-- Five handshakes, ten seconds apart, that all fail. -/
def slowGuesses : List Timed :=
  [0, 1, 2, 3, 4].flatMap fun i =>
    [⟨100000 + 10000 * i, .accepted i []⟩, ⟨100000 + 10000 * i, .finished i false⟩]

/-- Half a minute after the fifth failure the window is over, and the address is
    not locked out. -/
theorem lockout_ends_early : ¬ LockoutHeld [] { now := 100000 } slowGuesses := by
  intro h
  have hfive : FiveFailures ((run Sessions.step { now := 100000 } slowGuesses).failureTimes [])
      140000 := ⟨100000, 110000, 120000, 130000, by decide, by decide⟩
  have hlocked := (h.2 170000 (by decide) 140000 hfive (by decide)).1
  exact absurd hlocked (by decide)

/-- Five failures at once, and a check 60 seconds later. -/
def burst : List Timed :=
  [0, 1, 2, 3, 4].map (fun i => ⟨100000, .accepted i []⟩) ++
    [0, 1, 2, 3, 4].map fun i => ⟨100000, .finished i false⟩

theorem lockoutHeld_burst : LockoutHeld [] { now := 100000 } burst := by
  refine (lockoutHeld_iff [] 100000 (by decide) burst (by decide)).mpr ?_
  intro a b c d e hsub _
  have htimes : ∀ t ∈ (run Sessions.step { now := 100000 } burst).failureTimes [],
      t = 100000 := by decide
  rw [htimes a (hsub.subset (by simp)), htimes e (hsub.subset (by simp))]

end Controller

end ThreadHaul
