import ThreadHaul.Service.Threads

/-!
# Deadlocks

When the threads of the daemon deadlock over `mutex_`.

All joins but one are outside `mutex_`. The one inside is that of a reload, which
waits for the coordination thread. It waits forever exactly if that thread is in a
callback already when it is stopped, or comes to one before it looks at
`stopping_`. The invariant says that neither has happened so far, and that the
client is stopped while a reload waits for it.

## Main definitions

* `Running`: The invariant.
* `reloadRun`: A run into a deadlock.

## Theorems

* `deadlocked_iff`: The only join that can deadlock.
* `reloading_pollStep`, `reloading_dashboardStep`: When a reload waits.
* `running_step`, `deadlocked_step`: What keeps the invariant, and what does not.
* `deadlockFree_iff`: The runs without a deadlock.
* `deadlocked_run`: A deadlock is never left.
-/

namespace ThreadHaul

namespace Service

namespace Threads

open Locking

/-! ### The joins -/

/-- The threads in the code that holds `mutex_` are not waiting for a join, but for
    those in a reload. -/
theorem deadlocked_iff (s : System) (h : Owned s.view) :
    Deadlocked s.view ↔ s.Reloading ∧ s.client.waiting = true := by
  constructor
  · rintro ⟨t, u, howner, hjoining, hwaiting⟩
    have hin : s.inside t := (h t).mp howner
    have hout : ∀ place : PollPlace, t = .poll → s.poll = place → place.inside = true := by
      rintro place rfl rfl
      exact hin
    -- Only one pair of threads can be in a join with `mutex_` held.
    cases t with
    | pipe => exact hjoining.elim
    | coordination => exact hjoining.elim
    | dashboard =>
        cases u with
        | poll | dashboard | pipe => exact hjoining.elim
        | coordination => exact ⟨Or.inr hjoining, hwaiting⟩
    | poll =>
        cases u with
        | poll => exact hjoining.elim
        | dashboard =>
            rcases hjoining with hplace | hplace
            · exact absurd (hout _ rfl hplace) Bool.false_ne_true
            · exact absurd (hout _ rfl hplace) Bool.false_ne_true
        | pipe => exact absurd (hout _ rfl hjoining) Bool.false_ne_true
        | coordination =>
            rcases hjoining with hplace | hplace
            · exact ⟨Or.inl hplace, hwaiting⟩
            · exact absurd (hout _ rfl hplace) Bool.false_ne_true
  · rintro ⟨hplace | hplace, hwaiting⟩
    · exact ⟨.poll, .coordination, (h .poll).mpr (congrArg PollPlace.inside hplace),
        Or.inl hplace, hwaiting⟩
    · exact ⟨.dashboard, .coordination, (h .dashboard).mpr (congrArg ServerPlace.inside hplace),
        hplace, hwaiting⟩

/-- The invariant: who has `mutex_`, that the client is stopped while a reload waits
    for it, and that there is no deadlock yet. -/
structure Running (s : System) : Prop where
  owned : Owned s.view
  stopping : s.Reloading → s.clientStopping = true
  free : ¬ Deadlocked s.view

/-- No two threads wait in a reload. -/
theorem not_both_joining (s : System) (h : Owned s.view) (hpoll : s.poll = .polling .joining) :
    s.dashboard ≠ .inRequest .joining := by
  intro hdashboard
  exact absurd (inside_unique s.view h .poll .dashboard (congrArg PollPlace.inside hpoll)
    (congrArg ServerPlace.inside hdashboard)) (by decide)

/-- A reload waits after a step of the poll thread if it did so before, or if the step
    stops the client. -/
theorem reloading_pollStep (s : System) (h : Running s) (yes : Bool)
    (hreloading : (s.pollStep yes).Reloading) :
    (s.pollStep yes).clientStopping = true ∧
      (s.Reloading ∨ s.poll = .polling .working ∧ yes = true) := by
  have hdoes := pollStep_does s yes
  generalize s.pollStep yes = s' at hdoes hreloading ⊢
  have hold : s.dashboard = .inRequest .joining →
      s.clientStopping = true ∧ (s.Reloading ∨ s.poll = .polling .working ∧ yes = true) :=
    fun hdashboard => ⟨h.stopping (Or.inr hdashboard), Or.inl (Or.inr hdashboard)⟩
  cases hdoes with
  | waits => exact ⟨h.stopping hreloading, Or.inl hreloading⟩
  | moves place _ _ _ hplace => exact hold (hreloading.resolve_left hplace)
  | takes place _ _ hplace => exact hold (hreloading.resolve_left hplace)
  | releases place _ houtside =>
      refine hold (hreloading.resolve_left fun hplace => ?_)
      exact Bool.false_ne_true (houtside.symm.trans (congrArg PollPlace.inside hplace))
  | stopsClient place _ hplace =>
      refine ⟨rfl, ?_⟩
      rcases hreloading with hpoll | hdashboard
      · exact Or.inr (hplace hpoll)
      · exact (hold hdashboard).2
  | replacesServer place dashboard _ _ hnew _ hplace =>
      rcases hreloading with hpoll | hdashboard
      · exact absurd hpoll hplace
      · exact absurd (hnew.symm.trans (congrArg ServerPlace.inside hdashboard)) Bool.false_ne_true
  | replacesClient place client stopping _ _ hstopping _ hplace =>
      have hdashboard := hreloading.resolve_left hplace
      -- No other thread is in a reload, so the stop is not taken back.
      have hsame := hstopping fun hpoll => not_both_joining s h.owned hpoll hdashboard
      exact ⟨hsame.trans (hold hdashboard).1, (hold hdashboard).2⟩

/-- The same on the dashboard's thread. -/
theorem reloading_dashboardStep (s : System) (h : Running s) (yes : Bool)
    (hreloading : (s.dashboardStep yes).Reloading) :
    (s.dashboardStep yes).clientStopping = true ∧
      (s.Reloading ∨ s.dashboard = .inRequest .working ∧ yes = true) := by
  have hdoes := dashboardStep_does s yes
  generalize s.dashboardStep yes = s' at hdoes hreloading ⊢
  have hold : s.poll = .polling .joining →
      s.clientStopping = true ∧ (s.Reloading ∨ s.dashboard = .inRequest .working ∧ yes = true) :=
    fun hpoll => ⟨h.stopping (Or.inl hpoll), Or.inl (Or.inl hpoll)⟩
  -- A step that enters the reload sets the flag; every other one finds it set.
  cases hdoes with
  | waits => exact ⟨h.stopping hreloading, Or.inl hreloading⟩
  | moves place _ hplace => exact hold (hreloading.resolve_right hplace)
  | takes place _ _ hplace => exact hold (hreloading.resolve_right hplace)
  | releases place _ houtside =>
      refine hold (hreloading.resolve_right fun hplace => ?_)
      exact Bool.false_ne_true (houtside.symm.trans (congrArg ServerPlace.inside hplace))
  | stopsClient hworking hyes => exact ⟨rfl, Or.inr ⟨hworking, hyes⟩⟩
  | replacesClient client stopping hjoining _ _ =>
      have hpoll := hreloading.resolve_right fun hplace =>
        absurd (ServerPlace.inRequest.inj hplace) (by decide)
      exact absurd hjoining (not_both_joining s h.owned hpoll)

/-- A stopped client calls back after a step exactly if the step is one that calls
    back. -/
theorem waiting_clientStep (s : System) (hstopping : s.clientStopping = true)
    (hinside : s.client.inside = false) (hwaiting : s.client.waiting = false) (answer : Answer) :
    (s.clientStep answer).client.waiting = s.client.callsBack answer := by
  unfold System.clientStep
  -- Told to stop, the client leaves its loop, unless the answer at hand calls back.
  cases hplace : s.client with
  | doing w =>
      dsimp only
      rw [hstopping]
      cases answer with
      | command locks =>
          cases w
          all_goals rfl
      | done | failed | bias | error =>
          cases w
          all_goals rfl
  | calling c next =>
      rw [hplace] at hwaiting
      exact absurd hwaiting.symm Bool.false_ne_true
  | inCallback c next =>
      rw [hplace] at hinside
      exact absurd hinside.symm Bool.false_ne_true

/-- While a reload waits, the coordination thread is not in a callback. -/
theorem client_of_reloading (s : System) (h : Running s) (hreloading : s.Reloading) :
    s.client.inside = false ∧ s.client.waiting = false := by
  constructor
  · rw [← Bool.not_eq_true]
    intro hinside
    rcases hreloading with hplace | hplace
    · exact absurd (inside_unique s.view h.owned .poll .coordination
        (congrArg PollPlace.inside hplace) hinside) (by decide)
    · exact absurd (inside_unique s.view h.owned .dashboard .coordination
        (congrArg ServerPlace.inside hplace) hinside) (by decide)
  · rw [← Bool.not_eq_true]
    intro hwaiting
    exact h.free ((deadlocked_iff s h.owned).mpr ⟨hreloading, hwaiting⟩)

theorem reloading_clientStep (s : System) (answer : Answer) :
    (s.clientStep answer).Reloading ↔ s.Reloading := by
  obtain ⟨hpoll, hdashboard, _⟩ := frame_clientStep s answer
  rw [System.Reloading, System.Reloading, hpoll, hdashboard]

theorem reloading_pipeStep (s : System) (yes : Bool) :
    (s.pipeStep yes).Reloading ↔ s.Reloading := by
  obtain ⟨hpoll, hdashboard, _⟩ := frame_pipeStep s yes
  rw [System.Reloading, System.Reloading, hpoll, hdashboard]

/-! ### Runs -/

theorem running_initial (coordinationEnabled : Bool) :
    Running (System.initial coordinationEnabled) := by
  -- The poll thread starts inside, and owns the lock.
  have howned : Owned (System.initial coordinationEnabled).view := by
    intro t
    cases t with
    | poll => exact ⟨fun _ => rfl, fun _ => rfl⟩
    | dashboard | pipe | coordination =>
        exact ⟨fun h => absurd (Option.some.inj h) (by decide),
          fun h => absurd h Bool.false_ne_true⟩
  have hreloading : ¬ (System.initial coordinationEnabled).Reloading := by
    rintro (h | h)
    · exact PollPlace.noConfusion h
    · exact ServerPlace.noConfusion h
  exact ⟨howned, fun h => absurd h hreloading,
    fun h => hreloading ((deadlocked_iff _ howned).mp h).1⟩

/-- A quiet step leads to no deadlock. -/
theorem running_step (s : System) (h : Running s) (input : Input) (hquiet : Quiet s input) :
    Running (s.step input) := by
  have howned := owned_systemStep s h.owned input
  have hnone : s.Reloading → s.client.waiting = true → False :=
    fun hreloading hwaiting => h.free ((deadlocked_iff s h.owned).mpr ⟨hreloading, hwaiting⟩)
  refine ⟨howned, ?_, ?_⟩
  · -- A reload waits for a client that it has stopped.
    intro hreloading
    cases input with
    | poll yes => exact (reloading_pollStep s h yes hreloading).1
    | dashboard yes => exact (reloading_dashboardStep s h yes hreloading).1
    | pipe yes =>
        rw [System.step, (frame_pipeStep s yes).2.2.2]
        exact h.stopping ((reloading_pipeStep s yes).mp hreloading)
    | coordination answer =>
        rw [System.step, (frame_clientStep s answer).2.2.2]
        exact h.stopping ((reloading_clientStep s answer).mp hreloading)
  · -- A deadlock after the step is one before it, or the step is not quiet.
    rw [deadlocked_iff _ howned]
    rintro ⟨hreloading, hwaiting⟩
    cases input with
    | poll yes =>
        have hold := clientKept_waiting s _ (frame_pollStep s yes).2.2 hwaiting
        rcases (reloading_pollStep s h yes hreloading).2 with hbefore | ⟨hworking, hyes⟩
        · exact hnone hbefore hold
        · exact hquiet ⟨hworking, hyes, hold⟩
    | dashboard yes =>
        have hold := clientKept_waiting s _ (frame_dashboardStep s yes).2.2 hwaiting
        rcases (reloading_dashboardStep s h yes hreloading).2 with hbefore | ⟨hworking, hyes⟩
        · exact hnone hbefore hold
        · exact hquiet ⟨hworking, hyes, hold⟩
    | pipe yes =>
        rw [System.step, (frame_pipeStep s yes).2.2.1] at hwaiting
        exact hnone ((reloading_pipeStep s yes).mp hreloading) hwaiting
    | coordination answer =>
        have hbefore := (reloading_clientStep s answer).mp hreloading
        obtain ⟨hinside, hold⟩ := client_of_reloading s h hbefore
        rw [System.step, waiting_clientStep s (h.stopping hbefore) hinside hold,
          hquiet hbefore] at hwaiting
        exact Bool.false_ne_true hwaiting

/-- A step that is not quiet leads to a deadlock. -/
theorem deadlocked_step (s : System) (h : Running s) (input : Input) (hquiet : ¬ Quiet s input) :
    Deadlocked (s.step input).view := by
  rw [deadlocked_iff _ (owned_systemStep s h.owned input)]
  -- Only three kinds of step are not quiet, and each closes the circle.
  cases input with
  | poll yes =>
      obtain ⟨hworking, rfl, hwaiting⟩ := not_not.mp hquiet
      rw [System.step, System.pollStep, hworking]
      exact ⟨Or.inl rfl, hwaiting⟩
  | dashboard yes =>
      obtain ⟨hworking, rfl, hwaiting⟩ := not_not.mp hquiet
      rw [System.step, System.dashboardStep, hworking]
      exact ⟨Or.inr rfl, hwaiting⟩
  | pipe yes => exact absurd trivial hquiet
  | coordination answer =>
      obtain ⟨hreloading, hcalls⟩ := Classical.not_imp.mp hquiet
      obtain ⟨hinside, hwaiting⟩ := client_of_reloading s h hreloading
      refine ⟨(reloading_clientStep s answer).mpr hreloading, ?_⟩
      rw [System.step, waiting_clientStep s (h.stopping hreloading) hinside hwaiting]
      exact (Bool.not_eq_false _).mp hcalls

/-- There is no deadlock over `mutex_` in exactly the runs in which the coordination
    thread does not come to a callback while a reload waits for it. -/
theorem deadlockFree_iff (coordinationEnabled : Bool) (inputs : List Input) :
    Runs.Throughout System.step (fun s => ¬ Deadlocked s.view)
        (System.initial coordinationEnabled) inputs ↔
      Runs.Along System.step Quiet (System.initial coordinationEnabled) inputs :=
  Runs.throughout_iff_along System.step Quiet Running _ (fun _ h => h.free)
    (fun s input hquiet h => running_step s h input hquiet)
    (fun s input h hquiet => not_not.mpr (deadlocked_step s h input hquiet)) inputs _
    (running_initial coordinationEnabled)

/-- A thread that is about to take `mutex_` has not ended. -/
theorem joined_of_waiting (place : ClientPlace) (h : place.waiting = true) :
    place.joined = false := by
  cases place with
  | calling c next => rfl
  | doing w => exact absurd h Bool.false_ne_true
  | inCallback c next => exact absurd h Bool.false_ne_true

theorem clientKept_of_waiting (s s' : System) (h : ClientKept s s')
    (hwaiting : s.client.waiting = true) : s'.client = s.client := by
  rcases h with hsame | ⟨hjoined, _, _⟩
  · exact hsame
  · rw [joined_of_waiting _ hwaiting] at hjoined
    exact absurd hjoined Bool.false_ne_true

/-- No thread can do anything about a deadlock. -/
theorem deadlocked_stays (s : System) (howned : Owned s.view) (h : Deadlocked s.view)
    (input : Input) : Deadlocked (s.step input).view := by
  obtain ⟨hreloading, hwaiting⟩ := (deadlocked_iff s howned).mp h
  have hjoined := joined_of_waiting s.client hwaiting
  rw [deadlocked_iff _ (owned_systemStep s howned input)]
  cases input with
  | poll yes =>
      obtain ⟨_, hdashboard, hclient⟩ := frame_pollStep s yes
      refine ⟨?_, (congrArg _ (clientKept_of_waiting s _ hclient hwaiting)).trans hwaiting⟩
      rcases hreloading with hplace | hplace
      · have hsame : s.pollStep yes = s := by
          rw [System.pollStep, hplace]
          exact if_neg (by rw [hjoined]; exact Bool.false_ne_true)
        rw [System.step, hsame]
        exact Or.inl hplace
      · rcases hdashboard with hsame | ⟨hold, _⟩
        · exact Or.inr (hsame.trans hplace)
        · rw [hplace] at hold
          exact absurd hold.symm Bool.false_ne_true
  | dashboard yes =>
      obtain ⟨hpoll, _, hclient⟩ := frame_dashboardStep s yes
      refine ⟨?_, (congrArg _ (clientKept_of_waiting s _ hclient hwaiting)).trans hwaiting⟩
      rcases hreloading with hplace | hplace
      · exact Or.inl (hpoll.trans hplace)
      · have hsame : s.dashboardStep yes = s := by
          rw [System.dashboardStep, hplace]
          exact if_neg (by rw [hjoined]; exact Bool.false_ne_true)
        rw [System.step, hsame]
        exact Or.inr hplace
  | pipe yes =>
      refine ⟨(reloading_pipeStep s yes).mpr hreloading, ?_⟩
      rw [System.step, (frame_pipeStep s yes).2.2.1]
      exact hwaiting
  | coordination answer =>
      refine ⟨(reloading_clientStep s answer).mpr hreloading, ?_⟩
      obtain ⟨t, _, howner, _⟩ := h
      -- The callback finds `mutex_` taken.
      cases hplace : s.client with
      | doing w =>
          rw [hplace] at hwaiting
          exact absurd hwaiting Bool.false_ne_true
      | inCallback c next =>
          rw [hplace] at hwaiting
          exact absurd hwaiting Bool.false_ne_true
      | calling c next =>
          have hsame : s.clientStep answer = s := by
            rw [System.clientStep, hplace]
            refine if_neg ?_
            change s.owner = some t at howner
            rw [howner]
            exact Option.some_ne_none t
          rw [System.step, hsame]
          exact hwaiting

/-- A deadlock is never left. -/
theorem deadlocked_run (s : System) (howned : Owned s.view) (h : Deadlocked s.view)
    (inputs : List Input) : Deadlocked (Runs.run System.step s inputs).view :=
  (Runs.run_invariant System.step (fun s => Owned s.view ∧ Deadlocked s.view)
    (fun s input hs => ⟨owned_systemStep s hs.1 input, deadlocked_stays s hs.1 hs.2 input⟩)
    inputs s ⟨howned, h⟩).2

/-- The dashboard is started, and the poll loop has found no new configuration. While
    it looks again, the coordination client connects, and then there is one. -/
def reloadRun : List Input :=
  [.poll false, .coordination .done, .poll true, .poll true, .poll true, .poll true, .poll true,
    .poll true, .poll true, .poll false, .coordination .done, .poll false, .poll true,
    .poll false, .poll true, .coordination .done, .poll true]

/-- The poll loop waits for the coordination thread, which waits for `mutex_`. -/
theorem deadlocked_reloadRun :
    ¬ Runs.Throughout System.step (fun s => ¬ Deadlocked s.view) (System.initial true)
      reloadRun := by
  intro h
  exact Runs.throughout_final _ _ _ _ h ⟨.poll, .coordination, rfl, Or.inl rfl, rfl⟩

end Threads

end Service

end ThreadHaul
