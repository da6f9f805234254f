import Mathlib.Algebra.Order.Field.Rat
import Mathlib.Data.List.Count
import ThreadHaul.Common.Json
import ThreadHaul.Lib.Runs

/-!
# The Controller's Rebalancing

`Rebalance`, and the agents that come and go around it.

An agent is an object that a session of `ServeAgent` shares with the table
`g_agents`. The session enters it under its host name, in place of an older
session of the same host, writes each heartbeat into it, and removes it at the
end if it is still the one in the table. After a heartbeat and after a removal
the session calls `Rebalance`.

The sessions are threads, and `Rebalance` holds `g_mutex` only while it copies
the table. It then reads one heartbeat after the other, and writes one bias after
the other, and between any two of these another session may do what it likes. A
run is any order of such steps. An exception that leaves a thread ends the
controller.

An agent enters the table before its first heartbeat, with a heartbeat that is
null, and `value` throws on it.

## Main definitions

* `Place`: Where a session is.
* `World.proceed`: The steps of `Rebalance`.
* `step`: The sessions.
* `Leveled`: Every agent has the bias it should have.
* `Reported`, `Undisturbed`: The conditions on the steps of a run.

## Theorems

* `left_proceed`: A step that does not throw brings a call nearer to its end.
* `completes_iff_reported`: When a step throws.
* `readable_step`: Heartbeats stay readable.
-/

namespace ThreadHaul

namespace Controller

open Runs Json

/-- The settings of the command line. `round` is the rounding of the quotient
    of two `double` values. -/
structure Settings where
  pressureThreshold : Rat
  clusterPercent : Rat
  bias : Rat
  round : Rat → Rat

/-- What `Rebalance` uses of an agent. -/
structure Agent where
  host : Bytes
  lastHeartbeat : Json
  biasSent : Rat

/-- The agent has sent a heartbeat since it connected. -/
def Agent.hasReported (a : Agent) : Bool :=
  match a.lastHeartbeat with
  | .null => false
  | _ => true

theorem hasReported_iff (a : Agent) : a.hasReported = true ↔ a.lastHeartbeat ≠ .null := by
  unfold Agent.hasReported
  cases a.lastHeartbeat with
  | null => exact ⟨fun h => absurd h Bool.false_ne_true, fun h => absurd rfl h⟩
  | _ => exact ⟨fun _ => nofun, fun _ => rfl⟩

/-- A heartbeat with a numeric pressure. -/
structure Heartbeat where
  members : List (Bytes × Json)
  type : find members (ascii "type") = some (.string (ascii "heartbeat"))
  pressure : ∃ member, find members (ascii "pressure_percent") = some member ∧
    member.isNumber = true

/-- The message it comes in. -/
def Heartbeat.json (h : Heartbeat) : Json := .object h.members

/-- Where a session is. -/
inductive Place
  /-- Not connected yet, or at its end. -/
  | closed
  /-- Waiting for a message. -/
  | serving
  /-- About to call `Rebalance`, after a heartbeat or when it leaves. -/
  | due (leaving : Bool)
  /-- In the loop over the heartbeats: the agents that were copied, the ones still to
      be read, and how many were hot. -/
  | counting (leaving : Bool) (agents rest : List Nat) (hot : Nat)
  /-- In the loop that sends the bias, with the agents still to be looked at. -/
  | leveling (leaving : Bool) (bias : Rat) (rest : List Nat)
  /-- In the same loop, between the bias that is written and its message. -/
  | posting (leaving : Bool) (bias : Rat) (rest : List Nat) (a : Nat)
  deriving DecidableEq

/-- Where `Rebalance` returns to. -/
def Place.after (leaving : Bool) : Place := if leaving then .closed else .serving

/-- The session calls `Rebalance`, or is in it. -/
def Place.inCall : Place → Bool
  | .closed | .serving => false
  | .due _ | .counting .. | .leveling .. | .posting .. => true

/-- `Rebalance` has copied the table. -/
def Place.underWay : Place → Bool
  | .closed | .serving | .due _ => false
  | .counting .. | .leveling .. | .posting .. => true

/-- The agents that are being counted. -/
def Place.counted : Place → List Nat
  | .counting _ agents _ _ => agents
  | .closed | .serving | .due _ | .leveling .. | .posting .. => []

/-- The agent whose heartbeat is read next. -/
def Place.reads : Place → Option Nat
  | .counting _ _ (a :: _) _ => some a
  | _ => none

/-- How many steps `Rebalance` has left, with a table of this length. -/
def Place.left (n : Nat) : Place → Nat
  | .closed | .serving => 0
  | .due _ => 3 * n + 3
  | .counting _ agents rest _ => rest.length + 2 * agents.length + 2
  | .leveling _ _ rest => 2 * rest.length + 1
  | .posting _ _ rest _ => 2 * rest.length + 2

/-- The sessions in the order in which they were opened, with their agents, the table
    `g_agents` in the order of the host names, and the biases sent. -/
structure World where
  opened : Nat
  agents : Nat → Agent
  places : Nat → Place
  table : List (Bytes × Nat)
  sent : List (Bytes × Rat)

/-- The controller at its start. -/
def World.empty : World where
  opened := 0
  agents _ := ⟨[], .null, 0⟩
  places _ := .closed
  table := []
  sent := []

/-- The agents in the table. -/
def World.connected (w : World) : List Agent := w.table.map fun entry => w.agents entry.2

/-- How many steps the session's call of `Rebalance` has left. -/
def World.left (w : World) (i : Nat) : Nat := (w.places i).left w.table.length

/-- A session goes on. -/
def World.goto (w : World) (i : Nat) (p : Place) : World :=
  { w with places := Function.update w.places i p }

/-- The bias that is written into an agent. -/
def World.setBias (w : World) (a : Nat) (bias : Rat) : World :=
  { w with agents := Function.update w.agents a { w.agents a with biasSent := bias } }

/-- The message to the agent. -/
def World.post (w : World) (a : Nat) (bias : Rat) : World :=
  { w with sent := w.sent ++ [((w.agents a).host, bias)] }

section Rebalance

variable (c : Settings)

/-- The share of hot agents. -/
def hotPercent (hot total : Nat) : Rat := c.round (100 * hot / total)

/-- The bias for this many hot agents. -/
def biasFor (hot total : Nat) : Rat :=
  if c.clusterPercent ≤ hotPercent c hot total then c.bias else 0

/-- The next step of a session that is in `Rebalance`. -/
def World.proceed (w : World) (i : Nat) : Option World :=
  match w.places i with
  | .closed | .serving => some w
  | .due leaving =>
      -- The copy of the table, under the lock.
      if w.table.isEmpty then some (w.goto i (.after leaving))
      else some (w.goto i (.counting leaving (w.table.map Prod.snd) (w.table.map Prod.snd) 0))
  | .counting leaving agents [] hot =>
      some (w.goto i (.leveling leaving (biasFor c hot agents.length) agents))
  | .counting leaving agents (a :: rest) hot =>
      match (w.agents a).lastHeartbeat.value getDouble (ascii "pressure_percent") 0 with
      | .error _ => none
      | .ok pressure =>
          some (w.goto i (.counting leaving agents rest
            (if c.pressureThreshold ≤ pressure then hot + 1 else hot)))
  | .leveling leaving _ [] => some (w.goto i (.after leaving))
  | .leveling leaving bias (a :: rest) =>
      -- An agent that has the bias already gets no message.
      if (w.agents a).biasSent != bias then
        some ((w.setBias a bias).goto i (.posting leaving bias rest a))
      else some (w.goto i (.leveling leaving bias rest))
  | .posting leaving bias rest a =>
      some ((w.post a bias).goto i (.leveling leaving bias rest))

end Rebalance

/-- `g_agents[host] = agent`, in the order of the keys. -/
def insertAgent (host : Bytes) (i : Nat) : List (Bytes × Nat) → List (Bytes × Nat)
  | [] => [(host, i)]
  | (h, j) :: table =>
      if h = host then (host, i) :: table
      else if host < h then (host, i) :: (h, j) :: table
      else (h, j) :: insertAgent host i table

/-- A session has authenticated its agent. -/
def World.connect (w : World) (host : Bytes) : World :=
  { w with
    opened := w.opened + 1
    agents := Function.update w.agents w.opened ⟨host, .null, 0⟩
    places := Function.update w.places w.opened .serving
    table := insertAgent host w.opened w.table }

/-- A session has received a heartbeat. -/
def World.heartbeat (w : World) (i : Nat) (h : Heartbeat) : World :=
  match w.places i with
  | .serving =>
      { w with
        agents := Function.update w.agents i { w.agents i with lastHeartbeat := h.json }
        places := Function.update w.places i (.due false) }
  | _ => w

/-- A session ends: its agent is removed, unless another one has taken its place. -/
def World.disconnect (w : World) (i : Nat) : World :=
  match w.places i with
  | .serving =>
      { w with
        table := w.table.filter fun entry => entry != ((w.agents i).host, i)
        places := Function.update w.places i (.due true) }
  | _ => w

/-- What the threads of the controller do. -/
inductive Event
  | connect (host : Bytes)
  | heartbeat (i : Nat) (h : Heartbeat)
  | disconnect (i : Nat)
  /-- A session takes a step in `Rebalance`. -/
  | proceed (i : Nat)

/-- An exception in a thread ends the controller. -/
def step (c : Settings) : Option World → Event → Option World
  | none, _ => none
  | some w, .connect host => some (w.connect host)
  | some w, .heartbeat i h => some (w.heartbeat i h)
  | some w, .disconnect i => some (w.disconnect i)
  | some w, .proceed i => w.proceed c i

section Spec

variable (c : Settings)

/-- The last heartbeat is at or above the threshold. Without one it is not. -/
def Agent.isHot (a : Agent) : Bool :=
  match a.lastHeartbeat.value getDouble (ascii "pressure_percent") 0 with
  | .ok pressure => c.pressureThreshold ≤ pressure
  | .error _ => false

/-- The bias that the table calls for. -/
def World.calledFor (w : World) : Rat :=
  biasFor c (w.connected.countP (Agent.isHot c)) w.connected.length

/-- Every agent in the table has the bias if enough of them are hot, and none
    otherwise. -/
def Leveled (w : World) : Prop := ∀ a ∈ w.connected, a.biasSent = w.calledFor c

/-- A step of `Rebalance` throws nothing and brings it nearer to its end. -/
def Completes (s : Option World) (e : Event) : Prop :=
  ∀ w i, s = some w → e = .proceed i → (w.places i).inCall = true →
    ∃ w', step c s e = some w' ∧ w'.left i < w.left i

/-- `Rebalance` completes, and when it returns every agent has its bias. -/
def Rebalances (s : Option World) (e : Event) : Prop :=
  ∀ w i, s = some w → e = .proceed i → (w.places i).inCall = true →
    ∃ w', step c s e = some w' ∧ w'.left i < w.left i ∧
      ((w'.places i).inCall = false → Leveled c w')

/-- `Rebalance` reads no heartbeat of an agent that has sent none. -/
def Reported (s : Option World) (e : Event) : Prop :=
  ∀ w i a, s = some w → e = .proceed i → (w.places i).reads = some a →
    (w.agents a).lastHeartbeat ≠ .null

/-- While `Rebalance` is under way, no connection, heartbeat or end of a session changes
    the bias that the table calls for; an agent connects only if that is none, and no
    agent that is being counted crosses the threshold. -/
def Undisturbed (s : Option World) (e : Event) : Prop :=
  ∀ w k, s = some w → (w.places k).underWay = true →
    match e with
    | .connect host => w.calledFor c = 0 ∧ (w.connect host).calledFor c = w.calledFor c
    | .heartbeat i h => (w.heartbeat i h).calledFor c = w.calledFor c ∧
        (i ∈ (w.places k).counted →
          ((w.heartbeat i h).agents i).isHot c = (w.agents i).isHot c)
    | .disconnect i => (w.disconnect i).calledFor c = w.calledFor c
    | .proceed _ => True

/-- Every agent has sent nothing, or a heartbeat. -/
def Readable (s : Option World) : Prop :=
  ∀ w, s = some w → ∀ i, (w.agents i).lastHeartbeat = .null ∨
    ∃ h : Heartbeat, (w.agents i).lastHeartbeat = h.json

end Spec

section Proofs

variable (c : Settings)

/-- The pressure of a heartbeat can be read. -/
theorem value_heartbeat (h : Heartbeat) :
    Returns (h.json.value getDouble (ascii "pressure_percent") 0) := by
  refine (value_returns_iff getDouble isNumber getDouble_returns_iff h.members _ 0).mpr ?_
  rcases h.pressure with ⟨member, hfind, hnumber⟩
  intro member' hfind'
  rw [hfind] at hfind'
  cases hfind'
  exact hnumber

@[simp] theorem goto_places_self (w : World) (i : Nat) (p : Place) :
    (w.goto i p).places i = p := Function.update_self ..

theorem goto_places_of_ne (w : World) {i k : Nat} (p : Place) (h : k ≠ i) :
    (w.goto i p).places k = w.places k := Function.update_of_ne h ..

theorem setBias_agents_self (w : World) (a : Nat) (bias : Rat) :
    (w.setBias a bias).agents a = { w.agents a with biasSent := bias } := Function.update_self ..

theorem setBias_agents_of_ne (w : World) {a b : Nat} (bias : Rat) (h : b ≠ a) :
    (w.setBias a bias).agents b = w.agents b := Function.update_of_ne h ..

theorem after_left (leaving : Bool) (n : Nat) : (Place.after leaving).left n = 0 := by
  cases leaving <;> rfl

-- The steps of `Rebalance` are told apart by the place; only the read of a heartbeat
-- can throw.
/-- A step of `Rebalance` that throws nothing has fewer steps behind it. -/
theorem left_proceed (w : World) (i : Nat) (hcall : (w.places i).inCall = true)
    (hread : ∀ a, (w.places i).reads = some a →
      Returns ((w.agents a).lastHeartbeat.value getDouble (ascii "pressure_percent") 0)) :
    ∃ w', w.proceed c i = some w' ∧ w'.left i < w.left i := by
  unfold World.proceed World.left
  cases hplace : w.places i with
  | closed =>
      rw [hplace] at hcall
      cases hcall
  | serving =>
      rw [hplace] at hcall
      cases hcall
  | due leaving =>
      dsimp only
      split_ifs
      · -- With an empty table the call is over.
        refine ⟨_, rfl, ?_⟩
        rw [goto_places_self, after_left]
        exact Nat.succ_pos _
      · refine ⟨_, rfl, ?_⟩
        rw [goto_places_self]
        simp only [Place.left, List.length_map]
        omega
  | counting leaving agents rest hot =>
      cases rest with
      | nil =>
          refine ⟨_, rfl, ?_⟩
          rw [goto_places_self]
          simp only [Place.left, List.length_nil]
          omega
      | cons a rest =>
          obtain ⟨pressure, hpressure⟩ := hread a (hplace ▸ rfl)
          dsimp only
          rw [hpressure]
          refine ⟨_, rfl, ?_⟩
          rw [goto_places_self]
          simp only [Place.left, List.length_cons]
          omega
  | leveling leaving bias rest =>
      cases rest with
      | nil =>
          refine ⟨_, rfl, ?_⟩
          rw [goto_places_self, after_left]
          exact Nat.succ_pos _
      | cons a rest =>
          dsimp only
          split_ifs
          · refine ⟨_, rfl, ?_⟩
            rw [goto_places_self]
            simp only [Place.left, List.length_cons]
            omega
          · refine ⟨_, rfl, ?_⟩
            rw [goto_places_self]
            simp only [Place.left, List.length_cons]
            omega
  -- The message is sent, or it fails; the loop goes on with the next agent either way.
  | posting leaving bias rest a =>
      refine ⟨_, rfl, ?_⟩
      rw [goto_places_self]
      exact Nat.lt_succ_self _

/-- The read of a heartbeat that is null throws. -/
theorem proceed_eq_none (w : World) (i a : Nat) (hreads : (w.places i).reads = some a)
    (hnull : (w.agents a).lastHeartbeat = .null) : w.proceed c i = none := by
  unfold World.proceed
  cases hplace : w.places i with
  -- Only this step reads a heartbeat, and there is none to read.
  | counting leaving agents rest hot =>
      rw [hplace] at hreads
      cases rest with
      | nil => cases hreads
      | cons b rest =>
          cases hreads
          dsimp only
          rw [hnull]
          rfl
  | _ =>
      rw [hplace] at hreads
      cases hreads

/-- A step of a call does what it should exactly if it reads no heartbeat that is
    missing. -/
theorem completes_iff_reported (s : Option World) (e : Event) (hs : Readable s) :
    Completes c s e ↔ Reported s e := by
  constructor
  · rintro h w i a rfl rfl hreads hnull
    have hcall : (w.places i).inCall = true := by
      cases hplace : w.places i with
      | counting leaving agents rest hot => rfl
      | _ =>
          rw [hplace] at hreads
          cases hreads
    obtain ⟨w', hw', -⟩ := h w i rfl rfl hcall
    exact Option.some_ne_none w' (hw'.symm.trans (proceed_eq_none c w i a hreads hnull))
  · rintro h w i rfl rfl hcall
    refine left_proceed c w i hcall fun a hreads => ?_
    -- What an agent keeps is a report that it sent, which has a number.
    rcases hs w rfl a with hnull | ⟨hb, hjson⟩
    · exact absurd hnull (h w i a rfl rfl hreads)
    · rw [hjson]
      exact value_heartbeat hb

/-- `Rebalance` does not touch the heartbeats. -/
theorem lastHeartbeat_proceed {w w' : World} (i : Nat) (h : w.proceed c i = some w') (k : Nat) :
    (w'.agents k).lastHeartbeat = (w.agents k).lastHeartbeat := by
  unfold World.proceed at h
  split at h
  · cases h
    rfl
  · cases h
    rfl
  · split_ifs at h
    · cases h
      rfl
    · cases h
      rfl
  · cases h
    rfl
  · split at h
    · cases h
    · cases h
      rfl
  · cases h
    rfl
  · rename_i leaving bias a rest _
    split_ifs at h
    · cases h
      -- The bias is stored beside the report, which stays.
      change ((w.setBias a bias).agents k).lastHeartbeat = _
      by_cases hk : k = a
      · rw [hk, setBias_agents_self]
      · rw [setBias_agents_of_ne w bias hk]
    · cases h
      rfl
  · cases h
    rfl

theorem readable_step (s : Option World) (e : Event) (hs : Readable s) :
    Readable (step c s e) := by
  cases s with
  | none => exact fun w hw => nomatch hw
  | some w =>
      have hw := hs w rfl
      cases e with
      | connect host =>
          intro w' hw' k
          cases hw'
          -- A new agent has sent nothing yet.
          by_cases hk : k = w.opened
          · rw [hk]
            exact Or.inl (congrArg Agent.lastHeartbeat (Function.update_self w.opened _ w.agents))
          · have hsame : (w.connect host).agents k = w.agents k := Function.update_of_ne hk _ _
            rw [hsame]
            exact hw k
      | heartbeat i h =>
          intro w' hw' k
          cases hw'
          unfold World.heartbeat
          split
          · by_cases hk : k = i
            · rw [hk]
              exact Or.inr ⟨h, congrArg Agent.lastHeartbeat (Function.update_self i _ w.agents)⟩
            · dsimp only
              rw [Function.update_of_ne hk]
              exact hw k
          · exact hw k
      | disconnect i =>
          intro w' hw' k
          cases hw'
          unfold World.disconnect
          split
          · exact hw k
          · exact hw k
      | proceed i =>
          intro w' hw' k
          rw [lastHeartbeat_proceed c i hw' k]
          exact hw k

/-- Whether a step reads a heartbeat that has not come yet can be decided. -/
instance decidableReported : (s : Option World) → (e : Event) → Decidable (Reported s e)
  | none, _ => isTrue fun w _ _ h => absurd h.symm (Option.some_ne_none w)
  | some _, .connect _ => isTrue fun _ _ _ _ h => Event.noConfusion h
  | some _, .heartbeat _ _ => isTrue fun _ _ _ _ h => Event.noConfusion h
  | some _, .disconnect _ => isTrue fun _ _ _ _ h => Event.noConfusion h
  | some w, .proceed i =>
      decidable_of_iff
        ((w.places i).reads.all (fun a => (w.agents a).hasReported) = true) <| by
          rw [Option.all_eq_true]
          constructor
          · intro h w' i' a hw he ha hnull
            cases hw
            cases he
            exact (hasReported_iff _).mp (h a ha) hnull
          · exact fun h a ha => (hasReported_iff _).mpr (h w i a rfl rfl ha)

end Proofs

end Controller

end ThreadHaul
