import ThreadHaul.Common.Bytes
import ThreadHaul.Lib.Runs

/-!
# The Outbox

What the coordination client does with the events it is given to forward.

`SendEvent` puts an event into `outbox_`. While there is a connection, each turn
of `Session` takes the whole outbox and sends its events one by one, between a
heartbeat and the next message of the controller. A send that fails ends the
session, and the local variable `pending` with it: the events behind the failed
one are in neither place any more.

A `Client` is the client between two steps of its thread. What was accepted and
what was passed to `Channel::Send` is recorded beside it; the source reads
neither.

## Main definitions

* `Place`, `Client`: Where the thread is, and the state of the client.
* `step`: A call of `SendEvent`, or a step of the thread.
* `Forwarded`: Every accepted event was passed on once and in order, or is
  still queued.
* `Harmless`: A send that fails is the last of its batch.

## Theorems

* `forwarded_step`: A harmless step keeps `Forwarded`.
* `not_forwarded_step`: Any other step breaks it.
* `throughout_forwarded_iff`: Events are forwarded in the runs of harmless
  steps.
-/

namespace ThreadHaul

namespace Service

namespace Outbox

open Runs

/-- The most events `outbox_` holds. -/
def kMaxOutbox : Nat := 1000

/-- Where the thread of the client is: without a session, at the head of the
    loop of `Session`, at sending the events it has taken, or at waiting for a
    message. -/
inductive Place
  | away
  | turn
  | sending (pending : List Bytes)
  | receiving
  deriving DecidableEq

/-- What `Receive` comes to, and what is done about it: nothing within the
    time-out, the end of the connection, a message that is ignored, a bias, a
    command whose result is sent or not, or an error of the controller. -/
inductive Received
  | nothing
  | lost
  | ignored
  | bias
  | command (sent : Bool)
  | error

/-- A call of `SendEvent`, or what the next step of the thread comes to: a
    session starts, a heartbeat is sent or not, the outbox is taken, an event is
    sent or not, or `Receive` returns. -/
inductive Event
  | sendEvent (e : Bytes)
  | connect
  | heartbeat (sent : Bool)
  | take
  | send (sent : Bool)
  | receive (r : Received)

/-- The client. `accepted` are the events that `SendEvent` put into the outbox,
    and `attempts` those passed to `Channel::Send`, with its result. -/
structure Client where
  outbox : List Bytes := []
  place : Place := .away
  accepted : List Bytes := []
  attempts : List (Bytes × Bool) := []

/-- `SendEvent`. -/
def sendEvent (c : Client) (e : Bytes) : Client :=
  if c.outbox.length < kMaxOutbox then
    { c with outbox := c.outbox ++ [e], accepted := c.accepted ++ [e] }
  else c

/-- The first event of a batch is passed to `Send`. -/
def sendNext (c : Client) (e : Bytes) (rest : List Bytes) (sent : Bool) : Client :=
  { c with
    place := if sent then .sending rest else .away
    attempts := c.attempts ++ [(e, sent)] }

/-- The place after a message. -/
def received : Received → Place
  | .nothing => .turn
  | .lost => .away
  | .ignored => .turn
  | .bias => .turn
  | .command sent => if sent then .turn else .away
  | .error => .away

/-- One call or step. A step of the thread that is not at that place does not
    happen. -/
def step (c : Client) : Event → Client
  | .sendEvent e => sendEvent c e
  | .connect => if c.place = .away then { c with place := .turn } else c
  | .heartbeat sent =>
      if c.place = .turn then { c with place := if sent then .turn else .away } else c
  | .take =>
      if c.place = .turn then { c with place := .sending c.outbox, outbox := [] } else c
  | .send sent =>
      match c.place with
      | .sending [] => { c with place := .receiving }
      | .sending (e :: rest) => sendNext c e rest sent
      | _ => c
  | .receive r => if c.place = .receiving then { c with place := received r } else c

/-- The events that the thread has taken and not passed on yet. -/
def Client.pending (c : Client) : List Bytes :=
  match c.place with
  | .sending pending => pending
  | _ => []

/-- The accepted events are those passed to `Channel::Send`, in this order and
    each once, and then those still queued. An event whose send failed was passed
    on as well, and may be missing at the controller: that is one event at most for each
    time the connection is lost. -/
def Forwarded (c : Client) : Prop :=
  c.accepted = c.attempts.map Prod.fst ++ (c.pending ++ c.outbox)

/-- The step is no failing send of an event with others behind it. -/
def Harmless (c : Client) : Event → Prop
  | .send sent => sent = true ∨ c.pending.length ≤ 1
  | _ => True

section Steps

variable (c : Client)

/-- A step that changes the place only, from one without pending events to
    another. -/
theorem forwarded_place (place : Place) (h : Forwarded c) (hbefore : c.pending = [])
    (hafter : Client.pending { c with place := place } = []) :
    Forwarded { c with place := place } := by
  unfold Forwarded at h ⊢
  rw [hafter]
  rw [hbefore] at h
  exact h

theorem forwarded_sendEvent (e : Bytes) (h : Forwarded c) : Forwarded (sendEvent c e) := by
  unfold sendEvent
  split_ifs with hroom
  · unfold Forwarded at h ⊢
    change c.accepted ++ [e] = _ ++ (c.pending ++ (c.outbox ++ [e]))
    rw [h, List.append_assoc, List.append_assoc]
  · exact h

/-- The whole outbox becomes pending. -/
theorem forwarded_take (h : Forwarded c) (hplace : c.place = .turn) :
    Forwarded { c with place := .sending c.outbox, outbox := [] } := by
  have hpending : c.pending = [] := by rw [Client.pending, hplace]
  unfold Forwarded at h ⊢
  rw [hpending] at h
  change c.accepted = _ ++ (c.outbox ++ [])
  rw [List.append_nil]
  exact h

/-- An event that is sent moves from the pending ones to those passed on. One
    that is not takes the ones behind it along. -/
theorem sendNext_forwarded_iff (e : Bytes) (rest : List Bytes) (sent : Bool) (h : Forwarded c)
    (hplace : c.place = .sending (e :: rest)) :
    Forwarded (sendNext c e rest sent) ↔ sent = true ∨ rest = [] := by
  have hpending : c.pending = e :: rest := by rw [Client.pending, hplace]
  have haccepted : c.accepted =
      (c.attempts ++ [(e, sent)]).map Prod.fst ++ (rest ++ c.outbox) := by
    rw [h, hpending, List.map_append, List.append_assoc]
    rfl
  unfold Forwarded
  change c.accepted = (c.attempts ++ [(e, sent)]).map Prod.fst ++ _ ↔ _
  rw [haccepted, List.append_cancel_left_eq]
  -- A failed `Send` drops what was left of the batch; that loses nothing when it was the last.
  cases sent with
  | true => exact ⟨fun _ => Or.inl rfl, fun _ => rfl⟩
  | false =>
      change rest ++ c.outbox = [] ++ c.outbox ↔ _
      rw [List.append_cancel_right_eq]
      exact ⟨Or.inr, fun h => h.resolve_left Bool.false_ne_true⟩

/-- A harmless step keeps `Forwarded`. -/
theorem forwarded_step (i : Event) (hi : Harmless c i) (h : Forwarded c) :
    Forwarded (step c i) := by
  -- An event that does not belong where the client is does nothing.
  cases i with
  | sendEvent e => exact forwarded_sendEvent c e h
  | connect =>
      simp only [step]
      split_ifs with hplace
      · exact forwarded_place c .turn h (by rw [Client.pending, hplace]) rfl
      · exact h
  | heartbeat sent =>
      by_cases hplace : c.place = .turn
      · rw [step, if_pos hplace]
        refine forwarded_place c _ h (by rw [Client.pending, hplace]) ?_
        cases sent <;> rfl
      · rw [step, if_neg hplace]
        exact h
  | take =>
      simp only [step]
      split_ifs with hplace
      · exact forwarded_take c h hplace
      · exact h
  | send sent =>
      cases hplace : c.place with
      | away | turn | receiving =>
          rw [step, hplace]
          exact h
      | sending pending =>
          cases pending with
          | nil =>
              rw [step, hplace]
              exact forwarded_place c .receiving h (by rw [Client.pending, hplace]) rfl
          | cons e rest =>
              rw [step, hplace]
              -- A send that fails loses what is behind it, which is nothing.
              refine (sendNext_forwarded_iff c e rest sent h hplace).mpr (hi.imp_right ?_)
              intro hlength
              rw [Client.pending, hplace, List.length_cons] at hlength
              exact List.length_eq_zero_iff.mp (by omega)
  | receive r =>
      by_cases hplace : c.place = .receiving
      · rw [step, if_pos hplace]
        refine forwarded_place c _ h (by rw [Client.pending, hplace]) ?_
        cases r with
        | command sent => cases sent <;> rfl
        | nothing | lost | ignored | bias | error => rfl
      · rw [step, if_neg hplace]
        exact h

/-- A failing send with events behind it breaks it. -/
theorem not_forwarded_step (i : Event) (h : Forwarded c) (hi : ¬ Harmless c i) :
    ¬ Forwarded (step c i) := by
  cases i with
  | send sent =>
      obtain ⟨hfailed, hlength⟩ := not_or.mp hi
      -- There are events behind it, so a batch is being sent.
      cases hplace : c.place with
      | sending pending =>
          rw [Client.pending, hplace] at hlength
          cases pending with
          | nil => exact absurd (Nat.zero_le 1) hlength
          | cons e rest =>
              rw [step, hplace]
              rw [sendNext_forwarded_iff c e rest sent h hplace]
              rintro (hsent | hrest)
              · exact hfailed hsent
              · rw [hrest] at hlength
                exact hlength (le_refl 1)
      | away | turn | receiving =>
          rw [Client.pending, hplace] at hlength
          exact absurd (Nat.zero_le 1) hlength
  | sendEvent _ | connect | heartbeat _ | take | receive _ => exact absurd trivial hi

end Steps

/-- In every run of a new client the events are forwarded throughout if and only
    if no send fails that has events behind it. -/
theorem throughout_forwarded_iff (l : List Event) :
    Throughout step Forwarded {} l ↔ Along step Harmless {} l :=
  throughout_iff_along step Harmless Forwarded Forwarded (fun _ h => h) forwarded_step
    not_forwarded_step l {} rfl

/-- Two events, a connection, and a send that fails. -/
def lostSend : List Event :=
  [.sendEvent [1], .sendEvent [2], .connect, .heartbeat true, .take, .send false]

/-- The second event is neither sent nor queued. -/
theorem not_forwarded_lostSend :
    ¬ Throughout step Forwarded {} lostSend ∧
      (run step {} lostSend).accepted = [[1], [2]] ∧
      (run step {} lostSend).attempts = [([1], false)] ∧
      (run step {} lostSend).outbox = [] ∧ (run step {} lostSend).pending = [] := by
  refine ⟨?_, rfl, rfl, rfl, rfl⟩
  intro h
  have hfinal := throughout_final step Forwarded {} lostSend h
  exact absurd hfinal (by unfold Forwarded; decide)

end Outbox

end Service

end ThreadHaul
