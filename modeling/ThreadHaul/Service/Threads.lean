import ThreadHaul.Lib.Locking
import ThreadHaul.Lib.Runs

/-!
# The Threads of the Daemon

The poll loop, the threads of the dashboard, of the control pipe and of the
coordination client, and `mutex_`, through which all of them go.

Each thread is at a place of its code. A step of a thread is the next thing it does:
taking `mutex_` if it is free, releasing it, looking at a stop flag, waiting for the
end of another thread, or something that takes time and depends on the system, a
peer or the settings; what comes of that is part of the input. A thread that cannot
go on stays where it is. `mutex_` is recursive, and the model has its outermost
acquisition: a thread that has it is not held up by taking it again.

The dashboard and the control pipe are stopped outside `mutex_`. The coordination
client is stopped outside of it at the end of the service, but by a reload inside: in
the poll loop, or on the dashboard's thread after a role was set. Its thread calls
back for its status, for a command and for each message it logs, and each of these
takes `mutex_`; and it looks at `stopping_` at the head of its loops and before it
logs the end of a session, but not after it has connected, after the handshake or
after a frame has come in.

`Locking` says what it takes that `mutex_` does its part, `owned_systemStep`. What a
step of the poll thread or of the dashboard's can do is said once, by `PollDoes` and
`DashboardDoes`.

## Main definitions

* `PollPlace`, `ServerPlace`, `PipePlace`, `ClientPlace`: Where the threads are.
* `System`, `System.step`: The threads and their steps.
* `System.view`: Who has `mutex_`, and who waits for what.
* `Quiet`: The coordination thread does not call back while it is stopped.

## Theorems

* `pollStep_does`, `dashboardStep_does`: What a step can do.
* `frame_pollStep`, `frame_dashboardStep`, `frame_pipeStep`, `frame_clientStep`: What
  it leaves as it is.
* `owned_systemStep`: The thread that has taken `mutex_` is the one inside.
-/

namespace ThreadHaul

namespace Service

namespace Threads

open Locking

/-- The threads of the daemon. -/
inductive Thread
  | poll
  | dashboard
  | pipe
  | coordination
  deriving DecidableEq

/-- Code that holds `mutex_`: something that does not wait, or `thread_.join()` in
    `CoordinationClient::Stop`, called by `ApplyConfig`. -/
inductive Section
  | working
  | joining
  deriving DecidableEq

/-- `Initialize`, `Run` and, between the first `updateDashboard` and `announcing`,
    `UpdateDashboard`. -/
inductive PollPlace
  | initializing
  | updateDashboard
  | readSettings
  | stopDashboard
  | joinDashboard
  | announceDashboard
  | announcing
  | lockForPoll
  | polling (s : Section)
  | waitForStop
  | shutdownDashboard
  | shutdownJoinDashboard
  | shutdownPipe
  | shutdownJoinPipe
  | lockForRecovery
  | recovering
  | shutdownCoordination
  | shutdownJoinCoordination
  | finished
  deriving DecidableEq

/-- `HttpServer::Loop`, with the requests that the dashboard handles. Without a
    thread the place is `off`. -/
inductive ServerPlace
  | off
  | looping
  | handling
  | lockForRequest
  | inRequest (s : Section)
  | ended
  deriving DecidableEq

/-- `ControlPipeServer::Loop`. -/
inductive PipePlace
  | looping
  | handling
  | lockForRequest
  | inRequest
  | ended
  deriving DecidableEq

/-- `CoordinationClient::Loop` and, from `handshaking` to `sendingResult`, `Session`.
    Without a thread the place is `off`. -/
inductive Work
  | off
  | startingUp
  | looping
  | connecting
  | handshaking
  | inSession
  | sendingHeartbeat
  | receiving
  | sendingResult
  | leaving
  | backingOff
  | ended
  deriving DecidableEq

/-- `status_`, `log_` and `command_`, and the `log_` that comes before a `command_`.
    Some commands are answered without `mutex_`. -/
inductive Callback
  | status
  | log
  | logCommand (locks : Bool)
  | command
  deriving DecidableEq

/-- The coordination thread does its own work, or it is about to take `mutex_` in a
    callback, or it has taken it. -/
inductive ClientPlace
  | doing (w : Work)
  | calling (c : Callback) (next : Work)
  | inCallback (c : Callback) (next : Work)
  deriving DecidableEq

/-- The threads. The flags are `stopping_` of the server, the pipe and the client. -/
structure System where
  owner : Option Thread
  poll : PollPlace
  dashboard : ServerPlace
  dashboardStopping : Bool
  pipe : PipePlace
  pipeStopping : Bool
  client : ClientPlace
  clientStopping : Bool
  deriving DecidableEq

/-- `Initialize` has started the other threads and still holds `mutex_`. The dashboard
    is started later. -/
def System.initial (coordinationEnabled : Bool) : System where
  owner := some .poll
  poll := .initializing
  dashboard := .off
  dashboardStopping := false
  pipe := .looping
  pipeStopping := false
  client := .doing (if coordinationEnabled then .startingUp else .off)
  clientStopping := false

/-- What the coordination thread finds. A command takes `mutex_` or it does not. -/
inductive Answer
  | done
  | failed
  | bias
  | command (locks : Bool)
  | error
  deriving DecidableEq

/-- Which thread goes on, and what its next step comes to. -/
inductive Input
  | poll (yes : Bool)
  | dashboard (yes : Bool)
  | pipe (yes : Bool)
  | coordination (answer : Answer)
  deriving DecidableEq

/-- There is no thread, or it has ended: a `thread_.join()` returns. -/
def ServerPlace.joined : ServerPlace → Bool
  | .off | .ended => true
  | _ => false

/-- The thread of the client has ended, or was never started. -/
def ClientPlace.joined : ClientPlace → Bool
  | .doing .off | .doing .ended => true
  | _ => false

/-- Taking `mutex_`. -/
def System.take (s : System) (t : Thread) (s' : System) : System :=
  if s.owner = none then { s' with owner := some t } else s

/-- The end of a `thread_.join()` in `CoordinationClient::Stop`, and a new client if
    there is to be one. -/
def System.replaceClient (s : System) (coordinationEnabled : Bool) : System :=
  { s with
    client := .doing (if coordinationEnabled then .startingUp else .off)
    clientStopping := if coordinationEnabled then false else s.clientStopping }

/-- A step of the poll thread. -/
def System.pollStep (s : System) (yes : Bool) : System :=
  match s.poll with
  | .initializing => { s with owner := none, poll := .updateDashboard }
  | .updateDashboard => s.take .poll { s with poll := .readSettings }
  -- `dashboardDirty_`
  | .readSettings =>
      { s with owner := none, poll := if yes then .stopDashboard else .lockForPoll }
  | .stopDashboard => { s with dashboardStopping := true, poll := .joinDashboard }
  -- The server is started if it is enabled and the port is free.
  | .joinDashboard =>
      if s.dashboard.joined then
        { s with
          dashboard := if yes then .looping else .off
          dashboardStopping := if yes then false else s.dashboardStopping
          poll := .announceDashboard }
      else s
  | .announceDashboard => s.take .poll { s with poll := .announcing }
  | .announcing => { s with owner := none, poll := .lockForPoll }
  | .lockForPoll => s.take .poll { s with poll := .polling .working }
  -- A new configuration with other settings for the coordination, or none.
  | .polling .working =>
      if yes then { s with clientStopping := true, poll := .polling .joining }
      else { s with owner := none, poll := .waitForStop }
  | .polling .joining =>
      if s.client.joined then
        { s.replaceClient yes with poll := .polling .working }
      else s
  -- The stop event.
  | .waitForStop => { s with poll := if yes then .shutdownDashboard else .updateDashboard }
  | .shutdownDashboard =>
      { s with dashboardStopping := true, poll := .shutdownJoinDashboard }
  | .shutdownJoinDashboard =>
      if s.dashboard.joined then
        { s with dashboard := .off, poll := .shutdownPipe }
      else s
  | .shutdownPipe => { s with pipeStopping := true, poll := .shutdownJoinPipe }
  | .shutdownJoinPipe =>
      if s.pipe = .ended then { s with poll := .lockForRecovery } else s
  | .lockForRecovery => s.take .poll { s with poll := .recovering }
  | .recovering => { s with owner := none, poll := .shutdownCoordination }
  | .shutdownCoordination =>
      { s with clientStopping := true, poll := .shutdownJoinCoordination }
  | .shutdownJoinCoordination =>
      if s.client.joined then
        { s with client := .doing .off, poll := .finished }
      else s
  | .finished => s

/-- A step of the dashboard's thread. -/
def System.dashboardStep (s : System) (yes : Bool) : System :=
  match s.dashboard with
  | .off => s
  -- A request, or none within the time limit.
  | .looping =>
      if s.dashboardStopping then { s with dashboard := .ended }
      else { s with dashboard := if yes then .handling else .looping }
  -- A call of the daemon that takes `mutex_`, or the end of the request.
  | .handling => { s with dashboard := if yes then .lockForRequest else .looping }
  | .lockForRequest => s.take .dashboard { s with dashboard := .inRequest .working }
  -- `SetRole` looks for a new configuration, as the poll loop does.
  | .inRequest .working =>
      if yes then { s with clientStopping := true, dashboard := .inRequest .joining }
      else { s with owner := none, dashboard := .handling }
  | .inRequest .joining =>
      if s.client.joined then
        { s.replaceClient yes with dashboard := .inRequest .working }
      else s
  | .ended => s

/-- A step of the control pipe's thread. -/
def System.pipeStep (s : System) (yes : Bool) : System :=
  match s.pipe with
  | .looping =>
      if s.pipeStopping then { s with pipe := .ended }
      else { s with pipe := if yes then .handling else .looping }
  | .handling => { s with pipe := if yes then .lockForRequest else .looping }
  | .lockForRequest => s.take .pipe { s with pipe := .inRequest }
  | .inRequest => { s with owner := none, pipe := .handling }
  | .ended => s

/-- What the coordination thread does next. A callback is called without a look at
    `stopping_`, but for the one at the end of a session. -/
def Work.next (stopping : Bool) : Work → Answer → ClientPlace
  | .off, _ => .doing .off
  -- `WSAStartup`. That it has failed is logged.
  | .startingUp, answer => if answer = .failed then .calling .log .ended else .doing .looping
  | .looping, _ => .doing (if stopping then .ended else .connecting)
  -- The connection is logged.
  | .connecting, answer =>
      if answer = .done then .calling .log .handshaking else .doing .backingOff
  -- Both outcomes are logged.
  | .handshaking, answer => .calling .log (if answer = .done then .inSession else .leaving)
  -- A heartbeat asks for the status, if it is due.
  | .inSession, answer =>
      if stopping then .doing .leaving
      else if answer = .done then .calling .status .sendingHeartbeat
      else .doing .receiving
  | .sendingHeartbeat, answer => .doing (if answer = .done then .receiving else .leaving)
  -- `done` says that nothing came that matters.
  | .receiving, .done => .doing .inSession
  | .receiving, .failed => .doing .leaving
  | .receiving, .bias => .calling .log .inSession
  | .receiving, .command locks => .calling (.logCommand locks) .sendingResult
  | .receiving, .error => .calling .log .leaving
  | .sendingResult, answer => .doing (if answer = .done then .inSession else .leaving)
  -- The end of the session is logged, but not on stop.
  | .leaving, _ => if stopping then .doing .backingOff else .calling .log .backingOff
  | .backingOff, _ => .doing .looping
  | .ended, _ => .doing .ended

/-- What comes after a callback. -/
def Callback.after (c : Callback) (next : Work) : ClientPlace :=
  match c with
  | .logCommand true => .calling .command next
  | _ => .doing next

/-- A step of the coordination thread. -/
def System.clientStep (s : System) (answer : Answer) : System :=
  match s.client with
  | .doing w => { s with client := w.next s.clientStopping answer }
  | .calling c next => s.take .coordination { s with client := .inCallback c next }
  | .inCallback c next => { s with owner := none, client := c.after next }

/-- One step of one thread. -/
def System.step (s : System) : Input → System
  | .poll yes => s.pollStep yes
  | .dashboard yes => s.dashboardStep yes
  | .pipe yes => s.pipeStep yes
  | .coordination answer => s.clientStep answer

/-! ### The lock and the joins -/

/-- The code that holds `mutex_`. -/
def PollPlace.inside : PollPlace → Bool
  | .initializing | .readSettings | .announcing | .polling _ | .recovering => true
  | _ => false

/-- The code whose next step is to take it. -/
def PollPlace.waiting : PollPlace → Bool
  | .updateDashboard | .announceDashboard | .lockForPoll | .lockForRecovery => true
  | _ => false

/-- A request is handled under it. -/
def ServerPlace.inside : ServerPlace → Bool
  | .inRequest _ => true
  | _ => false

/-- A command is handled under it. -/
def PipePlace.inside : PipePlace → Bool
  | .inRequest => true
  | _ => false

/-- A callback of the daemon runs under it. -/
def ClientPlace.inside : ClientPlace → Bool
  | .inCallback _ _ => true
  | _ => false

/-- A callback is about to take it. -/
def ClientPlace.waiting : ClientPlace → Bool
  | .calling _ _ => true
  | _ => false

/-- The thread holds `mutex_`. -/
def System.inside (s : System) : Thread → Prop
  | .poll => s.poll.inside = true
  | .dashboard => s.dashboard.inside = true
  | .pipe => s.pipe.inside = true
  | .coordination => s.client.inside = true

/-- The next thing the thread does is to take `mutex_`. -/
def System.waiting (s : System) : Thread → Prop
  | .poll => s.poll.waiting = true
  | .dashboard => s.dashboard = .lockForRequest
  | .pipe => s.pipe = .lockForRequest
  | .coordination => s.client.waiting = true

/-- One thread waits for the end of another one. -/
def System.joining (s : System) : Thread → Thread → Prop
  | .poll, .dashboard => s.poll = .joinDashboard ∨ s.poll = .shutdownJoinDashboard
  | .poll, .pipe => s.poll = .shutdownJoinPipe
  | .poll, .coordination =>
      s.poll = .polling .joining ∨ s.poll = .shutdownJoinCoordination
  | .dashboard, .coordination => s.dashboard = .inRequest .joining
  | _, _ => False

/-- The daemon as threads around one mutex. -/
def System.view (s : System) : View Thread where
  owner := s.owner
  inside := s.inside
  waiting := s.waiting
  joining := s.joining

/-- A reload waits for the end of the coordination thread. -/
def System.Reloading (s : System) : Prop :=
  s.poll = .polling .joining ∨ s.dashboard = .inRequest .joining

/-- The next step leads to a callback, whether the client is stopped or not. -/
def ClientPlace.callsBack : ClientPlace → Answer → Bool
  | .doing .startingUp, .failed => true
  | .doing .connecting, .done => true
  | .doing .handshaking, _ => true
  | .doing .receiving, .bias | .doing .receiving, .command _ | .doing .receiving, .error => true
  | _, _ => false

/-- A reload does not stop the client while its thread is about to call back; and while
    it waits for the thread, no connection is made, no handshake ends, and no bias,
    command or error comes in. -/
def Quiet (s : System) : Input → Prop
  | .poll yes => ¬ (s.poll = .polling .working ∧ yes = true ∧ s.client.waiting = true)
  | .dashboard yes =>
      ¬ (s.dashboard = .inRequest .working ∧ yes = true ∧ s.client.waiting = true)
  | .pipe _ => True
  | .coordination answer => s.Reloading → s.client.callsBack answer = false

/-! ### What a step can do -/

/-- A thread that is started or has ended is not inside. -/
theorem client_inside (s : System) (h : s.client.joined = true) : s.client.inside = false := by
  cases hclient : s.client with
  | doing w => rfl
  | calling c next => rfl
  | inCallback c next =>
      rw [hclient] at h
      exact absurd h Bool.false_ne_true

theorem dashboard_inside (s : System) (h : s.dashboard.joined = true) :
    s.dashboard.inside = false := by
  cases hplace : s.dashboard with
  | inRequest part =>
      rw [hplace] at h
      exact absurd h Bool.false_ne_true
  | off | looping | handling | lockForRequest | ended => rfl

/-- What a step of the poll thread can do: nothing, if it cannot go on; go to another
    place, and set flags; take `mutex_` or release it; stop the client; start the server,
    or not, after the end of its thread; and the same with the client. Only a reload in
    a poll goes on to wait for the client inside. -/
inductive PollDoes (s : System) (yes : Bool) : System → Prop
  | waits : PollDoes s yes s
  | moves (place : PollPlace) (dashboardStopping pipeStopping : Bool)
      (hinside : place.inside = s.poll.inside) (hplace : place ≠ .polling .joining) :
      PollDoes s yes
        { s with
          poll := place, dashboardStopping := dashboardStopping, pipeStopping := pipeStopping }
  | takes (place : PollPlace) (hfree : s.owner = none) (hinside : place.inside = true)
      (hplace : place ≠ .polling .joining) :
      PollDoes s yes { s with owner := some .poll, poll := place }
  | releases (place : PollPlace) (hinside : s.poll.inside = true)
      (houtside : place.inside = false) : PollDoes s yes { s with owner := none, poll := place }
  | stopsClient (place : PollPlace) (hinside : place.inside = s.poll.inside)
      (hplace : place = .polling .joining → s.poll = .polling .working ∧ yes = true) :
      PollDoes s yes { s with clientStopping := true, poll := place }
  | replacesServer (place : PollPlace) (dashboard : ServerPlace) (stopping : Bool)
      (hjoined : s.dashboard.joined = true) (hnew : dashboard.inside = false)
      (hinside : place.inside = s.poll.inside) (hplace : place ≠ .polling .joining) :
      PollDoes s yes
        { s with poll := place, dashboard := dashboard, dashboardStopping := stopping }
  | replacesClient (place : PollPlace) (client : ClientPlace) (stopping : Bool)
      (hjoined : s.client.joined = true)
      (hnew : client.inside = false ∧ client.waiting = false)
      (hstopping : s.poll ≠ .polling .joining → stopping = s.clientStopping)
      (hinside : place.inside = s.poll.inside) (hplace : place ≠ .polling .joining) :
      PollDoes s yes { s with poll := place, client := client, clientStopping := stopping }

theorem pollStep_does (s : System) (yes : Bool) : PollDoes s yes (s.pollStep yes) := by
  unfold System.pollStep
  -- The places at the ends of the locked sections come first.
  cases hplace : s.poll with
  | initializing | announcing | recovering =>
      exact .releases _ (congrArg PollPlace.inside hplace) rfl
  | readSettings =>
      refine .releases _ (congrArg PollPlace.inside hplace) ?_
      cases yes
      · rfl
      · rfl
  | updateDashboard | announceDashboard | lockForPoll | lockForRecovery =>
      dsimp only [System.take]
      split
      · exact .takes _ ‹_› rfl (by decide)
      · exact .waits
  -- What follows is outside `mutex_`, but for the poll itself.
  | stopDashboard | shutdownDashboard =>
      exact .moves _ true s.pipeStopping (congrArg PollPlace.inside hplace).symm (by decide)
  | shutdownPipe =>
      exact .moves _ s.dashboardStopping true (congrArg PollPlace.inside hplace).symm (by decide)
  | waitForStop =>
      refine .moves _ s.dashboardStopping s.pipeStopping ?_ ?_
      · rw [hplace]
        cases yes
        · rfl
        · rfl
      · cases yes
        · decide
        · decide
  | joinDashboard =>
      dsimp only
      split
      · refine .replacesServer _ _ _ ‹_› ?_ (congrArg PollPlace.inside hplace).symm (by decide)
        cases yes
        · rfl
        · rfl
      · exact .waits
  | shutdownJoinDashboard =>
      dsimp only
      split
      · exact .replacesServer _ _ s.dashboardStopping ‹_› rfl
          (congrArg PollPlace.inside hplace).symm (by decide)
      · exact .waits
  | shutdownJoinPipe =>
      dsimp only
      split
      · exact .moves _ s.dashboardStopping s.pipeStopping (congrArg PollPlace.inside hplace).symm
          (by decide)
      · exact .waits
  | shutdownCoordination =>
      exact .stopsClient _ (congrArg PollPlace.inside hplace).symm
        (fun h => PollPlace.noConfusion h)
  | shutdownJoinCoordination =>
      dsimp only
      split
      · exact .replacesClient _ _ s.clientStopping ‹_› ⟨rfl, rfl⟩ (fun _ => rfl)
          (congrArg PollPlace.inside hplace).symm (by decide)
      · exact .waits
  | finished => exact .waits
  | polling part =>
      cases part with
      | working =>
          dsimp only
          split
          · exact .stopsClient _ (congrArg PollPlace.inside hplace).symm fun _ => ⟨hplace, ‹_›⟩
          · exact .releases _ (congrArg PollPlace.inside hplace) rfl
      | joining =>
          dsimp only
          split
          · exact .replacesClient _ _ _ ‹_› ⟨rfl, rfl⟩ (fun h => absurd hplace h)
              (congrArg PollPlace.inside hplace).symm (by decide)
          · exact .waits

/-- The same for the dashboard's thread. -/
inductive DashboardDoes (s : System) (yes : Bool) : System → Prop
  | waits : DashboardDoes s yes s
  | moves (place : ServerPlace) (hinside : place.inside = s.dashboard.inside)
      (hplace : place ≠ .inRequest .joining) : DashboardDoes s yes { s with dashboard := place }
  | takes (place : ServerPlace) (hfree : s.owner = none) (hinside : place.inside = true)
      (hplace : place ≠ .inRequest .joining) :
      DashboardDoes s yes { s with owner := some .dashboard, dashboard := place }
  | releases (place : ServerPlace) (hinside : s.dashboard.inside = true)
      (houtside : place.inside = false) :
      DashboardDoes s yes { s with owner := none, dashboard := place }
  | stopsClient (hworking : s.dashboard = .inRequest .working) (hyes : yes = true) :
      DashboardDoes s yes { s with clientStopping := true, dashboard := .inRequest .joining }
  | replacesClient (client : ClientPlace) (stopping : Bool)
      (hjoining : s.dashboard = .inRequest .joining) (hjoined : s.client.joined = true)
      (hnew : client.inside = false ∧ client.waiting = false) :
      DashboardDoes s yes
        { s with dashboard := .inRequest .working, client := client, clientStopping := stopping }

theorem dashboardStep_does (s : System) (yes : Bool) :
    DashboardDoes s yes (s.dashboardStep yes) := by
  unfold System.dashboardStep
  cases hplace : s.dashboard with
  | off | ended => exact .waits
  | looping =>
      dsimp only
      split
      · exact .moves _ (congrArg ServerPlace.inside hplace).symm (by decide)
      · cases yes
        · exact .moves _ (congrArg ServerPlace.inside hplace).symm (by decide)
        · exact .moves _ (congrArg ServerPlace.inside hplace).symm (by decide)
  | handling =>
      cases yes
      · exact .moves _ (congrArg ServerPlace.inside hplace).symm (by decide)
      · exact .moves _ (congrArg ServerPlace.inside hplace).symm (by decide)
  | lockForRequest =>
      dsimp only [System.take]
      split
      · exact .takes _ ‹_› rfl (by decide)
      · exact .waits
  -- The mutex is held: it is given back, or a client thread is replaced.
  | inRequest part =>
      cases part with
      | working =>
          dsimp only
          split
          · exact .stopsClient hplace ‹_›
          · exact .releases _ (congrArg ServerPlace.inside hplace) rfl
      | joining =>
          dsimp only
          split
          · exact .replacesClient _ _ hplace ‹_› ⟨rfl, rfl⟩
          · exact .waits

/-! ### Who has the lock -/

/-- Places of the same kind. -/
theorem same_inside {α : Type} (inside : α → Bool) {old place new : α} (h : old = place)
    (hsame : inside new = inside place) : inside new = true ↔ inside old = true := by
  rw [hsame, h]

/-- A step of one thread keeps `mutex_` with the thread inside, if the others are
    inside as before. -/
theorem owned_of_insides (s s' : System) (t : Thread) (h : Owned s.view)
    (hpoll : t ≠ .poll → s'.poll.inside = s.poll.inside)
    (hdashboard : t ≠ .dashboard → s'.dashboard.inside = s.dashboard.inside)
    (hpipe : t ≠ .pipe → s'.pipe.inside = s.pipe.inside)
    (hclient : t ≠ .coordination → s'.client.inside = s.client.inside)
    (hpasses : Passes s.view s'.view t) : Owned s'.view := by
  refine owned_step s.view s'.view t h ?_ hpasses
  intro u hu
  cases u with
  | poll => exact iff_of_eq (congrArg (· = true) (hpoll hu.symm))
  | dashboard => exact iff_of_eq (congrArg (· = true) (hdashboard hu.symm))
  | pipe => exact iff_of_eq (congrArg (· = true) (hpipe hu.symm))
  | coordination => exact iff_of_eq (congrArg (· = true) (hclient hu.symm))

/-- What another thread's step leaves of the client: everything, or a new one. -/
def ClientKept (s s' : System) : Prop :=
  s'.client = s.client ∨
    (s.client.joined = true ∧ s'.client.inside = false ∧ s'.client.waiting = false)

theorem clientKept_inside (s s' : System) (h : ClientKept s s') :
    s'.client.inside = s.client.inside := by
  rcases h with hsame | ⟨hold, hnew, _⟩
  · rw [hsame]
  · rw [client_inside s hold, hnew]

theorem clientKept_waiting (s s' : System) (h : ClientKept s s')
    (hwaiting : s'.client.waiting = true) : s.client.waiting = true := by
  rcases h with hsame | ⟨_, _, hnew⟩
  · rwa [hsame] at hwaiting
  · rw [hnew] at hwaiting
    exact absurd hwaiting Bool.false_ne_true

theorem passes_pollStep (s : System) (yes : Bool) :
    Passes s.view (s.pollStep yes).view .poll := by
  have hdoes := pollStep_does s yes
  generalize s.pollStep yes = s' at hdoes ⊢
  -- Of the steps of the poll thread only two touch the lock.
  cases hdoes with
  | waits => exact .keeps rfl Iff.rfl
  | moves place _ _ hinside _ => exact .keeps rfl (iff_of_eq (congrArg (· = true) hinside))
  | takes place hfree hinside _ => exact .takes hfree rfl hinside
  | releases place hinside houtside =>
      exact .releases hinside rfl (Bool.eq_false_iff.mp houtside)
  | stopsClient place hinside _ => exact .keeps rfl (iff_of_eq (congrArg (· = true) hinside))
  | replacesServer place _ _ _ _ hinside _ =>
      exact .keeps rfl (iff_of_eq (congrArg (· = true) hinside))
  | replacesClient place _ _ _ _ _ hinside _ =>
      exact .keeps rfl (iff_of_eq (congrArg (· = true) hinside))

/-- What a step of the poll thread leaves as it is. -/
theorem frame_pollStep (s : System) (yes : Bool) :
    (s.pollStep yes).pipe = s.pipe ∧
      ((s.pollStep yes).dashboard = s.dashboard ∨
        (s.dashboard.inside = false ∧ (s.pollStep yes).dashboard.inside = false)) ∧
      ClientKept s (s.pollStep yes) := by
  have hdoes := pollStep_does s yes
  generalize s.pollStep yes = s' at hdoes ⊢
  -- A server or a client is only replaced once it was joined.
  cases hdoes with
  | waits => exact ⟨rfl, Or.inl rfl, Or.inl rfl⟩
  | moves place _ _ _ _ => exact ⟨rfl, Or.inl rfl, Or.inl rfl⟩
  | takes place _ _ _ => exact ⟨rfl, Or.inl rfl, Or.inl rfl⟩
  | releases place _ _ => exact ⟨rfl, Or.inl rfl, Or.inl rfl⟩
  | stopsClient place _ _ => exact ⟨rfl, Or.inl rfl, Or.inl rfl⟩
  | replacesServer place dashboard stopping hjoined hnew _ _ =>
      exact ⟨rfl, Or.inr ⟨dashboard_inside s hjoined, hnew⟩, Or.inl rfl⟩
  | replacesClient place client stopping hjoined hnew _ _ _ =>
      exact ⟨rfl, Or.inl rfl, Or.inr ⟨hjoined, hnew⟩⟩

theorem owned_pollStep (s : System) (h : Owned s.view) (yes : Bool) :
    Owned (s.pollStep yes).view := by
  obtain ⟨hpipe, hdashboard, hclient⟩ := frame_pollStep s yes
  refine owned_of_insides s _ .poll h (absurd rfl) (fun _ => ?_) (fun _ => ?_)
    (fun _ => clientKept_inside s _ hclient) (passes_pollStep s yes)
  · rcases hdashboard with hsame | ⟨hold, hnew⟩
    · rw [hsame]
    · rw [hold, hnew]
  · rw [hpipe]

theorem passes_dashboardStep (s : System) (yes : Bool) :
    Passes s.view (s.dashboardStep yes).view .dashboard := by
  have hdoes := dashboardStep_does s yes
  generalize s.dashboardStep yes = s' at hdoes ⊢
  cases hdoes with
  | waits => exact .keeps rfl Iff.rfl
  | moves place hinside _ => exact .keeps rfl (iff_of_eq (congrArg (· = true) hinside))
  | takes place hfree hinside _ => exact .takes hfree rfl hinside
  | releases place hinside houtside =>
      exact .releases hinside rfl (Bool.eq_false_iff.mp houtside)
  | stopsClient hworking _ => exact .keeps rfl (same_inside _ hworking rfl)
  | replacesClient _ _ hjoining _ _ => exact .keeps rfl (same_inside _ hjoining rfl)

/-- What a step of the dashboard's thread leaves as it is. -/
theorem frame_dashboardStep (s : System) (yes : Bool) :
    (s.dashboardStep yes).poll = s.poll ∧ (s.dashboardStep yes).pipe = s.pipe ∧
      ClientKept s (s.dashboardStep yes) := by
  have hdoes := dashboardStep_does s yes
  generalize s.dashboardStep yes = s' at hdoes ⊢
  cases hdoes with
  | waits => exact ⟨rfl, rfl, Or.inl rfl⟩
  | moves place _ _ => exact ⟨rfl, rfl, Or.inl rfl⟩
  | takes place _ _ _ => exact ⟨rfl, rfl, Or.inl rfl⟩
  | releases place _ _ => exact ⟨rfl, rfl, Or.inl rfl⟩
  | stopsClient _ _ => exact ⟨rfl, rfl, Or.inl rfl⟩
  | replacesClient client stopping _ hjoined hnew => exact ⟨rfl, rfl, Or.inr ⟨hjoined, hnew⟩⟩

theorem owned_dashboardStep (s : System) (h : Owned s.view) (yes : Bool) :
    Owned (s.dashboardStep yes).view := by
  obtain ⟨hpoll, hpipe, hclient⟩ := frame_dashboardStep s yes
  exact owned_of_insides s _ .dashboard h (fun _ => congrArg _ hpoll) (absurd rfl)
    (fun _ => congrArg _ hpipe) (fun _ => clientKept_inside s _ hclient)
    (passes_dashboardStep s yes)

theorem passes_pipeStep (s : System) (yes : Bool) :
    Passes s.view (s.pipeStep yes).view .pipe := by
  unfold System.pipeStep
  -- The pipe thread holds the lock for the one request.
  cases hplace : s.pipe with
  | looping =>
      dsimp only
      split
      · exact .keeps rfl (same_inside _ hplace rfl)
      · refine .keeps rfl (same_inside _ hplace ?_)
        cases yes
        · rfl
        · rfl
  | handling =>
      refine .keeps rfl (same_inside _ hplace ?_)
      cases yes
      · rfl
      · rfl
  | lockForRequest =>
      dsimp only [System.take]
      split
      · exact .takes ‹_› rfl rfl
      · exact .keeps rfl Iff.rfl
  | inRequest => exact .releases (congrArg PipePlace.inside hplace) rfl Bool.false_ne_true
  | ended => exact .keeps rfl Iff.rfl

/-- What a step of the control pipe's thread leaves as it is. -/
theorem frame_pipeStep (s : System) (yes : Bool) :
    (s.pipeStep yes).poll = s.poll ∧ (s.pipeStep yes).dashboard = s.dashboard ∧
      (s.pipeStep yes).client = s.client ∧ (s.pipeStep yes).clientStopping = s.clientStopping := by
  unfold System.pipeStep
  -- It moves itself, and takes the lock at most.
  cases s.pipe with
  | handling | inRequest | ended => exact ⟨rfl, rfl, rfl, rfl⟩
  | looping =>
      dsimp only
      split
      · exact ⟨rfl, rfl, rfl, rfl⟩
      · exact ⟨rfl, rfl, rfl, rfl⟩
  | lockForRequest =>
      dsimp only [System.take]
      split
      · exact ⟨rfl, rfl, rfl, rfl⟩
      · exact ⟨rfl, rfl, rfl, rfl⟩

theorem owned_pipeStep (s : System) (h : Owned s.view) (yes : Bool) :
    Owned (s.pipeStep yes).view := by
  obtain ⟨hpoll, hdashboard, hclient, _⟩ := frame_pipeStep s yes
  exact owned_of_insides s _ .pipe h (fun _ => congrArg _ hpoll) (fun _ => congrArg _ hdashboard)
    (absurd rfl) (fun _ => congrArg _ hclient) (passes_pipeStep s yes)

/-- After its own work the coordination thread is not inside. -/
theorem next_inside (stopping : Bool) (w : Work) (answer : Answer) :
    (w.next stopping answer).inside = false := by
  fun_cases Work.next stopping w answer
  all_goals rfl

theorem after_inside (c : Callback) (next : Work) : (c.after next).inside = false := by
  fun_cases Callback.after c next
  all_goals rfl

theorem passes_clientStep (s : System) (answer : Answer) :
    Passes s.view (s.clientStep answer).view .coordination := by
  unfold System.clientStep
  -- The client holds the lock within a callback alone.
  cases hplace : s.client with
  | doing w =>
      refine .keeps rfl ?_
      change (w.next s.clientStopping answer).inside = true ↔ s.client.inside = true
      rw [hplace, next_inside]
      rfl
  | calling c next =>
      dsimp only [System.take]
      split
      · exact .takes ‹_› rfl rfl
      · exact .keeps rfl Iff.rfl
  | inCallback c next =>
      refine .releases (congrArg ClientPlace.inside hplace) rfl ?_
      change ¬ (c.after next).inside = true
      rw [after_inside]
      exact Bool.false_ne_true

/-- What a step of the coordination thread leaves as it is. -/
theorem frame_clientStep (s : System) (answer : Answer) :
    (s.clientStep answer).poll = s.poll ∧ (s.clientStep answer).dashboard = s.dashboard ∧
      (s.clientStep answer).pipe = s.pipe ∧
      (s.clientStep answer).clientStopping = s.clientStopping := by
  unfold System.clientStep
  cases s.client with
  | doing w => exact ⟨rfl, rfl, rfl, rfl⟩
  | inCallback c next => exact ⟨rfl, rfl, rfl, rfl⟩
  | calling c next =>
      dsimp only [System.take]
      split
      · exact ⟨rfl, rfl, rfl, rfl⟩
      · exact ⟨rfl, rfl, rfl, rfl⟩

theorem owned_clientStep (s : System) (h : Owned s.view) (answer : Answer) :
    Owned (s.clientStep answer).view := by
  obtain ⟨hpoll, hdashboard, hpipe, _⟩ := frame_clientStep s answer
  exact owned_of_insides s _ .coordination h (fun _ => congrArg _ hpoll)
    (fun _ => congrArg _ hdashboard) (fun _ => congrArg _ hpipe) (absurd rfl)
    (passes_clientStep s answer)

/-- Whoever has taken `mutex_` is the one inside. -/
theorem owned_systemStep (s : System) (h : Owned s.view) (input : Input) :
    Owned (s.step input).view := by
  cases input with
  | poll yes => exact owned_pollStep s h yes
  | dashboard yes => exact owned_dashboardStep s h yes
  | pipe yes => exact owned_pipeStep s h yes
  | coordination answer => exact owned_clientStep s h answer

end Threads

end Service

end ThreadHaul
