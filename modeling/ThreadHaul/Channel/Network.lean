import Mathlib.Logic.Function.Basic
import ThreadHaul.Channel.Handshake
import ThreadHaul.Lib.Knowledge
import ThreadHaul.Lib.Runs

/-!
# Handshakes on a Hostile Network

Any number of `ClientHandshake` and `ServerHandshake` sessions with one shared
secret, on a network that belongs to an attacker.

A session is a number with a phase: what it is waiting for, and what it has
learnt. The attacker decides which session gets which frame next, and reads
every message. `receive` is what a session makes of a frame; it is built from
the steps of the two handshakes, and `clientHandshake_run` and
`serverHandshake_run` say that a handshake that returns true is two such steps.
A session that times out, loses its connection, refuses a frame or throws at
one is over.

The hash functions are free. So the attacker cannot send the code of a proof
unless it has seen that code or knows the key; `Possible` says so of the frames
it delivers, and that nonces are drawn afresh. Nothing else about the frames is
restricted.

The log holds what an observer of all sessions would note: a client has sent
its proof, a server has drawn its nonce, a handshake has returned true.

## Main definitions

* `View`: What a session takes the handshake to be.
* `ClientPhase.receive`, `ServerPhase.receive`: A session reads a frame.
* `Network.step`: The sessions and the attacker.
* `Possible`: What the attacker cannot do.
* `Rule`: The steps, by their effect.

## Theorems

* `clientHandshake_run`, `serverHandshake_run`: The functions of the source on
  the network.
* `rule_step`: Every step follows a rule.
-/

namespace ThreadHaul

namespace Channel

open Runs Knowledge Json

/-- What a session takes the handshake to be, and the keys it derives. -/
structure View where
  host : Bytes
  clientNonce : Bytes
  serverNonce : Bytes
  keys : Keys
  deriving DecidableEq

/-- A message, by what it carries. -/
inductive Message
  | hello (host clientNonce : Bytes)
  | challenge (serverNonce : Bytes)
  | proof (mac : Bytes)
  deriving DecidableEq

/-- A message as it is sent. -/
def Message.json : Message → Json
  | .hello host cn => helloJson host cn
  | .challenge sn => challengeJson sn
  | .proof mac => proofJson mac

/-- What whoever reads the message learns. -/
def Message.contents : Message → List Bytes
  | .hello host cn => [host, cn]
  | .challenge sn => [sn]
  | .proof mac => [mac]

/-- What is noted of the sessions. -/
inductive Fact
  /-- The client session has sent its proof. -/
  | clientProved (i : Nat) (v : View)
  /-- `ClientHandshake` has returned true. -/
  | clientReturned (i : Nat) (v : View)
  /-- The server session has drawn this nonce. -/
  | serverDrew (j : Nat) (serverNonce : Bytes)
  /-- `ServerHandshake` has returned true. -/
  | serverReturned (j : Nat) (v : View)
  deriving DecidableEq

/-- Where a client is in its handshake. -/
inductive ClientPhase
  /-- It has sent its hello. -/
  | waiting (host clientNonce : Bytes)
  /-- It has sent its proof. -/
  | challenged (v : View)
  | ended

/-- Where a server is in its handshake. -/
inductive ServerPhase
  | opened
  /-- It has sent its challenge. -/
  | greeted (v : View)
  | ended

/-- What a step of a session comes to: its phase, and what it sends and what is
    noted. -/
structure Outcome (φ : Type) where
  phase : φ
  sent : List Message
  noted : List Fact

section Receive

variable (p : Primitives) (secret : Bytes)

/-- `ClientHandshake` between two calls of `ReceiveFrame`. -/
def ClientPhase.receive (i : Nat) (frame : Bytes) : ClientPhase → Outcome ClientPhase
  | .waiting host cn =>
      match clientChallenge p secret host cn frame with
      | .ok (.proceeds (sn, keys)) =>
          { phase := .challenged ⟨host, cn, sn, keys⟩
            sent := [.proof (clientMac p keys)]
            noted := [.clientProved i ⟨host, cn, sn, keys⟩] }
      | .ok (.rejected ..) | .error _ => ⟨.ended, [], []⟩
  | .challenged v =>
      match checkProof p (serverMac p v.keys) frame with
      | .ok true => ⟨.ended, [], [.clientReturned i v]⟩
      | .ok false | .error _ => ⟨.ended, [], []⟩
  | .ended => ⟨.ended, [], []⟩

/-- `ServerHandshake` between two calls of `ReceiveFrame`. `sn` is what
    `RandomBytes` gives. The reply to an old protocol tells nothing. -/
def ServerPhase.receive (j : Nat) (frame sn : Bytes) : ServerPhase → Outcome ServerPhase
  | .opened =>
      match serverHello p secret sn frame with
      | .ok (.proceeds (host, cn, keys)) =>
          { phase := .greeted ⟨host, cn, sn, keys⟩
            sent := [.challenge sn]
            noted := [.serverDrew j sn] }
      | .ok (.rejected ..) | .error _ => ⟨.ended, [], []⟩
  | .greeted v =>
      match checkProof p (clientMac p v.keys) frame with
      | .ok true =>
          { phase := .ended
            sent := [.proof (serverMac p v.keys)]
            noted := [.serverReturned j v] }
      | .ok false | .error _ => ⟨.ended, [], []⟩
  | .ended => ⟨.ended, [], []⟩

/-- `ClientHandshake` up to its first call of `ReceiveFrame`. -/
def clientOpening (host cn : Bytes) : Outcome ClientPhase :=
  if secret.length < kMinSecretLength then ⟨.ended, [], []⟩
  else
    match (helloJson host cn).dump with
    | .error _ => ⟨.ended, [], []⟩
    | .ok _ => ⟨.waiting host cn, [.hello host cn], []⟩

end Receive

/-- The sessions, the messages sent and what was noted. -/
structure Network where
  clients : Nat → Option ClientPhase
  servers : Nat → Option ServerPhase
  sent : List Message
  log : List Fact

/-- No session has begun. -/
def Network.empty : Network where
  clients _ := none
  servers _ := none
  sent := []
  log := []

/-- A client takes a step: what it sends and notes is added. -/
def Network.client (net : Network) (i : Nat) (o : Outcome ClientPhase) : Network :=
  { net with
    clients := Function.update net.clients i (some o.phase)
    sent := net.sent ++ o.sent
    log := net.log ++ o.noted }

/-- A server takes a step. -/
def Network.server (net : Network) (j : Nat) (o : Outcome ServerPhase) : Network :=
  { net with
    servers := Function.update net.servers j (some o.phase)
    sent := net.sent ++ o.sent
    log := net.log ++ o.noted }

section Sessions

variable (net : Network) {i k : Nat}

@[simp] theorem client_self (o : Outcome ClientPhase) :
    (net.client i o).clients i = some o.phase := Function.update_self ..

theorem client_of_ne (o : Outcome ClientPhase) (h : k ≠ i) :
    (net.client i o).clients k = net.clients k := Function.update_of_ne h ..

@[simp] theorem server_self (o : Outcome ServerPhase) :
    (net.server i o).servers i = some o.phase := Function.update_self ..

theorem server_of_ne (o : Outcome ServerPhase) (h : k ≠ i) :
    (net.server i o).servers k = net.servers k := Function.update_of_ne h ..

/-- The session of a client after a step of one client. -/
theorem client_cases (o : Outcome ClientPhase) {phase : ClientPhase}
    (h : (net.client i o).clients k = some phase) :
    (k = i ∧ o.phase = phase) ∨ net.clients k = some phase := by
  by_cases hki : k = i
  · subst hki
    rw [client_self] at h
    exact Or.inl ⟨rfl, Option.some.inj h⟩
  · rw [client_of_ne net o hki] at h
    exact Or.inr h

theorem server_cases (o : Outcome ServerPhase) {phase : ServerPhase}
    (h : (net.server i o).servers k = some phase) :
    (k = i ∧ o.phase = phase) ∨ net.servers k = some phase := by
  by_cases hki : k = i
  · subst hki
    rw [server_self] at h
    exact Or.inl ⟨rfl, Option.some.inj h⟩
  · rw [server_of_ne net o hki] at h
    exact Or.inr h

end Sessions

/-- The attacker's moves. A session that is told to quit finds that time is up
    or the connection gone. -/
inductive NetEvent
  | startClient (i : Nat) (host cn : Bytes)
  | toClient (i : Nat) (frame : Bytes)
  | quitClient (i : Nat)
  | startServer (j : Nat)
  | toServer (j : Nat) (frame sn : Bytes)
  | quitServer (j : Nat)

/-- A session begins, or gets a frame, which may come from anyone. -/
def Network.step (p : Primitives) (secret : Bytes) (net : Network) : NetEvent → Network
  | .startClient i host cn => net.client i (clientOpening secret host cn)
  | .toClient i frame =>
      match net.clients i with
      | none => net
      | some phase => net.client i (phase.receive p secret i frame)
  | .quitClient i => net.client i ⟨.ended, [], []⟩
  | .startServer j => net.server j ⟨.opened, [], []⟩
  | .toServer j frame sn =>
      match net.servers j with
      | none => net
      | some phase => net.server j (phase.receive p secret j frame sn)
  | .quitServer j => net.server j ⟨.ended, [], []⟩

section Attacker

variable (p : Primitives) (secret : Bytes)

/-- What `Sha256` is applied to for the key of the secret. -/
def pskInput : Bytes := ascii "threadhaul-psk-v2" ++ secret

/-- The strings anyone can make: no digests, and not the secret. -/
def Public : Set Bytes :=
  { m | ¬ IsDigest p.sha256 p.hmacSha256 m ∧ m ≠ pskInput secret }

/-- The strings in the messages sent. -/
def Network.seen (net : Network) : Set Bytes := { m | ∃ msg ∈ net.sent, m ∈ msg.contents }

/-- What the attacker knows. -/
def Network.Knows (net : Network) : Bytes → Prop :=
  Knowledge.Knows p.sha256 p.hmacSha256 (Public p secret) net.seen

/-- The attacker knows the code in the frame, if there is one. -/
def Network.Forgeable (net : Network) (frame : Bytes) : Prop :=
  ∀ s, HasString (p.parse frame) "mac" s → net.Knows p secret (fromHex s)

/-- Host names and nonces are no digests and not the secret, a server's nonce
    was never drawn before, and the attacker sends only codes it knows. -/
def Possible (net : Network) : NetEvent → Prop
  | .startClient i host cn =>
      net.clients i = none ∧ cn.length = 32 ∧ host ∈ Public p secret ∧ cn ∈ Public p secret
  | .toClient _ frame => net.Forgeable p secret frame
  | .startServer j => net.servers j = none
  | .toServer _ frame sn =>
      net.Forgeable p secret frame ∧
        sn.length = 32 ∧ sn ∈ Public p secret ∧ Message.challenge sn ∉ net.sent
  | .quitClient _ | .quitServer _ => True

end Attacker

section Rules

variable (p : Primitives) (secret : Bytes)

/-- What the attacker is up against: free hash functions whose digests are not
    empty, and a secret that is no digest. -/
structure IdealHashes : Prop where
  free : Free p.sha256 p.hmacSha256
  hmac_ne_nil : ∀ key m, p.hmacSha256 key m ≠ []
  secret_not_digest : ¬ IsDigest p.sha256 p.hmacSha256 (pskInput secret)

/-- The view of a session with these names. -/
def viewOf (host cn sn : Bytes) (isClient : Bool) : View :=
  ⟨host, cn, sn, deriveKeys p secret cn sn host isClient⟩

/-- The steps by what they do to the network, with what is known when they are
    taken. -/
inductive Rule (net : Network) : Network → Prop
  | idle : Rule net net
  | hello (i : Nat) (host cn : Bytes) (hi : net.clients i = none) (hcn : cn.length = 32)
      (hhost : host ∈ Public p secret) (hpub : cn ∈ Public p secret) :
      Rule net (net.client i ⟨.waiting host cn, [.hello host cn], []⟩)
  | prove (i : Nat) (host cn sn : Bytes) (hi : net.clients i = some (.waiting host cn))
      (hsn : sn.length = 32) :
      Rule net (net.client i
        ⟨.challenged (viewOf p secret host cn sn true),
          [.proof (clientMac p (viewOf p secret host cn sn true).keys)],
          [.clientProved i (viewOf p secret host cn sn true)]⟩)
  | clientReturn (i : Nat) (v : View) (hi : net.clients i = some (.challenged v))
      (hmac : net.Knows p secret (serverMac p v.keys)) :
      Rule net (net.client i ⟨.ended, [], [.clientReturned i v]⟩)
  | clientOver (i : Nat) : Rule net (net.client i ⟨.ended, [], []⟩)
  | listen (j : Nat) (hj : net.servers j = none) : Rule net (net.server j ⟨.opened, [], []⟩)
  | challenge (j : Nat) (host cn sn : Bytes) (hcn : cn.length = 32) (hsn : sn.length = 32)
      (hpub : sn ∈ Public p secret) (hfresh : Message.challenge sn ∉ net.sent) :
      Rule net (net.server j
        ⟨.greeted (viewOf p secret host cn sn false), [.challenge sn], [.serverDrew j sn]⟩)
  | serverReturn (j : Nat) (v : View) (hj : net.servers j = some (.greeted v))
      (hmac : net.Knows p secret (clientMac p v.keys)) :
      Rule net (net.server j
        ⟨.ended, [.proof (serverMac p v.keys)], [.serverReturned j v]⟩)
  | serverOver (j : Nat) : Rule net (net.server j ⟨.ended, [], []⟩)

variable {p secret} {net : Network}

/-- The code of a proof that is accepted was known to the attacker. -/
theorem knows_of_checkProof (hh : IdealHashes p secret) (keys : Keys) (label frame : Bytes)
    (hknown : net.Forgeable p secret frame)
    (h : checkProof p (p.hmacSha256 keys.sessionKey label) frame = .ok true) :
    net.Knows p secret (p.hmacSha256 keys.sessionKey label) := by
  rcases checkProof_eq_true p _ frame (hh.hmac_ne_nil _ _) h with ⟨_, s, hs, hmac⟩
  rw [← hmac]
  exact hknown s hs

theorem rule_toClient (hh : IdealHashes p secret) (i : Nat) (frame : Bytes) (phase : ClientPhase)
    (hi : net.clients i = some phase) (hknown : net.Forgeable p secret frame) :
    Rule p secret net (net.client i (phase.receive p secret i frame)) := by
  cases phase with
  | waiting host cn =>
      rcases hstep : clientChallenge p secret host cn frame with _ | step <;>
        simp only [ClientPhase.receive, hstep]
      · exact Rule.clientOver i
      · cases step with
        | rejected error reply => exact Rule.clientOver i
        | proceeds a =>
            rcases a with ⟨sn, keys⟩
            -- The challenge was accepted, so it has a nonce of the right length.
            rcases (clientChallenge_proceeds_iff p secret host cn frame sn keys).mp hstep with
              ⟨haccepted, rfl⟩
            exact Rule.prove i host cn sn hi haccepted.nonce_length
  | challenged v =>
      rcases hcheck : checkProof p (serverMac p v.keys) frame with _ | ok <;>
        simp only [ClientPhase.receive, hcheck]
      · exact Rule.clientOver i
      · cases ok with
        | false => exact Rule.clientOver i
        -- Whoever sent the proof knew the code in it.
        | true =>
            exact Rule.clientReturn i v hi (knows_of_checkProof hh v.keys _ frame hknown hcheck)
  | ended => exact Rule.clientOver i

theorem rule_toServer (hh : IdealHashes p secret) (j : Nat) (frame sn : Bytes)
    (phase : ServerPhase) (hj : net.servers j = some phase)
    (hknown : net.Forgeable p secret frame) (hsn : sn.length = 32) (hpub : sn ∈ Public p secret)
    (hfresh : Message.challenge sn ∉ net.sent) :
    Rule p secret net (net.server j (phase.receive p secret j frame sn)) := by
  cases phase with
  | opened =>
      rcases hstep : serverHello p secret sn frame with _ | step <;>
        simp only [ServerPhase.receive, hstep]
      · exact Rule.serverOver j
      · cases step with
        | rejected error reply => exact Rule.serverOver j
        | proceeds a =>
            rcases a with ⟨host, cn, keys⟩
            -- The hello was accepted, so it has a nonce of the right length.
            rcases (serverHello_proceeds_iff p secret sn frame host cn keys).mp hstep with
              ⟨haccepted, rfl⟩
            exact Rule.challenge j host cn sn haccepted.nonce_length hsn hpub hfresh
  | greeted v =>
      rcases hcheck : checkProof p (clientMac p v.keys) frame with _ | ok <;>
        simp only [ServerPhase.receive, hcheck]
      · exact Rule.serverOver j
      · cases ok with
        | false => exact Rule.serverOver j
        | true =>
            exact Rule.serverReturn j v hj (knows_of_checkProof hh v.keys _ frame hknown hcheck)
  | ended => exact Rule.serverOver j

/-- Every step follows a rule. -/
theorem rule_step (hh : IdealHashes p secret) (e : NetEvent) (he : Possible p secret net e) :
    Rule p secret net (net.step p secret e) := by
  cases e with
  -- A short secret or a host that is no text ends the session before anything is sent.
  | startClient i host cn =>
      rcases he with ⟨hi, hcn, hhost, hpub⟩
      change Rule p secret net (net.client i (clientOpening secret host cn))
      unfold clientOpening
      split
      · exact Rule.clientOver i
      · split
        · exact Rule.clientOver i
        · exact Rule.hello i host cn hi hcn hhost hpub
  | toClient i frame =>
      -- A frame for a session that never began changes nothing.
      rcases hi : net.clients i with _ | phase <;> simp only [Network.step, hi]
      · exact Rule.idle
      · exact rule_toClient hh i frame phase hi he
  | quitClient i => exact Rule.clientOver i
  | startServer j => exact Rule.listen j he
  | toServer j frame sn =>
      -- The nonce of the event is the one the server draws if it answers.
      rcases he with ⟨hknown, hsn, hpub, hfresh⟩
      rcases hj : net.servers j with _ | phase <;> simp only [Network.step, hj]
      · exact Rule.idle
      · exact rule_toServer hh j frame sn phase hj hknown hsn hpub hfresh
  | quitServer j => exact Rule.serverOver j

end Rules

section Functions

variable {p : Primitives} {secret : Bytes} {rxBuffer : Bytes} {turns : List Turn}
  {r : HandshakeResult}

/-- Two steps of a session in one. -/
theorem client_client (net : Network) (i : Nat) (o o' : Outcome ClientPhase) :
    (net.client i o).client i o'
      = net.client i ⟨o'.phase, o.sent ++ o'.sent, o.noted ++ o'.noted⟩ := by
  simp only [Network.client, Function.update_idem, List.append_assoc]

theorem server_server (net : Network) (j : Nat) (o o' : Outcome ServerPhase) :
    (net.server j o).server j o'
      = net.server j ⟨o'.phase, o.sent ++ o'.sent, o.noted ++ o'.noted⟩ := by
  simp only [Network.server, Function.update_idem, List.append_assoc]

theorem step_toClient (net : Network) (i : Nat) (o : Outcome ClientPhase) (frame : Bytes) :
    (net.client i o).step p secret (.toClient i frame)
      = (net.client i o).client i (o.phase.receive p secret i frame) := by
  simp only [Network.step, client_self]

theorem step_toServer (net : Network) (j : Nat) (o : Outcome ServerPhase) (frame sn : Bytes) :
    (net.server j o).step p secret (.toServer j frame sn)
      = (net.server j o).server j (o.phase.receive p secret j frame sn) := by
  simp only [Network.step, server_self]

theorem clientFinish_true {host : Bytes} {keys : Keys} {hello : Json}
    (h : clientFinish p host keys hello rxBuffer turns = .ok r) (hr : r.returned = true) :
    r.keys = some keys ∧ r.sent = [hello, proofJson (clientMac p keys)] ∧
      ∃ frame, checkProof p (serverMac p keys) frame = .ok true := by
  unfold clientFinish at h
  rw [bind_eq_ok_iff] at h
  rcases h with ⟨proof, hproof, h⟩
  rw [eq_of_dump hproof] at h
  -- Only the branch that received a frame can return true.
  split at h
  · rename_i frame _ _ _
    rw [bind_eq_ok_iff] at h
    rcases h with ⟨ok, hcheck, h⟩
    cases ok with
    | true =>
        cases h
        exact ⟨rfl, rfl, frame.val, hcheck⟩
    | false =>
        cases h
        cases hr
  · cases h
    cases hr

theorem serverFinish_true {sn peerHost : Bytes} {keys : Keys}
    (h : serverFinish p sn peerHost keys rxBuffer turns = .ok r) (hr : r.returned = true) :
    r.peerHost = peerHost ∧ r.keys = some keys ∧
      r.sent = [challengeJson sn, proofJson (serverMac p keys)] ∧
      ∃ frame, checkProof p (clientMac p keys) frame = .ok true := by
  unfold serverFinish at h
  rw [bind_eq_ok_iff] at h
  rcases h with ⟨challenge, hchallenge, h⟩
  rw [eq_of_dump hchallenge] at h
  split at h
  · rename_i frame _ _ _
    rw [bind_eq_ok_iff] at h
    rcases h with ⟨ok, hcheck, h⟩
    cases ok with
    -- Its own proof is sent after the check, so both frames are out.
    | true =>
        simp only [if_true] at h
        rw [bind_eq_ok_iff] at h
        rcases h with ⟨proof, hproof, h⟩
        rw [eq_of_dump hproof] at h
        cases h
        exact ⟨rfl, rfl, rfl, frame.val, hcheck⟩
    | false =>
        cases h
        cases hr
  · cases h
    cases hr

/-- A client handshake that returns true is three steps on the network. -/
theorem clientHandshake_run {host cn : Bytes} {helloSent : Bool}
    (h : clientHandshake p secret host cn helloSent rxBuffer turns = .ok r)
    (hr : r.returned = true) (net : Network) (i : Nat) :
    ∃ f₁ f₂ v messages, v.host = host ∧ v.clientNonce = cn ∧ r.keys = some v.keys ∧
      r.sent = messages.map Message.json ∧
      run (Network.step p secret) net [.startClient i host cn, .toClient i f₁, .toClient i f₂]
        = net.client i ⟨.ended, messages, [.clientProved i v, .clientReturned i v]⟩ := by
  unfold clientHandshake at h
  split at h
  · cases h
    cases hr
  rename_i hlong
  rw [bind_eq_ok_iff] at h
  rcases h with ⟨hello, hhello, h⟩
  -- The secret is long enough and the hello can be written, so the first step sends it.
  have hopening : clientOpening secret host cn = ⟨.waiting host cn, [.hello host cn], []⟩ := by
    rw [clientOpening, if_neg hlong, hhello]
  rw [eq_of_dump hhello] at h
  split at h
  · cases h
    cases hr
  split at h
  · rename_i frame _ _ _
    rw [bind_eq_ok_iff] at h
    rcases h with ⟨step, hstep, h⟩
    cases step with
    | rejected error reply =>
        cases h
        cases hr
    | proceeds a =>
        rcases a with ⟨sn, keys⟩
        -- The handshake returned true, so the second frame passed its check.
        rcases clientFinish_true h hr with ⟨hkeys, hsent, frame', hcheck⟩
        refine ⟨frame.val, frame', ⟨host, cn, sn, keys⟩,
          [.hello host cn, .proof (clientMac p keys)], rfl, rfl, hkeys, hsent, ?_⟩
        rw [run_cons, run_cons, run_cons, run_nil]
        rw [show net.step p secret (.startClient i host cn)
          = net.client i (clientOpening secret host cn) from rfl, hopening]
        rw [step_toClient, client_client, step_toClient, client_client]
        simp only [ClientPhase.receive, hstep, hcheck, List.nil_append, List.append_nil,
          List.cons_append]
  · cases h
    cases hr

/-- And so is a server handshake. Its second frame needs no nonce. -/
theorem serverHandshake_run {sn : Bytes}
    (h : serverHandshake p secret sn rxBuffer turns = .ok r) (hr : r.returned = true)
    (net : Network) (j : Nat) (sn' : Bytes) :
    ∃ f₁ f₂ v messages, v.host = r.peerHost ∧ v.serverNonce = sn ∧ r.keys = some v.keys ∧
      r.sent = messages.map Message.json ∧
      run (Network.step p secret) net [.startServer j, .toServer j f₁ sn, .toServer j f₂ sn']
        = net.server j ⟨.ended, messages, [.serverDrew j sn, .serverReturned j v]⟩ := by
  unfold serverHandshake at h
  split at h
  · rename_i frame _ _ _
    rw [bind_eq_ok_iff] at h
    rcases h with ⟨step, hstep, h⟩
    cases step with
    | rejected error reply =>
        cases h
        cases hr
    | proceeds a =>
        rcases a with ⟨host, cn, keys⟩
        -- The handshake returned true, so the second frame passed its check.
        rcases serverFinish_true h hr with ⟨hhost, hkeys, hsent, frame', hcheck⟩
        refine ⟨frame.val, frame', ⟨host, cn, sn, keys⟩,
          [.challenge sn, .proof (serverMac p keys)], hhost.symm, rfl, hkeys, hsent, ?_⟩
        rw [run_cons, run_cons, run_cons, run_nil]
        rw [show net.step p secret (.startServer j) = net.server j ⟨.opened, [], []⟩ from rfl]
        rw [step_toServer, server_server, step_toServer, server_server]
        simp only [ServerPhase.receive, hstep, hcheck, List.nil_append, List.cons_append]
  · cases h
    cases hr

end Functions

end Channel

end ThreadHaul
