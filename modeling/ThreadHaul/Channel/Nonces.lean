import ThreadHaul.Channel.Network
import ThreadHaul.Channel.Stream

/-!
# No Nonce Twice

Any number of channels with one shared secret, as clients and as servers, and the
encryptions that their `Send` makes.

The peer of a channel is an attacker here: what a handshake reads is part of the
event, so half of what the keys are derived from is the attacker's choice, and it
may know the secret as well. What it cannot choose is what `RandomBytes` gives to
the channel itself. Two channels of one role have session keys of their own for
that reason (`drawn_of_sendKey`), however the attacker matches its values to those
it has seen. Channels of different roles have different nonces, whatever their keys
are.

Within a channel the counter tells the encryptions apart. It advances with each
encryption that succeeds, before the frame is sent, so it does not matter whether
the frame gets out. With fewer than 2^64 calls it does not come round.

## Main definitions

* `Session`, `Sessions`: The channels, and all encryptions.
* `Sessions.step`: A channel is opened, or one of them sends or receives.
* `Admissible`: What `RandomBytes` gives is new, and the calls of `Send` are not too
  many.
* `Separate`: The invariant.

## Theorems

* `clientHandshake_keys`, `serverHandshake_keys`: The keys of a channel that is ready.
* `drawn_of_sendKey`: Two channels of one role have different keys.
* `separate_step`: Every step keeps the invariant.
* `sealed_nodup`: No two encryptions share key and nonce.
-/

namespace ThreadHaul

namespace Channel

open Runs

/-- A channel, with what `RandomBytes` gives for its handshake and how often its
    `Send` was called. -/
structure Session where
  channel : Endpoint
  drawn : Bytes
  calls : Nat

/-- The channels, in the order in which they were opened, and all encryptions. -/
structure Sessions where
  all : List Session
  sealed : List Sealed

/-- What a handshake reads is the attacker's choice. -/
inductive SessionEvent
  | connect (host cn : Bytes) (helloSent : Bool) (turns : List Turn)
  | accept (sn : Bytes) (turns : List Turn)
  | send (i : Nat) (plaintext : Bytes) (crypt : Bool) (sends : List SendResult)
  | receive (i : Nat) (turns : List Turn) (crypt : Bool)

/-- The channel after its handshake. Without keys they are empty, as at first. -/
def Endpoint.afterHandshake : Except JsonError HandshakeResult → Endpoint
  | .ok r =>
      { keys := r.keys.getD ⟨[], [], [], false⟩
        ready := r.returned
        sendSeq := 0
        recvSeq := 0
        rxBuffer := r.rxBuffer }
  | .error _ =>
      { keys := ⟨[], [], [], false⟩, ready := false, sendSeq := 0, recvSeq := 0, rxBuffer := [] }

/-- One more channel. -/
def Sessions.opened (s : Sessions) (drawn : Bytes)
    (r : Except JsonError HandshakeResult) : Sessions :=
  { s with all := s.all ++ [{ channel := .afterHandshake r, drawn := drawn, calls := 0 }] }

/-- A channel is opened, or a message is sent over one. -/
def Sessions.step (a : Aead) (p : Primitives) (secret : Bytes) (s : Sessions) :
    SessionEvent → Sessions
  | .connect host cn helloSent turns =>
      s.opened cn (clientHandshake p secret host cn helloSent [] turns)
  | .accept sn turns => s.opened sn (serverHandshake p secret sn [] turns)
  | .send i plaintext crypt sends =>
      match s.all[i]? with
      | none => s
      | some x =>
          { all := s.all.set i
              { x with
                channel := (x.channel.send a plaintext crypt sends).1
                calls := x.calls + 1 }
            sealed := s.sealed ++ x.channel.seals a plaintext crypt }
  | .receive i turns crypt =>
      match s.all[i]? with
      | none => s
      | some x =>
          { s with
            all := s.all.set i { x with channel := (x.channel.receive a turns crypt).1 } }

/-- `RandomBytes` gives 32 bytes that it did not give to another channel, and a
    channel is asked to send fewer than 2^64 times. -/
def Admissible (s : Sessions) : SessionEvent → Prop
  | .connect _ cn _ _ => cn.length = 32 ∧ cn ∉ s.all.map Session.drawn
  | .accept sn _ => sn.length = 32 ∧ sn ∉ s.all.map Session.drawn
  | .send i _ _ _ => ∀ x ∈ s.all[i]?, x.calls + 1 < 2 ^ 64
  | .receive .. => True

/-- Whether an event may happen can be decided. -/
instance (s : Sessions) : (e : SessionEvent) → Decidable (Admissible s e)
  | .connect _ cn _ _ =>
      inferInstanceAs (Decidable (cn.length = 32 ∧ cn ∉ s.all.map Session.drawn))
  | .accept sn _ =>
      inferInstanceAs (Decidable (sn.length = 32 ∧ sn ∉ s.all.map Session.drawn))
  | .send i _ _ _ => inferInstanceAs (Decidable (∀ x ∈ s.all[i]?, x.calls + 1 < 2 ^ 64))
  | .receive .. => inferInstanceAs (Decidable True)

section Handshakes

variable {p : Primitives} {secret : Bytes} {r : HandshakeResult}

/-- The keys of a client come from its own nonce and what it has read. -/
theorem clientHandshake_keys {host cn rxBuffer : Bytes} {helloSent : Bool} {turns : List Turn}
    (h : clientHandshake p secret host cn helloSent rxBuffer turns = .ok r)
    (hr : r.returned = true) :
    ∃ sn, sn.length = 32 ∧ r.keys = some (deriveKeys p secret cn sn host true) := by
  unfold clientHandshake at h
  split at h
  · cases h
    cases hr
  rw [bind_eq_ok_iff] at h
  rcases h with ⟨hello, _, h⟩
  split at h
  · cases h
    cases hr
  split at h
  · rename_i frame _ _ _
    rw [bind_eq_ok_iff] at h
    rcases h with ⟨step, hstep, h⟩
    -- Only a challenge that is accepted leads on.
    cases step with
    | rejected error reply =>
        cases h
        cases hr
    | proceeds a =>
        rcases a with ⟨sn, keys⟩
        rcases (clientChallenge_proceeds_iff p secret host cn frame.val sn keys).mp hstep with
          ⟨haccepted, rfl⟩
        exact ⟨sn, haccepted.nonce_length, (clientFinish_true h hr).1⟩
  · cases h
    cases hr

/-- And so do those of a server, whose peer has sent a nonce of 32 bytes. -/
theorem serverHandshake_keys {sn rxBuffer : Bytes} {turns : List Turn}
    (h : serverHandshake p secret sn rxBuffer turns = .ok r) (hr : r.returned = true) :
    ∃ cn host, cn.length = 32 ∧ r.keys = some (deriveKeys p secret cn sn host false) := by
  unfold serverHandshake at h
  split at h
  · rename_i frame _ _ _
    rw [bind_eq_ok_iff] at h
    rcases h with ⟨step, hstep, h⟩
    -- And only a hello that is.
    cases step with
    | rejected error reply =>
        cases h
        cases hr
    | proceeds a =>
        rcases a with ⟨host, cn, keys⟩
        rcases (serverHello_proceeds_iff p secret sn frame.val host cn keys).mp hstep with
          ⟨haccepted, rfl⟩
        exact ⟨cn, host, haccepted.nonce_length, (serverFinish_true h hr).2.1⟩
  · cases h
    cases hr

end Handshakes

section Own

variable (p : Primitives) (secret : Bytes)

/-- The keys of a channel that is ready come from two nonces of 32 bytes, one of
    which it has drawn itself. -/
def Session.Own (x : Session) : Prop :=
  x.channel.ready = true → ∃ cn sn host,
    cn.length = 32 ∧ sn.length = 32 ∧
      x.channel.keys = deriveKeys p secret cn sn host x.channel.keys.isClient ∧
      x.drawn = if x.channel.keys.isClient then cn else sn

theorem own_connect (host cn rxBuffer : Bytes) (helloSent : Bool) (turns : List Turn)
    (hlength : cn.length = 32) :
    Session.Own p secret
      ⟨.afterHandshake (clientHandshake p secret host cn helloSent rxBuffer turns), cn, 0⟩ := by
  intro hready
  -- A handshake that threw leaves an endpoint that is not ready.
  cases hresult : clientHandshake p secret host cn helloSent rxBuffer turns with
  | error e =>
      rw [hresult] at hready
      cases hready
  | ok r =>
      rw [hresult] at hready
      -- One that succeeded derived its keys from the nonce it drew.
      rcases clientHandshake_keys hresult hready with ⟨sn, hpeer, hkeys⟩
      have hsome : (Endpoint.afterHandshake (.ok r)).keys =
          deriveKeys p secret cn sn host true := by
        rw [Endpoint.afterHandshake, hkeys, Option.getD_some]
      dsimp only
      rw [hsome]
      exact ⟨cn, sn, host, hlength, hpeer, rfl, rfl⟩

theorem own_accept (sn rxBuffer : Bytes) (turns : List Turn) (hlength : sn.length = 32) :
    Session.Own p secret
      ⟨.afterHandshake (serverHandshake p secret sn rxBuffer turns), sn, 0⟩ := by
  intro hready
  -- As for the client, with the parts of the two nonces exchanged.
  cases hresult : serverHandshake p secret sn rxBuffer turns with
  | error e =>
      rw [hresult] at hready
      cases hready
  | ok r =>
      rw [hresult] at hready
      rcases serverHandshake_keys hresult hready with ⟨cn, host, hpeer, hkeys⟩
      have hsome : (Endpoint.afterHandshake (.ok r)).keys =
          deriveKeys p secret cn sn host false := by
        rw [Endpoint.afterHandshake, hkeys, Option.getD_some]
      dsimp only
      rw [hsome]
      exact ⟨cn, sn, host, hpeer, hlength, rfl, rfl⟩

variable {p secret}

/-- Two channels of one role with the same key have drawn the same nonce. -/
theorem drawn_of_sendKey (hkey : ∀ m, Function.Injective fun key => p.hmacSha256 key m)
    (hdata : ∀ key, Function.Injective (p.hmacSha256 key)) (x y : Session)
    (hx : x.Own p secret) (hy : y.Own p secret) (hreadyx : x.channel.ready = true)
    (hreadyy : y.channel.ready = true)
    (hrole : x.channel.keys.isClient = y.channel.keys.isClient)
    (hsend : x.channel.keys.sendKey = y.channel.keys.sendKey) : x.drawn = y.drawn := by
  -- Each has its keys from two nonces, one of them its own.
  rcases hx hreadyx with ⟨cn, sn, host, hcn, hsn, hkeys, hdrawn⟩
  rcases hy hreadyy with ⟨cn', sn', host', hcn', hsn', hkeys', hdrawn'⟩
  rw [hkeys, hkeys', ← hrole] at hsend
  -- The label of the role is the same, so the session keys are.
  have hsession : sessionKeyOf p secret cn sn host = sessionKeyOf p secret cn' sn' host' := by
    cases hclient : x.channel.keys.isClient with
    | true =>
        rw [hclient] at hsend
        exact hkey _ hsend
    | false =>
        rw [hclient] at hsend
        exact hkey _ hsend
  -- And so are both nonces, which have fixed lengths in what is hashed.
  have htext := hdata _ hsession
  rw [List.append_assoc, List.append_assoc, List.append_assoc, List.append_assoc] at htext
  have hnames := List.append_cancel_left htext
  rcases List.append_inj hnames (hcn.trans hcn'.symm) with ⟨hclientNonce, hrest⟩
  have hserverNonce := (List.append_inj hrest (hsn.trans hsn'.symm)).1
  rw [hdrawn, hdrawn', ← hrole, hclientNonce, hserverNonce]

end Own

section Steps

variable (p : Primitives) (secret : Bytes)

/-- The encryption was made by this channel, with a number its counter has passed. -/
def MadeBy (x : Session) (e : Sealed) : Prop :=
  x.channel.ready = true ∧ e.key = x.channel.keys.sendKey ∧
    ∃ n < x.channel.sendSeq.toNat, e.nonce = nonce (UInt64.ofNat n) x.channel.keys.isClient

/-- Each channel has drawn a nonce of its own, and each encryption has a channel that
    has made it. -/
structure Separate (s : Sessions) : Prop where
  own : ∀ x ∈ s.all, Session.Own p secret x
  drawn : (s.all.map Session.drawn).Nodup
  counted : ∀ x ∈ s.all, x.channel.sendSeq.toNat ≤ x.calls
  made : ∀ e ∈ s.sealed, ∃ (i : Nat) (x : Session), s.all[i]? = some x ∧ MadeBy x e
  once : (s.sealed.map fun e => (e.key, e.nonce)).Nodup

variable {p secret} {s : Sessions}

/-- One more channel, that has drawn what no other has. -/
theorem separate_opened (h : Separate p secret s) (x : Session) (hown : x.Own p secret)
    (hseq : x.channel.sendSeq.toNat ≤ x.calls) (hfresh : x.drawn ∉ s.all.map Session.drawn) :
    Separate p secret { s with all := s.all ++ [x] } where
  own := by
    rw [List.forall_mem_append, List.forall_mem_singleton]
    exact ⟨h.own, hown⟩
  drawn := by
    rw [List.map_append, List.map_singleton]
    exact List.nodup_append_comm.mp (List.nodup_cons.mpr ⟨hfresh, h.drawn⟩)
  counted := by
    rw [List.forall_mem_append, List.forall_mem_singleton]
    exact ⟨h.counted, hseq⟩
  -- The earlier sessions keep their indices.
  made := by
    intro e he
    rcases h.made e he with ⟨i, y, hy, hmade⟩
    refine ⟨i, y, ?_, hmade⟩
    rw [List.getElem?_append_left (List.getElem?_eq_some_iff.mp hy).1]
    exact hy
  once := h.once

/-- A channel whose keys stay, and whose counter does not go back. -/
theorem separate_set (h : Separate p secret s) (i : Nat) (x y : Session)
    (hx : s.all[i]? = some x) (hready : y.channel.ready = x.channel.ready)
    (hkeys : y.channel.keys = x.channel.keys) (hdrawn : y.drawn = x.drawn)
    (hforth : x.channel.sendSeq.toNat ≤ y.channel.sendSeq.toNat)
    (hseq : y.channel.sendSeq.toNat ≤ y.calls) :
    Separate p secret { s with all := s.all.set i y } where
  own := by
    intro z hz
    rcases List.mem_or_eq_of_mem_set hz with hz | rfl
    · exact h.own z hz
    · intro hr
      rw [hready] at hr
      rw [hkeys, hdrawn]
      exact h.own x (List.mem_of_getElem? hx) hr
  drawn := by
    rcases List.getElem?_eq_some_iff.mp hx with ⟨hi, hxi⟩
    rw [List.map_set, hdrawn, ← List.map_set, ← hxi, List.set_getElem_self]
    exact h.drawn
  counted := by
    intro z hz
    rcases List.mem_or_eq_of_mem_set hz with hz | rfl
    · exact h.counted z hz
    · exact hseq
  made := by
    intro e he
    rcases h.made e he with ⟨j, z, hz, hr, hkey, n, hn, hnonce⟩
    -- What the changed channel has made, it has made still.
    by_cases hji : j = i
    · rw [hji, hx] at hz
      rw [← Option.some.inj hz] at hr hkey hn hnonce
      refine ⟨i, y, ?_, hready.trans hr, ?_, n, by omega, ?_⟩
      · rw [List.getElem?_set_self (List.getElem?_eq_some_iff.mp hx).1]
      · rw [hkeys, hkey]
      · rw [hkeys, hnonce]
    · refine ⟨j, z, ?_, hr, hkey, n, hn, hnonce⟩
      rw [List.getElem?_set_ne (Ne.symm hji)]
      exact hz
  once := h.once

/-- `Send` makes an encryption and counts it, or does nothing. -/
theorem send_cases (a : Aead) (c : Endpoint) (plaintext : Bytes) (crypt : Bool)
    (sends : List SendResult) :
    ((c.send a plaintext crypt sends).1 = c ∧ c.seals a plaintext crypt = []) ∨
      (c.ready = true ∧
        (c.send a plaintext crypt sends).1 = { c with sendSeq := c.sendSeq + 1 } ∧
          ∃ e, c.seals a plaintext crypt = [e] ∧ e.key = c.keys.sendKey ∧
            e.nonce = nonce c.sendSeq c.keys.isClient) := by
  rcases c with ⟨keys, ready, sendSeq, recvSeq, rxBuffer⟩
  -- A channel that is not ready encrypts nothing, and neither does a failed AES call.
  cases ready with
  | false => exact Or.inl ⟨rfl, rfl⟩
  | true =>
      cases crypt with
      | false => exact Or.inl ⟨rfl, rfl⟩
      | true => exact Or.inr ⟨rfl, rfl, _, rfl, rfl, rfl⟩

/-- `Receive` leaves keys and the counter of `Send` alone. -/
theorem receive_keeps (a : Aead) (c : Endpoint) (turns : List Turn) (crypt : Bool) :
    (c.receive a turns crypt).1.ready = c.ready ∧ (c.receive a turns crypt).1.keys = c.keys ∧
      (c.receive a turns crypt).1.sendSeq = c.sendSeq := by
  cases hready : c.ready with
  | false =>
      have hbroken : c.receive a turns crypt = (c, .broken) := by
        rw [Endpoint.receive, hready]
        rfl
      rw [hbroken]
      exact ⟨hready, rfl, rfl⟩
  | true =>
      rcases receive_spec a c turns crypt hready with ⟨_, _, _, _, h⟩ | ⟨_, _, h⟩ <;>
        rw [h] <;> exact ⟨hready, rfl, rfl⟩

/-- What a channel is about to use was not used before. -/
theorem notMem_sealed (hkey : ∀ m, Function.Injective fun key => p.hmacSha256 key m)
    (hdata : ∀ key, Function.Injective (p.hmacSha256 key)) (h : Separate p secret s) (i : Nat)
    (x : Session) (hx : s.all[i]? = some x) (hready : x.channel.ready = true) :
    (x.channel.keys.sendKey, nonce x.channel.sendSeq x.channel.keys.isClient) ∉
      s.sealed.map fun e => (e.key, e.nonce) := by
  intro hmem
  rcases List.mem_map.mp hmem with ⟨e, he, hpair⟩
  rcases Prod.mk.inj hpair with ⟨hsame, hnonce⟩
  rcases h.made e he with ⟨j, y, hy, hreadyy, hmade, n, hn, hmadeNonce⟩
  rcases nonce_inj (hmadeNonce.symm.trans hnonce) with ⟨hseq, hrole⟩
  -- The nonce tells the role, and the key then tells what was drawn.
  have hdrawn := drawn_of_sendKey hkey hdata y x (h.own y (List.mem_of_getElem? hy))
    (h.own x (List.mem_of_getElem? hx)) hreadyy hready hrole (hmade.symm.trans hsame)
  have hlookup : (s.all.map Session.drawn)[j]? = (s.all.map Session.drawn)[i]? := by
    rw [List.getElem?_map, List.getElem?_map, hy, hx, Option.map_some, Option.map_some, hdrawn]
  have hin : j < (s.all.map Session.drawn).length := by
    rw [List.length_map]
    exact (List.getElem?_eq_some_iff.mp hy).1
  have hji : j = i := (List.getElem?_inj hin h.drawn).mp hlookup
  -- So it is the same channel, whose counter has passed that number.
  rw [hji, hx] at hy
  rw [← Option.some.inj hy, ← hseq, UInt64.toNat_ofNat'] at hn
  have hle := Nat.mod_le n (2 ^ 64)
  omega

theorem separate_send (a : Aead) (hkey : ∀ m, Function.Injective fun key => p.hmacSha256 key m)
    (hdata : ∀ key, Function.Injective (p.hmacSha256 key)) (h : Separate p secret s) (i : Nat)
    (plaintext : Bytes) (crypt : Bool) (sends : List SendResult)
    (hcalls : ∀ x ∈ s.all[i]?, x.calls + 1 < 2 ^ 64) :
    Separate p secret (s.step a p secret (.send i plaintext crypt sends)) := by
  cases hx : s.all[i]? with
  | none =>
      have hidle : s.step a p secret (.send i plaintext crypt sends) = s := by
        rw [Sessions.step, hx]
      rw [hidle]
      exact h
  | some x =>
      have hcounted := h.counted x (List.mem_of_getElem? hx)
      have hfew := hcalls x hx
      have hstep : s.step a p secret (.send i plaintext crypt sends) =
          { all := s.all.set i
              { x with
                channel := (x.channel.send a plaintext crypt sends).1
                calls := x.calls + 1 }
            sealed := s.sealed ++ x.channel.seals a plaintext crypt } := by
        rw [Sessions.step, hx]
      rw [hstep]
      -- Nothing is encrypted, or one message under the next number.
      rcases send_cases a x.channel plaintext crypt sends with ⟨hsame, hnone⟩ |
        ⟨hready, hnext, e, hseals, hmade, hnonce⟩
      · rw [hsame, hnone, List.append_nil]
        exact separate_set h i x _ hx rfl rfl rfl (Nat.le_refl _) (by dsimp only; omega)
      · -- The counter does not come round.
        have hsucc : (x.channel.sendSeq + 1).toNat = x.channel.sendSeq.toNat + 1 := by
          rw [UInt64.toNat_add, UInt64.toNat_one]
          omega
        rw [hnext, hseals]
        have hset := separate_set h i x
          { x with
            channel := { x.channel with sendSeq := x.channel.sendSeq + 1 }
            calls := x.calls + 1 } hx rfl rfl rfl (by dsimp only; omega) (by dsimp only; omega)
        refine ⟨hset.own, hset.drawn, hset.counted, ?_, ?_⟩
        · rw [List.forall_mem_append, List.forall_mem_singleton]
          refine ⟨hset.made, i, _,
            List.getElem?_set_self (List.getElem?_eq_some_iff.mp hx).1, hready, hmade,
            x.channel.sendSeq.toNat, ?_, ?_⟩
          · dsimp only
            omega
          · rw [UInt64.ofNat_toNat]
            exact hnonce
        · rw [List.map_append, List.map_singleton, hmade, hnonce]
          refine List.nodup_append_comm.mp (List.nodup_cons.mpr ⟨?_, h.once⟩)
          exact notMem_sealed hkey hdata h i x hx hready

theorem separate_receive (a : Aead) (h : Separate p secret s) (i : Nat) (turns : List Turn)
    (crypt : Bool) : Separate p secret (s.step a p secret (.receive i turns crypt)) := by
  cases hx : s.all[i]? with
  | none =>
      have hidle : s.step a p secret (.receive i turns crypt) = s := by
        rw [Sessions.step, hx]
      rw [hidle]
      exact h
  | some x =>
      have hstep : s.step a p secret (.receive i turns crypt) =
          { s with
            all := s.all.set i { x with channel := (x.channel.receive a turns crypt).1 } } := by
        rw [Sessions.step, hx]
      rw [hstep]
      rcases receive_keeps a x.channel turns crypt with ⟨hready, hkeys, hseq⟩
      have hcounted := h.counted x (List.mem_of_getElem? hx)
      -- A receive touches the peer's counter and the buffer alone.
      refine separate_set h i x _ hx hready hkeys rfl ?_ ?_
      · rw [hseq]
      · rw [hseq]
        exact hcounted

theorem separate_step (a : Aead) (hkey : ∀ m, Function.Injective fun key => p.hmacSha256 key m)
    (hdata : ∀ key, Function.Injective (p.hmacSha256 key)) (s : Sessions) (e : SessionEvent)
    (he : Admissible s e) (h : Separate p secret s) : Separate p secret (s.step a p secret e) := by
  cases e with
  | connect host cn helloSent turns =>
      refine separate_opened h _ (own_connect p secret host cn [] helloSent turns he.1) ?_ he.2
      cases clientHandshake p secret host cn helloSent [] turns <;> exact Nat.le_refl 0
  | accept sn turns =>
      refine separate_opened h _ (own_accept p secret sn [] turns he.1) ?_ he.2
      cases serverHandshake p secret sn [] turns <;> exact Nat.le_refl 0
  | send i plaintext crypt sends => exact separate_send a hkey hdata h i plaintext crypt sends he
  | receive i turns crypt => exact separate_receive a h i turns crypt

end Steps

/-- In every run no two encryptions share key and nonce. -/
theorem sealed_nodup (a : Aead) (p : Primitives) (secret : Bytes)
    (hkey : ∀ m, Function.Injective fun key => p.hmacSha256 key m)
    (hdata : ∀ key, Function.Injective (p.hmacSha256 key)) (l : List SessionEvent)
    (hl : Along (Sessions.step a p secret) Admissible ⟨[], []⟩ l) :
    ((run (Sessions.step a p secret) ⟨[], []⟩ l).sealed.map fun e => (e.key, e.nonce)).Nodup := by
  have hstart : Separate p secret ⟨[], []⟩ :=
    ⟨fun x hx => absurd hx List.not_mem_nil, List.nodup_nil,
      fun x hx => absurd hx List.not_mem_nil, fun e he => absurd he List.not_mem_nil,
      List.nodup_nil⟩
  exact (run_invariant_along _ Admissible (Separate p secret) (separate_step a hkey hdata) l _
    hl hstart).once

section Example

/-- The session key of the host `lab`, if texts are only put together. -/
def labKey : Bytes := ascii "keys" ++ List.replicate 32 8 ++ List.replicate 32 9 ++ ascii "lab"

/-- A keyed hash that puts key and text together, and the four frames of a
    handshake. -/
def labPrimitives : Primitives where
  sha256 _ := []
  hmacSha256 key data := key ++ data
  parse
    | [0] => helloJson (ascii "lab") (List.replicate 32 8)
    | [1] => challengeJson (List.replicate 32 9)
    | [2] => proofJson (labKey ++ ascii "client-proof")
    | [3] => proofJson (labKey ++ ascii "server-proof")
    | _ => .discarded

/-- A frame of one byte that arrives as a whole. -/
def byteArrives (b : UInt8) : Turn :=
  .arrived ⟨encodeFrame [b], by rw [length_encodeFrame]; omega, by
    rw [length_encodeFrame]; exact Nat.le_of_ble_eq_true rfl⟩

/-- A client and a server that are ready, three messages, and one encryption that
    fails. -/
def labSessions : List SessionEvent :=
  [.connect (ascii "lab") (List.replicate 32 8) true [byteArrives 1, byteArrives 3],
    .accept (List.replicate 32 9) [byteArrives 0, byteArrives 2],
    .send 0 [] true [.socketError], .send 0 [] false [], .send 0 [] true [], .send 1 [] true []]

theorem sealed_nodup_lab :
    ((run (Sessions.step prefixAead labPrimitives (ascii "a secret of the laboratory")) ⟨[], []⟩
        labSessions).sealed.map fun e => (e.key, e.nonce)).Nodup ∧
      (run (Sessions.step prefixAead labPrimitives (ascii "a secret of the laboratory")) ⟨[], []⟩
        labSessions).sealed.length = 3 := by
  refine ⟨sealed_nodup prefixAead labPrimitives _ ?_ ?_ labSessions ?_, ?_⟩
  · intro m k k' h
    exact List.append_cancel_right h
  · intro k m m' h
    exact List.append_cancel_left h
  · decide +kernel
  · decide +kernel

end Example

end Channel

end ThreadHaul
