import ThreadHaul.Channel.Segmentation
import ThreadHaul.Channel.Stream

/-!
# Refused Messages

What becomes of the messages of an authenticated channel when some of them are too
long for a frame.

`Send` encrypts, advances its counter, and only then finds that the frame is too
long. The peer counts the frames that arrive. So after a refused message the two
counters differ, and every later frame is opened under the wrong nonce. `InStep`
excludes this: no message is sent after a refused one. The counters have 64 bits, so
they agree again after `2 ^ 64` refused messages.

The frames themselves arrive if the segments of the stream fit, whatever they hold.
`delivers_iff_inStep` puts the two together.

## Main definitions

* `SendCall`, `Endpoint.sendAll`: Calls of `Send`, one after the other.
* `wire`, `accepted`: The bytes written, and the messages whose `Send` returned true.
* `receives`: The results of successive calls of `Receive`.
* `Paired`, `Authentic`: The two ends after a handshake, and what the cipher promises.
* `DeliversMessages`: The calls of `Receive` yield exactly the messages.
* `InStep`: No message is sent after a refused one.

## Theorems

* `receives_eq`: The calls of `Receive` open what the calls of `ReceiveFrame` yield.
* `deliversFrom_unique`: The frames that are received are those of the stream.
* `opened_frames_iff`: When the frames open.
* `delivers_iff_inStep`: Every sequence of calls.
-/

namespace ThreadHaul

namespace Channel

open Framing

/-- A call of `Send`: the message, whether the cryptography library succeeds, and what
    the calls of `send` come to. -/
structure SendCall where
  plaintext : Bytes
  crypt : Bool := true
  sends : List SendResult

/-- The encryption of the message is too long for a frame. -/
def SendCall.oversized (s : SendCall) : Bool :=
  s.crypt && decide (kMaxFrame < s.plaintext.length + 16)

/-- The message gets into a frame. -/
def SendCall.sent (s : SendCall) : Bool := s.crypt && !s.oversized

section Calls

variable (a : Aead)

/-- What successive calls of `Send` write and return. -/
def Endpoint.sendAll : Endpoint → List SendCall → List (Bytes × Bytes × Option Bool)
  | _, [] => []
  | c, s :: calls =>
      let r := c.send a s.plaintext s.crypt s.sends
      (s.plaintext, r.2) :: Endpoint.sendAll r.1 calls

/-- The bytes written. -/
def wire (c : Endpoint) (calls : List SendCall) : Bytes :=
  (c.sendAll a calls).flatMap fun r => r.2.1

/-- The messages whose `Send` returned true. -/
def accepted (c : Endpoint) (calls : List SendCall) : List Bytes :=
  ((c.sendAll a calls).filter fun r => r.2.2 == some true).map Prod.fst

/-- The socket works: no call of `send` fails, and every call of `Send` returns. -/
structure Works (c : Endpoint) (calls : List SendCall) : Prop where
  sends : ∀ s ∈ calls, SendResult.socketError ∉ s.sends
  returns : ∀ r ∈ c.sendAll a calls, r.2.2 ≠ none

/-- The results of successive calls of `Receive`. -/
def receives : Nat → Endpoint → List Turn → List Received
  | 0, _, _ => []
  | k + 1, c, turns =>
      (c.receive a turns true).2 ::
        receives k (c.receive a turns true).1 (receiveFrame c.rxBuffer turns).2.2

/-- The call has returned, and has not timed out. -/
def Received.settled : Received → Bool
  | .message _ | .broken => true
  | .timeout | .waiting => false

/-- From some number of calls on, the ones that do not time out have yielded exactly
    the messages. -/
def DeliversMessages (peer : Endpoint) (turns : List Turn) (messages : List Bytes) : Prop :=
  ∃ n, ∀ k, n ≤ k →
    (receives a k peer turns).filter Received.settled = messages.map Received.message

/-- What the cipher promises for a key: a tag of 16 bytes, and that a frame does not
    open under the nonce of another number. -/
structure Authentic (key : Bytes) : Prop where
  length : ∀ n plaintext, (a.encrypt key n plaintext).length = plaintext.length + 16
  rejects : ∀ s t d plaintext, s ≠ t →
    a.decrypt key (nonce t d) (a.encrypt key (nonce s d) plaintext) = none

end Calls

/-- An end and its peer: they are ready, they share the key of this direction, and they
    have the same number next. -/
structure Paired (c peer : Endpoint) : Prop where
  ready : c.ready = true
  peerReady : peer.ready = true
  key : peer.keys.recvKey = c.keys.sendKey
  direction : peer.keys.isClient = !c.keys.isClient
  seq : peer.recvSeq = c.sendSeq

/-- No message is sent after a refused one, or after a multiple of `2 ^ 64` of them. -/
def InStep (calls : List SendCall) : Prop :=
  ∀ before s after, calls = before ++ s :: after → s.sent = true →
    UInt64.ofNat (before.countP SendCall.oversized) = 0

section Opening

variable (a : Aead)

/-- What `Receive` makes of what `ReceiveFrame` returns. -/
def openOne (c : Endpoint) : ReceiveResult → Endpoint × Received
  | .received f =>
      match a.decrypt c.keys.recvKey (nonce c.recvSeq (!c.keys.isClient)) f.val with
      | none => (c, .broken)
      | some plaintext => ({ c with recvSeq := c.recvSeq + 1 }, .message plaintext)
  | .timeout => (c, .timeout)
  | .broken => (c, .broken)
  | .waiting => (c, .waiting)

/-- What the calls of `Receive` come to, one after the other. -/
def opened : Endpoint → List ReceiveResult → List Received
  | _, [] => []
  | c, result :: results => (openOne a c result).2 :: opened (openOne a c result).1 results

variable {a}

/-- What opens a frame does not look at the receive buffer. -/
theorem openOne_rxBuffer (c : Endpoint) (rxBuffer : Bytes) (result : ReceiveResult) :
    openOne a { c with rxBuffer := rxBuffer } result
      = ({ (openOne a c result).1 with rxBuffer := rxBuffer }, (openOne a c result).2) := by
  cases result with
  | received f =>
      simp only [openOne]
      cases a.decrypt c.keys.recvKey (nonce c.recvSeq (!c.keys.isClient)) f.val with
      | none => rfl
      | some plaintext => rfl
  | timeout => rfl
  | broken => rfl
  | waiting => rfl

theorem opened_rxBuffer (c : Endpoint) (rxBuffer : Bytes) (results : List ReceiveResult) :
    opened a { c with rxBuffer := rxBuffer } results = opened a c results := by
  induction results generalizing c with
  | nil => rfl
  | cons result results ih =>
      rw [opened, opened, openOne_rxBuffer]
      exact congrArg _ (ih (openOne a c result).1)

/-- A call of `Receive` opens what the call of `ReceiveFrame` yields. -/
theorem receive_eq (c : Endpoint) (hready : c.ready = true) (turns : List Turn) :
    c.receive a turns true =
      ({ (openOne a c (receiveFrame c.rxBuffer turns).1).1 with
          rxBuffer := (receiveFrame c.rxBuffer turns).2.1 },
        (openOne a c (receiveFrame c.rxBuffer turns).1).2) := by
  have hnot : ¬ (!c.ready) = true := by
    rw [hready]
    exact Bool.false_ne_true
  unfold Endpoint.receive
  rw [if_neg hnot]
  rcases receiveFrame c.rxBuffer turns with ⟨result, rxBuffer, turns'⟩
  -- The buffer is stored in each branch; only a frame goes to the cipher.
  cases result with
  | received f =>
      simp only [openOne, Bool.not_true, Bool.false_eq_true, if_false]
      cases a.decrypt c.keys.recvKey (nonce c.recvSeq (!c.keys.isClient)) f.val with
      | none => rfl
      | some plaintext => rfl
  | timeout => rfl
  | broken => rfl
  | waiting => rfl

theorem ready_openOne (c : Endpoint) (result : ReceiveResult) :
    (openOne a c result).1.ready = c.ready := by
  cases result with
  | received f =>
      simp only [openOne]
      cases a.decrypt c.keys.recvKey (nonce c.recvSeq (!c.keys.isClient)) f.val with
      | none => rfl
      | some plaintext => rfl
  | timeout => rfl
  | broken => rfl
  | waiting => rfl

/-- Successive calls of `Receive` open what successive calls of `ReceiveFrame` yield. -/
theorem receives_eq (k : Nat) (c : Endpoint) (hready : c.ready = true) (turns : List Turn) :
    receives a k c turns = opened a c (calls k c.rxBuffer turns) := by
  induction k generalizing c turns with
  | zero => rfl
  | succ k ih =>
      have hrest := ih
        { (openOne a c (receiveFrame c.rxBuffer turns).1).1 with
          rxBuffer := (receiveFrame c.rxBuffer turns).2.1 }
        ((ready_openOne c _).trans hready) (receiveFrame c.rxBuffer turns).2.2
      rw [opened_rxBuffer] at hrest
      rw [receives, receive_eq c hready]
      exact congrArg _ hrest

/-- A call of `Receive` settles exactly if the call of `ReceiveFrame` does, and one that
    does not changes nothing. -/
theorem settled_openOne (c : Endpoint) (result : ReceiveResult) :
    (openOne a c result).2.settled = result.settled ∧
      (result.settled = false → (openOne a c result).1 = c) := by
  cases result with
  | received f =>
      refine ⟨?_, fun h => Bool.noConfusion h⟩
      simp only [openOne]
      cases a.decrypt c.keys.recvKey (nonce c.recvSeq (!c.keys.isClient)) f.val with
      | none => rfl
      | some plaintext => rfl
  | timeout => exact ⟨rfl, fun _ => rfl⟩
  | broken => exact ⟨rfl, fun h => Bool.noConfusion h⟩
  | waiting => exact ⟨rfl, fun _ => rfl⟩

theorem filter_opened (c : Endpoint) (results : List ReceiveResult) :
    (opened a c results).filter Received.settled
      = opened a c (results.filter ReceiveResult.settled) := by
  induction results generalizing c with
  | nil => rfl
  | cons result results ih =>
      rcases settled_openOne (a := a) c result with ⟨hsame, hkeeps⟩
      -- An unsettled result leaves the channel as it was, so it can be left out.
      cases hsettled : result.settled with
      | true =>
          rw [List.filter_cons_of_pos hsettled, opened, opened,
            List.filter_cons_of_pos (hsame.trans hsettled), ih]
      | false =>
          rw [List.filter_cons_of_neg (Bool.eq_false_iff.mp hsettled), opened,
            List.filter_cons_of_neg (Bool.eq_false_iff.mp (hsame.trans hsettled)), ih,
            hkeeps hsettled]

theorem length_opened (c : Endpoint) (results : List ReceiveResult) :
    (opened a c results).length = results.length := by
  induction results generalizing c with
  | nil => rfl
  | cons result results ih => exact congrArg Nat.succ (ih (openOne a c result).1)

/-- Messages come from frames. -/
theorem frames_of_opened (c : Endpoint) (results : List ReceiveResult) (messages : List Bytes)
    (h : opened a c results = messages.map Received.message) :
    ∃ frames : List Frame, results = frames.map ReceiveResult.received := by
  induction results generalizing c messages with
  | nil => exact ⟨[], rfl⟩
  | cons result results ih =>
      cases messages with
      | nil => cases h
      | cons m messages =>
          rcases List.cons.inj h with ⟨hhead, htail⟩
          rcases ih _ messages htail with ⟨frames, rfl⟩
          -- A message can only come from a frame.
          cases result with
          | received f => exact ⟨f :: frames, rfl⟩
          | timeout => cases hhead
          | broken => cases hhead
          | waiting => cases hhead

end Opening

section Frames

theorem eq_nil_of_waiting (rxBuffer : Bytes) (got : List Frame)
    (htake : takeFrame rxBuffer = .incomplete) (h : DeliversFrom rxBuffer [] got) : got = [] := by
  rcases h with ⟨n, hn⟩
  have hall := hn n (Nat.le_refl n)
  rw [calls_waiting n rxBuffer htake, List.filter_replicate_of_neg Bool.false_ne_true] at hall
  exact List.map_eq_nil_iff.mp hall.symm

/-- A frame in the buffer is the first that is received. -/
theorem head_of_delivers (rxBuffer : Bytes) (turns : List Turn) (f : Frame) (rest : Bytes)
    (got : List Frame) (htake : takeFrame rxBuffer = .message f rest)
    (h : DeliversFrom rxBuffer turns got) : ∃ got', got = f :: got' := by
  rcases h with ⟨n, hn⟩
  have hfirst := hn (n + 1) (by omega)
  rw [calls_frame n rxBuffer turns f rest htake, List.filter_cons_of_pos rfl] at hfirst
  cases got with
  | nil => cases hfirst
  | cons g got =>
      cases (List.cons.inj hfirst).1
      exact ⟨got, rfl⟩

/-- The frames that are received from a stream are those of the stream. -/
theorem deliversFrom_unique (rxBuffer : Bytes) (turns : List Turn) (frames got : List Frame)
    (hopen : ∀ t ∈ turns, t ≠ .failed)
    (hall : rxBuffer ++ delivered turns = frameCode.stream frames)
    (h : DeliversFrom rxBuffer turns got) : got = frames := by
  -- Every step uses up a frame or a turn.
  induction hn : turns.length + frames.length using Nat.strong_induction_on
    generalizing rxBuffer turns frames got with
  | _ n ih =>
      by_cases hf : ∃ f l, frames = f :: l ∧ (frameCode.encode f).length ≤ rxBuffer.length
      · -- The first frame is in the buffer.
        rcases hf with ⟨f, l, rfl, hle⟩
        rcases frameCode.decode_eq_message f l rxBuffer _ hall hle with ⟨rest, htake, hrx, hrest⟩
        rcases head_of_delivers rxBuffer turns f rest got htake h with ⟨got', rfl⟩
        rw [List.length_cons] at hn
        rw [deliversFrom_frame rxBuffer turns f rest got' htake] at h
        rw [ih _ (by omega) rest turns l got' hopen hrest h rfl]
      · have hlt : ∀ f l, frames = f :: l → rxBuffer.length < (frameCode.encode f).length := by
          intro f l heq
          by_contra hge
          exact hf ⟨f, l, heq, by omega⟩
        have htake : takeFrame rxBuffer = .incomplete :=
          frameCode.decode_eq_incomplete frames rxBuffer _ hall hlt
        cases turns with
        | nil =>
            -- Nothing is left to arrive, so a frame would be in the buffer.
            rw [eq_nil_of_waiting rxBuffer got htake h]
            cases frames with
            | nil => rfl
            | cons f l =>
                have hshort := hlt f l rfl
                have hlen := congrArg List.length hall
                rw [frameCode.stream_cons, List.length_append, List.length_append] at hlen
                simp only [delivered, List.flatMap_nil, List.length_nil] at hlen
                omega
        | cons t turns =>
            have hopen' : ∀ t ∈ turns, t ≠ .failed :=
              fun t' ht' => hopen t' (List.mem_cons_of_mem _ ht')
            rw [List.length_cons] at hn
            cases t with
            | timeout =>
                rw [deliversFrom_timeout rxBuffer turns got htake] at h
                exact ih _ (by omega) rxBuffer turns frames got hopen' hall h rfl
            | failed => exact absurd rfl (hopen _ (List.mem_cons_self ..))
            | arrived chunk =>
                by_cases hguard : (rxBuffer ++ chunk.bytes).length ≤ kMaxFrame + 4
                · rw [deliversFrom_arrived rxBuffer turns chunk got htake hguard] at h
                  exact ih _ (by omega) (rxBuffer ++ chunk.bytes) turns frames got hopen'
                    ((List.append_assoc ..).trans hall) h rfl
                · exact absurd h
                    (not_deliversFrom_overflow rxBuffer turns chunk got htake (by omega))

/-- The calls of `Receive` yield messages exactly if the segments fit and the frames of
    the stream open to these messages. -/
theorem deliversMessages_iff (a : Aead) (peer : Endpoint) (hready : peer.ready = true)
    (turns : List Turn) (frames : List Frame) (messages : List Bytes)
    (hopen : ∀ t ∈ turns, t ≠ .failed)
    (hall : peer.rxBuffer ++ delivered turns = frameCode.stream frames) :
    DeliversMessages a peer turns messages ↔
      FitsFrom peer.rxBuffer.length turns frames ∧
        opened a peer (frames.map ReceiveResult.received) = messages.map Received.message := by
  have hcalls : ∀ k, (receives a k peer turns).filter Received.settled
      = opened a peer ((calls k peer.rxBuffer turns).filter ReceiveResult.settled) := by
    intro k
    rw [receives_eq k peer hready turns, filter_opened]
  rw [← deliversFrom_iff peer.rxBuffer turns frames hopen hall]
  constructor
  · rintro ⟨n, hn⟩
    -- The calls that settle after `n` calls are all there will ever be.
    rcases frames_of_opened peer _ messages ((hcalls n).symm.trans (hn n (Nat.le_refl n))) with
      ⟨got, hgot⟩
    have hdelivers : DeliversFrom peer.rxBuffer turns got := by
      refine ⟨n, fun k hk => ?_⟩
      have hprefix := (calls_mono n k peer.rxBuffer turns hk).filter ReceiveResult.settled
      have hsame : ((calls n peer.rxBuffer turns).filter ReceiveResult.settled).length
          = ((calls k peer.rxBuffer turns).filter ReceiveResult.settled).length := by
        rw [← length_opened (a := a) peer, ← length_opened (a := a) peer, ← hcalls, ← hcalls,
          hn n (Nat.le_refl n), hn k hk]
      rw [← hprefix.eq_of_length hsame, hgot]
    rw [deliversFrom_unique peer.rxBuffer turns frames got hopen hall hdelivers] at hgot hdelivers
    refine ⟨hdelivers, ?_⟩
    rw [← hgot, ← hcalls]
    exact hn n (Nat.le_refl n)
  · rintro ⟨⟨n, hn⟩, hopens⟩
    refine ⟨n, fun k hk => ?_⟩
    rw [hcalls, hn k hk, hopens]

end Frames

section Sending

variable (a : Aead)

/-- The frames of the messages that are sent. -/
def framesOf : Endpoint → List SendCall → List Frame
  | _, [] => []
  | c, s :: calls =>
      if !s.crypt then framesOf c calls
      else
        let rest := framesOf { c with sendSeq := c.sendSeq + 1 } calls
        let sealed := a.encrypt c.keys.sendKey (nonce c.sendSeq c.keys.isClient) s.plaintext
        if h : sealed.length ≤ kMaxFrame then ⟨sealed, h⟩ :: rest else rest

/-- `InStep`, when the counters of the two ends differ already. -/
def InStepFrom (ahead : UInt64) (calls : List SendCall) : Prop :=
  ∀ before s after, calls = before ++ s :: after → s.sent = true →
    ahead + UInt64.ofNat (before.countP SendCall.oversized) = 0

variable {a}

theorem inStepFrom_cons (ahead : UInt64) (s : SendCall) (calls : List SendCall) :
    InStepFrom ahead (s :: calls) ↔
      (s.sent = true → ahead = 0) ∧
        InStepFrom (ahead + if s.oversized then 1 else 0) calls := by
  -- The first message is counted before those after it.
  have hcount : ∀ before : List SendCall,
      ahead + UInt64.ofNat ((s :: before).countP SendCall.oversized)
        = ahead + (if s.oversized then 1 else 0)
          + UInt64.ofNat (before.countP SendCall.oversized) := by
    intro before
    rw [List.countP_cons, UInt64.ofNat_add, UInt64.add_assoc,
      UInt64.add_comm (UInt64.ofNat (before.countP SendCall.oversized))]
    congr 2
    split_ifs <;> rfl
  constructor
  · intro h
    constructor
    · intro hsent
      have hfirst := h [] s calls rfl hsent
      exact (UInt64.add_zero ahead).symm.trans hfirst
    · intro before s' after heq hsent
      rw [← hcount]
      exact h (s :: before) s' after (by rw [heq, List.cons_append]) hsent
  · intro h before s' after heq hsent
    cases before with
    | nil =>
        rw [(List.cons.inj heq).1] at h
        exact (UInt64.add_zero ahead).trans (h.1 hsent)
    | cons b before =>
        rcases List.cons.inj heq with ⟨rfl, htail⟩
        rw [hcount]
        exact h.2 before s' after htail hsent

/-- The loop of `SendFrame` writes everything, if it returns and the socket works. -/
theorem sendLoop_works (data : Bytes) (sends : List SendResult)
    (hworks : SendResult.socketError ∉ sends) (hreturns : (sendLoop data sends).2 ≠ none) :
    (sendLoop data sends).2 = some true := by
  induction sends generalizing data with
  | nil =>
      cases data with
      | nil => rfl
      | cons b data => exact absurd rfl hreturns
  | cons r sends ih =>
      cases data with
      | nil => rfl
      | cons b data =>
          rw [List.mem_cons, not_or] at hworks
          -- A socket error is excluded; any other answer goes on with what is left.
          cases r with
          | socketError => exact absurd rfl hworks.1
          | accepted r => exact ih _ hworks.2 hreturns

/-- Nothing is made of a message that cannot be encrypted; otherwise it is too long, or it
    is sent. -/
theorem SendCall.cases (s : SendCall) :
    (s.crypt = false ∧ s.oversized = false ∧ s.sent = false) ∨
      (s.crypt = true ∧ s.oversized = true ∧ s.sent = false) ∨
      (s.crypt = true ∧ s.oversized = false ∧ s.sent = true) := by
  unfold SendCall.sent
  cases hcrypt : s.crypt with
  | false => exact Or.inl ⟨rfl, by rw [SendCall.oversized, hcrypt, Bool.false_and], rfl⟩
  | true =>
      cases s.oversized with
      | true => exact Or.inr (Or.inl ⟨rfl, rfl, rfl⟩)
      | false => exact Or.inr (Or.inr ⟨rfl, rfl, rfl⟩)

theorem oversized_iff (s : SendCall) (hcrypt : s.crypt = true) :
    s.oversized = true ↔ kMaxFrame < s.plaintext.length + 16 := by
  rw [SendCall.oversized, hcrypt, Bool.true_and, decide_eq_true_iff]

-- The frames, by what becomes of the first message.
theorem framesOf_cons_of_not_crypt (c : Endpoint) (s : SendCall) (calls : List SendCall)
    (hcrypt : s.crypt = false) : framesOf a c (s :: calls) = framesOf a c calls := by
  rw [framesOf, hcrypt]
  rfl

theorem framesOf_cons_of_oversized (c : Endpoint) (hauth : Authentic a c.keys.sendKey)
    (s : SendCall) (calls : List SendCall) (hcrypt : s.crypt = true)
    (hlong : s.oversized = true) :
    framesOf a c (s :: calls) = framesOf a { c with sendSeq := c.sendSeq + 1 } calls := by
  have hlength := hauth.length (nonce c.sendSeq c.keys.isClient) s.plaintext
  rw [oversized_iff s hcrypt] at hlong
  simp only [framesOf, hcrypt, Bool.not_true, Bool.false_eq_true, if_false]
  rw [dif_neg (by omega)]

theorem framesOf_cons_of_sent (c : Endpoint) (hauth : Authentic a c.keys.sendKey)
    (s : SendCall) (calls : List SendCall) (hcrypt : s.crypt = true)
    (hshort : s.oversized = false) :
    ∃ hfits, framesOf a c (s :: calls) =
      ⟨a.encrypt c.keys.sendKey (nonce c.sendSeq c.keys.isClient) s.plaintext, hfits⟩ ::
        framesOf a { c with sendSeq := c.sendSeq + 1 } calls := by
  have hlength := hauth.length (nonce c.sendSeq c.keys.isClient) s.plaintext
  rw [← Bool.not_eq_true, oversized_iff s hcrypt] at hshort
  refine ⟨by omega, ?_⟩
  simp only [framesOf, hcrypt, Bool.not_true, Bool.false_eq_true, if_false]
  rw [dif_pos (by omega)]

/-- A message that is too long is refused, and the counter advances. -/
theorem send_oversized (c : Endpoint) (hready : c.ready = true)
    (hauth : Authentic a c.keys.sendKey) (s : SendCall) (h : s.oversized = true) :
    c.send a s.plaintext s.crypt s.sends
      = ({ c with sendSeq := c.sendSeq + 1 }, [], some false) := by
  rw [SendCall.oversized, Bool.and_eq_true, decide_eq_true_iff] at h
  have hlength := hauth.length (nonce c.sendSeq c.keys.isClient) s.plaintext
  simp only [Endpoint.send, hready, h.1, Bool.not_true, Bool.false_eq_true, if_false, sendFrame]
  rw [if_pos (by omega)]

/-- What a call of `Send` does: nothing, if the encryption fails; otherwise the counter
    advances, and the frame is refused or written. -/
theorem send_eq (c : Endpoint) (hready : c.ready = true) (hauth : Authentic a c.keys.sendKey)
    (s : SendCall) (hworks : SendResult.socketError ∉ s.sends)
    (hreturns : (c.send a s.plaintext s.crypt s.sends).2.2 ≠ none) :
    c.send a s.plaintext s.crypt s.sends =
      if s.crypt then
        ({ c with sendSeq := c.sendSeq + 1 },
          if s.oversized then ([], some false)
          else (encodeFrame (a.encrypt c.keys.sendKey (nonce c.sendSeq c.keys.isClient)
            s.plaintext), some true))
      else (c, [], some false) := by
  have hnot : ¬ (!c.ready) = true := by
    rw [hready]
    exact Bool.false_ne_true
  unfold Endpoint.send at hreturns ⊢
  rw [if_neg hnot] at hreturns ⊢
  cases hcrypt : s.crypt with
  | false => rfl
  | true =>
      rw [hcrypt] at hreturns
      simp only [Bool.not_true, Bool.false_eq_true, if_false, if_true, sendFrame] at hreturns ⊢
      have hlength := hauth.length (nonce c.sendSeq c.keys.isClient) s.plaintext
      simp only [SendCall.oversized, hcrypt, Bool.true_and, decide_eq_true_eq]
      -- The frame is refused for its length, or its loop of sends comes to an end.
      split_ifs with hlong hlong' hlong'
      · rfl
      · omega
      · omega
      · rw [if_neg hlong] at hreturns
        have htrue := sendLoop_works _ _ hworks hreturns
        exact congrArg _ (Prod.ext (sendLoop_written _ _ htrue) htrue)

/-- The bytes written are the stream of the frames of the messages that are sent, and
    these are the messages whose `Send` returned true. -/
theorem sendAll_spec (c : Endpoint) (hready : c.ready = true)
    (hauth : Authentic a c.keys.sendKey) (calls : List SendCall) (hworks : Works a c calls) :
    wire a c calls = frameCode.stream (framesOf a c calls) ∧
      accepted a c calls = (calls.filter SendCall.sent).map SendCall.plaintext := by
  -- By induction on the calls; the channel after the first one is ready for the rest.
  induction calls generalizing c with
  | nil => exact ⟨rfl, rfl⟩
  | cons s calls ih =>
      -- The one spec of `Send` describes the first call.
      have hsend := send_eq c hready hauth s (hworks.sends s (List.mem_cons_self ..))
        (hworks.returns _ (List.mem_cons_self ..))
      have hrest : Works a (c.send a s.plaintext s.crypt s.sends).1 calls :=
        ⟨fun s' hs' => hworks.sends s' (List.mem_cons_of_mem _ hs'),
          fun r hr => hworks.returns r (List.mem_cons_of_mem _ hr)⟩
      have hwire : wire a c (s :: calls) = (c.send a s.plaintext s.crypt s.sends).2.1
          ++ wire a (c.send a s.plaintext s.crypt s.sends).1 calls := List.flatMap_cons
      have haccepted : accepted a c (s :: calls)
          = (if (c.send a s.plaintext s.crypt s.sends).2.2 == some true then [s.plaintext] else [])
            ++ accepted a (c.send a s.plaintext s.crypt s.sends).1 calls := by
        simp only [accepted, Endpoint.sendAll, List.filter_cons]
        split_ifs <;> rfl
      rw [hwire, haccepted]
      rw [hsend] at hrest ⊢
      have hlater := ih { c with sendSeq := c.sendSeq + 1 } hready hauth
      rcases s.cases with ⟨hcrypt, _, hsent⟩ | ⟨hcrypt, hlong, hsent⟩ | ⟨hcrypt, hshort, hsent⟩
      · rw [hcrypt] at hrest
        rw [framesOf_cons_of_not_crypt c s calls hcrypt, hcrypt,
          List.filter_cons_of_neg (Bool.eq_false_iff.mp hsent)]
        exact ih c hready hauth hrest
      · -- The frame is refused, and nothing is written.
        rw [hcrypt] at hrest
        rw [framesOf_cons_of_oversized c hauth s calls hcrypt hlong, hcrypt, hlong,
          List.filter_cons_of_neg (Bool.eq_false_iff.mp hsent)]
        exact hlater hrest
      · rw [hcrypt] at hrest
        rcases framesOf_cons_of_sent c hauth s calls hcrypt hshort with ⟨hfits, hframes⟩
        rw [hframes, hcrypt, hshort, List.filter_cons_of_pos hsent, frameCode.stream_cons,
          List.map_cons, ← (hlater hrest).1, ← (hlater hrest).2]
        exact ⟨rfl, rfl⟩

/-- The frames open to the messages that are sent exactly if the counters agree at each
    of them. -/
theorem opened_frames_iff (c peer : Endpoint) (hauth : Authentic a c.keys.sendKey)
    (hkey : peer.keys.recvKey = c.keys.sendKey) (hdirection : peer.keys.isClient = !c.keys.isClient)
    (calls : List SendCall) :
    opened a peer ((framesOf a c calls).map ReceiveResult.received)
        = ((calls.filter SendCall.sent).map SendCall.plaintext).map Received.message ↔
      InStepFrom (c.sendSeq - peer.recvSeq) calls := by
  -- By induction on the calls; what counts is how far the two counters are apart.
  induction calls generalizing c peer with
  | nil =>
      refine iff_of_true rfl fun before s after heq => ?_
      exact absurd heq (List.append_ne_nil_of_right_ne_nil before (List.cons_ne_nil s after)).symm
  | cons s calls ih =>
      rw [inStepFrom_cons]
      have hahead : c.sendSeq + 1 - peer.recvSeq = c.sendSeq - peer.recvSeq + 1 :=
        add_sub_right_comm ..
      rcases s.cases with ⟨hcrypt, hshort, hsent⟩ | ⟨hcrypt, hlong, hsent⟩ | ⟨hcrypt, hshort, hsent⟩
      · rw [framesOf_cons_of_not_crypt c s calls hcrypt, hsent, hshort,
          List.filter_cons_of_neg (Bool.eq_false_iff.mp hsent), ih c peer hauth hkey hdirection]
        simp only [Bool.false_eq_true, false_imp_iff, true_and, if_false]
        exact Iff.of_eq (congrArg (InStepFrom · calls) (UInt64.add_zero _).symm)
      · -- The counter of the sender has moved, and that of the peer has not.
        rw [framesOf_cons_of_oversized c hauth s calls hcrypt hlong, hsent, hlong,
          List.filter_cons_of_neg (Bool.eq_false_iff.mp hsent),
          ih { c with sendSeq := c.sendSeq + 1 } peer hauth hkey hdirection, hahead]
        simp only [Bool.false_eq_true, false_imp_iff, true_and, if_true]
      · rcases framesOf_cons_of_sent c hauth s calls hcrypt hshort with ⟨hfits, hframes⟩
        rw [hframes, List.filter_cons_of_pos hsent, hsent, hshort, List.map_cons, List.map_cons,
          List.map_cons, opened, forall_prop_of_true rfl, if_neg Bool.false_ne_true]
        by_cases hseq : c.sendSeq = peer.recvSeq
        · -- The frame opens, and both counters move.
          have hopen : openOne a peer (.received ⟨a.encrypt c.keys.sendKey
                (nonce c.sendSeq c.keys.isClient) s.plaintext, hfits⟩)
              = ({ peer with recvSeq := peer.recvSeq + 1 }, .message s.plaintext) := by
            simp only [openOne, hkey, hdirection, Bool.not_not, ← hseq, a.decrypt_encrypt]
          have hlater := ih { c with sendSeq := c.sendSeq + 1 }
            { peer with recvSeq := peer.recvSeq + 1 } hauth hkey hdirection
          have hsame : c.sendSeq + 1 - (peer.recvSeq + 1) = c.sendSeq - peer.recvSeq :=
            add_sub_add_right_eq_sub ..
          rw [hopen, List.cons.injEq, hlater]
          dsimp only
          rw [hsame, UInt64.add_zero, sub_eq_zero]
          exact ⟨fun h => ⟨hseq, h.2⟩, fun h => ⟨rfl, h.2⟩⟩
        · -- An authentic cipher refuses a frame under another nonce, and the difference never
          -- closes.
          have hopen : (openOne a peer (.received ⟨a.encrypt c.keys.sendKey
                (nonce c.sendSeq c.keys.isClient) s.plaintext, hfits⟩)).2 = .broken := by
            simp only [openOne, hkey, hdirection, Bool.not_not,
              hauth.rejects c.sendSeq peer.recvSeq _ _ hseq]
          rw [hopen]
          refine iff_of_false (fun h => ?_) (fun h => hseq (sub_eq_zero.mp h.1))
          cases (List.cons.inj h).1

end Sending

section Delivery

variable (a : Aead) (c peer : Endpoint) (hpaired : Paired c peer)
  (hauth : Authentic a c.keys.sendKey) (calls : List SendCall) (hworks : Works a c calls)
  (turns : List Turn) (hopen : ∀ t ∈ turns, t ≠ .failed)
  (hall : peer.rxBuffer ++ delivered turns = wire a c calls)
include hpaired hauth hworks hopen hall

theorem delivers_iff_inStepFrom :
    DeliversMessages a peer turns (accepted a c calls) ↔
      FitsFrom peer.rxBuffer.length turns (framesOf a c calls) ∧ InStepFrom 0 calls := by
  rcases sendAll_spec c hpaired.ready hauth calls hworks with ⟨hwire, haccepted⟩
  rw [deliversMessages_iff a peer hpaired.peerReady turns (framesOf a c calls) _ hopen
    (hall.trans hwire), haccepted,
    opened_frames_iff c peer hauth hpaired.key hpaired.direction calls, hpaired.seq, sub_self]

/-- On a channel whose socket works, the messages whose `Send` returned true are
    received, in order and all of them, exactly if the segments fit and no message was
    sent after a refused one. -/
theorem delivers_iff_inStep :
    DeliversMessages a peer turns (accepted a c calls) ↔
      FitsFrom peer.rxBuffer.length turns (framesOf a c calls) ∧ InStep calls := by
  rw [delivers_iff_inStepFrom a c peer hpaired hauth calls hworks turns hopen hall]
  refine and_congr_right fun _ => ?_
  constructor
  · intro h before s after heq hsent
    exact (UInt64.zero_add _).symm.trans (h before s after heq hsent)
  · intro h before s after heq hsent
    exact (UInt64.zero_add _).trans (h before s after heq hsent)

end Delivery

section Refused

/-- A cipher that puts the nonce before the message, filled up to 16 bytes, and checks
    it. -/
def tagAead : Aead where
  encrypt _ nonce plaintext := (nonce ++ List.replicate 16 0).take 16 ++ plaintext
  decrypt _ nonce frame :=
    if ((nonce ++ List.replicate 16 0).take 16).isPrefixOf frame then some (frame.drop 16) else none
  decrypt_encrypt key nonce plaintext := by
    have hlength : ((nonce ++ List.replicate 16 (0 : UInt8)).take 16).length = 16 := by
      rw [List.length_take, List.length_append, List.length_replicate]
      omega
    rw [if_pos (List.isPrefixOf_iff_prefix.mpr (List.prefix_append ..)), List.drop_left' hlength]

theorem authentic_tagAead (key : Bytes) : Authentic tagAead key := by
  have hlength : ∀ n : Bytes, ((n ++ List.replicate 16 (0 : UInt8)).take 16).length = 16 := by
    intro n
    rw [List.length_take, List.length_append, List.length_replicate]
    omega
  constructor
  · intro n plaintext
    change ((n ++ List.replicate 16 0).take 16 ++ plaintext).length = _
    rw [List.length_append, hlength, Nat.add_comm]
  · intro s t d plaintext hne
    refine if_neg fun hprefix => hne ?_
    -- The tags are equal, and the nonces are their first 12 bytes.
    have hfirst := List.prefix_of_prefix_length_le (List.isPrefixOf_iff_prefix.mp hprefix)
      (List.prefix_append _ plaintext) (by rw [hlength, hlength])
    have hsame := hfirst.eq_of_length (by rw [hlength, hlength])
    have htags := congrArg (List.take 12) hsame
    rw [List.take_take, List.take_take] at htags
    exact (nonce_inj htags).1.symm

/-- The client sends, and the server receives. -/
theorem paired_labStart : Paired (labStart.ends true) (labStart.ends false) :=
  ⟨rfl, rfl, rfl, rfl, rfl⟩

/-- A message of one byte. -/
def shortCall : SendCall where
  plaintext := [7]
  sends := [.accepted 21]

/-- A message of zeros. With 1048561 of them it is too long by one byte. -/
def zerosCall (n : Nat) : SendCall where
  plaintext := List.replicate n 0
  sends := []

theorem oversized_zerosCall (n : Nat) (h : kMaxFrame < n + 16) :
    (zerosCall n).oversized = true := by
  rw [SendCall.oversized, zerosCall, List.length_replicate]
  exact decide_eq_true h

/-- It is not evaluated: its list is long. -/
theorem oversized_longCall : (zerosCall 1048561).oversized = true :=
  oversized_zerosCall 1048561 (by decide)

/-- The frame of the short message with a number. -/
def shortFrame (seq : UInt64) : Bytes := encodeFrame (tagAead.encrypt [] (nonce seq true) [7])

theorem length_shortFrame (seq : UInt64) : (shortFrame seq).length = 21 := by
  rw [shortFrame, length_encodeFrame, (authentic_tagAead []).length]
  rfl

/-- It arrives in one segment. -/
def shortTurns (seq : UInt64) : List Turn :=
  [.arrived ⟨shortFrame seq, by rw [length_shortFrame]; decide, by rw [length_shortFrame]; decide⟩]

theorem open_shortTurns (seq : UInt64) : ∀ t ∈ shortTurns seq, t ≠ .failed := by
  intro t ht
  rw [List.mem_singleton.mp ht]
  exact Turn.noConfusion

/-- What the calls write and return when only the short message is sent. -/
theorem sendAll_short (c : Endpoint) (hready : c.ready = true) (hclient : c.keys.isClient = true) :
    c.sendAll tagAead [shortCall] = [([7], shortFrame c.sendSeq, some true)] := by
  have hlength : (tagAead.encrypt c.keys.sendKey (nonce c.sendSeq true) [7]).length = 17 :=
    (authentic_tagAead _).length _ _
  have honce : sendFrame (tagAead.encrypt c.keys.sendKey (nonce c.sendSeq true) [7]) [.accepted 21]
      = (shortFrame c.sendSeq, some true) := by
    have htrue := sendFrame_once (tagAead.encrypt c.keys.sendKey (nonce c.sendSeq true) [7])
      (by rw [hlength]; decide)
    rw [hlength] at htrue
    exact Prod.ext (sendFrame_written _ _ htrue) htrue
  simp only [Endpoint.sendAll, Endpoint.send, shortCall, hready, hclient, Bool.not_true,
    Bool.false_eq_true, if_false, honce]

/-- The same after the long message was refused. -/
theorem sendAll_refused :
    (labStart.ends true).sendAll tagAead [zerosCall 1048561, shortCall]
      = [((zerosCall 1048561).plaintext, [], some false), ([7], shortFrame 1, some true)] := by
  have hlong := send_oversized (labStart.ends true) rfl (authentic_tagAead _) (zerosCall 1048561)
    oversized_longCall
  have hrest := sendAll_short
    { labStart.ends true with sendSeq := (labStart.ends true).sendSeq + 1 } rfl rfl
  rw [Endpoint.sendAll, hlong, hrest]
  rfl

/-- The short message is received. -/
theorem delivers_iff_inStep_short :
    DeliversMessages tagAead (labStart.ends false) (shortTurns 0)
        (accepted tagAead (labStart.ends true) [shortCall]) ↔
      FitsFrom (labStart.ends false).rxBuffer.length (shortTurns 0)
        (framesOf tagAead (labStart.ends true) [shortCall]) ∧ InStep [shortCall] := by
  have hall := sendAll_short (labStart.ends true) rfl rfl
  -- One short call, on sockets and with a cipher that work.
  refine delivers_iff_inStep tagAead _ _ paired_labStart (authentic_tagAead _) [shortCall]
    ⟨?_, ?_⟩ (shortTurns 0) (open_shortTurns 0) ?_
  · intro s hs
    rw [List.mem_singleton.mp hs]
    decide
  · rw [hall]
    intro r hr
    rw [List.mem_singleton.mp hr]
    exact Option.some_ne_none true
  · rw [wire, hall]
    rfl

/-- The long message is refused, and the short one after it is written and not
    received. -/
theorem not_delivers_refused :
    Paired (labStart.ends true) (labStart.ends false) ∧
      Authentic tagAead (labStart.ends true).keys.sendKey ∧
      Works tagAead (labStart.ends true) [zerosCall 1048561, shortCall] ∧
      (∀ t ∈ shortTurns 1, t ≠ .failed) ∧
      (labStart.ends false).rxBuffer ++ delivered (shortTurns 1)
        = wire tagAead (labStart.ends true) [zerosCall 1048561, shortCall] ∧
      ¬ DeliversMessages tagAead (labStart.ends false) (shortTurns 1)
          (accepted tagAead (labStart.ends true) [zerosCall 1048561, shortCall]) := by
  have hworks : Works tagAead (labStart.ends true) [zerosCall 1048561, shortCall] := by
    constructor
    · intro s hs
      rcases List.mem_cons.mp hs with rfl | hs
      · exact List.not_mem_nil
      · rw [List.mem_singleton.mp hs]
        decide
    · rw [sendAll_refused]
      intro r hr
      rcases List.mem_cons.mp hr with rfl | hr
      · exact Option.some_ne_none false
      · rw [List.mem_singleton.mp hr]
        exact Option.some_ne_none true
  have hall : (labStart.ends false).rxBuffer ++ delivered (shortTurns 1)
      = wire tagAead (labStart.ends true) [zerosCall 1048561, shortCall] := by
    rw [wire, sendAll_refused]
    rfl
  refine ⟨paired_labStart, authentic_tagAead _, hworks, open_shortTurns 1, hall, ?_⟩
  -- The first message is oversized, so the second is out of step.
  rw [delivers_iff_inStepFrom tagAead _ _ paired_labStart (authentic_tagAead _) _ hworks _
    (open_shortTurns 1) hall, inStepFrom_cons, inStepFrom_cons, oversized_longCall]
  rintro ⟨_, _, hshort, _⟩
  exact absurd (hshort (by decide)) (by decide)

end Refused

end Channel

end ThreadHaul
