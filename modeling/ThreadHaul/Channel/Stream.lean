import Mathlib.Data.UInt
import Mathlib.Logic.Function.Basic
import ThreadHaul.Channel.Handshake
import ThreadHaul.Lib.Runs

/-!
# Messages After the Handshake

`Send` and `Receive`: a frame is the encryption of one message under the key of
its direction and a nonce made of the direction and a sequence number.

The network belongs to an attacker. What a call of `Receive` finds on the
socket is part of the event, so an attacker may drop, replay, reorder, alter
and invent at will, cut frames as it likes, and hand an end its own frames.
What it cannot do is open or forge: a frame decrypts under a key and a nonce
only if it was encrypted under them. `Ideal` asks that of each step of a run.

The two counters advance under different conditions, the one with each
encryption and the other with each decryption. The invariant `Numbered` ties
them to the two logs: the encryption with index `i` was made under the nonce of
`i`, and the messages received are a prefix of the messages encrypted. The
latter holds while the counter has not come round, and it is about the messages
whose encryption succeeded: one that fails returns before the counter advances,
so the stream goes on without that message.

## Main definitions

* `nonce`: `Nonce`.
* `Endpoint.send`, `Endpoint.receive`: `Send` and `Receive`.
* `step`: The two ends and the attacker.
* `Ideal`: Only what was encrypted decrypts.
* `Numbered`: The counters and the logs.

## Theorems

* `nonce_inj`: The nonce determines number and direction.
* `receive_spec`: What a call of `Receive` does.
* `numbered_step`: Every step keeps the invariant.
* `received_prefix`: The messages received are a prefix of those encrypted.
* `not_received_prefix_passed`: They need not be one of those passed to `Send`.
-/

namespace ThreadHaul

namespace Channel

open Runs

/-- The nonce of a message: its direction and its number. -/
def nonce (seq : UInt64) (clientToServer : Bool) : Bytes :=
  [if clientToServer then 67 else 83, 0, 0, 0,
    (seq >>> 56).toUInt8, (seq >>> 48).toUInt8, (seq >>> 40).toUInt8, (seq >>> 32).toUInt8,
    (seq >>> 24).toUInt8, (seq >>> 16).toUInt8, (seq >>> 8).toUInt8, seq.toUInt8]

/-- The nonce determines number and direction. -/
theorem nonce_inj {s t : UInt64} {c d : Bool} (h : nonce s c = nonce t d) : s = t ∧ c = d := by
  simp only [nonce, List.cons.injEq, and_true, true_and, ← UInt8.toNat_inj,
    UInt64.toNat_toUInt8, UInt64.toNat_shiftRight, Nat.shiftRight_eq_div_pow,
    UInt64.reduceToNat, Nat.reduceMod, Nat.reducePow] at h
  rcases h with ⟨htag, hdigits⟩
  constructor
  · -- The eight bytes are the digits of the number to the base 256.
    have hs := s.toNat_lt
    have ht := t.toNat_lt
    refine UInt64.toNat_inj.mp ?_
    omega
  · revert htag
    cases c <;> cases d <;> decide

/-- `AesGcmEncrypt` and `AesGcmDecrypt`. What was encrypted decrypts under the
    same key and nonce, and a frame that fails the check gives nothing. -/
structure Aead where
  encrypt : Bytes → Bytes → Bytes → Bytes
  decrypt : Bytes → Bytes → Bytes → Option Bytes
  decrypt_encrypt : ∀ key nonce plaintext,
    decrypt key nonce (encrypt key nonce plaintext) = some plaintext

/-- The fields of `Channel` that change after the handshake, and the keys. -/
structure Endpoint where
  keys : Keys
  ready : Bool
  sendSeq : UInt64
  recvSeq : UInt64
  rxBuffer : Bytes

/-- What `Receive` comes to: 1 with the message, 0 or −1. -/
inductive Received
  | message (plaintext : Bytes)
  | timeout
  | broken
  /-- It has not returned. -/
  | waiting

/-- The message of a call that returned 1. -/
def Received.plaintexts : Received → List Bytes
  | .message plaintext => [plaintext]
  | .timeout | .broken | .waiting => []

section Calls

variable (a : Aead) (c : Endpoint)

/-- `Send`. `crypt` tells whether the calls of the cryptography library
    succeed. With it come the bytes written and the value returned. -/
def Endpoint.send (plaintext : Bytes) (crypt : Bool) (sends : List SendResult) :
    Endpoint × Bytes × Option Bool :=
  if !c.ready then (c, [], some false)
  else if !crypt then (c, [], some false)
  else
    let sealed := a.encrypt c.keys.sendKey (nonce c.sendSeq c.keys.isClient) plaintext
    ({ c with sendSeq := c.sendSeq + 1 }, sendFrame sealed sends)

/-- `Receive`. A frame that does not decrypt is used up all the same. -/
def Endpoint.receive (turns : List Turn) (crypt : Bool) : Endpoint × Received :=
  if !c.ready then (c, .broken)
  else
    match receiveFrame c.rxBuffer turns with
    | (.received frame, rxBuffer, _) =>
        if !crypt then ({ c with rxBuffer := rxBuffer }, .broken)
        else
          match a.decrypt c.keys.recvKey (nonce c.recvSeq (!c.keys.isClient)) frame.val with
          | none => ({ c with rxBuffer := rxBuffer }, .broken)
          | some plaintext =>
              ({ c with rxBuffer := rxBuffer, recvSeq := c.recvSeq + 1 }, .message plaintext)
    | (.timeout, rxBuffer, _) => ({ c with rxBuffer := rxBuffer }, .timeout)
    | (.broken, rxBuffer, _) => ({ c with rxBuffer := rxBuffer }, .broken)
    | (.waiting, rxBuffer, _) => ({ c with rxBuffer := rxBuffer }, .waiting)

end Calls

/-- An encryption that was made. -/
structure Sealed where
  key : Bytes
  nonce : Bytes
  plaintext : Bytes
  frame : Bytes

/-- The two ends of a channel and what has happened so far: for each end the
    messages passed to its `Send`, with whether the encryption succeeded, the
    encryptions it made, and the messages its `Receive` returned. The client is
    the end `true`. -/
structure Link where
  ends : Bool → Endpoint
  passed : Bool → List (Bytes × Bool)
  sealed : Bool → List Sealed
  received : Bool → List Bytes

/-- The encryption `Send` makes, if it makes one. -/
def Endpoint.seals (a : Aead) (c : Endpoint) (plaintext : Bytes) (crypt : Bool) : List Sealed :=
  if c.ready && crypt then
    [{ key := c.keys.sendKey
       nonce := nonce c.sendSeq c.keys.isClient
       plaintext := plaintext
       frame := a.encrypt c.keys.sendKey (nonce c.sendSeq c.keys.isClient) plaintext }]
  else []

/-- An end calls `Send` or `Receive`. The bytes that `Receive` finds are the
    attacker's choice. -/
inductive Event
  | send (client : Bool) (plaintext : Bytes) (crypt : Bool) (sends : List SendResult)
  | receive (client : Bool) (turns : List Turn) (crypt : Bool)

/-- A message is sent, or some of the bytes arrive. -/
def step (a : Aead) (w : Link) : Event → Link
  | .send d plaintext crypt sends =>
      { w with
        ends := Function.update w.ends d ((w.ends d).send a plaintext crypt sends).1
        passed := Function.update w.passed d (w.passed d ++ [(plaintext, crypt)])
        sealed := Function.update w.sealed d (w.sealed d ++ (w.ends d).seals a plaintext crypt) }
  | .receive d turns crypt =>
      { w with
        ends := Function.update w.ends d ((w.ends d).receive a turns crypt).1
        received := Function.update w.received d
          (w.received d ++ ((w.ends d).receive a turns crypt).2.plaintexts) }

/-- The two ends after a handshake. The buffers may hold bytes that came with
    its last frames. -/
def established (p : Primitives) (secret clientNonce serverNonce host : Bytes)
    (rxBuffer : Bool → Bytes) : Link where
  ends d :=
    { keys := deriveKeys p secret clientNonce serverNonce host d
      ready := true
      sendSeq := 0
      recvSeq := 0
      rxBuffer := rxBuffer d }
  passed _ := []
  sealed _ := []
  received _ := []

/-- A frame that an end receives decrypts under its key and nonce only if one
    of the two made it by encrypting under that key and nonce. -/
def Ideal (a : Aead) (w : Link) : Event → Prop
  | .send .. => True
  | .receive d turns _ => ∀ frame plaintext,
      (receiveFrame (w.ends d).rxBuffer turns).1 = .received frame →
      a.decrypt (w.ends d).keys.recvKey
        (nonce (w.ends d).recvSeq (!(w.ends d).keys.isClient)) frame.val = some plaintext →
      ∃ d' e, e ∈ w.sealed d' ∧ e.key = (w.ends d).keys.recvKey ∧
        e.nonce = nonce (w.ends d).recvSeq (!(w.ends d).keys.isClient) ∧ e.frame = frame.val

/-- The messages passed to `Send` whose encryption succeeded. -/
def encrypted (w : Link) (d : Bool) : List Bytes := ((w.passed d).filter Prod.snd).map Prod.fst

/-- The counters of an end are the lengths of its logs, and its encryptions
    were made under the nonces of their indices. -/
structure Numbered (a : Aead) (w : Link) (d : Bool) : Prop where
  ready : (w.ends d).ready = true
  isClient : (w.ends d).keys.isClient = d
  sendSeq : (w.ends d).sendSeq = UInt64.ofNat (w.sealed d).length
  recvSeq : (w.ends d).recvSeq = UInt64.ofNat (w.received d).length
  sealed : ∀ i e, (w.sealed d)[i]? = some e →
    e.nonce = nonce (UInt64.ofNat i) d ∧ e.frame = a.encrypt e.key e.nonce e.plaintext
  encrypted : (w.sealed d).map Sealed.plaintext = encrypted w d

/-- While the counter of an end has not come round, what the other end has
    received is the beginning of what this one has encrypted. -/
def Ordered (w : Link) (d : Bool) : Prop :=
  (w.sealed d).length < 2 ^ 64 → w.received (!d) <+: (w.sealed d).map Sealed.plaintext

section Steps

variable (a : Aead) (c : Endpoint)

/-- `Send` on a channel that is ready advances the counter with each
    encryption, and touches nothing else. -/
theorem send_fst (plaintext : Bytes) (crypt : Bool) (sends : List SendResult)
    (hr : c.ready = true) :
    (c.send a plaintext crypt sends).1
      = { c with sendSeq := c.sendSeq + UInt64.ofNat (c.seals a plaintext crypt).length } := by
  unfold Endpoint.send Endpoint.seals
  rw [hr, Bool.not_true, if_neg Bool.false_ne_true, Bool.true_and]
  cases crypt with
  | false =>
      rw [Bool.not_false, if_pos rfl, if_neg Bool.false_ne_true, List.length_nil]
      rw [show UInt64.ofNat 0 = 0 from rfl, UInt64.add_zero, ← hr]
  | true =>
      rw [Bool.not_true, if_neg Bool.false_ne_true, if_pos rfl, ← hr]
      rfl

/-- `Receive` on a channel that is ready returns 1 exactly when it took a frame
    that decrypts, and the counter advances then only. -/
theorem receive_spec (turns : List Turn) (crypt : Bool) (hr : c.ready = true) :
    (∃ frame plaintext, (receiveFrame c.rxBuffer turns).1 = .received frame ∧
      a.decrypt c.keys.recvKey (nonce c.recvSeq (!c.keys.isClient)) frame.val = some plaintext ∧
      c.receive a turns crypt
        = ({ c with
              rxBuffer := (receiveFrame c.rxBuffer turns).2.1
              recvSeq := c.recvSeq + 1 }, .message plaintext)) ∨
    ∃ result, result.plaintexts = [] ∧
      c.receive a turns crypt
        = ({ c with rxBuffer := (receiveFrame c.rxBuffer turns).2.1 }, result) := by
  unfold Endpoint.receive
  rw [hr, Bool.not_true, if_neg Bool.false_ne_true]
  rcases hf : receiveFrame c.rxBuffer turns with ⟨result, rxBuffer, rest⟩
  cases result with
  | received frame =>
      cases crypt with
      -- Without the cipher nothing can be decrypted.
      | false => exact Or.inr ⟨.broken, rfl, rfl⟩
      | true =>
          simp only [Bool.not_true, Bool.false_eq_true, if_false]
          cases hd : a.decrypt c.keys.recvKey (nonce c.recvSeq (!c.keys.isClient)) frame.val with
          | none => exact Or.inr ⟨.broken, rfl, rfl⟩
          | some plaintext => exact Or.inl ⟨frame, plaintext, rfl, hd, rfl⟩
  | timeout => exact Or.inr ⟨.timeout, rfl, rfl⟩
  | broken => exact Or.inr ⟨.broken, rfl, rfl⟩
  | waiting => exact Or.inr ⟨.waiting, rfl, rfl⟩

end Steps

/-- The message at the end of a prefix extends it. -/
theorem prefix_concat {α : Type*} {l l' : List α} {x : α} (h : l <+: l')
    (hx : l'[l.length]? = some x) : l ++ [x] <+: l' := by
  rcases h with ⟨t, rfl⟩
  rw [List.getElem?_append_right (Nat.le_refl _), Nat.sub_self] at hx
  cases t with
  | nil => cases hx
  | cons y t =>
      cases hx
      exact ⟨t, by rw [List.append_assoc, List.singleton_append]⟩

theorem numbered_established (a : Aead) (p : Primitives)
    (secret clientNonce serverNonce host : Bytes) (rxBuffer : Bool → Bytes) (d : Bool) :
    Numbered a (established p secret clientNonce serverNonce host rxBuffer) d where
  ready := rfl
  isClient := rfl
  sendSeq := rfl
  recvSeq := rfl
  sealed i e h := by
    rw [established, List.getElem?_nil] at h
    cases h
  encrypted := rfl

/-- An end is numbered by its own fields and logs. -/
theorem numbered_congr {a : Aead} {w w' : Link} {d : Bool} (hends : w'.ends d = w.ends d)
    (hpassed : w'.passed d = w.passed d) (hsealed : w'.sealed d = w.sealed d)
    (hreceived : w'.received d = w.received d) (h : Numbered a w d) : Numbered a w' d := by
  have hencrypted : encrypted w' d = encrypted w d := by
    rw [encrypted, encrypted, hpassed]
  refine ⟨?_, ?_, ?_, ?_, ?_, ?_⟩
  · rw [hends, h.ready]
  · rw [hends, h.isClient]
  · rw [hends, hsealed, h.sendSeq]
  · rw [hends, hreceived, h.recvSeq]
  · rw [hsealed]
    exact h.sealed
  · rw [hsealed, hencrypted, h.encrypted]

section Send

variable (a : Aead) (w : Link) (d : Bool) (plaintext : Bytes) (crypt : Bool)
  (sends : List SendResult)

/-- The encryption is made under the next nonce of this end. -/
theorem sealed_seals (h : Numbered a w d) (i : Nat) (e : Sealed)
    (he : (w.sealed d ++ (w.ends d).seals a plaintext crypt)[i]? = some e) :
    e.nonce = nonce (UInt64.ofNat i) d ∧ e.frame = a.encrypt e.key e.nonce e.plaintext := by
  -- An old encryption keeps its index.
  by_cases hi : i < (w.sealed d).length
  · rw [List.getElem?_append_left hi] at he
    exact h.sealed i e he
  · rw [List.getElem?_append_right (by omega), Endpoint.seals] at he
    split at he
    · -- There is one new encryption, so `i` is its index.
      rcases List.getElem?_eq_some_iff.mp he with ⟨hlt, heq⟩
      have hidx : i = (w.sealed d).length := by
        rw [List.length_singleton] at hlt
        omega
      rw [List.getElem_singleton] at heq
      rw [← heq, hidx, ← h.sendSeq, h.isClient]
      exact ⟨rfl, rfl⟩
    · rw [List.getElem?_nil] at he
      cases he

theorem encrypted_seals (h : Numbered a w d) :
    (w.sealed d ++ (w.ends d).seals a plaintext crypt).map Sealed.plaintext
      = ((w.passed d ++ [(plaintext, crypt)]).filter Prod.snd).map Prod.fst := by
  rw [List.map_append, List.filter_append, List.map_append, h.encrypted, encrypted,
    Endpoint.seals, h.ready, Bool.true_and]
  cases crypt <;> rfl

theorem numbered_send (x : Bool) (h : ∀ x, Numbered a w x) :
    Numbered a (step a w (.send d plaintext crypt sends)) x := by
  have hfst := send_fst a (w.ends d) plaintext crypt sends (h d).ready
  -- Only the direction of the call moves.
  by_cases hx : x = d
  · subst hx
    refine ⟨?_, ?_, ?_, ?_, ?_, ?_⟩
    all_goals simp only [step, encrypted, Function.update_self, hfst]
    · exact (h x).ready
    · exact (h x).isClient
    · rw [List.length_append, UInt64.ofNat_add, ← (h x).sendSeq]
    · exact (h x).recvSeq
    · exact sealed_seals a w x plaintext crypt (h x)
    · exact encrypted_seals a w x plaintext crypt (h x)
  · exact numbered_congr (Function.update_of_ne hx ..) (Function.update_of_ne hx ..)
      (Function.update_of_ne hx ..) rfl (h x)

theorem ordered_send (x : Bool) (h : Ordered w x) :
    Ordered (step a w (.send d plaintext crypt sends)) x := by
  by_cases hx : x = d
  · subst hx
    intro hlt
    simp only [step, Function.update_self, List.length_append] at hlt ⊢
    rw [List.map_append]
    exact (h (by omega)).trans (List.prefix_append ..)
  · have hsealed : (step a w (.send d plaintext crypt sends)).sealed x = w.sealed x :=
      Function.update_of_ne hx ..
    rw [Ordered, hsealed]
    exact h

end Send

section Receive

variable (a : Aead) (w : Link) (d : Bool) (turns : List Turn) (crypt : Bool)

theorem numbered_receive (x : Bool) (h : ∀ x, Numbered a w x) :
    Numbered a (step a w (.receive d turns crypt)) x := by
  -- Only the end that receives moves, and only its count of opened frames.
  by_cases hx : x = d
  · subst hx
    refine ⟨?_, ?_, ?_, ?_, (h x).sealed, (h x).encrypted⟩
    all_goals
      simp only [step, Function.update_self]
      rcases receive_spec a (w.ends x) turns crypt (h x).ready with
        ⟨frame, plaintext, _, _, heq⟩ | ⟨result, hnone, heq⟩
      all_goals rw [heq]
    · exact (h x).ready
    · exact (h x).ready
    · exact (h x).isClient
    · exact (h x).isClient
    · exact (h x).sendSeq
    · exact (h x).sendSeq
    · rw [List.length_append, UInt64.ofNat_add, ← (h x).recvSeq]
      rfl
    · rw [hnone, List.append_nil]
      exact (h x).recvSeq
  · exact numbered_congr (Function.update_of_ne hx ..) rfl rfl (Function.update_of_ne hx ..) (h x)

/-- The message of a frame that decrypts is the next one of the other end. -/
theorem next_of_ideal (hideal : Ideal a w (.receive (!d) turns crypt)) (h : ∀ x, Numbered a w x)
    (hlt : (w.sealed d).length < 2 ^ 64)
    (hord : w.received (!d) <+: (w.sealed d).map Sealed.plaintext) (frame : Frame)
    (plaintext : Bytes)
    (hf : (receiveFrame (w.ends (!d)).rxBuffer turns).1 = .received frame)
    (hd : a.decrypt (w.ends (!d)).keys.recvKey
      (nonce (w.ends (!d)).recvSeq (!(w.ends (!d)).keys.isClient)) frame.val = some plaintext) :
    ((w.sealed d).map Sealed.plaintext)[(w.received (!d)).length]? = some plaintext := by
  rcases hideal frame plaintext hf hd with ⟨d', e, he, hkey, hnonce, hframe⟩
  rcases List.mem_iff_getElem?.mp he with ⟨i, hi⟩
  rcases (h d').sealed i e hi with ⟨hnonce', hframe'⟩
  -- The nonce names the direction and the number.
  have hinj := nonce_inj (hnonce'.symm.trans hnonce)
  rw [(h (!d)).isClient, Bool.not_not, (h (!d)).recvSeq] at hinj
  rcases hinj with ⟨hseq, rfl⟩
  have hidx : i = (w.received (!d')).length := by
    have hi' := (List.getElem?_eq_some_iff.mp hi).1
    have hle := hord.length_le
    rw [List.length_map] at hle
    have hsize : UInt64.size = 2 ^ 64 := rfl
    have htoNat := congrArg UInt64.toNat hseq
    rw [UInt64.toNat_ofNat_of_lt' (by omega), UInt64.toNat_ofNat_of_lt' (by omega)] at htoNat
    exact htoNat
  -- And what was encrypted decrypts to itself.
  have hplain : plaintext = e.plaintext := by
    rw [← hframe, hframe', hkey, ← hnonce, ← hkey, hkey, a.decrypt_encrypt] at hd
    exact (Option.some.inj hd).symm
  rw [List.getElem?_map, ← hidx, hi, hplain, Option.map_some]

theorem ordered_receive (x : Bool) (hideal : Ideal a w (.receive d turns crypt))
    (h : ∀ x, Numbered a w x) (hord : Ordered w x) :
    Ordered (step a w (.receive d turns crypt)) x := by
  intro hlt
  have hord' := hord hlt
  -- The frames that arrive at an end are those of the other direction.
  by_cases hx : (!x) = d
  · subst hx
    simp only [step, Function.update_self]
    rcases receive_spec a (w.ends (!x)) turns crypt (h (!x)).ready with
      ⟨frame, plaintext, hf, hd, heq⟩ | ⟨result, hnone, heq⟩
    · rw [heq]
      exact prefix_concat hord' (next_of_ideal a w x turns crypt hideal h hlt hord' frame plaintext
        hf hd)
    · rw [heq, hnone, List.append_nil]
      exact hord'
  · simp only [step, Function.update_of_ne hx]
    exact hord'

end Receive

/-- Every step keeps the invariant. -/
theorem numbered_step (a : Aead) (w : Link) (e : Event) (hideal : Ideal a w e)
    (h : (∀ d, Numbered a w d) ∧ ∀ d, Ordered w d) :
    (∀ d, Numbered a (step a w e) d) ∧ ∀ d, Ordered (step a w e) d := by
  rcases h with ⟨hnum, hord⟩
  cases e with
  | send d plaintext crypt sends =>
      exact ⟨fun x => numbered_send a w d plaintext crypt sends x hnum,
        fun x => ordered_send a w d plaintext crypt sends x (hord x)⟩
  | receive d turns crypt =>
      exact ⟨fun x => numbered_receive a w d turns crypt x hnum,
        fun x => ordered_receive a w d turns crypt x hideal hnum (hord x)⟩

/-- The messages an end has received are a prefix of those the other end has
    encrypted, while there are fewer than 2^64 of them. -/
theorem received_prefix (a : Aead) (p : Primitives)
    (secret clientNonce serverNonce host : Bytes) (rxBuffer : Bool → Bytes) (l : List Event)
    (d : Bool)
    (hideal : Along (step a) (Ideal a)
      (established p secret clientNonce serverNonce host rxBuffer) l)
    (hlt : (encrypted (run (step a)
      (established p secret clientNonce serverNonce host rxBuffer) l) d).length < 2 ^ 64) :
    (run (step a) (established p secret clientNonce serverNonce host rxBuffer) l).received (!d)
      <+: encrypted (run (step a)
        (established p secret clientNonce serverNonce host rxBuffer) l) d := by
  -- The two invariants go together: the order of what is opened needs the numbering.
  have hinv := run_invariant_along (step a) (Ideal a)
    (fun w => (∀ d, Numbered a w d) ∧ ∀ d, Ordered w d)
    (fun w e hi h => numbered_step a w e hi h) l _ hideal
    ⟨numbered_established a p secret clientNonce serverNonce host rxBuffer,
      fun _ _ => List.nil_prefix⟩
  rw [← (hinv.1 d).encrypted] at hlt ⊢
  rw [List.length_map] at hlt
  exact hinv.2 d hlt

section Examples

/-- A cipher that puts key and nonce before the message, and checks them. -/
def prefixAead : Aead where
  encrypt key nonce plaintext := key ++ nonce ++ plaintext
  decrypt key nonce frame :=
    if (key ++ nonce).isPrefixOf frame then some (frame.drop (key ++ nonce).length) else none
  decrypt_encrypt key nonce plaintext := by
    rw [if_pos (List.isPrefixOf_iff_prefix.mpr (List.prefix_append ..)), List.drop_left]

/-- With a hash that forgets its key, the keys are their labels. -/
def labelPrimitives : Primitives where
  sha256 data := data
  hmacSha256 _ data := data
  parse _ := .discarded

/-- The two ends after a handshake. -/
def labStart : Link :=
  established labelPrimitives (ascii "a secret of the laboratory") (List.replicate 32 1)
    (List.replicate 32 2) (ascii "lab") fun _ => []

/-- One end, by its two counters. -/
def labEnd (client : Bool) (sendSeq recvSeq : UInt64) : Endpoint :=
  { labStart.ends client with sendSeq := sendSeq, recvSeq := recvSeq }

/-- The encryption of the empty message by the client. -/
def labSealed (seq : UInt64) : Sealed where
  key := ascii "c2s"
  nonce := nonce seq true
  plaintext := []
  frame := prefixAead.encrypt (ascii "c2s") (nonce seq true) []

theorem length_labSealed (seq : UInt64) : (labSealed seq).frame.length = 15 := rfl

/-- A sealed message as a frame. -/
def labFrame (seq : UInt64) : Frame :=
  ⟨(labSealed seq).frame, by rw [length_labSealed]; decide⟩

/-- The frame arrives at the server in one chunk. -/
def labArrival (seq : UInt64) : Event :=
  .receive false
    [.arrived ⟨encodeFrame (labFrame seq).val, by rw [length_encodeFrame]; omega, by
      rw [length_encodeFrame, labFrame, length_labSealed]; decide⟩] true

/-- A message is sent, and arrives. -/
def labRounds : Nat → List Event
  | 0 => []
  | n + 1 => labRounds n ++ [.send true [] true [.accepted 19], labArrival (UInt64.ofNat n)]

theorem receiveFrame_labFrame (seq : UInt64) (pos le) :
    receiveFrame [] [.arrived ⟨encodeFrame (labFrame seq).val, pos, le⟩]
      = (.received (labFrame seq), [], []) := by
  have hlen : ([] ++ encodeFrame (labFrame seq).val).length ≤ kMaxFrame + 4 := by
    rw [List.nil_append, length_encodeFrame, labFrame, length_labSealed]
    decide
  rw [receiveFrame_arrived [] [] _ rfl hlen, List.nil_append]
  have htake := takeFrame_encode (labFrame seq) []
  rw [List.append_nil] at htake
  exact receiveFrame_frame _ _ _ _ htake

/-- The server takes the frame with the number it expects, be it the first time
    or not. -/
theorem step_labArrival (w : Link) (seq sendSeq : UInt64)
    (hend : w.ends false = labEnd false sendSeq seq) (hsealed : labSealed seq ∈ w.sealed true) :
    Ideal prefixAead w (labArrival seq) ∧
      step prefixAead w (labArrival seq)
        = { w with
            ends := Function.update w.ends false (labEnd false sendSeq (seq + 1))
            received := Function.update w.received false (w.received false ++ [[]]) } := by
  -- The arrival is allowed by the assumption on the cipher, and its effect is computed.
  constructor
  · -- The frame is one that the other end has sealed.
    intro frame plaintext hframe _
    rw [hend, show (labEnd false sendSeq seq).rxBuffer = [] from rfl, receiveFrame_labFrame]
      at hframe
    cases hframe
    rw [hend]
    exact ⟨true, labSealed seq, hsealed, rfl, rfl, rfl⟩
  · have hreceive : (labEnd false sendSeq seq).receive prefixAead
        [.arrived ⟨encodeFrame (labFrame seq).val, by rw [length_encodeFrame]; omega, by
          rw [length_encodeFrame, labFrame, length_labSealed]; decide⟩] true
          = (labEnd false sendSeq (seq + 1), .message []) := by
      have hopen := prefixAead.decrypt_encrypt (ascii "c2s") (nonce seq true) []
      rw [Endpoint.receive, show (labEnd false sendSeq seq).rxBuffer = [] from rfl,
        receiveFrame_labFrame]
      rw [show (labEnd false sendSeq seq).ready = true from rfl, Bool.not_true,
        if_neg Bool.false_ne_true]
      simp only [Bool.false_eq_true, if_false]
      rw [show prefixAead.decrypt (labEnd false sendSeq seq).keys.recvKey
        (nonce (labEnd false sendSeq seq).recvSeq (!(labEnd false sendSeq seq).keys.isClient))
        (labFrame seq).val = some [] from hopen]
      rfl
    rw [labArrival, step, hend, hreceive]
    rfl

/-- What the first `n` rounds come to. -/
structure AfterRounds (n : Nat) (w : Link) : Prop where
  client : w.ends true = labEnd true (UInt64.ofNat n) 0
  server : w.ends false = labEnd false 0 (UInt64.ofNat n)
  passed : w.passed true = List.replicate n ([], true)
  sealed : ∀ i < n, labSealed (UInt64.ofNat i) ∈ w.sealed true
  received : w.received false = List.replicate n []

/-- One more message, and its frame. -/
theorem afterRounds_succ (n : Nat) (w : Link) (h : AfterRounds n w) :
    Along (step prefixAead) (Ideal prefixAead) w
        [.send true [] true [.accepted 19], labArrival (UInt64.ofNat n)] ∧
      AfterRounds (n + 1) (run (step prefixAead) w
        [.send true [] true [.accepted 19], labArrival (UInt64.ofNat n)]) := by
  have hsend : (step prefixAead w (.send true [] true [.accepted 19]))
      = { w with
          ends := Function.update w.ends true (labEnd true (UInt64.ofNat n + 1) 0)
          passed := Function.update w.passed true (w.passed true ++ [([], true)])
          sealed := Function.update w.sealed true
            (w.sealed true ++ [labSealed (UInt64.ofNat n)]) } := by
    rw [step, h.client]
    rfl
  have hsealed : labSealed (UInt64.ofNat n) ∈
      (step prefixAead w (.send true [] true [.accepted 19])).sealed true := by
    rw [hsend]
    simp only [Function.update_self, List.mem_append, List.mem_singleton, or_true]
  have hend : (step prefixAead w (.send true [] true [.accepted 19])).ends false
      = labEnd false 0 (UInt64.ofNat n) := by
    rw [hsend, ← h.server]
    rfl
  -- Sending leaves the other end as it was, so the frame finds the number it needs.
  rcases step_labArrival _ _ _ hend hsealed with ⟨hideal, harrival⟩
  refine ⟨⟨trivial, hideal, trivial⟩, ?_⟩
  rw [run_cons, run_cons, run_nil, harrival, hsend]
  refine ⟨?_, ?_, ?_, ?_, ?_⟩
  · rw [UInt64.ofNat_add]
    rfl
  · rw [UInt64.ofNat_add]
    rfl
  · simp only [Function.update_self, h.passed, List.replicate_succ']
  · intro i hi
    simp only [Function.update_self, List.mem_append, List.mem_singleton]
    rcases Nat.lt_succ_iff_lt_or_eq.mp hi with hlt | rfl
    · exact Or.inl (h.sealed i hlt)
    · exact Or.inr rfl
  · simp only [Function.update_self, h.received, List.replicate_succ']

theorem afterRounds_labRounds (n : Nat) :
    Along (step prefixAead) (Ideal prefixAead) labStart (labRounds n) ∧
      AfterRounds n (run (step prefixAead) labStart (labRounds n)) := by
  induction n with
  | zero => exact ⟨trivial, rfl, rfl, rfl, fun i hi => absurd hi (Nat.not_lt_zero i), rfl⟩
  | succ n ih =>
      rcases afterRounds_succ n _ ih.2 with ⟨halong, hafter⟩
      rw [labRounds, along_append, run_append]
      exact ⟨⟨ih.1, halong⟩, hafter⟩

/-- Two messages, and the server has both. -/
theorem received_prefix_two_rounds :
    (run (step prefixAead) labStart (labRounds 2)).received false
      <+: encrypted (run (step prefixAead) labStart (labRounds 2)) true :=
  received_prefix prefixAead labelPrimitives (ascii "a secret of the laboratory")
    (List.replicate 32 1) (List.replicate 32 2) (ascii "lab") (fun _ => []) (labRounds 2) true
    (afterRounds_labRounds 2).1 (by
      have hpassed := (afterRounds_labRounds 2).2.passed
      rw [encrypted, show established labelPrimitives (ascii "a secret of the laboratory")
        (List.replicate 32 1) (List.replicate 32 2) (ascii "lab") (fun _ => []) = labStart from rfl,
        hpassed]
      decide)

/-- A message whose encryption fails, and one that arrives. -/
def labSkipped : List Event :=
  [.send true [1] false [], .send true [] true [.accepted 19], labArrival 0]

theorem labSkipped_spec :
    Along (step prefixAead) (Ideal prefixAead) labStart labSkipped ∧
      (run (step prefixAead) labStart labSkipped).received false = [[]] ∧
      (run (step prefixAead) labStart labSkipped).passed true = [([1], false), ([], true)] := by
  rcases step_labArrival (run (step prefixAead) labStart
    [.send true [1] false [], .send true [] true [.accepted 19]]) 0 0 rfl
    (List.mem_singleton_self _) with ⟨hideal, harrival⟩
  refine ⟨⟨trivial, trivial, hideal, trivial⟩, ?_⟩
  rw [labSkipped, run_cons, run_cons, run_cons, run_nil]
  rw [run_cons, run_cons, run_nil] at harrival
  rw [harrival]
  exact ⟨rfl, rfl⟩

/-- Once the counter has come round, the first frame is taken again. -/
theorem labRounds_replay (n : Nat) (hpos : 0 < n) (hn : UInt64.ofNat n = 0) :
    Along (step prefixAead) (Ideal prefixAead) labStart (labRounds n ++ [labArrival 0]) ∧
      (run (step prefixAead) labStart (labRounds n ++ [labArrival 0])).received false
        = List.replicate (n + 1) [] ∧
      (run (step prefixAead) labStart (labRounds n ++ [labArrival 0])).passed true
        = List.replicate n ([], true) := by
  rcases afterRounds_labRounds n with ⟨halong, hafter⟩
  have hserver := hafter.server
  rw [hn] at hserver
  rcases step_labArrival _ 0 0 hserver (hafter.sealed 0 hpos) with ⟨hideal, harrival⟩
  rw [along_append, run_append, run_cons, run_nil, harrival]
  refine ⟨⟨halong, hideal, trivial⟩, ?_, hafter.passed⟩
  simp only [Function.update_self, hafter.received, List.replicate_succ']

/-- The messages received need not be a prefix of those passed to `Send`: one
    whose encryption fails is passed over, and after 2^64 messages an old frame
    is taken again. -/
theorem not_received_prefix_passed :
    (Along (step prefixAead) (Ideal prefixAead) labStart labSkipped ∧
      ¬ (run (step prefixAead) labStart labSkipped).received false
        <+: ((run (step prefixAead) labStart labSkipped).passed true).map Prod.fst) ∧
    ∃ l, Along (step prefixAead) (Ideal prefixAead) labStart l ∧
      (∀ m ∈ (run (step prefixAead) labStart l).passed true, m.2 = true) ∧
      ¬ (run (step prefixAead) labStart l).received false
        <+: ((run (step prefixAead) labStart l).passed true).map Prod.fst := by
  constructor
  · -- A failed encryption is skipped over: the plaintext was passed and never sealed.
    rcases labSkipped_spec with ⟨halong, hreceived, hpassed⟩
    refine ⟨halong, ?_⟩
    rw [hreceived, hpassed]
    decide
  · -- After 2^64 encryptions the counter is back at zero, and the first frame is replayed.
    have hround : ∃ n, 0 < n ∧ UInt64.ofNat n = 0 := ⟨2 ^ 64, by decide, by decide⟩
    rcases hround with ⟨n, hpos, hn⟩
    rcases labRounds_replay n hpos hn with ⟨halong, hreceived, hpassed⟩
    refine ⟨labRounds n ++ [labArrival 0], halong, ?_, ?_⟩
    · intro m hm
      rw [hpassed] at hm
      rw [List.eq_of_mem_replicate hm]
    · intro hprefix
      have hle := hprefix.length_le
      rw [hreceived, hpassed, List.length_map, List.length_replicate, List.length_replicate] at hle
      omega

end Examples

end Channel

end ThreadHaul
