import ThreadHaul.Common.Bytes
import ThreadHaul.Lib.Framing

/-!
# Frames on the Wire

`SendFrame` and `ReceiveFrame`: length-prefixed frames over a connected socket.

The socket is a list of what happens to it. For `SendFrame` that is what each
call of `send` comes to, which may take only a part of the bytes it is offered.
For `ReceiveFrame` it is what each turn of its loop comes to once the buffer
holds no complete frame: time is up, the connection is gone, or some bytes have
arrived. A list of turns therefore fixes both how the bytes are cut into chunks
and which calls time out. When the list is used up the call is still waiting.

The receive buffer outlives the calls; it is passed from one to the next.

## Main definitions

* `Frame`: A frame within the size limit.
* `encodeFrame`, `sendFrame`: Writing a frame.
* `takeFrame`, `receiveFrame`: Reading one.
* `frameCode`: Frames as a code.

## Theorems

* `headerLength_frameHeader`: The four length bytes read back.
* `sendFrame_written`: A frame that was sent was written as a whole.
* `takeFrame_encode`, `takeFrame_part`: Reading a whole frame, and a part of one.
-/

namespace ThreadHaul

namespace Channel

/-- The most bytes of a frame. -/
def kMaxFrame : Nat := 1024 * 1024

/-- A frame within the size limit. -/
abbrev Frame := { f : Bytes // f.length ≤ kMaxFrame }

/-- The four length bytes, the most significant first. -/
def frameHeader (n : UInt32) : Bytes :=
  [(n >>> 24).toUInt8, (n >>> 16).toUInt8, (n >>> 8).toUInt8, n.toUInt8]

/-- The length in the four bytes at the start of the buffer. -/
def headerLength (b0 b1 b2 b3 : UInt8) : UInt32 :=
  b0.toUInt32 <<< 24 ||| b1.toUInt32 <<< 16 ||| b2.toUInt32 <<< 8 ||| b3.toUInt32

theorem headerLength_frameHeader (n : UInt32) :
    headerLength (n >>> 24).toUInt8 (n >>> 16).toUInt8 (n >>> 8).toUInt8 n.toUInt8 = n := by
  have h24 : UInt32.toBitVec 24 % 32 = 24#32 := by decide
  have h16 : UInt32.toBitVec 16 % 32 = 16#32 := by decide
  have h8 : UInt32.toBitVec 8 % 32 = 8#32 := by decide
  unfold headerLength
  refine UInt32.eq_of_toBitVec_eq (BitVec.eq_of_getLsbD_eq ?_)
  intro i hi
  simp only [UInt32.toBitVec_or, UInt32.toBitVec_shiftLeft, UInt8.toBitVec_toUInt32,
    UInt32.toBitVec_toUInt8, UInt32.toBitVec_shiftRight, BitVec.getLsbD_or,
    BitVec.getLsbD_setWidth, h24, h16, h8, BitVec.shiftLeft_eq', BitVec.ushiftRight_eq',
    BitVec.getLsbD_shiftLeft, BitVec.getLsbD_ushiftRight, BitVec.toNat_ofNat]
  -- Bit `i` comes from the one byte that covers it.
  grind

/-- The length bytes and the frame. -/
def encodeFrame (frame : Bytes) : Bytes :=
  frameHeader (UInt32.ofNat frame.length) ++ frame

theorem length_encodeFrame (frame : Bytes) :
    (encodeFrame frame).length = 4 + frame.length := by
  rw [encodeFrame, List.length_append]
  rfl

/-- What a call of `send` comes to. -/
inductive SendResult
  /-- It took this many of the bytes offered. -/
  | accepted (r : Nat)
  | socketError
  deriving DecidableEq, Repr

/-- The `while` loop of `SendFrame`: the bytes written, and the value returned
    if the last call of `send` has returned. -/
def sendLoop : Bytes → List SendResult → Bytes × Option Bool
  | [], _ => ([], some true)
  | _ :: _, [] => ([], none)
  | _ :: _, .socketError :: _ => ([], some false)
  | b :: data, .accepted r :: sends =>
      let (written, ret) := sendLoop ((b :: data).drop r) sends
      ((b :: data).take r ++ written, ret)

/-- `SendFrame`: a frame over the limit is not written at all. -/
def sendFrame (frame : Bytes) (sends : List SendResult) : Bytes × Option Bool :=
  if frame.length > kMaxFrame then ([], some false)
  else sendLoop (encodeFrame frame) sends

theorem sendLoop_written (data : Bytes) (sends : List SendResult)
    (h : (sendLoop data sends).2 = some true) : (sendLoop data sends).1 = data := by
  induction sends generalizing data with
  | nil =>
      cases data with
      | nil => rfl
      | cons b data => exact absurd h (by simp only [sendLoop, reduceCtorEq, not_false_eq_true])
  | cons r sends ih =>
      cases data with
      | nil => rfl
      | cons b data =>
          cases r with
          | socketError =>
              exact absurd h (by
                simp only [sendLoop, Option.some.injEq, Bool.false_eq_true, not_false_eq_true])
          | accepted r =>
              simp only [sendLoop] at h ⊢
              -- What one `send` accepts and what the later ones write make up the data.
              rw [ih _ h, List.take_append_drop]

/-- A frame for which `SendFrame` returned true is on the wire as a whole. -/
theorem sendFrame_written (frame : Bytes) (sends : List SendResult)
    (h : (sendFrame frame sends).2 = some true) :
    (sendFrame frame sends).1 = encodeFrame frame := by
  unfold sendFrame at h ⊢
  by_cases hbig : frame.length > kMaxFrame
  · rw [if_pos hbig] at h
    exact absurd h (by simp only [Option.some.injEq, Bool.false_eq_true, not_false_eq_true])
  · rw [if_neg hbig] at h ⊢
    exact sendLoop_written _ sends h

/-- The look at the receive buffer at the head of the loop. -/
def takeFrame : Bytes → Framing.Reading UInt8 Frame
  | b0 :: b1 :: b2 :: b3 :: body =>
      let n := (headerLength b0 b1 b2 b3).toNat
      if h : n ≤ kMaxFrame then
        if n ≤ body.length then
          .message ⟨body.take n, Nat.le_trans (List.length_take_le ..) h⟩ (body.drop n)
        else .incomplete
      else .malformed
  | _ => .incomplete

/-- What one `recv` may store: `char buf[8192]`. -/
structure Chunk where
  bytes : Bytes
  pos : 0 < bytes.length
  le : bytes.length ≤ 8192
  deriving DecidableEq

/-- What a turn of the receive loop comes to. -/
inductive Turn
  /-- The deadline has passed, or `select` waited in vain. -/
  | timeout
  /-- `select` or `recv` failed, or the peer closed the connection. -/
  | failed
  | arrived (chunk : Chunk)
  deriving DecidableEq

/-- The value `ReceiveFrame` returns: 1 with the frame, 0 or −1. -/
inductive ReceiveResult
  | received (f : Frame)
  | timeout
  | broken
  /-- It has not returned. -/
  | waiting
  deriving DecidableEq

/-- `ReceiveFrame`, with the buffer and the turns it leaves. -/
def receiveFrame (rxBuffer : Bytes) (turns : List Turn) : ReceiveResult × Bytes × List Turn :=
  match takeFrame rxBuffer with
  | .message f rest => (.received f, rest, turns)
  | .malformed => (.broken, rxBuffer, turns)
  | .incomplete =>
      match turns with
      | [] => (.waiting, rxBuffer, [])
      | .timeout :: turns => (.timeout, rxBuffer, turns)
      | .failed :: turns => (.broken, rxBuffer, turns)
      | .arrived chunk :: turns =>
          let appended := rxBuffer ++ chunk.bytes
          if appended.length > kMaxFrame + 4 then (.broken, appended, turns)
          else receiveFrame appended turns

section Receive

variable (rxBuffer : Bytes) (turns : List Turn)

theorem receiveFrame_frame (f : Frame) (rest : Bytes) (h : takeFrame rxBuffer = .message f rest) :
    receiveFrame rxBuffer turns = (.received f, rest, turns) := by
  rw [receiveFrame.eq_def, h]

theorem receiveFrame_nil (h : takeFrame rxBuffer = .incomplete) :
    receiveFrame rxBuffer [] = (.waiting, rxBuffer, []) := by
  rw [receiveFrame.eq_def, h]

theorem receiveFrame_timeout (h : takeFrame rxBuffer = .incomplete) :
    receiveFrame rxBuffer (.timeout :: turns) = (.timeout, rxBuffer, turns) := by
  rw [receiveFrame.eq_def, h]

theorem receiveFrame_arrived (chunk : Chunk) (h : takeFrame rxBuffer = .incomplete)
    (hle : (rxBuffer ++ chunk.bytes).length ≤ kMaxFrame + 4) :
    receiveFrame rxBuffer (.arrived chunk :: turns)
      = receiveFrame (rxBuffer ++ chunk.bytes) turns := by
  rw [receiveFrame.eq_def, h]
  simp only [if_neg (Nat.not_lt.mpr hle)]

theorem receiveFrame_overflow (chunk : Chunk) (h : takeFrame rxBuffer = .incomplete)
    (hgt : kMaxFrame + 4 < (rxBuffer ++ chunk.bytes).length) :
    receiveFrame rxBuffer (.arrived chunk :: turns)
      = (.broken, rxBuffer ++ chunk.bytes, turns) := by
  rw [receiveFrame.eq_def, h]
  simp only [if_pos hgt]

end Receive

theorem takeFrame_encode (f : Frame) (rest : Bytes) :
    takeFrame (encodeFrame f.val ++ rest) = .message f rest := by
  have hlen : (UInt32.ofNat f.val.length).toNat = f.val.length := by
    rw [UInt32.toNat_ofNat']
    have hle := f.property
    unfold kMaxFrame at hle
    omega
  simp only [encodeFrame, frameHeader, List.cons_append, List.nil_append, takeFrame,
    headerLength_frameHeader, hlen, f.property, dite_true, List.length_append,
    Nat.le_add_right, if_true, List.take_left, List.drop_left]

theorem takeFrame_part (f : Frame) (p q : Bytes) (hq : q ≠ [])
    (h : p ++ q = encodeFrame f.val) : takeFrame p = .incomplete := by
  have hlen : (UInt32.ofNat f.val.length).toNat = f.val.length := by
    rw [UInt32.toNat_ofNat']
    have hle := f.property
    unfold kMaxFrame at hle
    omega
  have hqpos : 0 < q.length := List.length_pos_of_ne_nil hq
  match p with
  | [] | [_] | [_, _] | [_, _, _] => rfl
  | b0 :: b1 :: b2 :: b3 :: body =>
      -- The length bytes have arrived, and the frame they announce has not.
      simp only [encodeFrame, frameHeader, List.cons_append, List.nil_append, List.cons.injEq] at h
      rcases h with ⟨rfl, rfl, rfl, rfl, hbody⟩
      have hbl : body.length + q.length = f.val.length := by
        rw [← List.length_append, hbody]
      have hshort : ¬ f.val.length ≤ body.length := by omega
      simp only [takeFrame, headerLength_frameHeader, hlen, f.property, dite_true, hshort, if_false]

/-- Frames as a code. -/
def frameCode : Framing.Code UInt8 Frame where
  encode f := encodeFrame f.val
  decode := takeFrame
  decode_nil := rfl
  decode_encode := takeFrame_encode
  decode_part := takeFrame_part

end Channel

end ThreadHaul
