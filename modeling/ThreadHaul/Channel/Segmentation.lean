import ThreadHaul.Channel.Frame

/-!
# Frames Across Segments

What a series of `ReceiveFrame` calls makes of a stream of frames that arrives
in chunks.

The receive buffer carries the bytes of a frame in progress from one call to
the next, and also the bytes that arrived behind a frame. The guard after
`append` looks at the whole buffer: it allows `kMaxFrame + 4` bytes, which is
what the largest frame needs, and does not allow for bytes of the next frame
that arrived in the same chunk. So a stream of frames within the limit is
received as it was sent only if no chunk reaches further than that beyond the
start of the frame it continues. `Fits` says so in terms of the frames and the
chunks alone, and `delivers_iff_fits` that nothing else can go wrong.

The invariant behind it is that the buffer and the bytes yet to arrive are the
stream of the frames yet to be received. `deliversFrom_iff` carries it through
the calls, with `FitsFrom` for the part of `Fits` that is still ahead.

## Main definitions

* `calls`: The results of successive calls.
* `Delivers`: The calls that return with a result yield exactly the frames.
* `Fits`: No chunk reaches too far beyond the start of the frame in progress.

## Theorems

* `calls_frame`, `calls_timeout`, `calls_arrived`, `calls_overflow`: What the
  next call does.
* `fitsFrom_cons`: The first turn and the turns after it.
* `deliversFrom_iff`: The calls from any buffer.
* `delivers_iff_fits`: The calls on a new connection.
-/

namespace ThreadHaul

namespace Channel

open Framing

/-- The bytes that arrive in a turn of the loop. -/
def Turn.bytes : Turn → Bytes
  | .timeout | .failed => []
  | .arrived chunk => chunk.bytes

/-- All the bytes that arrive. -/
def delivered (turns : List Turn) : Bytes := turns.flatMap Turn.bytes

/-- The results of `k` successive calls. -/
def calls : Nat → Bytes → List Turn → List ReceiveResult
  | 0, _, _ => []
  | k + 1, rxBuffer, turns =>
      let (result, rxBuffer', turns') := receiveFrame rxBuffer turns
      result :: calls k rxBuffer' turns'

/-- The call has returned, and has not timed out. -/
def ReceiveResult.settled : ReceiveResult → Bool
  | .received _ | .broken => true
  | .timeout | .waiting => false

/-- From some number of calls on, the ones that do not time out have yielded
    exactly the frames. -/
def DeliversFrom (rxBuffer : Bytes) (turns : List Turn) (frames : List Frame) : Prop :=
  ∃ n, ∀ k, n ≤ k →
    (calls k rxBuffer turns).filter ReceiveResult.settled = frames.map ReceiveResult.received

/-- The calls on a new connection that do not time out yield the frames in
    order, and in the end all of them. -/
structure Delivers (turns : List Turn) (frames : List Frame) : Prop where
  inOrder : ∀ k, (calls k [] turns).filter ReceiveResult.settled
    <+: frames.map ReceiveResult.received
  all : DeliversFrom [] turns frames

/-- `Fits` for the turns ahead, when `n` bytes of the frames have arrived. -/
def FitsFrom (n : Nat) (turns : List Turn) (frames : List Frame) : Prop :=
  ∀ before chunk after, turns = before ++ .arrived chunk :: after →
    frameCode.Within (kMaxFrame + 4) frames (n + (delivered before).length)
      (n + (delivered before).length + chunk.bytes.length)

/-- No chunk ends more than `kMaxFrame + 4` bytes after the start of the frame
    that was in progress when it arrived. -/
def Fits (turns : List Turn) (frames : List Frame) : Prop := FitsFrom 0 turns frames

theorem calls_mono (k n : Nat) (rxBuffer : Bytes) (turns : List Turn) (h : k ≤ n) :
    calls k rxBuffer turns <+: calls n rxBuffer turns := by
  induction k generalizing n rxBuffer turns with
  | zero => exact List.nil_prefix
  | succ k ih =>
      cases n with
      | zero => omega
      | succ n =>
          simp only [calls]
          exact List.prefix_cons_inj _ |>.mpr (ih n _ _ (by omega))

section Calls

variable (k : Nat) (rxBuffer : Bytes) (turns : List Turn)

theorem calls_frame (f : Frame) (rest : Bytes) (h : takeFrame rxBuffer = .message f rest) :
    calls (k + 1) rxBuffer turns = .received f :: calls k rest turns := by
  simp only [calls, receiveFrame_frame rxBuffer turns f rest h]

theorem calls_timeout (h : takeFrame rxBuffer = .incomplete) :
    calls (k + 1) rxBuffer (.timeout :: turns) = .timeout :: calls k rxBuffer turns := by
  simp only [calls, receiveFrame_timeout rxBuffer turns h]

theorem calls_arrived (chunk : Chunk) (h : takeFrame rxBuffer = .incomplete)
    (hle : (rxBuffer ++ chunk.bytes).length ≤ kMaxFrame + 4) :
    calls (k + 1) rxBuffer (.arrived chunk :: turns)
      = calls (k + 1) (rxBuffer ++ chunk.bytes) turns := by
  simp only [calls, receiveFrame_arrived rxBuffer turns chunk h hle]

theorem calls_overflow (chunk : Chunk) (h : takeFrame rxBuffer = .incomplete)
    (hgt : kMaxFrame + 4 < (rxBuffer ++ chunk.bytes).length) :
    calls (k + 1) rxBuffer (.arrived chunk :: turns)
      = .broken :: calls k (rxBuffer ++ chunk.bytes) turns := by
  simp only [calls, receiveFrame_overflow rxBuffer turns chunk h hgt]

theorem calls_waiting (h : takeFrame rxBuffer = .incomplete) :
    calls k rxBuffer [] = List.replicate k .waiting := by
  induction k with
  | zero => rfl
  | succ k ih => simp only [calls, receiveFrame_nil rxBuffer h, ih, List.replicate_succ]

end Calls

/-- Nothing is in progress, and nothing arrives. -/
theorem deliversFrom_nil (rxBuffer : Bytes) (h : takeFrame rxBuffer = .incomplete) :
    DeliversFrom rxBuffer [] [] := by
  refine ⟨0, fun k _ => ?_⟩
  rw [calls_waiting k rxBuffer h, List.filter_replicate_of_neg Bool.false_ne_true, List.map_nil]

/-- A frame in the buffer is what the next call returns. -/
theorem deliversFrom_frame (rxBuffer : Bytes) (turns : List Turn) (f : Frame) (rest : Bytes)
    (frames : List Frame) (h : takeFrame rxBuffer = .message f rest) :
    DeliversFrom rxBuffer turns (f :: frames) ↔ DeliversFrom rest turns frames := by
  -- One more call takes the frame that the buffer holds.
  constructor
  · rintro ⟨n, hn⟩
    refine ⟨n, fun k hk => ?_⟩
    have hk' := hn (k + 1) (by omega)
    rw [calls_frame k rxBuffer turns f rest h, List.filter_cons_of_pos rfl, List.map_cons] at hk'
    exact (List.cons.inj hk').2
  · rintro ⟨n, hn⟩
    refine ⟨n + 1, fun k hk => ?_⟩
    cases k with
    | zero => omega
    | succ k =>
        rw [calls_frame k rxBuffer turns f rest h, List.filter_cons_of_pos rfl, List.map_cons,
          hn k (by omega)]

theorem deliversFrom_timeout (rxBuffer : Bytes) (turns : List Turn) (frames : List Frame)
    (h : takeFrame rxBuffer = .incomplete) :
    DeliversFrom rxBuffer (.timeout :: turns) frames ↔ DeliversFrom rxBuffer turns frames := by
  -- A timeout costs a call and is no settled result.
  have hstep : ∀ k, (calls (k + 1) rxBuffer (.timeout :: turns)).filter ReceiveResult.settled
      = (calls k rxBuffer turns).filter ReceiveResult.settled := by
    intro k
    rw [calls_timeout k rxBuffer turns h, List.filter_cons_of_neg Bool.false_ne_true]
  constructor
  · rintro ⟨n, hn⟩
    exact ⟨n, fun k hk => by rw [← hstep k, hn (k + 1) (by omega)]⟩
  · rintro ⟨n, hn⟩
    refine ⟨n + 1, fun k hk => ?_⟩
    cases k with
    | zero => omega
    | succ k => rw [hstep k, hn k (by omega)]

theorem deliversFrom_arrived (rxBuffer : Bytes) (turns : List Turn) (chunk : Chunk)
    (frames : List Frame) (h : takeFrame rxBuffer = .incomplete)
    (hle : (rxBuffer ++ chunk.bytes).length ≤ kMaxFrame + 4) :
    DeliversFrom rxBuffer (.arrived chunk :: turns) frames ↔
      DeliversFrom (rxBuffer ++ chunk.bytes) turns frames := by
  -- The same call goes on with the longer buffer, so the count does not change.
  constructor
  · rintro ⟨n, hn⟩
    refine ⟨n + 1, fun k hk => ?_⟩
    cases k with
    | zero => omega
    | succ k => rw [← calls_arrived k rxBuffer turns chunk h hle, hn (k + 1) (by omega)]
  · rintro ⟨n, hn⟩
    refine ⟨n + 1, fun k hk => ?_⟩
    cases k with
    | zero => omega
    | succ k => rw [calls_arrived k rxBuffer turns chunk h hle, hn (k + 1) (by omega)]

/-- The guard after `append` ends the connection. -/
theorem not_deliversFrom_overflow (rxBuffer : Bytes) (turns : List Turn) (chunk : Chunk)
    (frames : List Frame) (h : takeFrame rxBuffer = .incomplete)
    (hgt : kMaxFrame + 4 < (rxBuffer ++ chunk.bytes).length) :
    ¬ DeliversFrom rxBuffer (.arrived chunk :: turns) frames := by
  rintro ⟨n, hn⟩
  have hbroken := hn (n + 1) (by omega)
  rw [calls_overflow n rxBuffer turns chunk h hgt, List.filter_cons_of_pos rfl] at hbroken
  cases frames with
  | nil => exact List.cons_ne_nil _ _ hbroken
  | cons f frames => exact ReceiveResult.noConfusion (List.cons.inj hbroken).1

theorem fitsFrom_nil (n : Nat) (frames : List Frame) : FitsFrom n [] frames := by
  intro before chunk after heq
  have hlen := congrArg List.length heq
  rw [List.length_append, List.length_cons, List.length_nil] at hlen
  omega

/-- The first turn and the turns after it. -/
theorem fitsFrom_cons (n : Nat) (t : Turn) (turns : List Turn) (frames : List Frame) :
    FitsFrom n (t :: turns) frames ↔
      (∀ chunk, t = .arrived chunk →
        frameCode.Within (kMaxFrame + 4) frames n (n + chunk.bytes.length)) ∧
      FitsFrom (n + t.bytes.length) turns frames := by
  constructor
  · -- The first arrival is the case of an empty prefix; the others move one along.
    intro h
    refine ⟨?_, ?_⟩
    · intro chunk ht
      exact h [] chunk turns (by rw [ht, List.nil_append])
    · intro before chunk after heq
      have hb := h (t :: before) chunk after (by rw [heq, List.cons_append])
      simpa only [delivered, List.flatMap_cons, List.length_append, ← Nat.add_assoc] using hb
  · intro h before chunk after heq
    cases before with
    | nil => exact h.1 chunk (List.cons.inj heq).1
    | cons a before =>
        rcases List.cons.inj heq with ⟨rfl, htail⟩
        have hb := h.2 before chunk after htail
        simpa only [delivered, List.flatMap_cons, List.length_append, ← Nat.add_assoc] using hb

/-- Once a frame lies behind, only the frames after it matter. -/
theorem fitsFrom_frame (n : Nat) (turns : List Turn) (f : Frame) (frames : List Frame) :
    FitsFrom ((frameCode.encode f).length + n) turns (f :: frames) ↔ FitsFrom n turns frames := by
  have hshift : ∀ a b, frameCode.Within (kMaxFrame + 4) (f :: frames)
      ((frameCode.encode f).length + n + a) ((frameCode.encode f).length + n + a + b) ↔
        frameCode.Within (kMaxFrame + 4) frames (n + a) (n + a + b) := by
    intro a b
    rw [Nat.add_assoc, Nat.add_assoc]
    exact frameCode.within_cons_of_le (kMaxFrame + 4) f frames (n + a) (n + a + b)
  constructor
  · intro h before chunk after heq
    exact (hshift _ _).mp (h before chunk after heq)
  · intro h before chunk after heq
    exact (hshift _ _).mpr (h before chunk after heq)

/-- A stream that as a whole is no longer than the largest frame fits. -/
theorem fits_of_length_le (turns : List Turn) (frames : List Frame)
    (h : (delivered turns).length ≤ kMaxFrame + 4) : Fits turns frames := by
  intro before chunk after heq l₁ b l₂ _ _ _
  have hlen : (delivered turns).length
      = (delivered before).length + (chunk.bytes.length + (delivered after).length) := by
    rw [heq, delivered, List.flatMap_append, List.length_append, List.flatMap_cons,
      List.length_append]
    rfl
  omega

/-- While no frame has arrived in full, a chunk stays within the limit exactly
    if the buffer does. -/
theorem within_arrived_iff (rxBuffer q : Bytes) (chunk : Chunk) (frames : List Frame)
    (hall : rxBuffer ++ (chunk.bytes ++ q) = frameCode.stream frames)
    (hlt : ∀ f l, frames = f :: l → rxBuffer.length < (frameCode.encode f).length) :
    frameCode.Within (kMaxFrame + 4) frames rxBuffer.length
        (rxBuffer.length + chunk.bytes.length) ↔
      (rxBuffer ++ chunk.bytes).length ≤ kMaxFrame + 4 := by
  rw [List.length_append]
  cases frames with
  | nil =>
      -- A chunk is never empty, so some frame is still to come.
      have hpos := chunk.pos
      have hlen := congrArg List.length hall
      simp only [List.length_append, frameCode.stream_nil, List.length_nil] at hlen
      omega
  | cons f l => exact frameCode.within_cons_of_lt (kMaxFrame + 4) f l _ _ (hlt f l rfl)

/-- The buffer and the bytes to arrive are the stream of the frames to be
    received. They are received exactly if no chunk ahead reaches too far. -/
theorem deliversFrom_iff (rxBuffer : Bytes) (turns : List Turn) (frames : List Frame)
    (hopen : ∀ t ∈ turns, t ≠ .failed)
    (hall : rxBuffer ++ delivered turns = frameCode.stream frames) :
    DeliversFrom rxBuffer turns frames ↔ FitsFrom rxBuffer.length turns frames := by
  -- Every step uses up a frame or a turn.
  induction hn : turns.length + frames.length generalizing rxBuffer turns frames with
  | zero =>
      have hturns : turns = [] := List.eq_nil_of_length_eq_zero (by omega)
      have hframes : frames = [] := List.eq_nil_of_length_eq_zero (by omega)
      subst hturns hframes
      rw [(List.append_eq_nil_iff.mp hall).1]
      exact ⟨fun _ => fitsFrom_nil 0 [], fun _ => deliversFrom_nil [] rfl⟩
  | succ n ih =>
      by_cases hf : ∃ f l, frames = f :: l ∧ (frameCode.encode f).length ≤ rxBuffer.length
      · -- The first frame is in the buffer.
        rcases hf with ⟨f, l, rfl, hle⟩
        rcases frameCode.decode_eq_message f l rxBuffer _ hall hle with ⟨rest, htake, hrx, hrest⟩
        rw [List.length_cons] at hn
        rw [deliversFrom_frame rxBuffer turns f rest l htake,
          ih rest turns l hopen hrest (by omega),
          hrx, List.length_append, fitsFrom_frame]
      · have hlt : ∀ f l, frames = f :: l → rxBuffer.length < (frameCode.encode f).length := by
          intro f l heq
          by_contra hge
          exact hf ⟨f, l, heq, by omega⟩
        have htake : takeFrame rxBuffer = .incomplete :=
          frameCode.decode_eq_incomplete frames rxBuffer _ hall hlt
        cases turns with
        | nil =>
            -- Nothing is left to arrive, so a frame would be in the buffer.
            cases frames with
            | nil => exact ⟨fun _ => fitsFrom_nil _ [], fun _ => deliversFrom_nil rxBuffer htake⟩
            | cons f l =>
                have hshort := hlt f l rfl
                have hlen := congrArg List.length hall
                rw [frameCode.stream_cons, List.length_append, List.length_append] at hlen
                simp only [delivered, List.flatMap_nil, List.length_nil] at hlen
                omega
        | cons t turns =>
            have hopen' : ∀ t ∈ turns, t ≠ .failed :=
              fun t' ht' => hopen t' (List.mem_cons_of_mem _ ht')
            rw [List.length_cons] at hn
            rw [fitsFrom_cons]
            cases t with
            | timeout =>
                have hih := ih rxBuffer turns frames hopen' hall (by omega)
                rw [deliversFrom_timeout rxBuffer turns frames htake, hih]
                exact ⟨fun h => ⟨fun chunk hc => Turn.noConfusion hc, h⟩, fun h => h.2⟩
            | failed => exact absurd rfl (hopen _ (List.mem_cons_self ..))
            | arrived chunk =>
                have hwithin := within_arrived_iff rxBuffer (delivered turns) chunk frames hall hlt
                by_cases hguard : (rxBuffer ++ chunk.bytes).length ≤ kMaxFrame + 4
                · have hih := ih (rxBuffer ++ chunk.bytes) turns frames hopen'
                    ((List.append_assoc ..).trans hall) (by omega)
                  rw [deliversFrom_arrived rxBuffer turns chunk frames htake hguard, hih,
                    List.length_append]
                  refine ⟨fun h => ⟨fun c hc => ?_, h⟩, fun h => h.2⟩
                  rw [← Turn.arrived.inj hc]
                  exact hwithin.mpr hguard
                · -- The guard ends the connection, and the chunk does not fit.
                  refine ⟨fun h => absurd h ?_, fun h => absurd (hwithin.mp (h.1 chunk rfl)) hguard⟩
                  exact not_deliversFrom_overflow rxBuffer turns chunk frames htake (by omega)

/-- What `SendFrame` wrote for a list of frames. -/
def written (sent : List (Frame × List SendResult)) : Bytes :=
  sent.flatMap fun s => (sendFrame s.1.val s.2).1

theorem written_eq_stream (sent : List (Frame × List SendResult))
    (hsent : ∀ s ∈ sent, (sendFrame s.1.val s.2).2 = some true) :
    written sent = frameCode.stream (sent.map Prod.fst) := by
  induction sent with
  | nil => rfl
  | cons s sent ih =>
      have hs := sendFrame_written s.1.val s.2 (hsent s (List.mem_cons_self ..))
      have hrest := ih fun s' hs' => hsent s' (List.mem_cons_of_mem _ hs')
      rw [written, List.flatMap_cons, hs, List.map_cons, frameCode.stream_cons]
      exact congrArg _ hrest

/-- The results of earlier calls never change, so the order needs no proof of
    its own. -/
theorem delivers_iff (turns : List Turn) (frames : List Frame) :
    Delivers turns frames ↔ DeliversFrom [] turns frames := by
  refine ⟨fun h => h.all, fun h => ⟨fun k => ?_, h⟩⟩
  rcases h with ⟨n, hn⟩
  rw [← hn (max k n) (le_max_right k n)]
  exact (calls_mono k (max k n) [] turns (le_max_left k n)).filter _

/-- On a connection that stays open, the frames that were sent are received
    exactly if no chunk reaches too far beyond the start of the frame in
    progress, however `send` and the calls of `ReceiveFrame` were interrupted. -/
theorem delivers_iff_fits (sent : List (Frame × List SendResult))
    (hsent : ∀ s ∈ sent, (sendFrame s.1.val s.2).2 = some true) (turns : List Turn)
    (hopen : ∀ t ∈ turns, t ≠ .failed) (hall : delivered turns = written sent) :
    Delivers turns (sent.map Prod.fst) ↔ Fits turns (sent.map Prod.fst) := by
  rw [delivers_iff]
  exact deliversFrom_iff [] turns _ hopen (hall.trans (written_eq_stream sent hsent))

/-- Two frames in three segments, with a call that times out in between, and
    the second frame accepted by `send` in two parts. -/
theorem delivers_iff_fits_two_frames :
    Delivers
      [.arrived ⟨[0, 0, 0], by decide, by decide⟩, .timeout,
        .arrived ⟨[2, 7, 8, 0, 0], by decide, by decide⟩,
        .arrived ⟨[0, 1, 9], by decide, by decide⟩]
      [⟨[7, 8], by decide⟩, ⟨[9], by decide⟩] := by
  refine (delivers_iff_fits
    [(⟨[7, 8], by decide⟩, [.accepted 6]), (⟨[9], by decide⟩, [.accepted 3, .accepted 2])]
    ?_ _ ?_ ?_).mpr ?_
  · decide
  · decide
  · decide
  · exact fits_of_length_le _ _ (by decide)

/-- A chunk of zero bytes. -/
def zeros (n : Nat) (hpos : 0 < n) (hle : n ≤ 8192) : Chunk where
  bytes := List.replicate n 0
  pos := by rw [List.length_replicate]; exact hpos
  le := by rw [List.length_replicate]; exact hle

/-- A frame of zero bytes. -/
def zeroFrame (n : Nat) (hle : n ≤ kMaxFrame) : Frame :=
  ⟨List.replicate n 0, by rw [List.length_replicate]; exact hle⟩

/-- A frame of the largest size and one of 16 bytes, each taken by a single
    call of `send`. -/
def surplusSent : List (Frame × List SendResult) :=
  [(zeroFrame kMaxFrame (Nat.le_refl _), [.accepted (4 + kMaxFrame)]),
    (zeroFrame 16 (by decide), [.accepted 20])]

/-- All but the last byte of the first frame, in 129 segments. -/
def surplusBefore : List Turn :=
  .arrived ⟨[0, 16, 0, 0], by decide, by decide⟩ ::
    (List.replicate 127 (.arrived (zeros 8192 (by decide) (by decide))) ++
      [.arrived (zeros 8191 (by decide) (by decide))])

/-- The last byte of the first frame arrives with the second frame. -/
def surplusTurns : List Turn :=
  surplusBefore ++ [.arrived ⟨0 :: encodeFrame (List.replicate 16 0), by decide, by decide⟩]

theorem sendFrame_once (frame : Bytes) (h : frame.length ≤ kMaxFrame) :
    (sendFrame frame [.accepted (4 + frame.length)]).2 = some true := by
  have hdrop : (encodeFrame frame).drop (4 + frame.length) = [] :=
    List.drop_eq_nil_of_le (Nat.le_of_eq (length_encodeFrame frame))
  rw [sendFrame, if_neg (Nat.not_lt.mpr h)]
  cases hdata : encodeFrame frame with
  | nil => rfl
  | cons b data =>
      rw [hdata] at hdrop
      simp only [sendLoop, hdrop]

theorem delivered_zeros (k n : Nat) (hpos : 0 < n) (hle : n ≤ 8192) :
    delivered (List.replicate k (.arrived (zeros n hpos hle))) = List.replicate (k * n) 0 := by
  rw [delivered, List.flatMap_replicate]
  exact List.flatten_replicate_replicate

theorem sendFrame_surplusSent (s : Frame × List SendResult) (hs : s ∈ surplusSent) :
    (sendFrame s.1.val s.2).2 = some true := by
  rcases List.mem_cons.mp hs with rfl | hs
  · have hlen : (zeroFrame kMaxFrame (Nat.le_refl _)).val.length = kMaxFrame :=
      List.length_replicate
    have honce := sendFrame_once (zeroFrame kMaxFrame (Nat.le_refl _)).val (Nat.le_of_eq hlen)
    rw [hlen] at honce
    exact honce
  · rw [List.mem_singleton.mp hs]
    decide

theorem surplusTurns_open (t : Turn) (ht : t ∈ surplusTurns) : t ≠ .failed := by
  simp only [surplusTurns, surplusBefore, List.mem_cons, List.mem_append, List.mem_replicate,
    List.not_mem_nil, or_false] at ht
  rcases ht with (rfl | ⟨_, rfl⟩ | rfl) | rfl <;> exact Turn.noConfusion

theorem delivered_append (l l' : List Turn) : delivered (l ++ l') = delivered l ++ delivered l' :=
  List.flatMap_append

theorem delivered_cons (t : Turn) (l : List Turn) : delivered (t :: l) = t.bytes ++ delivered l :=
  List.flatMap_cons

theorem encode_zeroFrame (n : Nat) (hle : n ≤ kMaxFrame) :
    frameCode.encode (zeroFrame n hle)
      = frameHeader (UInt32.ofNat n) ++ List.replicate n 0 := by
  change frameHeader (UInt32.ofNat (List.replicate n (0 : UInt8)).length) ++ List.replicate n 0 = _
  rw [List.length_replicate]

theorem delivered_surplusBefore :
    delivered surplusBefore = [0, 16, 0, 0] ++ List.replicate 1048575 0 := by
  have hsum : 127 * 8192 + 8191 = 1048575 := by omega
  simp only [surplusBefore, delivered_cons, delivered_append, delivered_zeros]
  rw [show delivered [] = [] from rfl, List.append_nil]
  simp only [Turn.bytes, zeros]
  rw [List.replicate_append_replicate, hsum]

theorem delivered_surplusTurns : delivered surplusTurns = written surplusSent := by
  have hheader : frameHeader (UInt32.ofNat kMaxFrame) = [0, 16, 0, 0] := by decide
  have hzeros : List.replicate kMaxFrame (0 : UInt8) = List.replicate 1048575 0 ++ [0] := by
    rw [← List.replicate_succ', kMaxFrame]
  rw [written_eq_stream surplusSent sendFrame_surplusSent, surplusTurns, delivered_append,
    delivered_surplusBefore]
  simp only [surplusSent, List.map_cons, List.map_nil, frameCode.stream_cons,
    frameCode.stream_nil, List.append_nil, encode_zeroFrame, hheader, hzeros, List.append_assoc]
  rfl

/-- Two frames within the limit, cut so that 20 bytes of the second arrive with
    the last byte of the first: the connection is given up. -/
theorem not_delivers_surplus :
    (∀ s ∈ surplusSent, (sendFrame s.1.val s.2).2 = some true) ∧
      (∀ t ∈ surplusTurns, t ≠ .failed) ∧ delivered surplusTurns = written surplusSent ∧
      ¬ Delivers surplusTurns (surplusSent.map Prod.fst) := by
  refine ⟨sendFrame_surplusSent, surplusTurns_open, delivered_surplusTurns, ?_⟩
  intro h
  have hall := delivered_surplusTurns.trans (written_eq_stream surplusSent sendFrame_surplusSent)
  have hfits := (deliversFrom_iff [] surplusTurns _ surplusTurns_open
    ((List.nil_append _).trans hall)).mp h.all
  have hlen : (delivered surplusBefore).length = 1048579 := by
    rw [delivered_surplusBefore, List.length_append, List.length_replicate]
    rfl
  have hframe : (frameCode.encode (zeroFrame kMaxFrame (Nat.le_refl _))).length = 1048580 := by
    rw [encode_zeroFrame, List.length_append, List.length_replicate]
    rfl
  -- The first frame is in progress when the last chunk arrives.
  have hlast := hfits surplusBefore _ [] rfl [] _ _ rfl (Nat.zero_le _) (by
    rw [List.nil_append, frameCode.stream_cons, frameCode.stream_nil, List.append_nil, hframe, hlen]
    decide)
  rw [hlen, frameCode.stream_nil] at hlast
  exact absurd hlast (by decide)

end Channel

end ThreadHaul
